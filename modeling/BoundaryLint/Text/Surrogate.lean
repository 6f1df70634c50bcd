/-!
# Surrogates

A surrogate is a code point that is no character: a half of a pair by which other encodings write one
character. An escape can name it all the same. A text that has one holds a private character in its
place, and everything that shows the codes of characters shows the surrogate.
-/
namespace BoundaryLint.Text

def isSurrogateCode (n : Nat) : Bool :=
  0xd800 ≤ n && n < 0xe000

/-- The private character in the place of the first surrogate. The others follow it. -/
def firstSurrogate : Nat := 0x109000

/-- The character of a code point, `none` beyond the last one. -/
def charOfCode? (n : Nat) : Option Char :=
  if isSurrogateCode n then some (Char.ofNat (firstSurrogate + (n - 0xd800)))
  else if n.isValidChar then some (Char.ofNat n)
  else none

/-- The code point that a character stands for. -/
def codeOf (c : Char) : Nat :=
  if firstSurrogate ≤ c.toNat && c.toNat < firstSurrogate + 0x800 then
    c.toNat - firstSurrogate + 0xd800
  else c.toNat

end BoundaryLint.Text
