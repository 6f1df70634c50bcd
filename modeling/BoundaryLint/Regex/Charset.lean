import BoundaryLint.Text.Blank
import BoundaryLint.Text.Casing
import BoundaryLint.Text.Letter

/-!
# Character classes

A class is a list of items, possibly negated. An item is a code, a range of codes or one of the
categories digit, white space and word character. When case is ignored, an item holds a character
if it holds some variant of it.
-/
namespace BoundaryLint.Regex

/-- How case is treated in a comparison. -/
inductive CaseMode where
  | exact
  | ascii
  | unicode
  deriving DecidableEq, Repr

/-- All codes that count as `n`. -/
def CaseMode.variants : CaseMode → Nat → List Nat
  | .exact, n => [n]
  | .ascii, n => Text.asciiCaseVariants n
  | .unicode, n => Text.caseVariants n

/-- Whether two codes count as the same. -/
def CaseMode.same : CaseMode → Nat → Nat → Bool
  | .exact, m, n => m == n
  | .ascii, m, n => Text.asciiLowerCode m == Text.asciiLowerCode n
  | .unicode, m, n => Text.sameLetter m n

/-- Whether two codes count as the same in a comparison with text that was matched before. -/
def CaseMode.sameLower : CaseMode → Nat → Nat → Bool
  | .exact, m, n => m == n
  | .ascii, m, n => Text.asciiLowerCode m == Text.asciiLowerCode n
  | .unicode, m, n => Text.lowerCode m == Text.lowerCode n

/-- A category of characters. -/
inductive Category where
  | digit
  | space
  | word
  deriving DecidableEq, Repr

/-- Membership in a category, within ASCII if `ascii` holds. -/
def Category.holds (k : Category) (ascii : Bool) (c : Char) : Bool :=
  match k with
  | .digit => if ascii then c.isDigit else Text.isDecimal c
  | .space => if ascii then Text.isAsciiBlank c else Text.isBlank c
  | .word => if ascii then Text.isAsciiWordChar c else Text.isWordChar c

/-- An item of a class. -/
inductive ClassItem where
  | one (code : Nat)
  | range (lo hi : Nat)
  | category (k : Category) (ascii negated : Bool)
  deriving DecidableEq, Repr

def ClassItem.holds (mode : CaseMode) (c : Char) : ClassItem → Bool
  | .one code => mode.same code c.toNat
  | .range lo hi => (mode.variants c.toNat).any fun n => lo ≤ n && n ≤ hi
  | .category k ascii negated => k.holds ascii c != negated

/-- A character class. -/
structure Charset where
  items : List ClassItem
  negated : Bool := false
  deriving DecidableEq, Repr

def Charset.holds (s : Charset) (mode : CaseMode) (c : Char) : Bool :=
  s.items.any (·.holds mode c) != s.negated

end BoundaryLint.Regex
