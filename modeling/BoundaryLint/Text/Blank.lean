/-!
# White space

White space in the sense of the Unicode property together with the ASCII information separators.
-/
namespace BoundaryLint.Text

def isBlank (c : Char) : Bool :=
  let n := c.toNat
  n == 0x20 || (0x09 ≤ n && n ≤ 0x0d) || (0x1c ≤ n && n ≤ 0x1f) || n == 0x85 || n == 0xa0 ||
    n == 0x1680 || (0x2000 ≤ n && n ≤ 0x200a) || n == 0x2028 || n == 0x2029 || n == 0x202f ||
    n == 0x205f || n == 0x3000

/-- White space of ASCII, without the information separators. -/
def isAsciiBlank (c : Char) : Bool :=
  let n := c.toNat
  n == 0x20 || (0x09 ≤ n && n ≤ 0x0d)

/-- A text of white space only, possibly empty. -/
def isBlankText (s : String) : Bool :=
  s.toList.all isBlank

/-- White space that may stand around a number: all but the information separators. -/
def isBlankAroundNumber (c : Char) : Bool :=
  isBlank c && !(0x1c ≤ c.toNat && c.toNat ≤ 0x1f)

/-- The characters of a number without the white space around it. -/
def trimNumber (cs : List Char) : List Char :=
  ((cs.dropWhile isBlankAroundNumber).reverse.dropWhile isBlankAroundNumber).reverse

end BoundaryLint.Text
