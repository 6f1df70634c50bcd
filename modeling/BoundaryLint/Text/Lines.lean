/-!
# Lines of a text

A text is cut at every Unicode line break. A carriage return and the line feed after it are one
break, and a break at the very end opens no further line.
-/
namespace BoundaryLint.Text

def isLineBreak (c : Char) : Bool :=
  let n := c.toNat
  (0x0a ≤ n && n ≤ 0x0d) || (0x1c ≤ n && n ≤ 0x1e) || n == 0x85 || n == 0x2028 || n == 0x2029

/-- Cuts `cs`, where `acc` holds the characters of the open line in reverse. -/
def linesFrom (acc : List Char) : List Char → List (List Char)
  | [] => if acc.isEmpty then [] else [acc.reverse]
  | '\r' :: '\n' :: cs => acc.reverse :: linesFrom [] cs
  | c :: cs => if isLineBreak c then acc.reverse :: linesFrom [] cs else linesFrom (c :: acc) cs

/-- The lines of a text without their breaks. -/
def lines (cs : List Char) : List (List Char) :=
  linesFrom [] cs

end BoundaryLint.Text
