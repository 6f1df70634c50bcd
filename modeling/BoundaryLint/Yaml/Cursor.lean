/-!
# Positions in a document

A cursor is the rest of a document with the place where it starts. The NUL character stands for the
end: a document is refused before it is read if it holds one.
-/
namespace BoundaryLint.Yaml

/-- The characters that a document may hold. -/
def isPrintable (c : Char) : Bool :=
  let n := c.toNat
  n == 0x09 || n == 0x0a || n == 0x0d || (0x20 ≤ n && n ≤ 0x7e) || n == 0x85 ||
    (0xa0 ≤ n && n ≤ 0xd7ff) || (0xe000 ≤ n && n ≤ 0xfffd) || 0x10000 ≤ n

def isBreak (c : Char) : Bool :=
  c == '\n' || c == '\r' || c == '\u0085' || c == '\u2028' || c == '\u2029'

def isEnd (c : Char) : Bool :=
  c == '\x00'

/-- The end of a line or of the document. -/
def isLineEnd (c : Char) : Bool :=
  isEnd c || isBreak c

/-- A space or the end of a line. -/
def isSpaceOrEnd (c : Char) : Bool :=
  c == ' ' || isLineEnd c

/-- A space, a tab or the end of a line. -/
def isGapOrEnd (c : Char) : Bool :=
  c == '\t' || isSpaceOrEnd c

/-- Whether a character is one of those of a text. -/
def isOneOf (cs : String) (c : Char) : Bool :=
  cs.toList.contains c

/-- The rest of a document, with the number of characters in the whole document and the number of
characters, of lines, and of characters of the line before the rest. -/
structure Cursor where
  rest : List Char
  size : Nat := rest.length
  index : Nat := 0
  line : Nat := 0
  column : Nat := 0
  deriving DecidableEq, Repr

namespace Cursor

/-- The character after `k` others. -/
def peek (c : Cursor) (k : Nat) : Char :=
  c.rest.getD k '\x00'

def head (c : Cursor) : Char :=
  c.peek 0

/-- Past one character. A byte order mark takes no column. -/
def next (c : Cursor) : Cursor :=
  match c.rest with
  | [] => c
  | x :: rest =>
    if isBreak x && !(x == '\r' && rest.head? == some '\n') then
      { c with rest, index := c.index + 1, line := c.line + 1, column := 0 }
    else if x == '\ufeff' then { c with rest, index := c.index + 1 }
    else { c with rest, index := c.index + 1, column := c.column + 1 }

/-- A bound on the steps over the rest of a document. -/
def steps (c : Cursor) : Nat :=
  c.size + 1

/-- Past `n` characters. -/
def skip (c : Cursor) : Nat → Cursor
  | 0 => c
  | n + 1 => c.next.skip n

/-- The characters at the front that satisfy `p`, and the place after them. -/
def span (c : Cursor) (p : Char → Bool) : List Char × Cursor :=
  let front := c.rest.takeWhile p
  (front, c.skip front.length)

/-- Past the characters at the front that satisfy `p`. -/
def skipWhile (c : Cursor) (p : Char → Bool) : Cursor :=
  (c.span p).2

def skipSpaces (c : Cursor) : Cursor :=
  c.skipWhile (· == ' ')

/-- Past a comment, if one starts here. -/
def skipComment (c : Cursor) : Cursor :=
  if c.head == '#' then c.skipWhile (fun x => !isLineEnd x) else c

/-- The line break that stands here, as it counts in a text, and the place after it. -/
def lineBreak (c : Cursor) : List Char × Cursor :=
  if c.head == '\r' && c.peek 1 == '\n' then (['\n'], c.skip 2)
  else if c.head == '\r' || c.head == '\n' || c.head == '\u0085' then (['\n'], c.next)
  else if c.head == '\u2028' || c.head == '\u2029' then ([c.head], c.next)
  else ([], c)

/-- Past spaces and a comment to the end of the line, which must be all that is left of it. -/
def restOfLine (c : Cursor) : Option Cursor :=
  let c := c.skipSpaces.skipComment
  if isLineEnd c.head then some c.lineBreak.2 else none

/-- Whether one of the marks between documents stands here. -/
def isDocumentMark (c : Cursor) : Bool :=
  (c.rest.take 3 == ['-', '-', '-'] || c.rest.take 3 == ['.', '.', '.']) && isGapOrEnd (c.peek 3)

end Cursor

end BoundaryLint.Yaml
