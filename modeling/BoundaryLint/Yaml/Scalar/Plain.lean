import BoundaryLint.Yaml.Cursor

/-!
# Texts without quotes

A plain text runs to the next indicator. It may go on over several lines: one line break counts as
a space, and of several the first is dropped.
-/
namespace BoundaryLint.Yaml

/-- The characters of a plain text up to the next gap or indicator. -/
def plainRun (inFlow : Bool) : List Char → List Char
  | [] => []
  | c :: cs =>
    let after := cs.headD '\x00'
    let stop := isGapOrEnd c ||
      (c == ':' && (isGapOrEnd after || (inFlow && isOneOf ",[]\x7b\x7d" after))) ||
      (inFlow && isOneOf ",?[]\x7b\x7d" c)
    if stop then [] else c :: plainRun inFlow cs

/-- What a gap inside a plain text counts as, and whether it goes over a line break. -/
structure PlainGap where
  text : List Char
  broken : Bool
  deriving DecidableEq, Repr

/-- The blank lines in a gap, up to a mark between documents, where the gap is void. -/
def plainBreaks : Nat → Cursor → Option (List Char) × Cursor
  | 0, c => (some [], c)
  | fuel + 1, c =>
    if c.head == ' ' then plainBreaks fuel c.next
    else if isBreak c.head then
      let (b, c) := c.lineBreak
      if c.isDocumentMark then (none, c)
      else
        let (bs, c) := plainBreaks fuel c
        (bs.map (b ++ ·), c)
    else (some [], c)

/-- The gap after a piece of a plain text. -/
def plainGap (c : Cursor) : PlainGap × Cursor :=
  let (spaces, c) := c.span (· == ' ')
  if isBreak c.head then
    let (b, c) := c.lineBreak
    if c.isDocumentMark then (⟨[], true⟩, c)
    else
      match plainBreaks c.steps c with
      | (none, c) => (⟨[], true⟩, c)
      | (some bs, c) =>
        let front := if b != ['\n'] then b else if bs.isEmpty then [' '] else []
        (⟨front ++ bs, true⟩, c)
  else (⟨spaces, false⟩, c)

/-- The pieces of a plain text. `least` is the least column of a further line outside of brackets.
The flag says whether the last gap goes over a line break. -/
def plainPieces (inFlow : Bool) (least : Nat) : Nat → List Char → Bool → Cursor →
    List Char × Bool × Cursor
  | 0, _, broken, c => ([], broken, c)
  | fuel + 1, gap, broken, c =>
    let run := if c.head == '#' then [] else plainRun inFlow c.rest
    if run.isEmpty then ([], broken, c)
    else
      let (g, c) := plainGap (c.skip run.length)
      if g.text.isEmpty || c.head == '#' || (!inFlow && c.column < least) then
        (gap ++ run, g.broken, c)
      else
        let (more, broken, c) := plainPieces inFlow least fuel g.text g.broken c
        (gap ++ run ++ more, broken, c)

/-- The plain text that starts here. -/
def plainScalar (inFlow : Bool) (least : Nat) (c : Cursor) : List Char × Bool × Cursor :=
  plainPieces inFlow least c.steps [] false c

end BoundaryLint.Yaml
