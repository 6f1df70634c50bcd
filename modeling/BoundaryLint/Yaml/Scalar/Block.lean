import BoundaryLint.Yaml.Cursor

/-!
# Indented texts

After `|` the lines of a text stand as they are; after `>` a line break between two lines that do
not start with a blank counts as a space. The header may say how far the text is indented and what
becomes of the line breaks at its end.
-/
namespace BoundaryLint.Yaml

/-- What becomes of the line breaks at the end: all are kept, none, or one. -/
inductive Chomping where
  | keep
  | strip
  | clip
  deriving DecidableEq, Repr

structure BlockHeader where
  chomping : Chomping := .clip
  indent : Option Nat := none
  deriving DecidableEq, Repr

def chompingOf? : Char → Option Chomping
  | '+' => some .keep
  | '-' => some .strip
  | _ => none

/-- A digit as an indentation; zero is none. -/
def indentOf? (c : Char) : Option Nat :=
  if '1' ≤ c && c ≤ '9' then some (c.toNat - 48) else none

/-- The header after the indicator, in either order, and the rest of its line. -/
def blockHeader (c : Cursor) : Option (BlockHeader × Cursor) :=
  let (h, c) : BlockHeader × Cursor :=
    match chompingOf? c.head with
    | some k =>
      match indentOf? (c.peek 1) with
      | some n => (⟨k, some n⟩, c.skip 2)
      | none => (⟨k, none⟩, c.next)
    | none =>
      match indentOf? c.head with
      | some n =>
        match chompingOf? (c.peek 1) with
        | some k => (⟨k, some n⟩, c.skip 2)
        | none => (⟨.clip, some n⟩, c.next)
      | none => ({}, c)
  if isSpaceOrEnd c.head then c.restOfLine.map fun c => (h, c) else none

/-- The blank lines before a text of unknown indentation, with the greatest column in them. -/
def blockLead : Nat → Nat → Cursor → List Char × Nat × Cursor
  | 0, most, c => ([], most, c)
  | fuel + 1, most, c =>
    if c.head == ' ' then
      let c := c.next
      blockLead fuel (max most c.column) c
    else if isBreak c.head then
      let (b, c) := c.lineBreak
      let (bs, most, c) := blockLead fuel most c
      (b ++ bs, most, c)
    else ([], most, c)

/-- Past spaces, but not beyond a column. -/
def blockMargin (indent : Nat) (c : Cursor) : Cursor :=
  c.skip ((c.rest.take (indent - c.column)).takeWhile (· == ' ')).length

/-- The blank lines before the next line of a text, and the margin of that line. -/
def blockBreaks (indent : Nat) : Nat → Cursor → List Char × Cursor
  | 0, c => ([], c)
  | fuel + 1, c =>
    let c := blockMargin indent c
    if isBreak c.head then
      let (b, c) := c.lineBreak
      let (bs, c) := blockBreaks indent fuel c
      (b ++ bs, c)
    else ([], c)

/-- The lines of a text. `breaks` are the blank lines before the first, `last` is the line break
before them. The blank lines after the last line are given apart. -/
def blockLines (folded : Bool) (indent : Nat) : Nat → List Char → Cursor →
    List Char × List Char × List Char × Cursor
  | 0, breaks, c => ([], [], breaks, c)
  | fuel + 1, breaks, c =>
    let starts := !isOneOf " \t" c.head
    let (line, c) := c.span fun x => !isLineEnd x
    let (last, c) := c.lineBreak
    let (after, c) := blockBreaks indent c.steps c
    if c.column == indent && !isEnd c.head then
      let joint :=
        if folded && last == ['\n'] && starts && !isOneOf " \t" c.head then
          if after.isEmpty then [' '] else []
        else last
      let (more, last, tail, c) := blockLines folded indent fuel after c
      (breaks ++ line ++ joint ++ more, last, tail, c)
    else (breaks ++ line, last, after, c)

/-- The indented text whose indicator stands here. `least` is its least indentation. -/
def blockScalar (folded : Bool) (least : Nat) (c : Cursor) : Option (List Char × Cursor) := do
  let (h, c) ← blockHeader c.next
  let fuel := c.steps
  let (breaks, indent, c) :=
    match h.indent with
    | some n =>
      let indent := least + n - 1
      let (bs, c) := blockBreaks indent fuel c
      (bs, indent, c)
    | none =>
      let (bs, most, c) := blockLead fuel 0 c
      (bs, max least most, c)
  let (body, last, tail, c) :=
    if c.column == indent && !isEnd c.head then blockLines folded indent fuel breaks c
    else ([], [], breaks, c)
  let ending :=
    match h.chomping with
    | .keep => last ++ tail
    | .strip => []
    | .clip => last
  some (body ++ ending, c)

end BoundaryLint.Yaml
