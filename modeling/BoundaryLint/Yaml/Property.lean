import BoundaryLint.Text.Utf8
import BoundaryLint.Yaml.Scalar.Quoted

/-!
# Anchors, tags and directives
-/
namespace BoundaryLint.Yaml

/-- The characters of the names of anchors, directives and tag handles. -/
def isNameChar (c : Char) : Bool :=
  ('0' ≤ c && c ≤ '9') || ('A' ≤ c && c ≤ 'Z') || ('a' ≤ c && c ≤ 'z') || c == '-' || c == '_'

/-- The characters of a tag. -/
def isTagChar (c : Char) : Bool :=
  isNameChar c || isOneOf ";/?:@&=+$,.!~*'()[]%" c

/-- The name after the indicator of an anchor or an alias. -/
def anchorName (c : Cursor) : Option (String × Cursor) :=
  let (name, c) := c.next.span isNameChar
  if !name.isEmpty && (isGapOrEnd c.head || isOneOf "?:,]\x7d%@`" c.head) then
    some (String.ofList name, c)
  else none

/-- A tag as it is written: an abbreviation to be looked up, if there is one, and the rest. -/
structure WrittenTag where
  handle : Option String
  suffix : String
  deriving DecidableEq, Repr

/-- The bytes of consecutive percent escapes. -/
def percentBytes : Nat → Cursor → Option (Text.Utf8.Bytes × Cursor)
  | 0, _ => none
  | fuel + 1, c =>
    if c.head == '%' then
      let digits := c.next.rest.take 2
      if digits.length < 2 then none
      else do
        let n ← hexNumber? digits
        let (bs, c) ← percentBytes fuel (c.skip 3)
        some (UInt8.ofNat n :: bs, c)
    else some ([], c)

/-- The characters of a tag, escapes resolved. -/
def tagPieces : Nat → Cursor → Option (List Char × Cursor)
  | 0, _ => none
  | fuel + 1, c =>
    if c.head == '%' then do
      let (bs, c) ← percentBytes c.steps c
      let piece ← Text.Utf8.text? bs
      let (more, c) ← tagPieces fuel c
      some (piece ++ more, c)
    else if isTagChar c.head then do
      let (more, c') ← tagPieces fuel c.next
      some (c.head :: more, c')
    else some ([], c)

/-- The characters of a tag, of which there is at least one. -/
def tagText (c : Cursor) : Option (String × Cursor) :=
  if isTagChar c.head then
    (tagPieces c.steps c).map fun (cs, c) => (String.ofList cs, c)
  else none

/-- The handle of a tag: a name between exclamation marks, or one mark alone before a space. -/
def tagHandle (c : Cursor) : Option (String × Cursor) :=
  if c.head != '!' then none
  else if c.peek 1 == ' ' then some ("!", c.next)
  else
    let (name, c) := c.next.span isNameChar
    if c.head == '!' then some ("!" ++ String.ofList name ++ "!", c.next) else none

/-- The tag that starts here. -/
def writtenTag (c : Cursor) : Option (WrittenTag × Cursor) := do
  let (tag, c) ←
    if c.peek 1 == '<' then do
      let (suffix, c) ← tagText (c.skip 2)
      if c.head == '>' then some ((⟨none, suffix⟩ : WrittenTag), c.next) else none
    else if isGapOrEnd (c.peek 1) then some ((⟨none, "!"⟩ : WrittenTag), c.next)
    else do
      let word := c.next.rest.takeWhile fun x => !isSpaceOrEnd x
      let (handle, c) ← if word.contains '!' then tagHandle c else some ("!", c.next)
      let (suffix, c) ← tagText c
      some ((⟨some handle, suffix⟩ : WrittenTag), c)
  if isSpaceOrEnd c.head then some (tag, c) else none

/-- A line before a document. -/
inductive Directive where
  | version (major : Nat)
  | tag (handle front : String)
  | reserved
  deriving DecidableEq, Repr

/-- A number in digits. -/
def directiveNumber (c : Cursor) : Option (Nat × Cursor) :=
  let (digits, c) := c.span fun x => '0' ≤ x && x ≤ '9'
  if digits.isEmpty then none
  else some (digits.foldl (fun n x => n * 10 + (x.toNat - 48)) 0, c)

/-- The directive that starts here, with its line. -/
def directive (c : Cursor) : Option (Directive × Cursor) := do
  let (name, c) := c.next.span isNameChar
  if name.isEmpty || !isSpaceOrEnd c.head then none
  else
    let (d, c) ←
      match String.ofList name with
      | "YAML" => do
        let (major, c) ← directiveNumber c.skipSpaces
        if c.head != '.' then none
        else
          let (_, c) ← directiveNumber c.next
          if isSpaceOrEnd c.head then some (Directive.version major, c) else none
      | "TAG" => do
        let (handle, c) ← tagHandle c.skipSpaces
        if c.head != ' ' then none
        else
          let (front, c) ← tagText c.skipSpaces
          if isSpaceOrEnd c.head then some (Directive.tag handle front, c) else none
      | _ => some (.reserved, c.skipWhile fun x => !isLineEnd x)
    let c ← c.restOfLine
    some (d, c)

end BoundaryLint.Yaml
