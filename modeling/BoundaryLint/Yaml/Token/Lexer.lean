import BoundaryLint.Yaml.Scalar.Block
import BoundaryLint.Yaml.Scalar.Plain
import BoundaryLint.Yaml.Token.Basic

/-!
# The tokens of a document

Indentation opens and closes blocks, brackets nest, and keys without `?` end on the line and within
1024 characters of where they start. All of this is kept in the state of the lexer.
-/
namespace BoundaryLint.Yaml

/-- A place where a key without `?` may have started. A required one is a fault if no colon comes. -/
structure PendingKey where
  slot : Nat
  required : Bool
  index : Nat
  line : Nat
  column : Nat
  deriving DecidableEq, Repr

/-- The state between two tokens. `levels` are the columns of the open blocks, the innermost first;
`depth` is the number of open brackets; `pending` has at most one key for each depth. -/
structure Lexer where
  pos : Cursor
  levels : List Nat := []
  depth : Nat := 0
  keyAllowed : Bool := true
  pending : List (Nat × PendingKey) := []
  slots : Nat := 0
  settled : List SettledSlot := []
  /-- The tokens so far, the last one first. -/
  emitted : List Token := []
  done : Bool := false
  /-- The number of an escape that is beyond the code points. -/
  beyond : Option Nat := none
  deriving DecidableEq, Repr

namespace Lexer

/-- The least column of the lines of a text in the innermost block. -/
def least (l : Lexer) : Nat :=
  match l.levels with
  | [] => 0
  | n :: _ => n + 1

def emit (l : Lexer) (kind : TokenKind) : Lexer :=
  { l with emitted := ⟨kind, l.pos.line⟩ :: l.emitted }

/-- A token of `n` characters. -/
def take (l : Lexer) (kind : TokenKind) (n : Nat) : Lexer :=
  let l := l.emit kind
  { l with pos := l.pos.skip n }

/-- A token that starts here and ends at `pos`. -/
def upTo (l : Lexer) (kind : TokenKind) (pos : Cursor) : Lexer :=
  { l.emit kind with pos }

/-- Drops the pending keys that satisfy `p`, of which none may be required. -/
def dropPending (l : Lexer) (p : Nat × PendingKey → Bool) : Option Lexer :=
  if l.pending.any fun k => p k && k.2.required then none
  else some { l with pending := l.pending.filter fun k => !p k }

/-- Whether a key can no longer end in time. -/
def isStale (l : Lexer) (k : PendingKey) : Bool :=
  k.line != l.pos.line || l.pos.index - k.index > 1024

/-- Drops the keys that did not end in time. -/
def dropStale (l : Lexer) : Option Lexer :=
  l.dropPending fun k => l.isStale k.2

/-- Drops the pending key of the innermost bracket. -/
def dropKey (l : Lexer) : Option Lexer :=
  l.dropPending fun k => k.1 == l.depth

/-- Leaves a slot if a key may start here. -/
def saveKey (l : Lexer) : Option Lexer :=
  if l.keyAllowed then do
    let l ← l.dropKey
    let key : PendingKey :=
      { slot := l.slots, required := l.depth == 0 && l.levels.head? == some l.pos.column,
        index := l.pos.index, line := l.pos.line, column := l.pos.column }
    let l := l.emit (.slot l.slots)
    some { l with pending := (l.depth, key) :: l.pending, slots := l.slots + 1 }
  else some l

/-- Closes the blocks whose column satisfies `p`. Within brackets columns do not matter. -/
def closeBlocks (l : Lexer) (p : Nat → Bool) : Lexer :=
  if l.depth != 0 then l
  else
    let closed := (l.levels.takeWhile p).map fun _ => (⟨.blockEnd, l.pos.line⟩ : Token)
    { l with levels := l.levels.dropWhile p, emitted := closed ++ l.emitted }

/-- Whether a block that starts in a column is a new one. -/
def opensAt (l : Lexer) (column : Nat) : Bool :=
  match l.levels with
  | [] => true
  | n :: _ => n < column

/-- Opens a block here, unless it is open. -/
def openBlock (l : Lexer) (kind : TokenKind) : Lexer :=
  if l.opensAt l.pos.column then
    let l := l.emit kind
    { l with levels := l.pos.column :: l.levels }
  else l

def allowKey (l : Lexer) (b : Bool) : Lexer :=
  { l with keyAllowed := b }

/-- Past spaces, comments and line breaks. Outside of brackets a key may start on a new line. -/
def skipGap : Nat → Lexer → Lexer
  | 0, l => l
  | fuel + 1, l =>
    let c := l.pos.skipSpaces.skipComment
    if isBreak c.head then
      skipGap fuel { l with pos := c.lineBreak.2, keyAllowed := l.keyAllowed || l.depth == 0 }
    else { l with pos := c }

/-- Past a byte order mark at the front of the document. -/
def skipMark (l : Lexer) : Lexer :=
  if l.pos.index == 0 && l.pos.head == '\ufeff' then { l with pos := l.pos.next } else l

def streamEnd (l : Lexer) : Option Lexer := do
  let l ← (l.closeBlocks fun _ => true).dropKey
  some { l.emit .streamEnd with done := true }

def directiveLine (l : Lexer) : Option Lexer := do
  let l ← (l.closeBlocks fun _ => true).dropKey
  let (d, pos) ← directive l.pos
  some ((l.allowKey false).upTo (.directive d) pos)

def documentMark (l : Lexer) (kind : TokenKind) : Option Lexer := do
  let l ← (l.closeBlocks fun _ => true).dropKey
  some ((l.allowKey false).take kind 3)

def openBracket (l : Lexer) (kind : TokenKind) : Option Lexer := do
  let l ← l.saveKey
  some ({ l with depth := l.depth + 1, keyAllowed := true }.take kind 1)

def closeBracket (l : Lexer) (kind : TokenKind) : Option Lexer := do
  let l ← l.dropKey
  if l.depth == 0 then none
  else some ({ l with depth := l.depth - 1, keyAllowed := false }.take kind 1)

def comma (l : Lexer) : Option Lexer := do
  let l ← l.dropKey
  some ((l.allowKey true).take .comma 1)

/-- The start of an item of a list. -/
def item (l : Lexer) : Option Lexer := do
  if l.depth == 0 && !l.keyAllowed then none
  else
    let l := if l.depth == 0 then l.openBlock .sequenceStart else l
    let l ← l.dropKey
    some ((l.allowKey true).take .item 1)

/-- The start of a key after `?`. -/
def explicitKey (l : Lexer) : Option Lexer := do
  if l.depth == 0 && !l.keyAllowed then none
  else
    let l := if l.depth == 0 then l.openBlock .mappingStart else l
    let l ← l.dropKey
    some ((l.allowKey (l.depth == 0)).take .key 1)

/-- The colon after a key settles its slot. -/
def colon (l : Lexer) : Option Lexer :=
  match l.pending.find? fun k => k.1 == l.depth with
  | some (_, key) =>
    let opens := l.depth == 0 && l.opensAt key.column
    let l := { l with
      pending := l.pending.filter fun k => k.1 != l.depth
      settled := ⟨key.slot, opens⟩ :: l.settled
      levels := if opens then key.column :: l.levels else l.levels }
    some ((l.allowKey false).take .value 1)
  | none => do
    if l.depth == 0 && !l.keyAllowed then none
    else
      let l := if l.depth == 0 then l.openBlock .mappingStart else l
      let l ← l.dropKey
      some ((l.allowKey (l.depth == 0)).take .value 1)

/-- A token that may start a key and after which none may. -/
def keyed (l : Lexer) (read : Cursor → Option (TokenKind × Cursor)) : Option Lexer := do
  let l ← l.saveKey
  let (kind, pos) ← read l.pos
  some ((l.allowKey false).upTo kind pos)

/-- A text in quotes. -/
def quoted (l : Lexer) (double : Bool) : Option Lexer := do
  let l ← l.saveKey
  match quotedScalar double l.pos with
  | .ok (s, pos) => some ((l.allowKey false).upTo (.scalar (String.ofList s) false) pos)
  | .error (.beyondCodes n) => some { l with beyond := some n }
  | .error _ => none

def plain (l : Lexer) : Option Lexer := do
  let l ← l.saveKey
  let (s, broken, pos) := plainScalar (l.depth != 0) l.least l.pos
  some ((l.allowKey broken).upTo (.scalar (String.ofList s) true) pos)

def block (l : Lexer) (folded : Bool) : Option Lexer := do
  let l ← l.dropKey
  let (s, pos) ← blockScalar folded (max 1 l.least) l.pos
  some ((l.allowKey true).upTo (.scalar (String.ofList s) false) pos)

/-- Whether a plain text may start here. -/
def startsPlain (l : Lexer) : Bool :=
  let c := l.pos.head
  !(isGapOrEnd c || isOneOf "-?:,[]\x7b\x7d#&*!|>'\"%@`" c) ||
    (!isGapOrEnd (l.pos.peek 1) && (c == '-' || (l.depth == 0 && (c == '?' || c == ':'))))

/-- The token that starts here. -/
def tokenHere (l : Lexer) : Option Lexer :=
  let c := l.pos.head
  let gap := isGapOrEnd (l.pos.peek 1)
  let inFlow := l.depth != 0
  let starts := l.pos.column == 0
  if isEnd c then l.streamEnd
  else if c == '%' && starts then l.directiveLine
  else if c == '-' && starts && l.pos.isDocumentMark then l.documentMark .documentStart
  else if c == '.' && starts && l.pos.isDocumentMark then l.documentMark .documentEnd
  else if c == '[' then l.openBracket .openList
  else if c == '\x7b' then l.openBracket .openMap
  else if c == ']' then l.closeBracket .closeList
  else if c == '\x7d' then l.closeBracket .closeMap
  else if c == ',' then l.comma
  else if c == '-' && gap then l.item
  else if c == '?' && (inFlow || gap) then l.explicitKey
  else if c == ':' && (inFlow || gap) then l.colon
  else if c == '*' then l.keyed fun c => (anchorName c).map fun (n, c) => (.alias n, c)
  else if c == '&' then l.keyed fun c => (anchorName c).map fun (n, c) => (.anchor n, c)
  else if c == '!' then l.keyed fun c => (writtenTag c).map fun (t, c) => (.tag t, c)
  else if c == '|' && !inFlow then l.block false
  else if c == '>' && !inFlow then l.block true
  else if c == '\'' then l.quoted false
  else if c == '"' then l.quoted true
  else if l.startsPlain then l.plain
  else none

/-- The next token, after the gap before it. -/
def step (l : Lexer) : Option Lexer := do
  let l ← (skipGap l.pos.steps l.skipMark).dropStale
  (l.closeBlocks fun n => l.pos.column < n).tokenHere

/-- The tokens end before an escape that is beyond the code points. Where a key may still be pending,
nothing from the first such place on is known yet. -/
def cut (l : Lexer) (code : Nat) : Lexer :=
  let slots := (l.pending.filter fun k => !l.isStale k.2).map (·.2.slot)
  let known :=
    match slots.min? with
    | none => l.emitted
    | some n => (l.emitted.dropWhile fun t => t.kind != .slot n).tail
  { l with emitted := ⟨.beyondCodes code, l.pos.line⟩ :: known, done := true }

/-- All tokens up to the end. -/
def run : Nat → Lexer → Option Lexer
  | 0, _ => none
  | fuel + 1, l =>
    if l.done then some l
    else do
      let next ← l.step
      match next.beyond with
      | some code => some (l.cut code)
      | none => run fuel next

end Lexer

/-- The tokens of a document. -/
def Token.ofText? (text : List Char) : Option (List Token) := do
  if !text.all isPrintable then none
  else
    let l ← Lexer.run (text.length + 2) { pos := { rest := text } }
    some (l.emitted.reverse.flatMap (Token.settle l.settled))

end BoundaryLint.Yaml
