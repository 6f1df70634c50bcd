import BoundaryLint.Text.Surrogate
import BoundaryLint.Yaml.Cursor

/-!
# Texts in quotes

In single quotes a quote is written twice and nothing else is special. In double quotes a backslash
starts an escape, and at the end of a line it joins the next line on.
-/
namespace BoundaryLint.Yaml

/-- Why a text is no document. -/
inductive Fault where
  | malformed
  /-- An escape gives a number beyond the code points. -/
  | beyondCodes (code : Nat)
  deriving DecidableEq, Repr

def hexValue? (c : Char) : Option Nat :=
  if '0' ≤ c && c ≤ '9' then some (c.toNat - 48)
  else if 'a' ≤ c && c ≤ 'f' then some (c.toNat - 87)
  else if 'A' ≤ c && c ≤ 'F' then some (c.toNat - 55)
  else none

/-- The number that hexadecimal digits write. -/
def hexNumber? (cs : List Char) : Option Nat :=
  cs.foldlM (fun n c => (hexValue? c).map (n * 16 + ·)) 0

/-- The character that one letter after a backslash stands for. -/
def escape? : Char → Option Char
  | '0' => some '\x00'
  | 'a' => some '\x07'
  | 'b' => some '\x08'
  | 't' => some '\t'
  | '\t' => some '\t'
  | 'n' => some '\n'
  | 'v' => some '\x0b'
  | 'f' => some '\x0c'
  | 'r' => some '\r'
  | 'e' => some '\x1b'
  | ' ' => some ' '
  | '"' => some '"'
  | '\\' => some '\\'
  | '/' => some '/'
  | 'N' => some '\u0085'
  | '_' => some '\u00a0'
  | 'L' => some '\u2028'
  | 'P' => some '\u2029'
  | _ => none

/-- How many hexadecimal digits follow a letter after a backslash. -/
def escapeWidth? : Char → Option Nat
  | 'x' => some 2
  | 'u' => some 4
  | 'U' => some 8
  | _ => none

/-- The blank lines inside of quotes. A mark between documents may not follow a line break. -/
def quotedBreaks : Nat → Cursor → Option (List Char × Cursor)
  | 0, _ => none
  | fuel + 1, c =>
    if c.isDocumentMark then none
    else
      let c := c.skipWhile fun x => x == ' ' || x == '\t'
      if isBreak c.head then do
        let (b, c) := c.lineBreak
        let (bs, c) ← quotedBreaks fuel c
        some (b ++ bs, c)
      else some ([], c)

/-- What a gap inside of quotes counts as. -/
def quotedGap (c : Cursor) : Option (List Char × Cursor) :=
  let (spaces, c) := c.span fun x => x == ' ' || x == '\t'
  if isEnd c.head then none
  else if isBreak c.head then do
    let (b, c) := c.lineBreak
    let (bs, c) ← quotedBreaks c.steps c
    let front := if b != ['\n'] then b else if bs.isEmpty then [' '] else []
    some (front ++ bs, c)
  else some (spaces, c)

/-- What may be missing in a document must not be. -/
def orMalformed {α : Type} (a : Option α) : Except Fault α :=
  match a with
  | some a => .ok a
  | none => .error .malformed

/-- The escape after a backslash. -/
def escapeAt (c : Cursor) : Except Fault (List Char × Cursor) :=
  match escape? c.head with
  | some x => .ok ([x], c.next)
  | none =>
    match escapeWidth? c.head with
    | some width =>
      let digits := c.next.rest.take width
      if digits.length < width then .error .malformed
      else
        match hexNumber? digits with
        | none => .error .malformed
        | some n =>
          match Text.charOfCode? n with
          | none => .error (.beyondCodes n)
          | some x => .ok ([x], c.next.skip width)
    | none =>
      if isBreak c.head then
        let c := c.lineBreak.2
        orMalformed (quotedBreaks c.steps c)
      else .error .malformed

/-- A text up to its closing quote. -/
def quotedPieces (double : Bool) : Nat → Cursor → Except Fault (List Char × Cursor)
  | 0, _ => .error .malformed
  | fuel + 1, c =>
    let (run, c) := c.span fun x => !(isOneOf "'\"\\" x || isGapOrEnd x)
    let onward (piece : List Char) (c : Cursor) : Except Fault (List Char × Cursor) := do
      let (more, c) ← quotedPieces double fuel c
      .ok (run ++ piece ++ more, c)
    let x := c.head
    if !double && x == '\'' && c.peek 1 == '\'' then onward ['\''] (c.skip 2)
    else if (double && x == '\'') || (!double && (x == '"' || x == '\\')) then onward [x] c.next
    else if double && x == '\\' then do
      let (piece, c) ← escapeAt c.next
      onward piece c
    else if x == '\'' || x == '"' then .ok (run, c.next)
    else do
      let (gap, c) ← orMalformed (quotedGap c)
      onward gap c

/-- The quoted text that starts here. -/
def quotedScalar (double : Bool) (c : Cursor) : Except Fault (List Char × Cursor) :=
  quotedPieces double c.steps c.next

end BoundaryLint.Yaml
