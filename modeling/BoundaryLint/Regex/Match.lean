import BoundaryLint.Regex.Basic

/-!
# Matching

Matching explores the choices of an expression in order and stops at the first success of what
follows. A cursor is a position in the text together with the captured groups. A repetition makes
one more round only if the previous one, beyond the required ones, has moved the cursor.
-/
namespace BoundaryLint.Regex

/-- A position in a text, and what the groups have captured so far. -/
structure Cursor where
  before : List Char := []
  after : List Char
  pos : Nat := 0
  groups : List (Nat × List Char) := []
  deriving DecidableEq, Repr

namespace Cursor

/-- The next character, if it satisfies `p`, and the cursor behind it. -/
def step (c : Cursor) (p : Char → Bool) : Option Cursor :=
  match c.after with
  | [] => none
  | x :: rest => if p x then some { c with before := x :: c.before, after := rest, pos := c.pos + 1 } else none

/-- Moves `n` characters back. -/
def back : Nat → Cursor → Option Cursor
  | 0, c => some c
  | n + 1, c =>
    match c.before with
    | [] => none
    | x :: rest => back n { c with before := rest, after := x :: c.after, pos := c.pos - 1 }

def group? (c : Cursor) (i : Nat) : Option (List Char) :=
  c.groups.lookup i

/-- Moves past `text` under a comparison of codes. -/
def pass (same : Nat → Nat → Bool) : List Char → Cursor → Option Cursor
  | [], c => some c
  | x :: xs, c =>
    match c.step (fun y => same x.toNat y.toNat) with
    | none => none
    | some d => pass same xs d

/-- Whether a position satisfies a condition. -/
def holds (c : Cursor) : Anchor → Bool
  | .textStart => c.before.isEmpty
  | .textEnd => c.after.isEmpty
  | .finalEnd => c.after.isEmpty || c.after == ['\n']
  | .lineStart => c.before.isEmpty || c.before.head? == some '\n'
  | .lineEnd => c.after.isEmpty || c.after.head? == some '\n'
  | .boundary ascii negated =>
    if c.before.isEmpty && c.after.isEmpty then false
    else
      let word := fun o : Option Char => o.any (Category.word.holds ascii)
      (word c.before.head? != word c.after.head?) != negated

end Cursor

/-- What follows, given as a function from the cursor. -/
abbrev Next := Cursor → Option Cursor

/-- Runs `step` exactly `n` times before `k`. -/
def times (step : Next → Next) (k : Next) : Nat → Next
  | 0, c => k c
  | n + 1, c => step (times step k n) c

/-- As many rounds of `step` as `room` and `quota` allow, more rounds first. -/
def greedyRounds (step : Next → Next) (k : Next) : Nat → Option Nat → Option Nat → Next
  | 0, _, _, c => k c
  | room + 1, quota, last, c =>
    if quota == some 0 || last == some c.pos then k c
    else
      match step (greedyRounds step k room (quota.map (· - 1)) (some c.pos)) c with
      | some r => some r
      | none => k c

/-- As many rounds of `step` as `room` and `quota` allow, fewer rounds first. -/
def lazyRounds (step : Next → Next) (k : Next) : Nat → Option Nat → Option Nat → Next
  | 0, _, _, c => k c
  | room + 1, quota, last, c =>
    match k c with
    | some r => some r
    | none =>
      if quota == some 0 || last == some c.pos then none
      else step (lazyRounds step k room (quota.map (· - 1)) (some c.pos)) c

/-- Rounds that are settled one by one and never given back. -/
def settledRounds (step : Next → Next) : Nat → Option Nat → Option Nat → Cursor → Cursor
  | 0, _, _, c => c
  | room + 1, quota, last, c =>
    if quota == some 0 || last == some c.pos then c
    else
      match step some c with
      | some d => settledRounds step room (quota.map (· - 1)) (some c.pos) d
      | none => c

/-- Exactly `n` settled rounds. -/
def settledTimes (step : Next → Next) : Nat → Next
  | 0, c => some c
  | n + 1, c =>
    match step some c with
    | some d => settledTimes step n d
    | none => none

/-- Matches at the cursor and goes on with `k`. -/
def Node.run : Node → Next → Next
  | .empty, k, c => k c
  | .char code mode, k, c => (c.step fun x => mode.same code x.toNat).bind k
  | .set s mode, k, c => (c.step (s.holds mode)).bind k
  | .any dotAll, k, c => (c.step fun x => dotAll || x != '\n').bind k
  | .anchor a, k, c => if c.holds a then k c else none
  | .seq a b, k, c => a.run (b.run k) c
  | .alt a b, k, c =>
    match a.run k c with
    | some r => some r
    | none => b.run k c
  | .group body, k, c => body.run k c
  | .capture i body, k, c =>
    body.run (fun d => k { d with groups := (i, c.after.take (d.pos - c.pos)) :: d.groups }) c
  | .loop lo hi .greedy body, k, c =>
    times body.run
      (fun d => greedyRounds body.run k (d.after.length + 2) (hi.map (· - lo)) none d) lo c
  | .loop lo hi .lazy body, k, c =>
    times body.run
      (fun d => lazyRounds body.run k (d.after.length + 2) (hi.map (· - lo)) none d) lo c
  | .loop lo hi .possessive body, k, c =>
    match settledTimes body.run lo c with
    | some d => k (settledRounds body.run (d.after.length + 2) (hi.map (· - lo)) none d)
    | none => none
  | .atomic body, k, c => (body.run some c).bind k
  | .backref i mode, k, c =>
    match c.group? i with
    | some text => (c.pass mode.sameLower text).bind k
    | none => none
  | .ifGroup i yes no, k, c => if (c.group? i).isSome then yes.run k c else no.run k c
  | .ahead negated body, k, c =>
    match body.run some c with
    | some d => if negated then none else k { c with groups := d.groups }
    | none => if negated then k c else none
  | .behind negated width body, k, c =>
    match (c.back width).bind (body.run some) with
    | some d => if negated then none else k { c with groups := d.groups }
    | none => if negated then k c else none

/-- Whether an expression matches somewhere from the cursor on; `before` is in reverse. -/
def Node.searchFrom (n : Node) (before : List Char) (pos : Nat) : List Char → Bool
  | [] => (n.run some { before, after := [], pos }).isSome
  | x :: rest =>
    (n.run some { before, after := x :: rest, pos }).isSome ||
      n.searchFrom (x :: before) (pos + 1) rest

namespace Pattern

/-- Whether the expression matches at the start of the text. -/
def matchesStart (p : Pattern) (text : List Char) : Bool :=
  (p.root.run some { after := text }).isSome

/-- Whether the expression matches anywhere in the text. -/
def search (p : Pattern) (text : List Char) : Bool :=
  p.root.searchFrom [] 0 text

end Pattern

end BoundaryLint.Regex
