import BoundaryLint.Number.Integer
import BoundaryLint.Number.Shortest
import BoundaryLint.Text.Quoted
import BoundaryLint.Value.Basic

/-!
# Values in messages

`Value.shown` is the unambiguous text of a value, with quotes around texts. `Value.plain` is the
same except that a text at the top stands for itself. A collection inside of itself is shown by
dots. A value that holds an integer of too many digits has no text.
-/
namespace BoundaryLint.Value

/-- Texts in brackets with commas between them. -/
def bracketed (l : String) (items : List String) (r : String) : String :=
  l ++ ", ".intercalate items ++ r

/-- The text of a collection, dots if its label is among those of the collections around it. -/
def unlessInside (around : List Identity) (label : Option Identity) (dots : String)
    (text : List Identity → Option String) : Option String :=
  match label with
  | none => text around
  | some n => if around.contains n then some dots else text (n :: around)

mutual

/-- The unambiguous text of a value inside of collections with labels. -/
def shownIn (around : List Identity) : Value → Option String
  | .null => some "None"
  | .bool b => some (if b then "True" else "False")
  | .int n => if Number.isShowable n then some (toString n) else none
  | .float x => some x.text
  | .str s => some (Text.quoted s)
  | .bytes data => some (Text.quotedBytes data)
  | .time t => some t.shown
  | .list label items =>
    unlessInside around label "[...]" fun around =>
      (itemsShown around items).map fun ts => bracketed "[" ts "]"
  | .pair label a b =>
    unlessInside around label "(...)" fun around => do
      let first ← shownIn around a
      let second ← shownIn around b
      some (bracketed "(" [first, second] ")")
  | .set [] => some "set()"
  | .set members =>
    (itemsShown around members).map fun ts => bracketed "\x7b" ts "\x7d"
  | .map label entries =>
    unlessInside around label "\x7b...\x7d" fun around =>
      (entriesShown around entries).map fun ts => bracketed "\x7b" ts "\x7d"

def itemsShown (around : List Identity) : List Value → Option (List String)
  | [] => some []
  | v :: vs => do
    let t ← shownIn around v
    let ts ← itemsShown around vs
    some (t :: ts)

def entriesShown (around : List Identity) : List (Value × Value) → Option (List String)
  | [] => some []
  | (k, v) :: es => do
    let key ← shownIn around k
    let value ← shownIn around v
    let ts ← entriesShown around es
    some ((key ++ ": " ++ value) :: ts)

end

/-- The unambiguous text of a value, if it has one. -/
def shown? (v : Value) : Option String :=
  shownIn [] v

/-- The text of a value in running text, if it has one. -/
def plain? : Value → Option String
  | .str s => some s
  | .time t => some t.plain
  | v => v.shown?

def shown (v : Value) : String :=
  v.shown?.getD ""

def plain (v : Value) : String :=
  v.plain?.getD ""

/-- Whether messages can show a value. -/
def isShowable (v : Value) : Bool :=
  v.shown?.isSome

end BoundaryLint.Value
