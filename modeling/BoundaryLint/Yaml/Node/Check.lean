import BoundaryLint.Yaml.Node.Basic
import Std.Data.HashSet

/-!
# Which documents have a value

A document is checked before its value is built. A mapping is checked when it is met: first all its
keys, of which no two may be equal, then its values in turn. What is in a list or a set comes later,
when everything met before it has been checked. A node that several aliases name is checked once.
-/
namespace BoundaryLint.Yaml

/-- How far a check has come: the numbers of the collections that need no further check, and the
collections whose content is left for later, the last one first. -/
structure Progress where
  done : Std.HashSet Nat := {}
  later : List Node := []

namespace Progress

/-- Marks a node as done. -/
def finish (p : Progress) (m : Mark) : Progress :=
  { p with done := p.done.insert m.id }

/-- Leaves the content of a node for later. -/
def postpone (p : Progress) (n : Node) : Progress :=
  { p with later := n :: p.later }.finish n.mark

end Progress

namespace Document

/-- A key among those before it, the last one first. -/
def checkKey (d : Document) (seen : List Key) (n : Node) : Except Error (List Key) := do
  let key ← d.keyOf n
  if seen.any key.same then
    .error (if key.value.plain?.isSome then .duplicateKey key.value n.mark.line else .notShowable)
  else .ok (key :: seen)

/-- Checks a node inside of the mappings with the numbers `around`. -/
def check (d : Document) : Nat → List Nat → Node → Progress → Except Error Progress
  | 0, _, _, _ => .error .tooDeep
  | fuel + 1, around, n, p =>
    let n := d.target n
    let m := n.mark
    if p.done.contains m.id then .ok p
    else if around.contains m.id then .error (.invalid none)
    else
      match m.tag with
      | .list => .ok (p.postpone n)
      | .entries => .ok (p.postpone n)
      | .set => .ok (p.postpone n)
      | .map =>
        match n with
        | .map _ entries => do
          let (p, _) ← entries.foldlM (fun (p, seen) e => do
            let p ← d.check fuel (m.id :: around) e.1 p
            let seen ← d.checkKey seen e.1
            return (p, seen)) (p, [])
          let p ← entries.foldlM (fun p e => d.check fuel (m.id :: around) e.2 p) p
          .ok (p.finish m)
        | .scalar _ text => .error (if text.isEmpty then .invalid none else .textAsMapping)
        | .list _ (item :: _) => .error (.listAsMapping (d.target item).formName)
        | _ => .error (.invalid none)
      | _ => (d.leafValue n).map fun _ => p

/-- Checks nodes in turn. -/
def checkAll (d : Document) (ns : List Node) (p : Progress) : Except Error Progress :=
  ns.foldlM (fun p n => d.check d.reach [] n p) p

/-- Checks an item of a list of entries. -/
def checkEntry (d : Document) (p : Progress) (item : Node) : Except Error Progress :=
  match d.target item with
  | .map _ [(k, v)] => d.checkAll [k, v] p
  | _ => .error (.invalid none)

/-- Checks a member of a set, which may have a value. -/
def checkMember (d : Document) (p : Progress) (e : Node × Node) : Except Error Progress := do
  let p ← d.checkAll [e.1] p
  match d.keyOf e.1 with
  | .error _ => .error (.invalid none)
  | .ok _ => d.checkAll [e.2] p

/-- Checks the content of a list or a set. -/
def checkContent (d : Document) (p : Progress) (n : Node) : Except Error Progress := do
  match n.mark.tag, n with
  | .list, .list _ items => d.checkAll items p
  | .entries, .list _ items => items.foldlM d.checkEntry p
  | .set, .map _ _ =>
    let members ← d.merged n
    members.foldlM d.checkMember p
  | _, _ => .error (.invalid none)

/-- Checks what was left for later, and what that leaves. -/
def checkLater (d : Document) : Nat → Progress → Except Error Unit
  | 0, _ => .error .tooDeep
  | fuel + 1, p =>
    match p.later with
    | [] => .ok ()
    | later => do
      let p ← later.reverse.foldlM d.checkContent { p with later := [] }
      d.checkLater fuel p

/-- Checks a whole document. -/
def checked (d : Document) : Except Error Unit := do
  let p ← d.checkAll [d.root] {}
  d.checkLater d.reach p

end Document

end BoundaryLint.Yaml
