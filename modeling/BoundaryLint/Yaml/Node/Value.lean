import BoundaryLint.Yaml.Node.Check

/-!
# The value of a document

The values of collections with anchors are built once, the inner ones first. In a document with
collections inside of themselves this is done several times over, each time with the values of the
time before where a collection holds itself; the value is then right as deep as anyone looks, and its
collections have labels.
-/
namespace BoundaryLint.Yaml

/-- The values of collections by their numbers. -/
abbrev ValueTable := List (Nat × Value)

def ValueTable.get? (t : ValueTable) (id : Nat) : Option Value :=
  (t.find? fun e => e.1 == id).map (·.2)

/-- What is known when the value of a node is built: the document, the values so far, and those of
the time before. -/
structure Known where
  document : Document
  now : ValueTable := []
  before : ValueTable := []

namespace Known

def label (k : Known) (id place : Nat) : Option Value.Identity :=
  if k.document.cyclic then some (id, place) else none

/-- The value of a collection that has been built. -/
def get? (k : Known) (m : Mark) : Option Value :=
  if m.anchored then k.now.get? m.id else none

def inside (k : Known) (id : Nat) : Value :=
  (k.before.get? id).getD .null

def leaf (k : Known) (n : Node) : Value :=
  (k.document.leafValue n).toOption.getD .null

/-- The members of a set. Integers are in ascending order. -/
def members (k : Known) (n : Node) : List Value :=
  let entries := (k.document.merged n).toOption.getD []
  let keys := Key.distinct (entries.filterMap fun e => (k.document.keyOf e.1).toOption)
  let values := keys.map (·.value)
  let numbers := values.filterMap fun
    | .int n => some n
    | _ => none
  if numbers.length == values.length then (numbers.mergeSort fun a b => a ≤ b).map .int else values

end Known

namespace Node

mutual

/-- The value of a node that has passed the check. -/
def value (k : Known) : Node → Value
  | .scalar m text => k.leaf (.scalar m text)
  | .list m items =>
    match k.get? m with
    | some v => v
    | none =>
      if m.tag == .entries then .list (k.label m.id 0) (pairs k m.id 1 items)
      else .list (k.label m.id 0) (values k items)
  | .map m entries =>
    match k.get? m with
    | some v => v
    | none =>
      if m.tag == .map then .map (k.label m.id 0) (entryValues k entries)
      else if m.tag == .set then .set (k.members (.map m entries))
      else k.leaf (.map m entries)
  | .cycle id _ => k.inside id

def values (k : Known) : List Node → List Value
  | [] => []
  | n :: ns => n.value k :: values k ns

def entryValues (k : Known) : List (Node × Node) → List (Value × Value)
  | [] => []
  | (a, b) :: es => (a.value k, b.value k) :: entryValues k es

/-- The entry that is an item of a list of entries. -/
def entry (k : Known) : Node → Value × Value
  | .map _ entries => (entryValues k entries).headD (.null, .null)
  | .cycle id _ =>
    match k.inside id with
    | .map _ (e :: _) => e
    | _ => (.null, .null)
  | _ => (.null, .null)

/-- The pairs from a place on in the list with a number. -/
def pairs (k : Known) (id place : Nat) : List Node → List Value
  | [] => []
  | n :: ns =>
    let (a, b) := n.entry k
    .pair (k.label id place) a b :: pairs k id (place + 1) ns

end

end Node

namespace Document

/-- The values of the collections with anchors, with those of the time before. -/
def tableAfter (d : Document) (before : ValueTable) : ValueTable :=
  d.anchored.foldl (fun now a => (a.1, a.2.value { document := d, now, before }) :: now) []

/-- The values of the collections with anchors after a number of rounds. -/
def tableOf (d : Document) : Nat → ValueTable
  | 0 => []
  | n + 1 => d.tableAfter (d.tableOf n)

/-- The number of rounds after which nobody meets what is missing: configurations are not read deeper
than a dozen levels, and a text ends where a collection comes again. -/
def rounds (d : Document) : Nat :=
  if d.cyclic then d.anchored.length + 12 else 1

/-- The value of a document that has passed the check. -/
def value (d : Document) : Value :=
  let now := d.tableOf d.rounds
  d.root.value { document := d, now, before := now }

end Document

end BoundaryLint.Yaml
