import BoundaryLint.Yaml.Scalar.Value

/-!
# The nodes of a document

A document is a tree of nodes. Where an alias stands, the tree has the node that it names once more,
with the same number; only an alias inside of the collection that it names is a node of its own.
-/
namespace BoundaryLint.Yaml

/-- What every node has: its number, its kind, the line on which it starts, and whether aliases can
name it. -/
structure Mark where
  id : Nat
  tag : Tag
  line : Nat
  anchored : Bool := false
  deriving DecidableEq, Repr

inductive Node where
  | scalar (mark : Mark) (text : String)
  | list (mark : Mark) (items : List Node)
  | map (mark : Mark) (entries : List (Node × Node))
  /-- An alias inside of the collection with a number. -/
  | cycle (id line : Nat)
  deriving Repr, Inhabited

namespace Node

def mark : Node → Mark
  | .scalar m _ => m
  | .list m _ => m
  | .map m _ => m
  | .cycle id line => { id, tag := .unknown, line }

/-- The node of a missing text. -/
def empty (line : Nat) : Node :=
  .scalar { id := 0, tag := .null, line } ""

/-- The node with another kind. -/
def withTag (tag : Tag) : Node → Node
  | .scalar m text => .scalar { m with tag } text
  | .list m items => .list { m with tag } items
  | .map m entries => .map { m with tag } entries
  | n => n

/-- The name of a node's form in messages. -/
def formName : Node → String
  | .scalar _ _ => "ScalarNode"
  | .list _ _ => "SequenceNode"
  | _ => "MappingNode"

end Node

/-- A document: the node at its top, the collections that aliases can name, each before those around
it, the number of its nodes, and whether a collection holds an alias of itself. -/
structure Document where
  root : Node
  anchored : List (Nat × Node) := []
  size : Nat := 0
  cyclic : Bool := false
  deriving Repr, Inhabited

namespace Document

/-- The node itself, for an alias inside of a collection that collection. -/
def target (d : Document) (n : Node) : Node :=
  match n with
  | .cycle id _ => ((d.anchored.find? fun a => a.1 == id).map (·.2)).getD n
  | n => n

def tagOf (d : Document) (n : Node) : Tag :=
  (d.target n).mark.tag

/-- A bound on the steps from node to node that pass no node twice under one collection. -/
def reach (d : Document) : Nat :=
  (d.size + 2) * (d.size + 2)

/-- The text of a node. A mapping has the text of its value under a key of the kind of `=`. -/
def textWithin (d : Document) : Nat → Node → Except Error String
  | 0, _ => .error .tooDeep
  | fuel + 1, n =>
    match d.target n with
    | .scalar _ text => .ok text
    | .map _ entries =>
      match entries.find? fun e => d.tagOf e.1 == .value with
      | some (_, v) => d.textWithin fuel v
      | none => .error (.invalid none)
    | _ => .error (.invalid none)

def textOf (d : Document) (n : Node) : Except Error String :=
  d.textWithin (d.size + 2) n

/-- The value of a node of a kind that texts have. -/
def leafValue (d : Document) (n : Node) : Except Error Value := do
  let text ← d.textOf n
  match d.tagOf n, d.target n with
  | .timestamp, .map _ _ => .error .mappingAsTime
  | tag, _ => scalarValue tag text

/-- The number of the object that is a node's value. The missing number is one and the same
everywhere, and no other value has its number. -/
def objectOf (d : Document) (n : Node) : Nat :=
  let m := (d.target n).mark
  if m.tag == .float && ((d.textOf n).toOption.map isMissingNumber).getD false then 0 else m.id + 1

/-- The value of a node as a key. -/
def keyOf (d : Document) (n : Node) : Except Error Key :=
  match d.tagOf n with
  | .list => .error (.notAKey ⟨"list"⟩)
  | .entries => .error (.notAKey ⟨"list"⟩)
  | .set => .error (.notAKey ⟨"set"⟩)
  | .map => .error (.notAKey ⟨"dict"⟩)
  | _ => (d.leafValue n).map fun value => { value, object := d.objectOf n }

/-- The entries of a mapping of kind set, after those that its keys of the kind of `<<` merge into it.
Of several mappings under one such key the last comes first. A key of the kind of `=` counts as a
text. -/
def mergedWithin (d : Document) : Nat → List Nat → Node → Except Error (List (Node × Node))
  | 0, _, _ => .error .tooDeep
  | fuel + 1, around, n =>
    match d.target n with
    | .map m entries => do
      let own := (entries.filter fun e => d.tagOf e.1 != .merge).map fun (k, v) =>
        (if d.tagOf k == .value then k.withTag .str else k, v)
      if around.contains m.id then .ok own
      else
        let from' (n : Node) : Except Error (List (Node × Node)) :=
          d.mergedWithin fuel (m.id :: around) n
        let merged ← (entries.filter fun e => d.tagOf e.1 == .merge).mapM fun (_, v) =>
          match d.target v with
          | .list _ items => (items.mapM from').map fun groups => groups.reverse.flatten
          | v => from' v
        .ok (merged.flatten ++ own)
    | _ => .error (.invalid none)

def merged (d : Document) (n : Node) : Except Error (List (Node × Node)) :=
  d.mergedWithin d.reach [] n

end Document

end BoundaryLint.Yaml
