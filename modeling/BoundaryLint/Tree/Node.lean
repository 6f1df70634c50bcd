/-!
# Syntax trees

A node has a kind, a range of bytes and children in order. A node may stand in a field of its
parent. A site is a node together with its ancestors.
-/
namespace BoundaryLint

/-- What is known about a node besides its children. The field is the one under which the parent
finds this very node. -/
structure Label where
  kind : String
  named : Bool := true
  missing : Bool := false
  start : Nat := 0
  stop : Nat := 0
  field : Option String := none
  deriving DecidableEq, Repr, Inhabited

/-- A node of a syntax tree. -/
inductive Node where
  | mk (label : Label) (children : List Node)
  deriving Repr, Inhabited

namespace Node

def label : Node → Label
  | mk l _ => l

def children : Node → List Node
  | mk _ cs => cs

def kind (n : Node) : String := n.label.kind

def named (n : Node) : Bool := n.label.named

def field (n : Node) : Option String := n.label.field

def namedChildren (n : Node) : List Node :=
  n.children.filter (·.named)

/-- The child in the given field. -/
def child? (n : Node) (field : String) : Option Node :=
  n.children.find? fun c => c.field == some field

/-- The named children other than comments. -/
def expressions (n : Node) : List Node :=
  n.namedChildren.filter fun c => c.kind != "comment"

theorem sizeOf_lt_of_mem_children {c n : Node} (h : c ∈ n.children) : sizeOf c < sizeOf n := by
  cases n with
  | mk l cs =>
    have := List.sizeOf_lt_of_mem h
    simp only [children, Node.mk.sizeOf_spec] at *
    omega

theorem sizeOf_lt_of_mem_namedChildren {c n : Node} (h : c ∈ n.namedChildren) :
    sizeOf c < sizeOf n :=
  sizeOf_lt_of_mem_children (List.mem_filter.1 h).1

theorem sizeOf_lt_of_mem_expressions {c n : Node} (h : c ∈ n.expressions) :
    sizeOf c < sizeOf n :=
  sizeOf_lt_of_mem_namedChildren (List.mem_filter.1 h).1

theorem sizeOf_lt_of_child? {c n : Node} {field : String} (h : n.child? field = some c) :
    sizeOf c < sizeOf n :=
  sizeOf_lt_of_mem_children (List.mem_of_find?_eq_some h)

mutual

/-- A node and all below it, each before its descendants. -/
def preorder : Node → List Node
  | mk l cs => mk l cs :: preorderAll cs

def preorderAll : List Node → List Node
  | [] => []
  | c :: cs => c.preorder ++ preorderAll cs

end

/-- The number of nodes of a tree. -/
def size (n : Node) : Nat :=
  n.preorder.length

end Node

/-- A node in its tree: its ancestors are listed from the parent up to the root. -/
structure Site where
  node : Node
  ancestors : List Node := []
  deriving Repr

namespace Site

def parent? (s : Site) : Option Node :=
  s.ancestors.head?

mutual

/-- The sites of a node and of all below it, each before those of its descendants. -/
def below (ancestors : List Node) : Node → List Site
  | .mk l cs => ⟨.mk l cs, ancestors⟩ :: belowAll (.mk l cs :: ancestors) cs

def belowAll (ancestors : List Node) : List Node → List Site
  | [] => []
  | c :: cs => below ancestors c ++ belowAll ancestors cs

end

/-- All sites of a tree in pre-order. -/
def all (root : Node) : List Site :=
  below [] root

end Site

end BoundaryLint
