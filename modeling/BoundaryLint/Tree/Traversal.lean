import BoundaryLint.Tree.Node

/-!
# Traversals

Trees can be deep, so they are gone through with a stack and not by recursion. Whatever has children
can be traversed: the nodes of a tree, and as well the rows of a listing, by their indices.
-/
namespace BoundaryLint

/-- A traversal under way: what it has yielded, and the stack of what is still to come, with the
next one at the end. -/
structure Traversal (α : Type) where
  yielded : Array α := #[]
  stack : Array α

namespace Traversal

/-- A traversal that begins at `a`. -/
def start {α : Type} (a : α) : Traversal α :=
  { stack := #[a] }

/-- One turn: what is on top of the stack is yielded, and its children are put on the stack from the
last one to the first. There is no turn when the stack is empty. -/
def turn? {α : Type} (children : α → List α) (t : Traversal α) : Option (Traversal α) :=
  t.stack.back?.map fun a =>
    { yielded := t.yielded.push a, stack := t.stack.pop ++ (children a).reverse }

theorem turn?_eq_some_iff {α : Type} {children : α → List α} {t u : Traversal α} :
    t.turn? children = some u ↔ ∃ (rest : Array α) (a : α), t.stack = rest.push a ∧
      u = { yielded := t.yielded.push a, stack := rest ++ (children a).reverse } := by
  rw [turn?, Option.map_eq_some_iff]
  constructor
  · intro ⟨a, ha, hu⟩
    obtain ⟨rest, hrest⟩ := Array.back?_eq_some_iff.1 ha
    rw [hrest, Array.pop_push] at hu
    exact ⟨rest, a, hrest, hu.symm⟩
  · intro ⟨rest, a, hrest, hu⟩
    rw [hrest, Array.pop_push, Array.back?_push]
    exact ⟨a, rfl, hu.symm⟩

/-- The number of nodes that are still to come. -/
def pending (t : Traversal Node) : Nat :=
  (Node.preorderAll t.stack.toList).length

end Traversal

namespace Node

theorem length_preorderAll_append (cs ds : List Node) :
    (preorderAll (cs ++ ds)).length = (preorderAll cs).length + (preorderAll ds).length := by
  induction cs with
  | nil => simp [preorderAll]
  | cons c cs ih =>
    simp only [List.cons_append, preorderAll, List.length_append, ih]
    omega

theorem length_preorderAll_reverse (cs : List Node) :
    (preorderAll cs.reverse).length = (preorderAll cs).length := by
  induction cs with
  | nil => rfl
  | cons c cs ih =>
    simp only [List.reverse_cons, length_preorderAll_append, preorderAll, List.length_append, ih,
      List.length_nil]
    omega

end Node

namespace Traversal

/-- Each turn is done with one node. -/
theorem pending_of_turn? {t u : Traversal Node} (h : t.turn? Node.children = some u) :
    u.pending < t.pending := by
  obtain ⟨rest, n, hrest, rfl⟩ := turn?_eq_some_iff.1 h
  cases n with
  | mk l cs =>
    simp only [pending, hrest, Array.toList_push, Array.toList_appendList,
      Node.length_preorderAll_append, Node.length_preorderAll_reverse, Node.children,
      Node.preorderAll, Node.preorder, List.length_append, List.length_cons, List.length_nil]
    omega

/-- Turn after turn until the stack is empty. -/
def run (t : Traversal Node) : List Node :=
  match h : t.turn? Node.children with
  | none => t.yielded.toList
  | some u =>
    have : u.pending < t.pending := pending_of_turn? h
    u.run
termination_by t.pending

end Traversal

/-- A node and all below it, in the order in which a traversal comes to them. -/
def Node.visited (n : Node) : List Node :=
  (Traversal.start n).run

end BoundaryLint
