import BoundaryLint.Rule.Basic

/-!
# Writes to the navigation state

Assignments, `++`, `--` and `delete` on the navigation state or on a member of it are flagged outside
the functions that own it. Writes through an alias are not seen.
-/
namespace BoundaryLint.NavigationState

def stateObject : String := "navigationState"

/-- The functions that may write. -/
def accessors : List String := ["navigate", "setNavigationState", "updateNavigationState"]

/-- What stands under any subscripts of an expression. -/
def underSubscripts (n : Node) : Option Node :=
  let cur := n.unwrapped
  have _ : sizeOf cur ≤ sizeOf n := n.sizeOf_unwrapped_le
  if cur.kind == "subscript_expression" then
    match h : cur.child? "object" with
    | some o =>
      have : sizeOf o < sizeOf cur := Node.sizeOf_lt_of_child? h
      underSubscripts o
    | none => none
  else some cur
termination_by sizeOf n

/-- Whether a written expression is the state object or is reached from it. -/
def targetsState (s : Source) (target : Node) : Bool :=
  let cur := target.unwrapped
  if Kind.isIdentifier cur.kind then s.text cur == stateObject
  else ((underSubscripts cur).bind s.chain?).any (·.contains stateObject)

/-- The expression that a node writes to. -/
def target? (n : Node) : Option Node :=
  if n.kind == "update_expression" then n.child? "argument"
  else if n.kind == "unary_expression" then
    if (n.child? "operator").any (·.kind == "delete") then n.child? "argument" else none
  else n.child? "left"

def flags (s : Source) (t : Site) : Bool :=
  (target? t.node).any (targetsState s) &&
    !(s.enclosingFunction? t.ancestors).any accessors.contains

def rule : NodeRule where
  id := "no-direct-navigation-state"
  name := "NoDirectNavigationState"
  description := "Mutate navigation state only through navigate()."
  message :=
    "Do not mutate navigationState directly. " ++
      "Use navigate() so routing, history and deep links stay in sync."
  kinds :=
    ["assignment_expression", "augmented_assignment_expression", "update_expression",
     "unary_expression"]
  flags := flags

end BoundaryLint.NavigationState
