import BoundaryLint.Tree.Node

/-!
# Trees as lists

A tree can be listed in pre-order, each row naming the row of its parent by its index. The children
of a row are, in order, the rows that name it.
-/
namespace BoundaryLint

/-- A row of the listing; the first row has no parent. -/
structure Row where
  label : Label
  parent : Option Nat
  deriving DecidableEq, Repr

namespace Row

/-- The trees of the rows at the front whose parent is `parent`. The first row has index `next`.
Also gives the rows that are left and the index of the first of them. -/
def forest : Nat → Option Nat → Nat → List Row → List Node × Nat × List Row
  | 0, _, next, rows => ([], next, rows)
  | _ + 1, _, next, [] => ([], next, [])
  | fuel + 1, parent, next, row :: rows =>
    if row.parent == parent then
      let (children, next', rows') := forest fuel (some next) (next + 1) rows
      let (siblings, next'', rows'') := forest fuel parent next' rows'
      (.mk row.label children :: siblings, next'', rows'')
    else ([], next, row :: rows)

/-- The tree that the rows list. -/
def tree? (rows : List Row) : Option Node :=
  (forest (2 * rows.length + 1) none 0 rows).1.head?

end Row

namespace Node

mutual

/-- The listing of a tree whose root has index `next` and the given parent. -/
def rowsFrom (parent : Option Nat) (next : Nat) : Node → List Row
  | .mk l cs => ⟨l, parent⟩ :: rowsFromAll next (next + 1) cs

def rowsFromAll (parent : Nat) (next : Nat) : List Node → List Row
  | [] => []
  | c :: cs =>
    let rows := rowsFrom (some parent) next c
    rows ++ rowsFromAll parent (next + rows.length) cs

end

/-- The listing of a tree. -/
def rows (n : Node) : List Row :=
  rowsFrom none 0 n

end Node

end BoundaryLint
