import BoundaryLint.Tree.Rows
import BoundaryLint.Tree.Source

/-!
# Listings of trees

A parser writes the tree of a file as text. The first line says whether the file was well formed. Each
further line is a row with six columns between tabs: the kind of a node, the row of its parent or
nothing, where it starts and stops, its flags, and its field or nothing. The flags are one for a
named node plus two for a missing one.
-/
namespace BoundaryLint

/-- The row that a line writes. -/
def Row.ofLine? (line : String) : Option Row :=
  match line.splitOn "\t" with
  | [kind, parent, start, stop, flags, field] => do
    let start ← start.toNat?
    let stop ← stop.toNat?
    let flags ← flags.toNat?
    let parent ← if parent.isEmpty then some none else parent.toNat?.map some
    some
      { label :=
          { kind, named := flags % 2 == 1, missing := flags / 2 % 2 == 1, start, stop,
            field := if field.isEmpty then none else some field }
        parent }
  | _ => none

/-- The tree that a listing writes. -/
def Tree.ofListing? (text : String) : Option Tree :=
  match (text.splitOn "\n").filter fun l => !l.isEmpty with
  | [] => none
  | verdict :: lines => do
    let rows ← lines.mapM Row.ofLine?
    let root ← Row.tree? rows
    some { root, hasError := verdict != "ok" }

/-- The tree of a file without a listing, which counts as malformed. -/
def Tree.unknown : Tree :=
  { root := default, hasError := true }

end BoundaryLint
