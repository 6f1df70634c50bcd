import BoundaryLint.Tree.Rows
import BoundaryLint.Tree.Traversal
import Mathlib.Data.List.Basic

/-!
# Traversals in pre-order

A traversal with a stack meets the nodes of a tree in pre-order. At each turn, what was yielded
together with what is below the stack is the same list. This holds for whatever has children, so it
holds as well for the rows of a listing: the children of a row are those that name it as their
parent. There the rows below a row come right after it, and a traversal counts through them.
-/
namespace BoundaryLint

/-! ### Turn after turn -/

namespace Traversal
variable {α : Type} {children order : α → List α} {inside : α → Prop} {t u : Traversal α}

/-- The stack gets empty after some turns, and then the traversal has yielded the list. -/
inductive Ends (children : α → List α) : Traversal α → List α → Prop
  | done {t : Traversal α} : t.turn? children = none → Ends children t t.yielded.toList
  | next {t u : Traversal α} {ys : List α} : t.turn? children = some u → Ends children u ys →
      Ends children t ys

theorem run_of_ends {t : Traversal Node} {ys : List Node} (h : Ends Node.children t ys) :
    t.run = ys := by
  induction h with
  | done hturn =>
      rw [run]
      split
      · rfl
      · rename_i hsome
        rw [hturn] at hsome
        cases hsome
  | next hturn _ ih =>
      rw [run]
      split
      · rename_i hnone
        rw [hturn] at hnone
        cases hnone
      · rename_i hsome
        rw [hturn] at hsome
        cases hsome
        exact ih

/-- The list of each member of a closed set begins with the member itself and goes on with the lists
of its children. -/
structure IsOrder (children order : α → List α) (inside : α → Prop) : Prop where
  closed : ∀ a, inside a → ∀ c ∈ children a, inside c
  unfold : ∀ a, inside a → order a = a :: (children a).flatMap order

/-- What a traversal comes to next and later. -/
def ahead (order : α → List α) (t : Traversal α) : List α :=
  t.stack.toList.reverse.flatMap order

theorem ahead_of_turn? (horder : IsOrder children order inside) (ht : ∀ a ∈ t.stack, inside a)
    (h : t.turn? children = some u) :
    (∀ a ∈ u.stack, inside a) ∧
      ∃ a, u.yielded = t.yielded.push a ∧ t.ahead order = a :: u.ahead order := by
  obtain ⟨rest, a, hrest, rfl⟩ := turn?_eq_some_iff.mp h
  have ha : inside a := ht a (by simp [hrest])
  constructor
  · intro c hc
    rw [← Array.mem_toList_iff, Array.toList_appendList, List.mem_append, Array.mem_toList_iff,
      List.mem_reverse] at hc
    rcases hc with hc | hc
    · exact ht c (by simp [hrest, hc])
    · exact horder.closed a ha c hc
  · refine ⟨a, rfl, ?_⟩
    simp [ahead, hrest, horder.unfold a ha]

/-- What was yielded, followed by what is ahead, stays the same, and what is ahead gets shorter. -/
theorem ends_of_isOrder (horder : IsOrder children order inside) (ht : ∀ a ∈ t.stack, inside a) :
    Ends children t (t.yielded.toList ++ t.ahead order) := by
  generalize hlength : (t.ahead order).length = k
  induction k generalizing t with
  | zero =>
      have hahead := List.length_eq_zero_iff.mp hlength
      cases hturn : t.turn? children with
      | none =>
          rw [hahead, List.append_nil]
          exact .done hturn
      | some u =>
          obtain ⟨-, a, -, hcons⟩ := ahead_of_turn? horder ht hturn
          rw [hahead] at hcons
          cases hcons
  | succ k ih =>
      cases hturn : t.turn? children with
      | none =>
          have hstack : t.stack = #[] := by
            simpa [turn?] using hturn
          simp [ahead, hstack] at hlength
      | some u =>
          obtain ⟨hu, a, hyielded, hcons⟩ := ahead_of_turn? horder ht hturn
          rw [hcons, List.length_cons] at hlength
          have hends := ih hu (by omega)
          rw [hyielded, Array.toList_push, List.append_assoc, List.singleton_append,
            ← hcons] at hends
          exact .next hturn hends

theorem ends_start (horder : IsOrder children order inside) {a : α} (ha : inside a) :
    Ends children (start a) (order a) := by
  have hends := ends_of_isOrder (t := start a) horder (by simpa [start] using ha)
  simpa [start, ahead] using hends

end Traversal

/-! ### Nodes and sites -/

namespace Node

theorem preorderAll_eq_flatMap (cs : List Node) : preorderAll cs = cs.flatMap preorder := by
  induction cs with
  | nil => rfl
  | cons c cs ih => rw [preorderAll, ih, List.flatMap_cons]

theorem isOrder_preorder : Traversal.IsOrder children preorder fun _ => True where
  closed := fun _ _ _ _ => trivial
  unfold := by
    intro n _
    cases n with
    | mk l cs => rw [preorder, preorderAll_eq_flatMap, children]

theorem ends_preorder (n : Node) : Traversal.Ends children (.start n) n.preorder :=
  Traversal.ends_start isOrder_preorder trivial

theorem visited_eq_preorder (n : Node) : n.visited = n.preorder :=
  Traversal.run_of_ends n.ends_preorder

end Node

namespace Site

def children (t : Site) : List Site :=
  t.node.children.map fun c => ⟨c, t.node :: t.ancestors⟩

theorem belowAll_eq_flatMap (ancestors cs : List Node) :
    belowAll ancestors cs = cs.flatMap (below ancestors) := by
  induction cs with
  | nil => rfl
  | cons c cs ih => rw [belowAll, ih, List.flatMap_cons]

theorem isOrder_below :
    Traversal.IsOrder children (fun t => below t.ancestors t.node) fun _ => True where
  closed := fun _ _ _ _ => trivial
  unfold := by
    intro t _
    obtain ⟨n, ancestors⟩ := t
    cases n with
    | mk l cs => rw [below, belowAll_eq_flatMap, children, List.flatMap_map, Node.children]

theorem ends_all (root : Node) : Traversal.Ends children (.start ⟨root, []⟩) (all root) :=
  Traversal.ends_start isOrder_below trivial

end Site

namespace Node

mutual

/-- The nodes from any node on are, first of all, those below it. -/
theorem exists_split_preorder {n m : Node} {i : Nat} (h : n.preorder[i]? = some m) :
    ∃ front back, n.preorder = front ++ m.preorder ++ back ∧ front.length = i := by
  cases n with
  | mk l cs =>
      cases i with
      | zero =>
          rw [preorder] at h
          cases h
          exact ⟨[], [], by simp, rfl⟩
      | succ i =>
          rw [preorder, List.getElem?_cons_succ] at h
          obtain ⟨front, back, hsplit, rfl⟩ := exists_split_preorderAll h
          exact ⟨mk l cs :: front, back, by rw [preorder, hsplit]; simp, rfl⟩

theorem exists_split_preorderAll {cs : List Node} {m : Node} {i : Nat}
    (h : (preorderAll cs)[i]? = some m) :
    ∃ front back, preorderAll cs = front ++ m.preorder ++ back ∧ front.length = i := by
  cases cs with
  | nil => simp [preorderAll] at h
  | cons c cs =>
      rw [preorderAll] at h ⊢
      by_cases hi : i < c.preorder.length
      · rw [List.getElem?_append_left hi] at h
        obtain ⟨front, back, hsplit, rfl⟩ := exists_split_preorder h
        exact ⟨front, back ++ preorderAll cs, by rw [hsplit]; simp, rfl⟩
      · rw [List.getElem?_append_right (by omega)] at h
        obtain ⟨front, back, hsplit, hlength⟩ := exists_split_preorderAll h
        refine ⟨c.preorder ++ front, back, by rw [hsplit]; simp, ?_⟩
        rw [List.length_append, hlength]
        omega

end

theorem preorder_eq_take_drop {root n : Node} {i : Nat} (h : root.preorder[i]? = some n) :
    n.preorder = (root.preorder.drop i).take n.size := by
  obtain ⟨front, back, hsplit, rfl⟩ := exists_split_preorder h
  rw [hsplit, List.append_assoc, List.drop_left, size, List.take_left]

theorem size_eq (n : Node) : n.size = (preorderAll n.children).length + 1 := by
  cases n with
  | mk l cs => rw [size, preorder, List.length_cons, children]

end Node

/-! ### Listings -/

/-- The indices of the rows that name row `i` as their parent, in order. The first row has index
`next`. -/
def Row.childrenFrom (next : Nat) (rows : List Row) (i : Nat) : List Nat :=
  ((rows.zipIdx next).filter fun e => e.1.parent == some i).map (·.2)

def Row.childrenOf (rows : List Row) (i : Nat) : List Nat :=
  childrenFrom 0 rows i

namespace Row

theorem childrenFrom_cons (next : Nat) (row : Row) (rows : List Row) (i : Nat) :
    childrenFrom next (row :: rows) i =
      (if row.parent = some i then [next] else []) ++ childrenFrom (next + 1) rows i := by
  by_cases h : row.parent = some i
  · simp [childrenFrom, h]
  · simp [childrenFrom, h]

theorem childrenFrom_append (next : Nat) (rows rows' : List Row) (i : Nat) :
    childrenFrom next (rows ++ rows') i =
      childrenFrom next rows i ++ childrenFrom (next + rows.length) rows' i := by
  simp [childrenFrom, List.zipIdx_append]

end Row

namespace Node

/-- Where the listings of trees begin that are listed one after the other. -/
def starts (next : Nat) : List Node → List Nat
  | [] => []
  | c :: cs => next :: starts (next + c.size) cs

mutual

theorem length_rowsFrom (parent : Option Nat) (next : Nat) (n : Node) :
    (rowsFrom parent next n).length = n.size := by
  cases n with
  | mk l cs => rw [rowsFrom, List.length_cons, length_rowsFromAll, size_eq, children]

theorem length_rowsFromAll (parent next : Nat) (cs : List Node) :
    (rowsFromAll parent next cs).length = (preorderAll cs).length := by
  cases cs with
  | nil => rfl
  | cons c cs =>
      rw [rowsFromAll, List.length_append, length_rowsFromAll, length_rowsFrom, preorderAll,
        List.length_append, size]

end

mutual

/-- In a listing, only the first row can name a row that is not in it. -/
theorem childrenFrom_outside {parent : Option Nat} {next i : Nat} {n : Node}
    (h : i < next ∨ next + n.size ≤ i) :
    Row.childrenFrom next (rowsFrom parent next n) i = if parent = some i then [next] else [] := by
  cases n with
  | mk l cs =>
      rw [size_eq, children] at h
      rw [rowsFrom, Row.childrenFrom_cons, childrenFromAll_outside (by omega),
        if_neg (show ¬next = i by omega), List.append_nil]

theorem childrenFromAll_outside {parent next i : Nat} {cs : List Node}
    (h : i < next ∨ next + (preorderAll cs).length ≤ i) :
    Row.childrenFrom next (rowsFromAll parent next cs) i =
      if parent = i then starts next cs else [] := by
  cases cs with
  | nil => simp [rowsFromAll, Row.childrenFrom, starts]
  | cons c cs =>
      rw [preorderAll, List.length_append, ← size] at h
      rw [rowsFromAll, Row.childrenFrom_append, childrenFrom_outside (by omega),
        length_rowsFrom, childrenFromAll_outside (by omega), starts]
      by_cases hi : parent = i
      · simp [hi]
      · simp [hi]

end

mutual

/-- The rows that name a row of a listing are those at which the listings of its children begin. -/
theorem childrenFrom_inside {parent : Option Nat} (next : Nat) {k : Nat} {n m : Node}
    (h : n.preorder[k]? = some m) (hparent : parent ≠ some (next + k)) :
    Row.childrenFrom next (rowsFrom parent next n) (next + k) =
      starts (next + k + 1) m.children := by
  cases n with
  | mk l cs =>
      rw [rowsFrom, Row.childrenFrom_cons, if_neg hparent, List.nil_append]
      cases k with
      | zero =>
          rw [preorder] at h
          cases h
          simp only [Nat.add_zero]
          rw [childrenFromAll_outside (.inl (Nat.lt_add_one next)), if_pos rfl, children]
      | succ k =>
          rw [preorder, List.getElem?_cons_succ] at h
          have hinside := childrenFromAll_inside next (next + 1) h (Nat.lt_add_one next)
          rw [show next + (k + 1) = next + 1 + k by omega]
          exact hinside

theorem childrenFromAll_inside (parent next : Nat) {k : Nat} {cs : List Node} {m : Node}
    (h : (preorderAll cs)[k]? = some m) (hparent : parent < next) :
    Row.childrenFrom next (rowsFromAll parent next cs) (next + k) =
      starts (next + k + 1) m.children := by
  cases cs with
  | nil => simp [preorderAll] at h
  | cons c cs =>
      have hother : some parent ≠ some (next + k) := by
        rw [ne_eq, Option.some.injEq]
        omega
      rw [preorderAll] at h
      rw [rowsFromAll, Row.childrenFrom_append, length_rowsFrom, size]
      by_cases hk : k < c.preorder.length
      · rw [List.getElem?_append_left hk] at h
        rw [childrenFrom_inside next h hother, childrenFromAll_outside (.inl (by omega)),
          if_neg (by omega), List.append_nil]
      · rw [List.getElem?_append_right (by omega)] at h
        have hinside := childrenFromAll_inside parent (next + c.preorder.length) h (by omega)
        rw [show next + c.preorder.length + (k - c.preorder.length) = next + k by omega] at hinside
        rw [childrenFrom_outside (.inr (by rw [size]; omega)), if_neg hother, List.nil_append,
          hinside]

end

theorem childrenOf_rows {root n : Node} {i : Nat} (h : root.preorder[i]? = some n) :
    Row.childrenOf root.rows i = starts (i + 1) n.children := by
  have hinside := childrenFrom_inside 0 h (Option.some_ne_none (0 + i)).symm
  rw [Nat.zero_add] at hinside
  exact hinside

/-! ### Rows in a row -/

/-- The indices of the rows of a node and of all below it. -/
def block (root : Node) (i : Nat) : List Nat :=
  List.range' i ((root.preorder[i]?.map size).getD 0)

theorem block_eq {root n : Node} {i : Nat} (h : root.preorder[i]? = some n) :
    root.block i = List.range' i n.size := by
  rw [block, h]
  rfl

theorem flatMap_block_starts {root : Node} {front back cs : List Node}
    (h : root.preorder = front ++ preorderAll cs ++ back) :
    (starts front.length cs).flatMap root.block =
        List.range' front.length (preorderAll cs).length ∧
      (starts front.length cs).map (root.preorder[·]?) = cs.map some := by
  induction cs generalizing front with
  | nil => simp [starts, preorderAll]
  | cons c cs ih =>
      have hc : root.preorder[front.length]? = some c := by
        rw [h]
        cases c
        simp [preorderAll, preorder]
      have hsplit : root.preorder = (front ++ c.preorder) ++ preorderAll cs ++ back := by
        rw [h, preorderAll]
        simp
      have hrest := ih hsplit
      rw [List.length_append, ← size] at hrest
      constructor
      · rw [starts, List.flatMap_cons, block_eq hc, hrest.1, preorderAll, List.length_append,
          ← size, List.range'_append_1]
      · rw [starts, List.map_cons, List.map_cons, hc, hrest.2]

theorem starts_children {root n : Node} {i : Nat} (h : root.preorder[i]? = some n) :
    (starts (i + 1) n.children).flatMap root.block =
        List.range' (i + 1) (preorderAll n.children).length ∧
      (starts (i + 1) n.children).map (root.preorder[·]?) = n.children.map some := by
  obtain ⟨front, back, hsplit, rfl⟩ := exists_split_preorder h
  have hbelow : root.preorder = (front ++ [n]) ++ preorderAll n.children ++ back := by
    cases n
    rw [hsplit, preorder, children]
    simp
  have hstarts := flatMap_block_starts hbelow
  rw [List.length_append, List.length_singleton] at hstarts
  exact hstarts

theorem isOrder_block (root : Node) :
    Traversal.IsOrder (Row.childrenOf root.rows) root.block fun i =>
      ∃ n, root.preorder[i]? = some n where
  closed := by
    intro i hi c hc
    obtain ⟨n, hn⟩ := hi
    rw [childrenOf_rows hn] at hc
    have hmem : root.preorder[c]? ∈ (starts (i + 1) n.children).map (root.preorder[·]?) :=
      List.mem_map_of_mem hc
    rw [(starts_children hn).2] at hmem
    obtain ⟨m, -, hm⟩ := List.mem_map.mp hmem
    exact ⟨m, hm.symm⟩
  unfold := by
    intro i hi
    obtain ⟨n, hn⟩ := hi
    rw [childrenOf_rows hn, (starts_children hn).1, block_eq hn, size_eq, List.range'_succ]

end Node

/-! ### Listings read back -/

namespace Row

/-- The first row, if there is one, names a row before `parent`. -/
def LeavesOff (parent : Nat) (rows : List Row) : Prop :=
  ∀ row ∈ rows.head?, ∀ q ∈ row.parent, q < parent

theorem forest_of_leavesOff {fuel parent next : Nat} {rows : List Row} (h : LeavesOff parent rows) :
    forest fuel (some parent) next rows = ([], next, rows) := by
  cases fuel with
  | zero => rw [forest]
  | succ fuel =>
      cases rows with
      | nil => rw [forest]
      | cons row rows =>
          have hother : row.parent ≠ some parent := fun heq =>
            Nat.lt_irrefl parent (h row rfl parent heq)
          rw [forest, if_neg (by simpa using hother)]

end Row

namespace Node

/-- The rows after those below a node name its parent or a row before it. -/
theorem leavesOff_rowsFromAll {parent i : Nat} {rest : List Row} (hparent : parent < i)
    (hrest : Row.LeavesOff parent rest) (next : Nat) (cs : List Node) :
    Row.LeavesOff i (rowsFromAll parent next cs ++ rest) := by
  intro row hrow q hq
  cases cs with
  | nil => exact Nat.lt_trans (hrest row hrow q hq) hparent
  | cons c cs =>
      cases c
      cases hrow
      cases hq
      exact hparent

/-- The rows of some trees are read back as these trees, and what follows them is left. -/
theorem forest_rowsFromAll {fuel parent next : Nat} {cs : List Node} {rest : List Row}
    (hfuel : (preorderAll cs).length ≤ fuel) (hparent : parent < next)
    (hrest : Row.LeavesOff parent rest) :
    Row.forest fuel (some parent) next (rowsFromAll parent next cs ++ rest) =
      (cs, next + (preorderAll cs).length, rest) := by
  induction fuel generalizing parent next cs rest with
  | zero =>
      cases cs with
      | nil => exact Row.forest_of_leavesOff hrest
      | cons c cs =>
          rw [preorderAll, List.length_append, ← size, size_eq] at hfuel
          omega
  | succ fuel ih =>
      cases cs with
      | nil => exact Row.forest_of_leavesOff hrest
      | cons c cs =>
          cases c with
          | mk l ds =>
              have hlength : (preorderAll (mk l ds :: cs)).length =
                  (preorderAll ds).length + 1 + (preorderAll cs).length := by
                rw [preorderAll, List.length_append, preorder, List.length_cons]
              -- the node takes one unit of fuel, so there is enough for its children and for the
              -- trees beside it
              have hbeside := ih (show (preorderAll cs).length ≤ fuel by omega)
                (show parent < next + 1 + (preorderAll ds).length by omega) hrest
              have hleaves := leavesOff_rowsFromAll hparent hrest
                (next + 1 + (preorderAll ds).length) cs
              have hbelow := ih (show (preorderAll ds).length ≤ fuel by omega)
                (Nat.lt_add_one next) hleaves
              have hstart : next + ((preorderAll ds).length + 1) =
                  next + 1 + (preorderAll ds).length := by omega
              rw [rowsFromAll, length_rowsFrom, size_eq, children, rowsFrom, List.append_assoc,
                List.cons_append, hstart, Row.forest, if_pos (by simp), hbelow]
              dsimp only
              rw [hbeside, hlength]
              simp only [Prod.mk.injEq, true_and, and_true]
              omega

/-- The listing of a tree is read back as the tree. -/
theorem tree?_rows (root : Node) : Row.tree? root.rows = some root := by
  cases root with
  | mk l cs =>
      have hfuel : (preorderAll cs).length ≤ 2 * (rows (mk l cs)).length := by
        rw [rows, length_rowsFrom, size_eq, children]
        omega
      have hbelow := forest_rowsFromAll hfuel Nat.zero_lt_one
        (show Row.LeavesOff 0 [] by simp [Row.LeavesOff])
      have hrows : rows (mk l cs) = ⟨l, none⟩ :: rowsFromAll 0 1 cs := by
        rw [rows, rowsFrom]
      rw [List.append_nil] at hbelow
      rw [Row.tree?]
      generalize 2 * (rows (mk l cs)).length = fuel at hbelow ⊢
      rw [hrows, Row.forest, if_pos (by simp), hbelow]
      cases fuel <;> rfl

/-- A traversal ends with the nodes in pre-order, and with the list that rules go over if it carries
the ancestors along. In the listing of a tree, which is read back as this tree, the rows that name a
row are its children in order, and a traversal that begins at a row yields this row and the rows
after it, as many as there are nodes below. -/
theorem traversal_in_preorder (root : Node) :
    Traversal.Ends children (.start root) root.preorder ∧ root.visited = root.preorder ∧
      Traversal.Ends Site.children (.start ⟨root, []⟩) (Site.all root) ∧
      Row.tree? root.rows = some root ∧
      ∀ i n, root.preorder[i]? = some n →
        n.visited = (root.preorder.drop i).take n.size ∧
          (Row.childrenOf root.rows i).map (root.preorder[·]?) = n.children.map some ∧
          Traversal.Ends (Row.childrenOf root.rows) (.start i) (List.range' i n.size) := by
  refine ⟨root.ends_preorder, root.visited_eq_preorder, Site.ends_all root, root.tree?_rows, ?_⟩
  intro i n hn
  refine ⟨?_, ?_, ?_⟩
  · rw [visited_eq_preorder, preorder_eq_take_drop hn]
  · rw [childrenOf_rows hn, (starts_children hn).2]
  · rw [← block_eq hn]
    exact Traversal.ends_start root.isOrder_block ⟨n, hn⟩

def shortCall : Node :=
  .mk { kind := "call_expression" }
    [.mk { kind := "identifier" } [], .mk { kind := "arguments" } []]

def shortScript : Node :=
  .mk { kind := "program" } [shortCall, .mk { kind := "comment" } []]

/-- The call has row 1, and the traversal that begins there stops before the comment in row 4. -/
theorem traversal_in_preorder_shortCall :
    shortScript.preorder[1]? = some shortCall ∧ shortCall.size = 3 ∧
      shortCall.visited = (shortScript.preorder.drop 1).take 3 ∧
      (Row.childrenOf shortScript.rows 1).map (shortScript.preorder[·]?) =
        shortCall.children.map some ∧
      Traversal.Ends (Row.childrenOf shortScript.rows) (.start 1) [1, 2, 3] := by
  have hcall : shortScript.preorder[1]? = some shortCall := rfl
  obtain ⟨-, -, -, -, hrows⟩ := shortScript.traversal_in_preorder
  exact ⟨hcall, rfl, hrows 1 shortCall hcall⟩

end Node

end BoundaryLint
