import BoundaryLint.Proofs.GlobPatterns
import BoundaryLint.Proofs.StableSort
import BoundaryLint.Scope.Resolver
import Mathlib.Data.List.FinRange

/-!
# Which entries are in force

The resolver takes entries one at a time and forgets earlier ones whenever a rule is switched off.
Seen from the end this is a condition on each entry alone: it is in force if it is not off and no
later entry switches its rule off. Blocks that do not apply therefore leave no trace, and a block
that switches nothing off can only add entries.
-/
namespace BoundaryLint

def GlobSet.nothing : GlobSet := { patterns := [], globs := [], directories := [] }

namespace Resolver

/-- The pairs of the blocks that apply, in block order and then rule order. -/
def pairs (blocks : List Block) : List (Block × Entry) :=
  blocks.flatMap fun b => b.rules.map fun e => (b, e)

def switchesOff (id : String) (p : Block × Entry) : Bool :=
  p.2.severity == .off && p.2.ruleId == id

/-- Whether an entry stands when `later` comes after it. -/
def stands (p : Block × Entry) (later : List (Block × Entry)) : Bool :=
  p.2.severity != .off && !later.any (switchesOff p.2.ruleId)

/-- The entries that stand, each judged by what comes after it. -/
def standing : List (Block × Entry) → List (Block × Entry)
  | [] => []
  | p :: later => if stands p later then p :: standing later else standing later

/-- The entry at a position is not off, and its rule is not switched off at a later position. -/
def InForce (l : List (Block × Entry)) (i : Fin l.length) : Prop :=
  (l.get i).2.severity ≠ .off ∧
    ∀ j, i < j → (l.get j).2.severity = .off → (l.get j).2.ruleId ≠ (l.get i).2.ruleId

instance (l : List (Block × Entry)) (i : Fin l.length) : Decidable (InForce l i) := by
  unfold InForce
  infer_instance

/-- What the resolver has kept loses the rules that are switched off later, and the entries to come
are judged among themselves. -/
theorem foldl_applyEntry (acc l : List (Block × Entry)) :
    l.foldl applyEntry acc =
      acc.filter (fun p => !l.any (switchesOff p.2.ruleId)) ++ standing l := by
  induction l generalizing acc with
  | nil => simp [standing]
  | cons q l ih =>
      rw [List.foldl_cons, ih]
      by_cases hq : q.2.severity = .off
      · -- an entry that is off leaves nothing of its own
        have hstand : stands q l = false := by simp [stands, hq]
        simp only [applyEntry, hq, beq_self_eq_true, if_true, List.filter_filter, standing, hstand,
          Bool.false_eq_true, if_false]
        congr 1
        apply List.filter_congr
        intro p _
        rw [List.any_cons, Bool.not_or, Bool.and_comm]
        congr 1
        simp [switchesOff, hq, Bool.beq_comm, bne]
      · have hoff : ∀ id, switchesOff id q = false := by simp [switchesOff, hq]
        have happly : applyEntry acc q = acc ++ [q] := by simp [applyEntry, hq]
        have hstand : stands q l = !l.any (switchesOff q.2.ruleId) := by simp [stands, hq]
        simp only [happly, List.filter_append, List.any_cons, hoff, Bool.false_or,
          List.append_assoc, standing, hstand]
        congr 1
        by_cases hl : l.any (switchesOff q.2.ruleId) = true <;> simp [hl]

theorem active_eq_standing (r : Resolver) (path : String) :
    r.active path = standing (pairs (r.resolve path)) := by
  unfold active
  rw [foldl_applyEntry]
  rfl

theorem inForce_zero (p : Block × Entry) (l : List (Block × Entry)) :
    InForce (p :: l) (0 : Fin (l.length + 1)) ↔ stands p l = true := by
  have hlater : (∀ j : Fin (l.length + 1), 0 < j → ((p :: l).get j).2.severity = .off →
      ((p :: l).get j).2.ruleId ≠ p.2.ruleId) ↔
        ∀ q ∈ l, q.2.severity = .off → q.2.ruleId ≠ p.2.ruleId := by
    rw [Fin.forall_fin_succ, List.forall_mem_iff_get]
    simp
  have hboth : InForce (p :: l) (0 : Fin (l.length + 1)) ↔
      p.2.severity ≠ .off ∧ ∀ q ∈ l, q.2.severity = .off → q.2.ruleId ≠ p.2.ruleId :=
    and_congr Iff.rfl hlater
  rw [hboth]
  simp [stands, switchesOff]

theorem inForce_succ (p : Block × Entry) (l : List (Block × Entry)) (i : Fin l.length) :
    InForce (p :: l) i.succ ↔ InForce l i := by
  have hlater : (∀ j : Fin (l.length + 1), i.succ < j → ((p :: l).get j).2.severity = .off →
      ((p :: l).get j).2.ruleId ≠ (l.get i).2.ruleId) ↔
        ∀ j, i < j → (l.get j).2.severity = .off → (l.get j).2.ruleId ≠ (l.get i).2.ruleId := by
    rw [Fin.forall_fin_succ]
    simp
  exact and_congr Iff.rfl hlater

/-- Judging from the end and judging by position come to the same. -/
theorem standing_eq_inForce (l : List (Block × Entry)) :
    standing l = ((List.finRange l.length).filter (InForce l ·)).map l.get := by
  induction l with
  | nil => rfl
  | cons p l ih =>
      change _ = ((List.finRange (l.length + 1)).filter (InForce (p :: l) ·)).map (p :: l).get
      rw [List.finRange_succ, List.filter_cons, List.filter_map]
      simp only [inForce_zero, inForce_succ, Function.comp_def, standing, ih]
      by_cases hp : stands p l = true <;> simp [hp]

theorem standing_sublist (l : List (Block × Entry)) : (standing l).Sublist l := by
  induction l with
  | nil => exact List.Sublist.refl _
  | cons p l ih =>
      unfold standing
      split
      · exact ih.cons_cons p
      · exact ih.cons p

theorem severity_ne_off_of_mem_standing {l : List (Block × Entry)} {p : Block × Entry}
    (h : p ∈ standing l) : p.2.severity ≠ .off := by
  induction l with
  | nil => simp [standing] at h
  | cons q l ih =>
      unfold standing at h
      split at h
      · rename_i hq
        rcases List.mem_cons.mp h with rfl | h
        · have hq' := (Bool.and_eq_true_iff.mp hq).1
          simpa using hq'
        · exact ih h
      · exact ih h

theorem of_mem_active {r : Resolver} {path : String} {b : Block} {e : Entry}
    (h : (b, e) ∈ r.active path) :
    b ∈ r.blocks ∧ b.appliesTo path = true ∧ e ∈ b.rules ∧ e.severity ≠ .off := by
  rw [active_eq_standing] at h
  have hoff := severity_ne_off_of_mem_standing h
  obtain ⟨c, hc, he⟩ := List.mem_flatMap.mp ((standing_sublist _).subset h)
  obtain ⟨e', he', heq⟩ := List.mem_map.mp he
  obtain ⟨rfl, rfl⟩ := Prod.mk.inj heq
  unfold resolve at hc
  split at hc
  · cases hc
  · exact ⟨(List.mem_filter.mp hc).1, (List.mem_filter.mp hc).2, he', hoff⟩

/-! ### One block more or less -/

theorem standing_append (l m : List (Block × Entry)) :
    standing (l ++ m) =
      (standing l).filter (fun p => !m.any (switchesOff p.2.ruleId)) ++ standing m := by
  have hfold : ∀ k, k.foldl applyEntry [] = standing k := by
    intro k
    rw [foldl_applyEntry]
    rfl
  rw [← hfold, List.foldl_append, hfold, foldl_applyEntry]

theorem standing_insert_sublist (l h m : List (Block × Entry))
    (hh : ∀ q ∈ h, q.2.severity ≠ .off) :
    (standing (l ++ m)).Sublist (standing (l ++ (h ++ m))) := by
  have hany : ∀ id, (h ++ m).any (switchesOff id) = m.any (switchesOff id) := by
    intro id
    have hnone : h.any (switchesOff id) = false := by
      rw [List.any_eq_false]
      intro q hq
      simp [switchesOff, hh q hq]
    rw [List.any_append, hnone, Bool.false_or]
  rw [standing_append l m, standing_append l (h ++ m)]
  simp only [hany]
  apply List.Sublist.append_left
  rw [standing_append h m]
  exact List.sublist_append_right _ _

def applying (ignores : GlobSet) (path : String) (sorted : List Block) : List Block :=
  if ignores.accepts path then []
  else sorted.filter fun b => b.files.accepts path && !b.ignores.accepts path

theorem blocks_stablySorted (blocks : List Block) (ignores : GlobSet) :
    StablySorted Block.index blocks (ofBlocks blocks ignores).blocks :=
  mergeSort_stablySorted Block.index _ (fun _ _ => rfl) blocks

theorem resolve_insert (front back : List Block) (b : Block) (ignores : GlobSet) (path : String) :
    ∃ l₁ l₂, (ofBlocks (front ++ back) ignores).resolve path = l₁ ++ l₂ ∧
      (ofBlocks (front ++ b :: back) ignores).resolve path =
        if b.appliesTo path && !ignores.accepts path then l₁ ++ b :: l₂ else l₁ ++ l₂ := by
  obtain ⟨l₁, l₂, h, h'⟩ := (blocks_stablySorted (front ++ back) ignores).insert
    (blocks_stablySorted (front ++ b :: back) ignores)
  by_cases hi : ignores.accepts path = true
  · refine ⟨[], [], ?_, ?_⟩
    · simp [resolve, isIgnored, ofBlocks, hi]
    · simp [resolve, isIgnored, ofBlocks, hi]
  · refine ⟨l₁.filter (·.appliesTo path), l₂.filter (·.appliesTo path), ?_, ?_⟩
    · rw [resolve, h, List.filter_append]
      simp [isIgnored, ofBlocks, hi]
    · rw [resolve, h', List.filter_append, List.filter_cons]
      by_cases hb : b.appliesTo path = true <;> simp [isIgnored, ofBlocks, hi, hb]

theorem active_insert_of_not_applies (front back : List Block) (b : Block) (ignores : GlobSet)
    (path : String) (hb : b.appliesTo path = false) :
    (ofBlocks (front ++ b :: back) ignores).active path =
      (ofBlocks (front ++ back) ignores).active path := by
  obtain ⟨l₁, l₂, h, h'⟩ := resolve_insert front back b ignores path
  simp only [hb, Bool.false_and, Bool.false_eq_true, if_false] at h'
  rw [active_eq_standing, active_eq_standing, h, h']

theorem active_sublist_insert (front back : List Block) (b : Block) (ignores : GlobSet)
    (path : String) (hoff : ∀ e ∈ b.rules, e.severity ≠ .off) :
    ((ofBlocks (front ++ back) ignores).active path).Sublist
      ((ofBlocks (front ++ b :: back) ignores).active path) := by
  obtain ⟨l₁, l₂, h, h'⟩ := resolve_insert front back b ignores path
  rw [active_eq_standing, active_eq_standing, h, h']
  split
  · rw [show pairs (l₁ ++ l₂) = pairs l₁ ++ pairs l₂ by simp [pairs],
      show pairs (l₁ ++ b :: l₂) = pairs l₁ ++ (b.rules.map (fun e => (b, e)) ++ pairs l₂) by
        simp [pairs]]
    apply standing_insert_sublist
    intro q hq
    obtain ⟨e, he, rfl⟩ := List.mem_map.mp hq
    exact hoff e he
  · exact List.Sublist.refl _

/-- The entries in force for a path are those pairs of the applying blocks, in order, that are not
off and whose rule no later pair switches off. A block that does not apply changes nothing, and one
that applies and switches nothing off takes nothing away. -/
theorem active_eq_entries_in_force (blocks : List Block) (ignores : GlobSet) (path : String) :
    (∃ sorted, StablySorted Block.index blocks sorted ∧
      let l := pairs (applying ignores path sorted)
      (ofBlocks blocks ignores).active path =
        ((List.finRange l.length).filter (InForce l ·)).map l.get) ∧
    ∀ front back b, blocks = front ++ back →
      (b.appliesTo path = false →
        (ofBlocks (front ++ b :: back) ignores).active path =
          (ofBlocks blocks ignores).active path) ∧
      (b.appliesTo path = true → (∀ e ∈ b.rules, e.severity ≠ .off) →
        ((ofBlocks blocks ignores).active path).Sublist
          ((ofBlocks (front ++ b :: back) ignores).active path)) := by
  refine ⟨⟨_, blocks_stablySorted blocks ignores, ?_⟩, ?_⟩
  · rw [active_eq_standing]
    exact standing_eq_inForce _
  · rintro front back b rfl
    exact ⟨active_insert_of_not_applies front back b ignores path,
      fun _ => active_sublist_insert front back b ignores path⟩

def everything : GlobSet :=
  { patterns := ["**"], globs := [⟨"**", (Glob.Expr.cat .rest .nil).pattern⟩], directories := [] }

def singleRule (index : Int) (ruleId : String) (severity : Severity) : Block :=
  { index, name := ruleId, files := everything, ignores := .nothing,
    rules := [{ ruleId, severity }] }

/-- A rule that is switched off stays off when a block for another rule comes between. -/
theorem active_eq_entries_in_force_between :
    let front := [singleRule 0 "no-localstorage" .warn]
    let back := [singleRule 2 "no-localstorage" .off, singleRule 3 "no-direct-file-open" .error]
    let b := singleRule 1 "no-direct-file-open" .warn
    b.appliesTo "src/a.ts" = true ∧ (∀ e ∈ b.rules, e.severity ≠ .off) ∧
      ((ofBlocks (front ++ back) .nothing).active "src/a.ts").Sublist
        ((ofBlocks (front ++ b :: back) .nothing).active "src/a.ts") :=
  ⟨by decide, by decide,
    ((active_eq_entries_in_force _ .nothing "src/a.ts").2 _ _ _ rfl).2 (by decide) (by decide)⟩

end Resolver

end BoundaryLint
