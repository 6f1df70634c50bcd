import BoundaryLint.Proofs.NodeNumbers
import Std.Data.HashSet.Lemmas

/-!
# Documents that are refused out of turn

A document without a value is refused because it is not well formed or has a key twice. Some
documents are refused for other reasons, and such a refusal is raised past those who report the
first two. The nodes that can be its reason are told here apart from the order of the check: a
document that has none of them is accepted or refused in turn.
-/
namespace BoundaryLint.Yaml

def Tag.isCollection : Tag → Bool
  | .list => true
  | .entries => true
  | .set => true
  | .map => true
  | _ => false

namespace Document

/-- The nodes of a document. -/
inductive Holds (d : Document) : Node → Prop
  | root : Holds d d.root
  | target {n : Node} : Holds d n → Holds d (d.target n)
  | item {m : Mark} {items : List Node} {n : Node} : Holds d (.list m items) → n ∈ items → Holds d n
  | key {m : Mark} {entries : List (Node × Node)} {e : Node × Node} :
      Holds d (.map m entries) → e ∈ entries → Holds d e.1
  | value {m : Mark} {entries : List (Node × Node)} {e : Node × Node} :
      Holds d (.map m entries) → e ∈ entries → Holds d e.2

/-- A node stands inside of the mappings with the numbers `around`, each within the next and no two
the same. -/
inductive Inside (d : Document) : List Nat → Node → Prop
  | held {n : Node} : d.Holds n → Inside d [] n
  | key {around : List Nat} {m : Mark} {entries : List (Node × Node)} {e : Node × Node} :
      Inside d around (.map m entries) → m.tag = .map → m.id ∉ around → e ∈ entries →
      Inside d (m.id :: around) (d.target e.1)
  | value {around : List Nat} {m : Mark} {entries : List (Node × Node)} {e : Node × Node} :
      Inside d around (.map m entries) → m.tag = .map → m.id ∉ around → e ∈ entries →
      Inside d (m.id :: around) (d.target e.2)

section
variable {d : Document} {n : Node} {around : List Nat}

theorem target_eq_or_mem (d : Document) (n : Node) :
    d.target n = n ∨ ∃ a ∈ d.anchored, d.target n = a.2 := by
  cases n with
  | cycle id line =>
      cases hfound : d.anchored.find? fun a => a.1 == id with
      | none =>
          refine .inl ?_
          simp only [target, hfound, Option.map_none, Option.getD_none]
      | some a =>
          refine .inr ⟨a, List.mem_of_find?_eq_some hfound, ?_⟩
          simp only [target, hfound, Option.map_some, Option.getD_some]
  | _ => exact .inl rfl

theorem Holds.numbered (hd : d.Numbered) (h : d.Holds n) : n.Numbered d.size := by
  induction h with
  | root => exact hd.root
  | @target n _ ih =>
      rcases target_eq_or_mem d n with hself | ⟨a, ha, htarget⟩
      · rw [hself]
        exact ih
      · rw [htarget]
        exact hd.anchored a ha
  | item _ hn ih =>
      cases ih with
      | list _ hitems => exact hitems _ hn
  | key _ he ih =>
      cases ih with
      | map _ hkeys _ => exact hkeys _ he
  | value _ he ih =>
      cases ih with
      | map _ _ hvalues => exact hvalues _ he

theorem Inside.holds (h : d.Inside around n) : d.Holds n := by
  induction h with
  | held hn => exact hn
  | key _ _ _ he ih => exact (ih.key he).target
  | value _ _ _ he ih => exact (ih.value he).target

theorem Inside.nodup (h : d.Inside around n) : around.Nodup := by
  induction h with
  | held _ => exact List.nodup_nil
  | key _ _ hm _ ih => exact List.nodup_cons.mpr ⟨hm, ih⟩
  | value _ _ hm _ ih => exact List.nodup_cons.mpr ⟨hm, ih⟩

theorem Inside.le_size (hd : d.Numbered) (h : d.Inside around n) : ∀ i ∈ around, i ≤ d.size := by
  induction h with
  | held _ => exact List.forall_mem_nil _
  | key hmap _ _ _ ih => exact List.forall_mem_cons.mpr ⟨(hmap.holds.numbered hd).id_le, ih⟩
  | value hmap _ _ _ ih => exact List.forall_mem_cons.mpr ⟨(hmap.holds.numbered hd).id_le, ih⟩

/-- A search through a document has steps left while the collections it has met are distinct. -/
theorem length_add_two_lt_reach {ids : List Nat} (hnodup : ids.Nodup)
    (hle : ∀ i ∈ ids, i ≤ d.size) : ids.length + 2 < d.reach := by
  have hlength := length_le_of_nodup hnodup hle
  have hsquare : 2 * (d.size + 2) ≤ (d.size + 2) * (d.size + 2) :=
    Nat.mul_le_mul_right _ (Nat.le_add_left 2 d.size)
  unfold reach
  omega

theorem keyOf_of_leaf (h : (d.tagOf n).isCollection = false) :
    d.keyOf n = (d.leafValue n).map fun value => { value, object := d.objectOf n } := by
  unfold keyOf
  cases htag : d.tagOf n <;> simp_all [Tag.isCollection]

/-- What a check may do to its progress: what is done stays done, and what it leaves for later are
nodes of the document that were not done before and are now. -/
structure Advances (d : Document) (p q : Progress) : Prop where
  done : ∀ i, p.done.contains i = true → q.done.contains i = true
  later : ∀ n ∈ q.later, n ∈ p.later ∨
    d.Holds n ∧ p.done.contains n.mark.id = false ∧ q.done.contains n.mark.id = true

theorem Advances.refl (d : Document) (p : Progress) : d.Advances p p :=
  ⟨fun _ hi => hi, fun _ hn => .inl hn⟩

theorem Advances.trans {p q r : Progress} (hpq : d.Advances p q) (hqr : d.Advances q r) :
    d.Advances p r := by
  refine ⟨fun i hi => hqr.done i (hpq.done i hi), fun n hn => ?_⟩
  cases hqr.later n hn with
  | inl hq =>
      cases hpq.later n hq with
      | inl hp => exact .inl hp
      | inr h => exact .inr ⟨h.1, h.2.1, hqr.done _ h.2.2⟩
  | inr h =>
      refine .inr ⟨h.1, ?_, h.2.2⟩
      cases hp : p.done.contains n.mark.id with
      | false => rfl
      | true => rw [hpq.done _ hp] at h; exact absurd h.2.1 (by simp)

theorem advances_finish (d : Document) (p : Progress) (m : Mark) : d.Advances p (p.finish m) := by
  refine ⟨fun i hi => ?_, fun n hn => .inl hn⟩
  simp [Progress.finish, Std.HashSet.contains_insert, hi]

theorem advances_postpone {p : Progress} (hn : d.Holds n) (hp : p.done.contains n.mark.id = false) :
    d.Advances p (p.postpone n) := by
  refine ⟨fun i hi => ?_, fun k hk => ?_⟩
  · simp [Progress.postpone, Progress.finish, Std.HashSet.contains_insert, hi]
  · cases List.mem_cons.mp hk with
    | inl h =>
        subst h
        refine .inr ⟨hn, hp, ?_⟩
        simp [Progress.postpone, Progress.finish]
    | inr h => exact .inl h

/-- What every round of a check keeps holds at its end. A round leaves collections for later that
were not done before, so there are no more rounds than collections. -/
theorem meets_rounds (hd : d.Numbered) {I : Progress → Prop} {P : Prop} {E : Error → Prop}
    (hround : ∀ p, I p → Meets (p.later.reverse.foldlM d.checkContent { p with later := [] })
      (fun q => d.Advances { p with later := [] } q ∧ I q) E)
    (hend : ∀ p, I p → p.later = [] → P) (fuel : Nat) (ids : List Nat) {p : Progress}
    (hnodup : ids.Nodup) (hle : ∀ i ∈ ids, i ≤ d.size)
    (hdone : ∀ i ∈ ids, p.done.contains i = true) (hp : I p)
    (hfuel : d.reach ≤ ids.length + fuel) : Meets (d.checkLater fuel p) (fun _ => P) E := by
  induction fuel generalizing ids p with
  | zero =>
      have hlength := length_add_two_lt_reach hnodup hle
      omega
  | succ fuel ih =>
      rw [checkLater]
      split
      · exact hend p hp ‹_›
      · refine Meets.bind (hround p hp) fun q hq => ?_
        obtain ⟨hadvances, hq⟩ := hq
        have hkept : ∀ i ∈ ids, q.done.contains i = true :=
          fun i hi => hadvances.done i (hdone i hi)
        cases hlater : q.later with
        | nil =>
            have hlength := length_add_two_lt_reach hnodup hle
            obtain ⟨left, rfl⟩ : ∃ left, fuel = left + 1 :=
              Nat.exists_eq_succ_of_ne_zero (by omega)
            rw [checkLater, hlater]
            exact hend q hq hlater
        | cons n rest =>
            have hmem : n ∈ q.later := by
              rw [hlater]
              exact List.mem_cons_self
            obtain ⟨hn, hbefore, hafter⟩ :=
              (hadvances.later n hmem).resolve_left List.not_mem_nil
            have hfresh : n.mark.id ∉ ids := by
              intro hi
              rw [hdone _ hi] at hbefore
              cases hbefore
            refine ih (n.mark.id :: ids) (List.nodup_cons.mpr ⟨hfresh, hnodup⟩) ?_ ?_ hq ?_
            · exact List.forall_mem_cons.mpr ⟨(hn.numbered hd).id_le, hle⟩
            · exact List.forall_mem_cons.mpr ⟨hafter, hkept⟩
            · rw [List.length_cons]
              omega

end

end Document

end BoundaryLint.Yaml
