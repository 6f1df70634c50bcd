import Mathlib.Data.List.Sort
import Mathlib.Data.List.Nodup
import Mathlib.Data.Prod.Lex
import Mathlib.Data.String.Basic

/-!
# Stable sorting

Blocks are put in the order of their indices, diagnostics in the order of reports and places in the
order of their texts. All of these are one operation: elements are ordered by a key, and elements
with equal keys keep their order. These two facts determine the result, so everything else about
sorting is derived from them and not from the algorithm.
-/
namespace BoundaryLint

section
variable {α κ : Type*} [LinearOrder κ]

/-- `after` holds the elements of `before` in the order of their keys; ties keep their order. -/
structure StablySorted (key : α → κ) (before after : List α) : Prop where
  perm : after.Perm before
  ordered : after.Pairwise fun a b => key a ≤ key b
  ties : ∀ k, after.filter (key · = k) = before.filter (key · = k)

/-- Lists in order are equal if they agree on every key. -/
theorem eq_of_ordered_of_ties {key : α → κ} {l m : List α}
    (hl : l.Pairwise fun a b => key a ≤ key b) (hm : m.Pairwise fun a b => key a ≤ key b)
    (h : ∀ k, l.filter (key · = k) = m.filter (key · = k)) : l = m := by
  induction l generalizing m with
  | nil =>
      cases m with
      | nil => rfl
      | cons b m => simpa using h (key b)
  | cons a l ih =>
      cases m with
      | nil => simpa using h (key a)
      | cons b m =>
          have hba : b ∈ (a :: l).filter (key · = key b) := by rw [h]; simp
          have hab : a ∈ (b :: m).filter (key · = key a) := by rw [← h]; simp
          -- each head has a least key of the other list, so the heads tie and are the same element
          have hkey : key a = key b := by
            apply le_antisymm
            · rcases List.mem_cons.mp (List.mem_filter.mp hba).1 with he | hb
              · exact (congrArg key he).ge
              · exact List.rel_of_pairwise_cons hl hb
            · rcases List.mem_cons.mp (List.mem_filter.mp hab).1 with he | ha
              · exact (congrArg key he).ge
              · exact List.rel_of_pairwise_cons hm ha
          have hhead : a = b := by
            have hk := h (key a)
            simp only [List.filter_cons, hkey, decide_true, if_true, List.cons.injEq] at hk
            exact hk.1
          subst hhead
          congr 1
          apply ih hl.of_cons hm.of_cons
          intro k
          have hk := h k
          by_cases hak : key a = k
          · simpa [List.filter_cons, hak] using hk
          · simpa [List.filter_cons, hak] using hk

namespace StablySorted
variable {key : α → κ} {l l' m m' : List α}

theorem unique (h : StablySorted key l m) (h' : StablySorted key l m') : m = m' :=
  eq_of_ordered_of_ties h.ordered h'.ordered fun k => (h.ties k).trans (h'.ties k).symm

theorem filter (h : StablySorted key l m) (p : α → Bool) :
    StablySorted key (l.filter p) (m.filter p) where
  perm := h.perm.filter p
  ordered := h.ordered.filter p
  ties k := by
    rw [List.filter_comm, h.ties k, List.filter_comm]

/-- A key cuts a list in order into what is below it, what is at it and what is above it. -/
theorem eq_cut (k : κ) (h : m.Pairwise fun a b => key a ≤ key b) :
    m = m.filter (key · < k) ++ (m.filter (key · = k) ++ m.filter (k < key ·)) := by
  induction m with
  | nil => rfl
  | cons a m ih =>
      have hrest : ∀ b ∈ m, key a ≤ key b := fun b hb => List.rel_of_pairwise_cons h hb
      have hbelow : k ≤ key a → m.filter (key · < k) = [] := by
        intro hk
        apply List.filter_eq_nil_iff.mpr
        intro b hb
        simpa using hk.trans (hrest b hb)
      rcases lt_trichotomy (key a) k with hk | hk | hk
      · simpa [List.filter_cons, hk, hk.ne, hk.le] using ih h.of_cons
      · have hcut := ih h.of_cons
        rw [hbelow hk.ge, List.nil_append] at hcut
        simpa [List.filter_cons, hk, hbelow hk.ge] using hcut
      · have hat : m.filter (key · = k) = [] := by
          apply List.filter_eq_nil_iff.mpr
          intro b hb
          simpa using (hk.trans_le (hrest b hb)).ne'
        have hcut := ih h.of_cons
        rw [hbelow hk.le, hat, List.nil_append, List.nil_append] at hcut
        simpa [List.filter_cons, hk, hk.ne', hk.le, hbelow hk.le, hat] using hcut

theorem insert {front back : List α} {b : α} (h : StablySorted key (front ++ back) m)
    (h' : StablySorted key (front ++ b :: back) m') :
    ∃ l₁ l₂, m = l₁ ++ l₂ ∧ m' = l₁ ++ b :: l₂ := by
  have hbelow : m'.filter (key · < key b) = m.filter (key · < key b) := by
    have hb := h'.filter (key · < key b)
    rw [show (front ++ b :: back).filter (key · < key b) = (front ++ back).filter (key · < key b) by
      simp] at hb
    exact hb.unique (h.filter _)
  have habove : m'.filter (key b < key ·) = m.filter (key b < key ·) := by
    have hb := h'.filter (key b < key ·)
    rw [show (front ++ b :: back).filter (key b < key ·) = (front ++ back).filter (key b < key ·) by
      simp] at hb
    exact hb.unique (h.filter _)
  refine ⟨m.filter (key · < key b) ++ front.filter (key · = key b),
    back.filter (key · = key b) ++ m.filter (key b < key ·), ?_, ?_⟩
  · conv_lhs => rw [eq_cut (key b) h.ordered, h.ties]
    simp
  · conv_lhs => rw [eq_cut (key b) h'.ordered, hbelow, habove, h'.ties]
    simp

end StablySorted

/-- Merge sort under a comparison of keys is stable. -/
theorem mergeSort_stablySorted (key : α → κ) (le : α → α → Bool)
    (hle : ∀ a b, le a b = decide (key a ≤ key b)) (l : List α) :
    StablySorted key l (l.mergeSort le) := by
  have trans : ∀ a b c, le a b → le b c → le a c := by
    intro a b c hab hbc
    rw [hle, decide_eq_true_eq] at *
    exact hab.trans hbc
  have total : ∀ a b, le a b || le b a := by
    intro a b
    simpa [hle] using le_total (key a) (key b)
  refine ⟨List.mergeSort_perm l le, ?_, ?_⟩
  · exact (List.pairwise_mergeSort trans total l).imp fun h => by simpa [hle] using h
  · intro k
    -- elements with the same key are in order already, so they stay a sublist
    have hpair : (l.filter (key · = k)).Pairwise fun a b => le a b := by
      apply List.pairwise_of_forall_mem_list
      intro a ha b hb
      have ha' : key a = k := by simpa using (List.mem_filter.mp ha).2
      have hb' : key b = k := by simpa using (List.mem_filter.mp hb).2
      simp [hle, ha', hb']
    have hsub := (List.sublist_mergeSort trans total hpair List.filter_sublist).filter (key · = k)
    rw [List.filter_filter] at hsub
    simp only [Bool.and_self] at hsub
    exact (hsub.eq_of_length ((List.mergeSort_perm l le).filter _).length_eq.symm).symm

/-- Sorting and selecting can be done in either order. -/
theorem filter_mergeSort (key : α → κ) (le : α → α → Bool)
    (hle : ∀ a b, le a b = decide (key a ≤ key b)) (l : List α) (p : α → Bool) :
    (l.mergeSort le).filter p = (l.filter p).mergeSort le :=
  ((mergeSort_stablySorted key le hle l).filter p).unique
    (mergeSort_stablySorted key le hle (l.filter p))

end

/-! ### Elements once each -/

section
variable {α : Type*} [BEq α]

/-- Induction along the removal of repetitions: the rest of a list loses the copies of its head. -/
theorem eraseDups_induction {motive : List α → Prop} (nil : motive [])
    (cons : ∀ a l, motive (l.filter fun b => !b == a) → motive (a :: l)) (l : List α) :
    motive l := by
  induction hn : l.length using Nat.strong_induction_on generalizing l with
  | _ n ih =>
      cases l with
      | nil => exact nil
      | cons a l =>
          apply cons
          apply ih _ _ _ rfl
          have hle := List.length_filter_le (fun b => !b == a) l
          simp only [List.length_cons] at hn
          omega

theorem eraseDups_sublist (l : List α) : l.eraseDups.Sublist l := by
  induction l using eraseDups_induction with
  | nil => simp
  | cons a l ih =>
      rw [List.eraseDups_cons]
      exact (ih.trans List.filter_sublist).cons_cons a

theorem nodup_eraseDups [LawfulBEq α] (l : List α) : l.eraseDups.Nodup := by
  induction l using eraseDups_induction with
  | nil => simp
  | cons a l ih =>
      rw [List.eraseDups_cons, List.nodup_cons]
      exact ⟨by simp, ih⟩

theorem filter_eraseDups [LawfulBEq α] (l : List α) (p : α → Bool) :
    l.eraseDups.filter p = (l.filter p).eraseDups := by
  induction l using eraseDups_induction with
  | nil => simp
  | cons a l ih =>
      rw [List.eraseDups_cons, List.filter_cons, List.filter_cons, ih, List.filter_comm]
      split
      · rw [List.eraseDups_cons]
      · rename_i hpa
        -- a rejected element is not among the selected ones
        congr 1
        apply List.filter_eq_self.mpr
        intro b hb
        have hpb := (List.mem_filter.mp hb).2
        simp only [Bool.not_eq_eq_eq_not, Bool.not_true, beq_eq_false_iff_ne]
        rintro rfl
        exact hpa hpb

end

end BoundaryLint
