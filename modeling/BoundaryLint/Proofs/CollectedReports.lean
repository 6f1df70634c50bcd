import BoundaryLint.Diagnostic.Collected
import BoundaryLint.Proofs.StableSort

/-!
# Collected reports

The order of reports is the lexicographic order of file, line, column and rule, so the final sort is
a stable sort by that key. Files that are handed in once each and in ascending order stay in that
order, and all that is collected is their lists one after the other.
-/
namespace BoundaryLint

namespace Diagnostic

/-- What the order of reports looks at. -/
def key (d : Diagnostic) : String ×ₗ Int ×ₗ Int ×ₗ String :=
  toLex (d.file, toLex (d.line, toLex (d.column, d.ruleId)))

theorem le_eq_decide_key (a b : Diagnostic) : le a b = decide (a.key ≤ b.key) := by
  unfold le key
  rw [Bool.eq_iff_iff, decide_eq_true_eq, Prod.Lex.toLex_le_toLex, Prod.Lex.toLex_le_toLex,
    Prod.Lex.toLex_le_toLex]
  by_cases hf : a.file = b.file
  · by_cases hl : a.line = b.line
    · by_cases hc : a.column = b.column
      · simp only [hf, hl, hc, bne_self_eq_false, Bool.false_eq_true, if_false, lt_irrefl,
          true_and, false_or, Bool.not_eq_true', decide_eq_false_iff_not, not_lt]
      · simp only [hf, hl, bne_self_eq_false, Bool.false_eq_true, if_false, bne_iff_ne, ne_eq, hc,
          not_false_eq_true, if_true, decide_eq_true_eq, lt_irrefl, true_and, false_or, false_and,
          or_false]
    · simp only [hf, bne_self_eq_false, Bool.false_eq_true, if_false, bne_iff_ne, ne_eq, hl,
        not_false_eq_true, if_true, decide_eq_true_eq, lt_irrefl, true_and, false_or, false_and,
        or_false]
  · simp only [bne_iff_ne, ne_eq, hf, not_false_eq_true, if_true, decide_eq_true_eq, false_and,
      or_false]

theorem sort_stablySorted (ds : List Diagnostic) : StablySorted key ds (sort ds) :=
  mergeSort_stablySorted key le le_eq_decide_key ds

theorem filter_sort (ds : List Diagnostic) (p : Diagnostic → Bool) :
    (sort ds).filter p = sort (ds.filter p) :=
  filter_mergeSort key le le_eq_decide_key ds p

end Diagnostic

theorem filter_flatMap_reports {ps : List String} {reports : String → List Diagnostic}
    (hps : ps.Nodup) (hfile : ∀ p ∈ ps, ∀ d ∈ reports p, d.file = p) {p : String} (hp : p ∈ ps) :
    (ps.flatMap reports).filter (·.file = p) = reports p := by
  have hother : ∀ qs ⊆ ps, p ∉ qs → (qs.flatMap reports).filter (·.file = p) = [] := by
    intro qs hqs hpq
    simp only [List.filter_eq_nil_iff, List.mem_flatMap, decide_eq_true_eq]
    rintro d ⟨q, hq, hd⟩ rfl
    exact hpq (hfile q (hqs hq) d hd ▸ hq)
  obtain ⟨l₁, l₂, rfl⟩ := List.append_of_mem hp
  rw [List.nodup_middle, List.nodup_cons, List.mem_append, not_or] at hps
  have hself : (reports p).filter (·.file = p) = reports p :=
    List.filter_eq_self.mpr fun d hd => by simpa using hfile p hp d hd
  rw [List.flatMap_append, List.flatMap_cons, List.filter_append, List.filter_append, hself,
    hother l₁ (by simp) hps.1.1,
    hother l₂ (fun q hq => List.mem_append_right _ (List.mem_cons_of_mem _ hq)) hps.1.2]
  simp

namespace Collected

theorem put_of_not_mem {file : String} {ds : List Diagnostic} {l : List (String × List Diagnostic)}
    (h : file ∉ l.map (·.1)) : put file ds l = l ++ [(file, ds)] := by
  induction l with
  | nil => rfl
  | cons x l ih =>
      obtain ⟨f, es⟩ := x
      simp only [List.map_cons, List.mem_cons, not_or] at h
      have hne : (f == file) = false := by simpa using Ne.symm h.1
      simp only [put, hne, Bool.false_eq_true, if_false, ih h.2, List.cons_append]

theorem results_of_ascending {c : Collected} (h : (c.byFile.map (·.1)).Pairwise (· < ·)) :
    c.results = Diagnostic.sort (c.byFile.flatMap (·.2)) := by
  have hsorted : c.sortedFiles = c.byFile := by
    apply List.mergeSort_of_pairwise
    rw [List.pairwise_map] at h
    refine h.imp ?_
    intro a b hab
    simpa only [Bool.not_eq_true', decide_eq_false_iff_not] using hab.asymm
  rw [results, hsorted]

end Collected

end BoundaryLint
