import BoundaryLint.Proofs.CollectedReports
import Mathlib.Data.Finset.Sort

/-!
# Submissions

Producers submit the diagnostics of files, in any order and as often as they like. What is collected
remembers of each file the list that was submitted last, and nothing else: neither when it came nor
what it replaced. So the results are a function of the last lists alone.
-/
namespace BoundaryLint.Collected

abbrev Submission := String × List Diagnostic

/-- What is collected after some submissions, in the order in which they arrive. -/
def ofSubmissions (subs : List Submission) : Collected :=
  subs.foldl (fun c sub => c.add sub.1 sub.2) .empty

/-- The list that was submitted last for a file; it is empty for a file that never was submitted. -/
def lastOf (subs : List Submission) (file : String) : List Diagnostic :=
  (subs.reverse.lookup file).getD []

def filesOf (subs : List Submission) : List String :=
  (subs.map (·.1)).toFinset.sort

/-! ### What one submission does -/

theorem lookup_cons_eq_ite (sub : Submission) (l : List Submission) (f : String) :
    (sub :: l).lookup f = if f = sub.1 then some sub.2 else l.lookup f := by
  obtain ⟨g, ds⟩ := sub
  by_cases h : f = g
  · rw [h, List.lookup_cons_self, if_pos rfl]
  · rw [if_neg h, List.lookup_cons, beq_eq_false_iff_ne.mpr h]

section
variable (file : String) (ds : List Diagnostic) (l : List Submission)

theorem put_cons_of_ne {g : String} (hg : g ≠ file) (es : List Diagnostic) :
    put file ds ((g, es) :: l) = (g, es) :: put file ds l := by
  rw [put, if_neg (by simpa using hg)]

/-- The last write wins. -/
theorem lookup_put (f : String) :
    (put file ds l).lookup f = if f = file then some ds else l.lookup f := by
  induction l with
  | nil => rw [put, lookup_cons_eq_ite]
  | cons x l ih =>
      obtain ⟨g, es⟩ := x
      by_cases hg : g = file
      · rw [put, if_pos (beq_iff_eq.mpr hg), lookup_cons_eq_ite, lookup_cons_eq_ite, hg]
        split <;> rfl
      · rw [put_cons_of_ne file ds l hg, lookup_cons_eq_ite, lookup_cons_eq_ite, ih]
        by_cases h : f = g
        · rw [if_pos h, if_pos h, if_neg (h ▸ hg)]
        · rw [if_neg h, if_neg h]

theorem mem_files_put (f : String) :
    f ∈ (put file ds l).map (·.1) ↔ f = file ∨ f ∈ l.map (·.1) := by
  induction l with
  | nil => simp [put]
  | cons x l ih =>
      obtain ⟨g, es⟩ := x
      by_cases hg : g = file
      · simp [put, hg]
      · rw [put_cons_of_ne file ds l hg, List.map_cons, List.mem_cons, ih, List.map_cons,
          List.mem_cons]
        exact or_left_comm

theorem nodup_files_put (h : (l.map (·.1)).Nodup) : ((put file ds l).map (·.1)).Nodup := by
  induction l with
  | nil => simp [put]
  | cons x l ih =>
      obtain ⟨g, es⟩ := x
      have hparts := List.nodup_cons.mp h
      by_cases hg : g = file
      · simpa [put, hg] using h
      · have hnot : g ∉ (put file ds l).map (·.1) := by
          rw [mem_files_put]
          exact not_or.mpr ⟨hg, hparts.1⟩
        rw [put_cons_of_ne file ds l hg]
        exact List.nodup_cons.mpr ⟨hnot, ih hparts.2⟩

end

/-! ### What all submissions do -/

section
variable (subs : List Submission)

theorem lookup_foldl_add (c : Collected) (f : String) :
    (subs.foldl (fun c sub => c.add sub.1 sub.2) c).byFile.lookup f =
      (subs.reverse.lookup f).or (c.byFile.lookup f) := by
  induction subs generalizing c with
  | nil => rfl
  | cons sub subs ih =>
      have hadd : (c.add sub.1 sub.2).byFile.lookup f =
          ([sub].lookup f).or (c.byFile.lookup f) := by
        rw [add, lookup_put, lookup_cons_eq_ite]
        split <;> rfl
      rw [List.foldl_cons, ih, hadd, List.reverse_cons, List.lookup_append, Option.or_assoc]

theorem lookup_ofSubmissions (f : String) :
    (ofSubmissions subs).byFile.lookup f = subs.reverse.lookup f := by
  rw [ofSubmissions, lookup_foldl_add]
  exact Option.or_none

theorem mem_files_foldl_add (c : Collected) (f : String) :
    f ∈ (subs.foldl (fun c sub => c.add sub.1 sub.2) c).byFile.map (·.1) ↔
      f ∈ subs.map (·.1) ∨ f ∈ c.byFile.map (·.1) := by
  induction subs generalizing c with
  | nil => simp
  | cons sub subs ih =>
      rw [List.foldl_cons, ih, add, mem_files_put, List.map_cons, List.mem_cons, or_left_comm,
        or_assoc]

theorem nodup_files_foldl_add {c : Collected} (h : (c.byFile.map (·.1)).Nodup) :
    ((subs.foldl (fun c sub => c.add sub.1 sub.2) c).byFile.map (·.1)).Nodup := by
  induction subs generalizing c with
  | nil => exact h
  | cons sub subs ih => exact ih (nodup_files_put sub.1 sub.2 c.byFile h)

theorem nodup_files : ((ofSubmissions subs).byFile.map (·.1)).Nodup :=
  nodup_files_foldl_add subs List.nodup_nil

theorem ascending_filesOf : (filesOf subs).Pairwise (· < ·) :=
  (Finset.sortedLT_sort _).pairwise

theorem mem_filesOf (f : String) : f ∈ filesOf subs ↔ f ∈ subs.map (·.1) := by
  rw [filesOf, Finset.mem_sort, List.mem_toFinset]

theorem files_perm_filesOf : ((ofSubmissions subs).byFile.map (·.1)).Perm (filesOf subs) := by
  have hnodup : (filesOf subs).Nodup := (ascending_filesOf subs).imp ne_of_lt
  rw [List.perm_ext_iff_of_nodup (nodup_files subs) hnodup]
  intro f
  rw [ofSubmissions, mem_files_foldl_add, mem_filesOf]
  simp [empty]

/-- Every file is there with the list that was submitted last. -/
theorem eq_lastOf {f : String} {ds : List Diagnostic} (h : (f, ds) ∈ (ofSubmissions subs).byFile) :
    ds = lastOf subs f := by
  obtain ⟨l₁, l₂, hl⟩ := List.append_of_mem h
  have hnodup := nodup_files subs
  rw [hl, List.map_append, List.map_cons, List.nodup_middle, List.nodup_cons, List.mem_append,
    not_or] at hnodup
  have hlookup : (ofSubmissions subs).byFile.lookup f = some ds := by
    rw [List.lookup_eq_some_iff]
    refine ⟨l₁, l₂, hl, ?_⟩
    intro x hx
    rw [bne_iff_ne]
    intro heq
    exact hnodup.1.1 (List.mem_map.mpr ⟨x, hx, heq.symm⟩)
  rw [lastOf, ← lookup_ofSubmissions, hlookup, Option.getD_some]

theorem length_byFile : (ofSubmissions subs).byFile.length = (subs.map (·.1)).toFinset.card := by
  have hlength := (files_perm_filesOf subs).length_eq
  rwa [List.length_map, filesOf, Finset.length_sort] at hlength

/-! ### The merged lists -/

theorem sortedFiles_stablySorted (c : Collected) : StablySorted (·.1) c.byFile c.sortedFiles := by
  apply mergeSort_stablySorted
  intro a b
  rw [Bool.eq_iff_iff, Bool.not_eq_true', decide_eq_false_iff_not, decide_eq_true_eq, not_lt]

theorem files_sortedFiles : (ofSubmissions subs).sortedFiles.map (·.1) = filesOf subs := by
  have hsorted := sortedFiles_stablySorted (ofSubmissions subs)
  have hperm := (hsorted.perm.map (·.1)).trans (files_perm_filesOf subs)
  have hordered : ((ofSubmissions subs).sortedFiles.map (·.1)).Pairwise (· ≤ ·) :=
    List.pairwise_map.mpr hsorted.ordered
  exact hperm.eq_of_pairwise (fun _ _ _ _ => le_antisymm) hordered
    ((ascending_filesOf subs).imp le_of_lt)

theorem merged_eq : (ofSubmissions subs).sortedFiles.flatMap (·.2) =
    (filesOf subs).flatMap (lastOf subs) := by
  have hlast : ∀ x ∈ (ofSubmissions subs).sortedFiles, x.2 = lastOf subs x.1 := by
    intro x hx
    apply eq_lastOf
    exact (sortedFiles_stablySorted (ofSubmissions subs)).perm.mem_iff.mp hx
  rw [← files_sortedFiles, List.flatMap_map]
  exact List.flatMap_congr hlast

theorem results_stablySorted : StablySorted Diagnostic.key
    ((filesOf subs).flatMap (lastOf subs)) (ofSubmissions subs).results := by
  rw [results, merged_eq]
  exact Diagnostic.sort_stablySorted _

/-! ### Order of arrival -/

theorem lastOf_eq_nil_of_not_mem {f : String} (h : f ∉ filesOf subs) : lastOf subs f = [] := by
  have hlookup : subs.reverse.lookup f = none := by
    rw [List.lookup_eq_none_iff]
    intro x hx
    rw [bne_iff_ne]
    intro heq
    rw [mem_filesOf] at h
    exact h (heq ▸ List.mem_map_of_mem (List.mem_reverse.mp hx))
  rw [lastOf, hlookup, Option.getD_none]

end

theorem flatMap_filter_isEmpty {α β : Type*} (l : List α) (g : α → List β) :
    (l.filter fun a => !(g a).isEmpty).flatMap g = l.flatMap g := by
  induction l with
  | nil => rfl
  | cons a l ih =>
      cases h : g a with
      | nil => simp [h, ih]
      | cons b bs => simp [h, ih]

/-- A file with an empty list adds nothing, so it does not matter whether it was submitted. -/
theorem merged_congr {subs subs' : List Submission} (h : ∀ f, lastOf subs f = lastOf subs' f) :
    (filesOf subs).flatMap (lastOf subs) = (filesOf subs').flatMap (lastOf subs') := by
  have hlast : lastOf subs = lastOf subs' := funext h
  have hmem : ∀ f, f ∈ (filesOf subs).filter (fun f => !(lastOf subs f).isEmpty) ↔
      f ∈ (filesOf subs').filter (fun f => !(lastOf subs' f).isEmpty) := by
    intro f
    have hin : lastOf subs f ≠ [] → f ∈ filesOf subs :=
      not_imp_comm.mp (lastOf_eq_nil_of_not_mem subs)
    have hin' : lastOf subs' f ≠ [] → f ∈ filesOf subs' :=
      not_imp_comm.mp (lastOf_eq_nil_of_not_mem subs')
    rw [← h f] at hin'
    simp only [List.mem_filter, ← h f, Bool.not_eq_true', List.isEmpty_eq_false_iff]
    exact and_congr_left fun hne => iff_of_true (hin hne) (hin' hne)
  have hasc := (ascending_filesOf subs).filter fun f => !(lastOf subs f).isEmpty
  have hasc' := (ascending_filesOf subs').filter fun f => !(lastOf subs' f).isEmpty
  have hperm := (List.perm_ext_iff_of_nodup (hasc.imp ne_of_lt) (hasc'.imp ne_of_lt)).mpr hmem
  have hfiles := hperm.eq_of_pairwise (fun _ _ _ _ hab hba => absurd hba hab.asymm) hasc hasc'
  calc (filesOf subs).flatMap (lastOf subs)
      = ((filesOf subs).filter fun f => !(lastOf subs f).isEmpty).flatMap (lastOf subs) :=
        (flatMap_filter_isEmpty _ _).symm
    _ = ((filesOf subs').filter fun f => !(lastOf subs' f).isEmpty).flatMap (lastOf subs') := by
        rw [hfiles, hlast]
    _ = (filesOf subs').flatMap (lastOf subs') := flatMap_filter_isEmpty _ _

/-- After any submissions the results hold exactly the list that each file had last, in the order of
reports. Diagnostics that tie come by ascending files, those of one list as they were submitted.
Submissions that leave every file with the same list give the same results. -/
theorem results_of_last_submissions (subs : List Submission) :
    (ofSubmissions subs).results.Perm ((filesOf subs).flatMap (lastOf subs)) ∧
      (ofSubmissions subs).results.Pairwise (fun a b => a.key ≤ b.key) ∧
      (∀ k, (ofSubmissions subs).results.filter (·.key = k) =
        (filesOf subs).flatMap fun f => (lastOf subs f).filter (·.key = k)) ∧
      (ofSubmissions subs).fileCount = (subs.map (·.1)).toFinset.card ∧
      ∀ subs', (∀ f, lastOf subs f = lastOf subs' f) →
        (ofSubmissions subs).results = (ofSubmissions subs').results := by
  have hresults := results_stablySorted subs
  refine ⟨hresults.perm, hresults.ordered, ?_, length_byFile subs, ?_⟩
  · intro k
    rw [hresults.ties k, List.filter_flatMap]
  · intro subs' hlast
    have hresults' := results_stablySorted subs'
    rw [← merged_congr hlast] at hresults'
    exact hresults.unique hresults'

/-- A diagnostic at the start of a file that no one submits, so that all of these tie. -/
def tied (message : String) : Diagnostic :=
  { file := "x", line := 1, column := 1, ruleId := "r", severity := .warn, message }

/-- Two producers: one submits `b` twice, and `c` without diagnostics; the other submits `a`. -/
def crossed : List Submission :=
  [("b", [tied "old"]), ("a", [tied "first", tied "second"]), ("b", [tied "third"]), ("c", [])]

def inTurn : List Submission :=
  [("a", [tied "first", tied "second"]), ("b", [tied "third"])]

/-- The replaced list is gone, and all that is left ties: it comes by files and as submitted. -/
theorem results_of_last_submissions_crossed :
    (∀ f, lastOf crossed f = lastOf inTurn f) ∧
      (ofSubmissions crossed).results = (ofSubmissions inTurn).results ∧
      (ofSubmissions inTurn).results = [tied "first", tied "second", tied "third"] ∧
      (ofSubmissions crossed).fileCount = 3 := by
  have hlast : ∀ f, lastOf crossed f = lastOf inTurn f := by
    intro f
    by_cases hb : f = "b"
    · subst hb
      rfl
    · by_cases hc : f = "c"
      · subst hc
        rfl
      · simp [lastOf, crossed, inTurn, lookup_cons_eq_ite, hb, hc]
  have hties : (ofSubmissions inTurn).results = [tied "first", tied "second", tied "third"] := by
    rw [results_of_ascending (by decide)]
    exact List.mergeSort_of_pairwise (by decide)
  obtain ⟨-, -, -, hcount, hsame⟩ := results_of_last_submissions crossed
  exact ⟨hlast, hsame inTurn hlast, hties, hcount⟩

end BoundaryLint.Collected
