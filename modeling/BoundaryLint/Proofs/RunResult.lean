import BoundaryLint.Proofs.TaskOutcomes

/-!
# The result of a run

The worklist holds each path that is not ignored once, in ascending order. Outcomes for it are
turned into a result by counting the skipped files and collecting the reports of the others; since
the paths ascend, the reports stand in the order of their files before they are sorted.
-/
namespace BoundaryLint

namespace Run

/-! ### The worklist -/

section
variable (resolver : Resolver) (paths : List String)

theorem mem_worklist {resolver : Resolver} {paths : List String} {p : String} :
    p ∈ worklist resolver paths ↔ p ∈ paths ∧ resolver.isIgnored p = false := by
  simp [worklist]

theorem worklist_ascending : (worklist resolver paths).Pairwise (· < ·) := by
  have hsorted := (mergeSort_stablySorted id (fun a b : String => !decide (b < a))
    (fun a b => by simp [← decide_not]) (paths.filter fun p => !resolver.isIgnored p)).ordered
  have hle := hsorted.sublist (eraseDups_sublist _)
  have hne : (worklist resolver paths).Nodup := nodup_eraseDups _
  exact (hle.and hne).imp fun h => lt_of_le_of_ne h.1 h.2

theorem length_worklist :
    (worklist resolver paths).length =
      (paths.filter fun p => !resolver.isIgnored p).toFinset.card := by
  have hnodup : (worklist resolver paths).Nodup := nodup_eraseDups _
  rw [← List.toFinset_card_of_nodup hnodup]
  congr 1
  ext p
  simp [mem_worklist]

end

/-! ### Outcomes -/

variable (w : Setup) (resolver : Resolver)

/-- The outcomes of tasks, of which those in `started` saw no cancellation. -/
def outcomesOf (started : String → Bool) (ps : List String) : List (String × TaskOutcome) :=
  ps.map fun p => (p, if started p then fileOutcome w resolver p else .skipped)

theorem outcomesOf_congr {started started' : String → Bool} {ps : List String}
    (h : ∀ p ∈ ps, started p = started' p) :
    outcomesOf w resolver started ps = outcomesOf w resolver started' ps := by
  apply List.map_congr_left
  intro p hp
  rw [h p hp]

/-- The reports of an outcome, with its file. -/
def reported? (o : String × TaskOutcome) : Option (String × List Diagnostic) :=
  match o.2 with
  | .analyzed ds => some (o.1, ds)
  | _ => none

/-- Files that come once each are collected in the order in which they come. -/
theorem byFile_foldl {os : List (String × TaskOutcome)} {c : Collected}
    (h : (c.byFile.map (·.1) ++ os.map (·.1)).Nodup) :
    (os.foldl gather c).byFile = c.byFile ++ os.filterMap reported? := by
  induction os generalizing c with
  | nil => simp
  | cons o os ih =>
      obtain ⟨p, o⟩ := o
      have hp : p ∉ c.byFile.map (·.1) := by
        intro hmem
        exact (List.nodup_append.mp h).2.2 p hmem p (by simp) rfl
      have hrest : (c.byFile.map (·.1) ++ os.map (·.1)).Nodup := h.sublist (by simp)
      cases o with
      | analyzed ds =>
          have hadd : (gather c (p, .analyzed ds)).byFile = c.byFile ++ [(p, ds)] :=
            Collected.put_of_not_mem hp
          rw [List.foldl_cons, ih (by simpa [hadd] using h), hadd]
          simp [reported?]
      | skipped => exact ih hrest
      | notRegistered id => exact ih hrest

variable {w resolver}

section
variable (hreg : Registered w.registry resolver) (started : String → Bool) {ps : List String}

include hreg in
theorem reported?_outcomesOf (p : String) :
    reported? (p, if started p then fileOutcome w resolver p else .skipped) =
      if started p then some (p, fileReports w resolver p) else none := by
  cases hs : started p with
  | true => simp [reported?, fileOutcome_eq_analyzed hreg p]
  | false => simp [reported?]

include hreg in
theorem byFile_outcomesOf (hps : ps.Nodup) :
    (collect (outcomesOf w resolver started ps)).byFile =
      (ps.filter started).map fun p => (p, fileReports w resolver p) := by
  have hnodup : ((Collected.empty.byFile.map (·.1)) ++
      (outcomesOf w resolver started ps).map (·.1)).Nodup := by
    simpa [Collected.empty, outcomesOf, Function.comp_def] using hps
  rw [collect, byFile_foldl hnodup]
  simp only [Collected.empty, List.nil_append, outcomesOf, List.filterMap_map, Function.comp_def,
    reported?_outcomesOf hreg started]
  clear hnodup hps
  induction ps with
  | nil => rfl
  | cons p ps ih => cases hs : started p <;> simp [hs, ih]

include hreg in
theorem missing?_outcomesOf : missing? (outcomesOf w resolver started ps) = none := by
  induction ps with
  | nil => rfl
  | cons p ps ih =>
      unfold outcomesOf at ih ⊢
      cases hs : started p <;> simp [hs, missing?, fileOutcome_eq_analyzed hreg p, ih]

include hreg in
theorem skippedCount_outcomesOf :
    skippedCount (outcomesOf w resolver started ps) = (ps.filter fun p => !started p).length := by
  unfold skippedCount outcomesOf
  rw [List.countP_map, ← List.countP_eq_length_filter]
  apply List.countP_congr
  intro p _
  cases hs : started p <;> simp [hs, fileOutcome_eq_analyzed hreg p, TaskOutcome.isSkipped]

include hreg in
theorem fileCount_outcomesOf (hps : ps.Nodup) :
    (collect (outcomesOf w resolver started ps)).fileCount = (ps.filter started).length := by
  rw [Collected.fileCount, byFile_outcomesOf hreg started hps, List.length_map]

include hreg in
theorem results_outcomesOf (hps : ps.Pairwise (· < ·)) :
    (collect (outcomesOf w resolver started ps)).results =
      Diagnostic.sort ((ps.filter started).flatMap (fileReports w resolver)) := by
  have hby := byFile_outcomesOf hreg started (hps.imp ne_of_lt)
  rw [Collected.results_of_ascending, hby, List.flatMap_map]
  rw [hby, List.map_map]
  simpa [Function.comp_def] using hps.filter started

end

/-! ### The analysis -/

variable (w)

/-- The result that outcomes lead to. -/
def resultOf (config : Config) (os : List (String × TaskOutcome)) (cancelled : Bool)
    (elapsed : Elapsed) : Except RunError Result :=
  match missing? os with
  | some id => .error (.notRegistered id)
  | none => .ok
      { diagnostics := (collect os).results
        filesAnalyzed := (collect os).fileCount
        filesSkipped := skippedCount os
        rulesConfigured := config.ruleCount
        isPartial := cancelled
        elapsed }

/-- The run when its tasks begin. -/
def beforeTasks (config : Config) (paths : List String) (r : Run) : Run :=
  (paths.filter config.resolver.isIgnored).foldl (fun r p => r.log (.ignoring p))
    ({ r with clock := r.clock.look }.enter .analyzing)

/-- The outcomes of the tasks of an analysis, and the run after them. -/
def taskPhase (config : Config) (paths : List String) (r : Run) :
    List (String × TaskOutcome) × Run :=
  tasks w config.resolver (worklist config.resolver paths) (beforeTasks config paths r)

theorem core_beforeTasks (config : Config) (paths : List String) (r : Run) :
    (beforeTasks config paths r).core =
      ({ r with clock := r.clock.look, phase := .analyzing } : Run).core := by
  unfold beforeTasks
  generalize paths.filter config.resolver.isIgnored = l
  generalize hr : ({ r with clock := r.clock.look } : Run).enter .analyzing = r₀
  have hcore : r₀.core = ({ r with clock := r.clock.look, phase := .analyzing } : Run).core := by
    rw [← hr]
    rfl
  clear hr
  induction l generalizing r₀ with
  | nil => exact hcore
  | cons p l ih => exact ih (r₀.log (.ignoring p)) hcore

def elapsedOf (config : Config) (paths : List String) (r : Run) : Elapsed :=
  .float ((taskPhase w config paths r).2.clock.look.since r.clock.look.now)

theorem analyze_eq (config : Config) (paths : List String) {r : Run} (h : r.phase = .loading) :
    ∃ r', r'.cancelled = (taskPhase w config paths r).2.cancelled ∧
      r.analyze w config paths =
        (resultOf config (taskPhase w config paths r).1 (taskPhase w config paths r).2.cancelled
          (elapsedOf w config paths r), r') := by
  unfold analyze resultOf elapsedOf taskPhase beforeTasks
  rw [if_neg (by simp [h])]
  dsimp only
  generalize tasks w config.resolver (worklist config.resolver paths) _ = t
  obtain ⟨os, phase, cancelled, clock, logs, reads⟩ := t
  dsimp only
  cases missing? os with
  | some id => exact ⟨Run.enter ⟨phase, cancelled, clock, logs, reads⟩ .failed, rfl, rfl⟩
  | none =>
      cases cancelled
      · refine ⟨_, ?_, rfl⟩
        rfl
      · refine ⟨_, ?_, rfl⟩
        rfl

/-- An analysis fails if a rule is missing and comes to its end otherwise. -/
theorem phase_analyze (config : Config) (paths : List String) {r : Run} (h : r.phase = .loading) :
    (r.analyze w config paths).2.phase =
      if (missing? (taskPhase w config paths r).1).isSome then .failed else .done := by
  unfold analyze taskPhase beforeTasks
  rw [if_neg (by simp [h])]
  dsimp only
  generalize tasks w config.resolver (worklist config.resolver paths) _ = t
  cases missing? t.1 <;> rfl

theorem analyze_congr (config : Config) {paths paths' : List String} (r : Run)
    (h : worklist config.resolver paths = worklist config.resolver paths') :
    (r.analyze w config paths).1 = (r.analyze w config paths').1 := by
  by_cases hp : r.phase = .loading
  · have hcore : (beforeTasks config paths r).core = (beforeTasks config paths' r).core := by
      rw [core_beforeTasks, core_beforeTasks]
    obtain ⟨hos, hrun⟩ := tasks_congr w config.resolver (worklist config.resolver paths) hcore
    rw [h] at hos hrun
    obtain ⟨-, hcancelled, hclock⟩ := core_eq_iff.mp hrun
    obtain ⟨_, -, he⟩ := analyze_eq w config paths hp
    obtain ⟨_, -, he'⟩ := analyze_eq w config paths' hp
    rw [he, he']
    simp only [elapsedOf, taskPhase, h, hos, hcancelled, hclock]
  · unfold analyze
    rw [if_pos (by simpa using hp), if_pos (by simpa using hp)]

/-! ### A small setup -/

def storageBan : Value :=
  .map none [(.str "version", .int 1), (.str "blocks", .ofList [.map none
    [(.str "files", .str "**"), (.str "rules", .map none [(.str "no-localstorage", .int 2)])]])]

def unreadableDisk : Setup :=
  { registry := .builtin, read := fun _ => ⟨.unreadable "gone", false⟩ }

end Run

end BoundaryLint
