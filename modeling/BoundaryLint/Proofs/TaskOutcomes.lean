import BoundaryLint.Proofs.ActiveEntries
import BoundaryLint.Proofs.CollectedReports
import BoundaryLint.Proofs.LoadedConfig
import BoundaryLint.Run.Basic
import Mathlib.Data.Finset.Card

/-!
# Outcomes of tasks

A task looks at the run only to see whether it is cancelled. If it is not, what comes of the task
depends on the file alone: not on the other files, on the clock or on what was logged. So the
outcomes of a run are known once it is known which tasks saw no cancellation, and the result of the
run follows from them.
-/
namespace BoundaryLint

namespace Run
variable (w : Setup) (resolver : Resolver)

/-- What comes of the task of a file if it is not skipped. -/
def fileOutcome (path : String) : TaskOutcome :=
  (task w resolver path {}).1

/-- The diagnostics of a file that is analyzed alone. -/
def fileReports (path : String) : List Diagnostic :=
  match fileOutcome w resolver path with
  | .analyzed ds => ds
  | _ => []

def entriesFor (path : String) : List Entry :=
  (resolver.active path).map (·.2)

def inspectionOf (path : String) : Inspection :=
  .ofSource w.registry (entriesFor resolver path) (w.source path)

theorem task_of_cancelled (path : String) {r : Run} (h : r.cancelled = true) :
    task w resolver path r = (.skipped, r) := by
  simp [task, h]

theorem task_of_no_entries (path : String) {r : Run} (h : r.cancelled = false)
    (he : entriesFor resolver path = []) : task w resolver path r = (.analyzed [], r) := by
  unfold entriesFor at he
  simp [task, h, he]

def afterInspection (path : String) (r : Run) : Run :=
  let r := { r with reads := r.reads ++ [path] }
  let r := if (w.read path).cancels then r.cancel else r
  let found := (inspectionOf w resolver path).logs path w.slowRule r.clock
  { r with logs := r.logs ++ found.1, clock := found.2 }

/-- What an inspection means for the task. -/
def inspectionOutcome (path : String) (i : Inspection) : TaskOutcome :=
  match i.missingRule? with
  | some id => .notRegistered id
  | none => .analyzed (i.diagnostics path)

theorem task_of_entries (path : String) {r : Run} (h : r.cancelled = false)
    (he : entriesFor resolver path ≠ []) :
    task w resolver path r =
      (inspectionOutcome path (inspectionOf w resolver path),
        afterInspection w resolver path r) := by
  obtain ⟨e, es, hes⟩ := List.exists_cons_of_ne_nil he
  have hactive : (resolver.active path).map (·.2) = e :: es := hes
  unfold inspectionOutcome afterInspection inspectionOf
  rw [task, if_neg (by simp [h]), hes, hactive]
  dsimp only
  cases (Inspection.ofSource w.registry (e :: es) (w.source path)).missingRule? with
  | none => rfl
  | some id => rfl

/-- The run has a say in the outcome of a task only through its flag. -/
theorem task_fst (path : String) (r : Run) :
    (task w resolver path r).1 = if r.cancelled then .skipped else fileOutcome w resolver path := by
  cases h : r.cancelled with
  | true => rw [task_of_cancelled w resolver path h]; rfl
  | false =>
      by_cases he : entriesFor resolver path = []
      · rw [task_of_no_entries w resolver path h he, fileOutcome,
          task_of_no_entries w resolver path rfl he]
        rfl
      · rw [task_of_entries w resolver path h he, fileOutcome,
          task_of_entries w resolver path rfl he]
        rfl

theorem cancelled_afterInspection (path : String) (r : Run) :
    (afterInspection w resolver path r).cancelled = (r.cancelled || (w.read path).cancels) := by
  unfold afterInspection
  cases (w.read path).cancels <;> simp [cancel]

/-- A cancellation is never taken back. -/
theorem cancelled_task (path : String) {r : Run} (h : r.cancelled = true) :
    (task w resolver path r).2.cancelled = true := by
  rw [task_of_cancelled w resolver path h]
  exact h

/-! ### Runs up to their records -/

/-- A run without what it has recorded. -/
def core (r : Run) : Run := { r with logs := [], reads := [] }

theorem core_eq_iff {r r' : Run} :
    r.core = r'.core ↔ r.phase = r'.phase ∧ r.cancelled = r'.cancelled ∧ r.clock = r'.clock := by
  simp [core]

theorem core_task (path : String) {r r' : Run} (h : r.core = r'.core) :
    (task w resolver path r).2.core = (task w resolver path r').2.core := by
  obtain ⟨hp, hc, hk⟩ := core_eq_iff.mp h
  cases hr : r.cancelled with
  | true =>
      rw [task_of_cancelled w resolver path hr, task_of_cancelled w resolver path (hc ▸ hr)]
      exact h
  | false =>
      by_cases he : entriesFor resolver path = []
      · rw [task_of_no_entries w resolver path hr he,
          task_of_no_entries w resolver path (hc ▸ hr) he]
        exact h
      · rw [task_of_entries w resolver path hr he, task_of_entries w resolver path (hc ▸ hr) he]
        unfold afterInspection
        cases (w.read path).cancels <;> simp [core, cancel, log, hp, hc, hk]

theorem tasks_congr (ps : List String) {r r' : Run} (h : r.core = r'.core) :
    (tasks w resolver ps r).1 = (tasks w resolver ps r').1 ∧
      (tasks w resolver ps r).2.core = (tasks w resolver ps r').2.core := by
  induction ps generalizing r r' with
  | nil => exact ⟨rfl, h⟩
  | cons p ps ih =>
      have hfst : (task w resolver p r).1 = (task w resolver p r').1 := by
        rw [task_fst, task_fst, (core_eq_iff.mp h).2.1]
      obtain ⟨hos, hcore⟩ := ih (core_task w resolver p h)
      simp only [tasks]
      exact ⟨by rw [hfst, hos], hcore⟩

/-! ### Registered entries -/

variable {w resolver}

/-- Every entry of the blocks names a registered rule. -/
def Registered (registry : Registry) (resolver : Resolver) : Prop :=
  ∀ b ∈ resolver.blocks, ∀ e ∈ b.rules, registry.contains e.ruleId = true

theorem mem_entriesFor {path : String} {e : Entry} (h : e ∈ entriesFor resolver path) :
    ∃ b ∈ resolver.blocks, e ∈ b.rules ∧ e.severity ≠ .off := by
  obtain ⟨⟨b, e'⟩, hmem, rfl⟩ := List.mem_map.mp h
  obtain ⟨hb, -, he, hoff⟩ := Resolver.of_mem_active hmem
  exact ⟨b, hb, he, hoff⟩

theorem runRule_ne_notRegistered {registry : Registry} {s : Source} {e : Entry}
    (h : registry.contains e.ruleId = true) :
    Inspection.runRule registry s e ≠ .notRegistered := by
  obtain ⟨rule, hrule⟩ := Option.isSome_iff_exists.mp h
  unfold Inspection.runRule
  rw [hrule]
  dsimp only
  split <;> simp

theorem runRules_eq_map {registry : Registry} {s : Source} {es : List Entry}
    (h : ∀ e ∈ es, registry.contains e.ruleId = true) :
    Inspection.runRules registry s es = es.map fun e => (e, Inspection.runRule registry s e) := by
  induction es with
  | nil => rfl
  | cons e es ih =>
      have hne := runRule_ne_notRegistered (s := s) (h e List.mem_cons_self)
      have hrest := ih fun e' he' => h e' (List.mem_cons_of_mem _ he')
      unfold Inspection.runRules
      split
      · rename_i ho
        exact absurd ho hne
      · rw [hrest, List.map_cons]

theorem missingRule?_inspectionOf (h : Registered w.registry resolver) (path : String) :
    (inspectionOf w resolver path).missingRule? = none := by
  have hall : ∀ e ∈ entriesFor resolver path, w.registry.contains e.ruleId = true := by
    intro e he
    obtain ⟨b, hb, heb, -⟩ := mem_entriesFor he
    exact h b hb e heb
  unfold inspectionOf Inspection.ofSource
  split
  · rfl
  · rw [runRules_eq_map hall, Inspection.missingRule?, Option.map_eq_none_iff,
      List.find?_eq_none]
    intro o ho
    obtain ⟨e, he, rfl⟩ := List.mem_map.mp ho
    have hne := runRule_ne_notRegistered (s := ‹Source›) (hall e he)
    split
    · rename_i hcase
      exact absurd hcase hne
    · simp

theorem fileOutcome_eq_analyzed (h : Registered w.registry resolver) (path : String) :
    fileOutcome w resolver path = .analyzed (fileReports w resolver path) := by
  have hex : ∃ ds, fileOutcome w resolver path = .analyzed ds := by
    by_cases he : entriesFor resolver path = []
    · exact ⟨[], by rw [fileOutcome, task_of_no_entries w resolver path rfl he]⟩
    · refine ⟨(inspectionOf w resolver path).diagnostics path, ?_⟩
      rw [fileOutcome, task_of_entries w resolver path rfl he]
      simp only [inspectionOutcome, missingRule?_inspectionOf h path]
  obtain ⟨ds, hds⟩ := hex
  simp only [fileReports, hds]

theorem registered_of_load {origin : Config.Origin} {config : Config} (hread : origin.IsRead)
    (h : origin.load w.registry w.loader = .ok config) : Registered w.registry config.resolver := by
  intro b hb e he
  have hmem : b ∈ config.blocks :=
    (Resolver.blocks_stablySorted _ config.ignores).perm.mem_iff.mp hb
  obtain ⟨data, hdata⟩ := Config.exists_data_of_load hread h
  exact (Config.entryLoaded_of_ofValue hdata b hmem e he).registered

end Run

end BoundaryLint
