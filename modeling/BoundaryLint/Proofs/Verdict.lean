import BoundaryLint.Proofs.RuleReports
import BoundaryLint.Proofs.RunResult

/-!
# The verdict of a run

A run passes exactly if every file that it was to look at is clean: the file could be read and
parsed, no rule crashed on it, and no rule of severity `error` found anything. This rests on three
facts. A fault of a file and a crash of a rule are reported as errors, a rule reports with the
severity of its entry, and that severity is never `off`.
-/
namespace BoundaryLint

theorem Registry.keepsSeverity_builtin {id : String} {rule : Rule}
    (h : builtin.get? id = some rule) : rule.KeepsSeverity :=
  (reportsInOrder_builtin (List.mem_of_find?_eq_some h)).keepsSeverity

/-! ### The reports of one file -/

namespace Run
variable (w : Setup) (resolver : Resolver)

/-- A file is clean if no rule is in force for it, or if it could be read and parsed, every rule in
force came to an end, and those of severity `error` found nothing. -/
def IsClean (path : String) : Prop :=
  entriesFor resolver path ≠ [] →
    ∃ source, w.source path = .ok source ∧
      ∀ e ∈ entriesFor resolver path, ∃ rule ds, w.registry.get? e.ruleId = some rule ∧
        rule.check source e = .ok ds ∧ (e.severity = .error → ds = [])

variable {w resolver}

/-- What is promised about the entries of a resolver and about the rules they name. -/
structure Trusted (registry : Registry) (resolver : Resolver) : Prop where
  loaded : ∀ b ∈ resolver.blocks, ∀ e ∈ b.rules, Config.EntryLoaded registry e
  keeps : ∀ id rule, registry.get? id = some rule → rule.KeepsSeverity

theorem Trusted.registered (h : Trusted w.registry resolver) : Registered w.registry resolver :=
  fun b hb e he => (h.loaded b hb e he).registered

theorem Trusted.entry (h : Trusted w.registry resolver) {path : String} {e : Entry}
    (he : e ∈ entriesFor resolver path) :
    (∃ rule, w.registry.get? e.ruleId = some rule ∧ rule.KeepsSeverity) ∧
      (e.severity = .error ∨ e.severity = .warn) := by
  obtain ⟨b, hb, heb, hoff⟩ := mem_entriesFor he
  obtain ⟨hreg, hknown⟩ := h.loaded b hb e heb
  obtain ⟨rule, hrule⟩ := Option.isSome_iff_exists.mp hreg
  refine ⟨⟨rule, hrule, h.keeps _ _ hrule⟩, ?_⟩
  rcases hknown with he | he | he
  · exact .inl he
  · exact .inr he
  · exact absurd he hoff

theorem fileReports_of_no_entries {path : String} (h : entriesFor resolver path = []) :
    fileReports w resolver path = [] := by
  rw [fileReports, fileOutcome, task_of_no_entries w resolver path rfl h]

theorem fileReports_of_entries (hreg : Registered w.registry resolver) {path : String}
    (h : entriesFor resolver path ≠ []) :
    fileReports w resolver path = (inspectionOf w resolver path).diagnostics path := by
  rw [fileReports, fileOutcome, task_of_entries w resolver path rfl h]
  simp only [inspectionOutcome, missingRule?_inspectionOf hreg path]

theorem fileReports_of_fault (hreg : Registered w.registry resolver) {path : String}
    (h : entriesFor resolver path ≠ []) {f : LoadFault} (hf : w.source path = .error f) :
    fileReports w resolver path = [Inspection.faultReport path f] := by
  rw [fileReports_of_entries hreg h, inspectionOf, hf]
  rfl

theorem fileReports_of_source (hreg : Registered w.registry resolver) {path : String} {s : Source}
    (hs : w.source path = .ok s) :
    fileReports w resolver path = (entriesFor resolver path).flatMap fun e =>
      Inspection.entryReports s.path (e, Inspection.runRule w.registry s e) := by
  by_cases h : entriesFor resolver path = []
  · rw [fileReports_of_no_entries h, h]
    rfl
  · have hall : ∀ e ∈ entriesFor resolver path, w.registry.contains e.ruleId = true := by
      intro e he
      obtain ⟨b, hb, heb, -⟩ := mem_entriesFor he
      exact hreg b hb e heb
    rw [fileReports_of_entries hreg h, inspectionOf, hs, Inspection.ofSource, runRules_eq_map hall,
      Inspection.diagnostics, List.flatMap_map]

theorem mem_fileReports_of_source (hreg : Registered w.registry resolver) {path : String}
    {s : Source} (hs : w.source path = .ok s) {d : Diagnostic} :
    d ∈ fileReports w resolver path ↔ ∃ e ∈ entriesFor resolver path,
      d ∈ Inspection.entryReports s.path (e, Inspection.runRule w.registry s e) := by
  rw [fileReports_of_source hreg hs, List.mem_flatMap]

/-- The reports of an entry are errors or warnings, and which of them the entry decides unless its
rule crashes. -/
theorem severity_of_mem_entryReports (h : Trusted w.registry resolver) {path : String} {e : Entry}
    (he : e ∈ entriesFor resolver path) {s : Source} {d : Diagnostic}
    (hd : d ∈ Inspection.entryReports s.path (e, Inspection.runRule w.registry s e)) :
    d.severity = .error ∨ d.severity = .warn := by
  obtain ⟨⟨rule, hrule, hkeeps⟩, hsev⟩ := h.entry he
  rw [Inspection.runRule, hrule] at hd
  dsimp only at hd
  split at hd
  · rename_i ds hcheck
    rw [hkeeps s e ds hcheck d hd]
    exact hsev
  · obtain rfl := List.mem_singleton.mp hd
    exact .inl rfl

/-- An entry reports no error exactly if its rule comes to an end and, when the entry is an error,
finds nothing. -/
theorem no_error_entryReports_iff (h : Trusted w.registry resolver) {path : String} {e : Entry}
    (he : e ∈ entriesFor resolver path) (s : Source) :
    (∀ d ∈ Inspection.entryReports s.path (e, Inspection.runRule w.registry s e),
        d.severity ≠ .error) ↔
      ∃ rule ds, w.registry.get? e.ruleId = some rule ∧ rule.check s e = .ok ds ∧
        (e.severity = .error → ds = []) := by
  obtain ⟨⟨rule, hrule, hkeeps⟩, -⟩ := h.entry he
  rw [Inspection.runRule, hrule]
  dsimp only
  cases hcheck : rule.check s e with
  | error c =>
      constructor
      · intro hall
        exact absurd rfl (hall _ (List.mem_singleton.mpr rfl))
      · rintro ⟨rule', ds, hrule', hds, -⟩
        cases hrule'
        rw [hcheck] at hds
        cases hds
  | ok ds =>
      constructor
      · intro hall
        refine ⟨rule, ds, rfl, hcheck, fun herror => ?_⟩
        apply List.eq_nil_iff_forall_not_mem.mpr
        intro d hd
        exact hall d hd ((hkeeps s e ds hcheck d hd).trans herror)
      · rintro ⟨rule', ds', hrule', hds', hnil⟩ d hd herror
        cases hrule'
        rw [hcheck] at hds'
        cases hds'
        rw [hnil ((hkeeps s e ds hcheck d hd).symm.trans herror)] at hd
        cases hd

theorem severity_of_mem_fileReports (h : Trusted w.registry resolver) {path : String}
    {d : Diagnostic} (hd : d ∈ fileReports w resolver path) :
    d.severity = .error ∨ d.severity = .warn := by
  by_cases he : entriesFor resolver path = []
  · rw [fileReports_of_no_entries he] at hd
    cases hd
  · cases hs : w.source path with
    | error f =>
        rw [fileReports_of_fault h.registered he hs] at hd
        obtain rfl := List.mem_singleton.mp hd
        exact .inl (by cases f <;> rfl)
    | ok s =>
        obtain ⟨e, hmem, hd⟩ := (mem_fileReports_of_source h.registered hs).mp hd
        exact severity_of_mem_entryReports h hmem hd

/-- A file gives no error exactly if it is clean. -/
theorem no_error_fileReports_iff (h : Trusted w.registry resolver) (path : String) :
    (∀ d ∈ fileReports w resolver path, d.severity ≠ .error) ↔ IsClean w resolver path := by
  by_cases he : entriesFor resolver path = []
  · simp [fileReports_of_no_entries he, IsClean, he]
  · cases hs : w.source path with
    | error f =>
        have herror : (Inspection.faultReport path f).severity = .error := by cases f <;> rfl
        simp [fileReports_of_fault h.registered he hs, IsClean, he, hs, herror]
    | ok s =>
        simp only [mem_fileReports_of_source h.registered hs, IsClean, hs, Except.ok.injEq,
          exists_eq_left']
        constructor
        · intro hall _ e hmem
          exact (no_error_entryReports_iff h hmem s).mp fun d hd => hall d ⟨e, hmem, hd⟩
        · rintro hclean d ⟨e, hmem, hd⟩
          exact (no_error_entryReports_iff h hmem s).mpr (hclean he e hmem) d hd

/-! ### Runs without a cancellation -/

theorem cancelled_of_tasks {ps : List String} {r : Run} (h : r.cancelled = true) :
    (tasks w resolver ps r).2.cancelled = true := by
  induction ps generalizing r with
  | nil => exact h
  | cons p ps ih => exact ih (cancelled_task w resolver p h)

/-- A cancellation comes from outside or from the reading of a file. -/
theorem uncancelled_of_quiet (hquiet : ∀ p, (w.read p).cancels = false) {ps : List String} {r : Run}
    (h : r.cancelled = false) : (tasks w resolver ps r).2.cancelled = false := by
  induction ps generalizing r with
  | nil => exact h
  | cons p ps ih =>
      refine ih (r := (task w resolver p r).2) ?_
      by_cases he : entriesFor resolver p = []
      · rw [task_of_no_entries w resolver p h he]
        exact h
      · rw [task_of_entries w resolver p h he, cancelled_afterInspection, h, hquiet p]
        rfl

theorem tasks_of_uncancelled {ps : List String} {r : Run}
    (h : (tasks w resolver ps r).2.cancelled = false) :
    (tasks w resolver ps r).1 = outcomesOf w resolver (fun _ => true) ps := by
  induction ps generalizing r with
  | nil => rfl
  | cons p ps ih =>
      have hr : r.cancelled = false := by
        by_contra hr
        rw [cancelled_of_tasks (by simpa using hr)] at h
        cases h
      have hfirst : (task w resolver p r).1 = fileOutcome w resolver p := by
        rw [task_fst, hr]
        rfl
      have hrest := ih (r := (task w resolver p r).2) h
      simp only [tasks, hfirst, hrest]
      rfl

/-- An analysis that is not cancelled comes to its end. Its diagnostics are the reports of all files
of the worklist in the order of reports. -/
theorem analyze_eq_sort (config : Config) (paths : List String) {r : Run}
    (hreg : Registered w.registry config.resolver) (hr : r.phase = .loading)
    (hc : (r.analyze w config paths).2.cancelled = false) :
    ∃ result : Result, (r.analyze w config paths).1 = .ok result ∧
      (r.analyze w config paths).2.phase = .done ∧ result.isPartial = false ∧
      result.diagnostics = Diagnostic.sort
        ((worklist config.resolver paths).flatMap (fileReports w config.resolver)) := by
  obtain ⟨r', hr', he⟩ := analyze_eq w config paths hr
  have hflag : (taskPhase w config paths r).2.cancelled = false := by
    rw [he] at hc
    exact hr'.symm.trans hc
  have houtcomes : (taskPhase w config paths r).1 =
      outcomesOf w config.resolver (fun _ => true) (worklist config.resolver paths) :=
    tasks_of_uncancelled hflag
  have hmissing : missing? (outcomesOf w config.resolver (fun _ => true)
      (worklist config.resolver paths)) = none :=
    missing?_outcomesOf hreg _
  rw [phase_analyze w config paths hr, he, hflag, houtcomes, resultOf, hmissing]
  refine ⟨_, rfl, rfl, rfl, ?_⟩
  rw [results_outcomesOf hreg _ (worklist_ascending config.resolver paths), List.filter_true]

theorem analyze_of_uncancelled (config : Config) (paths : List String) {r : Run}
    (hreg : Registered w.registry config.resolver) (hr : r.phase = .loading)
    (hc : (r.analyze w config paths).2.cancelled = false) :
    ∃ result : Result, (r.analyze w config paths).1 = .ok result ∧ result.isPartial = false ∧
      result.diagnostics.Perm
        ((worklist config.resolver paths).flatMap (fileReports w config.resolver)) := by
  obtain ⟨result, hok, -, hpartial, hsort⟩ := analyze_eq_sort config paths hreg hr hc
  refine ⟨result, hok, hpartial, ?_⟩
  rw [hsort]
  exact (Diagnostic.sort_stablySorted _).perm

end Run

/-! ### Counts -/

theorem Result.errorCount_add_warningCount {r : Result}
    (h : ∀ d ∈ r.diagnostics, d.severity = .error ∨ d.severity = .warn) :
    r.errorCount + r.warningCount = r.diagnostics.length := by
  have hwarn : r.warningCount = r.diagnostics.countP fun d => !d.isError := by
    apply List.countP_congr
    intro d hd
    rcases h d hd with hs | hs <;> simp [Diagnostic.isWarning, Diagnostic.isError, hs]
  rw [hwarn, Result.errorCount, List.length_eq_countP_add_countP Diagnostic.isError]
  simp

theorem Result.passed_iff {r : Result} (h : r.isPartial = false) :
    r.passed = true ↔ ∀ d ∈ r.diagnostics, d.severity ≠ .error := by
  simp [passed, h, hasErrors, Diagnostic.anyError, Diagnostic.isError]

namespace Run

/-- A run that is not cancelled gives errors and warnings only, and it passes exactly if all files
that it was to look at are clean. -/
theorem passed_iff_all_clean {data : Value} {config : Config}
    (hload : Config.ofValue .builtin data = .ok config) {w : Setup} (hw : w.registry = .builtin)
    (paths : List String) {r : Run} (hr : r.phase = .loading)
    (hc : (r.analyze w config paths).2.cancelled = false) :
    ∃ result : Result, (r.analyze w config paths).1 = .ok result ∧
      (∀ d ∈ result.diagnostics, d.severity = .error ∨ d.severity = .warn) ∧
      result.errorCount + result.warningCount = result.diagnostics.length ∧
      (result.passed = true ↔
        ∀ p ∈ paths, config.resolver.isIgnored p = false → IsClean w config.resolver p) := by
  have htrusted : Trusted w.registry config.resolver := by
    refine ⟨fun b hb => ?_, fun id rule hrule => ?_⟩
    · rw [hw]
      apply Config.entryLoaded_of_ofValue hload
      exact (Resolver.blocks_stablySorted _ config.ignores).perm.mem_iff.mp hb
    · rw [hw] at hrule
      exact Registry.keepsSeverity_builtin hrule
  obtain ⟨result, hok, hpartial, hperm⟩ :=
    analyze_of_uncancelled config paths htrusted.registered hr hc
  have hseverity : ∀ d ∈ result.diagnostics, d.severity = .error ∨ d.severity = .warn := by
    intro d hd
    obtain ⟨p, -, hp⟩ := List.mem_flatMap.mp (hperm.mem_iff.mp hd)
    exact severity_of_mem_fileReports htrusted hp
  refine ⟨result, hok, hseverity, Result.errorCount_add_warningCount hseverity, ?_⟩
  rw [Result.passed_iff hpartial]
  simp only [hperm.mem_iff, List.mem_flatMap, mem_worklist]
  constructor
  · intro hall p hp hi
    exact (no_error_fileReports_iff htrusted p).mp fun d hd => hall d ⟨p, ⟨hp, hi⟩, hd⟩
  · rintro hclean d ⟨p, ⟨hp, hi⟩, hd⟩
    exact (no_error_fileReports_iff htrusted p).mpr (hclean p hp hi) d hd

/-- A file that cannot be read fails the run. -/
theorem passed_iff_all_clean_unreadable :
    ∃ config, Config.ofValue .builtin storageBan = .ok config ∧
      (({ phase := .loading } : Run).analyze unreadableDisk config ["a.ts"]).2.cancelled = false ∧
      ∃ result : Result,
        (({ phase := .loading } : Run).analyze unreadableDisk config ["a.ts"]).1 = .ok result ∧
        result.errorCount + result.warningCount = result.diagnostics.length ∧
        result.passed = false := by
  have hentries : (Config.ofValue .builtin storageBan).toOption.map (fun c =>
      (c.resolver.isIgnored "a.ts", (entriesFor c.resolver "a.ts").isEmpty)) =
      some (false, false) := by
    decide +kernel
  cases hload : Config.ofValue .builtin storageBan with
  | error e => rw [hload] at hentries; cases hentries
  | ok config =>
      rw [hload] at hentries
      obtain ⟨hignored, hentries⟩ := Prod.mk.inj (Option.some.inj hentries)
      have hc : (({ phase := .loading } : Run).analyze unreadableDisk config
          ["a.ts"]).2.cancelled = false := by
        obtain ⟨r', hr', he⟩ :=
          analyze_eq unreadableDisk config ["a.ts"] (r := { phase := .loading }) rfl
        rw [he, hr']
        apply uncancelled_of_quiet fun _ => rfl
        exact (core_eq_iff.mp (core_beforeTasks config ["a.ts"] _)).2.1
      obtain ⟨result, hok, -, hcount, hpassed⟩ :=
        passed_iff_all_clean hload (w := unreadableDisk) rfl ["a.ts"] rfl hc
      refine ⟨config, rfl, hc, result, hok, hcount, ?_⟩
      by_contra hne
      have hclean := hpassed.mp (by simpa using hne) "a.ts" (by simp) hignored
      obtain ⟨source, hsource, -⟩ := hclean (by simpa using hentries)
      cases hsource

end Run

end BoundaryLint
