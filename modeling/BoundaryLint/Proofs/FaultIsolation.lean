import BoundaryLint.Proofs.Verdict

/-!
# Faults stay where they arise

Two runs with the same configuration are compared. In one comparison a single rule is exchanged for
one that may crash, in the other a single file gives no source any more. The reports of a file are
made entry by entry and those of a run file by file, and each report carries the rule and the file
that it comes from. So the reports that do not come from the faulty rule or file are the same before
they are sorted, and sorting commutes with leaving reports out.
-/
namespace BoundaryLint

/-- The same ids, and the same rule for each of them but one. -/
structure Registry.AgreesApartFrom (id : String) (a b : Registry) : Prop where
  contains : ∀ i, b.contains i = a.contains i
  get? : ∀ i, i ≠ id → b.get? i = a.get? i

namespace Registry
variable {r : Registry} {m : Rule}

theorem get?_replace (h : r.contains m.id = true) (i : String) :
    (r.replace m).get? i = (r.get? i).map fun x => if x.id == m.id then m else x := by
  have hid : ∀ x : Rule, (if x.id == m.id then m else x).id = x.id := by
    intro x
    split <;> simp_all
  simp only [get?, replace, h, if_true, List.find?_map, Function.comp_def, hid]

theorem agreesApartFrom_replace (h : r.contains m.id = true) :
    r.AgreesApartFrom m.id (r.replace m) where
  contains := by
    intro i
    rw [contains, get?_replace h, Option.isSome_map, contains]
  get? := by
    intro i hi
    rw [get?_replace h]
    cases hx : r.get? i with
    | none => rfl
    | some x =>
        have hxi : x.id = i := by simpa using List.find?_some hx
        simp [hxi, hi]

theorem labels_replace (h : r.contains m.id = true) (hm : m.Labels)
    (hr : ∀ id rule, r.get? id = some rule → rule.Labels) :
    ∀ id rule, (r.replace m).get? id = some rule → rule.Labels := by
  intro id rule hrule
  rw [get?_replace h] at hrule
  obtain ⟨x, hx, rfl⟩ := Option.map_eq_some_iff.mp hrule
  split
  · exact hm
  · exact hr id x hx

end Registry

theorem SourceFile.path_of_parse {p : String} {f : SourceFile} {s : Source}
    (h : SourceFile.parse p f = .ok s) : s.path = p := by
  have hparse := mapError_eq_ok_iff.mp h
  unfold Source.parse Source.parseWithout at hparse
  dsimp only at hparse
  split at hparse
  · cases hparse
  · split at hparse
    · cases hparse
    · split at hparse
      · cases hparse
      · cases hparse
        rfl

/-- Sources keep the path of their file, and rules label what they report. -/
structure Setup.Labels (w : Setup) : Prop where
  path : ∀ p s, w.source p = .ok s → s.path = p
  rules : ∀ id rule, w.registry.get? id = some rule → rule.Labels

/-- The same setup, except that the file at `p` gives no source, whether reading or parsing fails. -/
structure Setup.FaultAt (p : String) (f : LoadFault) (w w' : Setup) : Prop where
  registry : w'.registry = w.registry
  others : ∀ q ≠ p, w'.source q = w.source q
  fault : w'.source p = .error f

namespace Inspection
variable {a b : Registry} {id : String} {s : Source} {e : Entry}

theorem label_of_mem_entryReports
    (hlabels : ∀ id rule, a.get? id = some rule → rule.Labels) {d : Diagnostic}
    (hd : d ∈ entryReports s.path (e, runRule a s e)) : d.file = s.path ∧ d.ruleId = e.ruleId := by
  unfold runRule at hd
  split at hd
  · cases hd
  · rename_i rule hrule
    split at hd
    · rename_i ds hcheck
      exact hlabels _ rule hrule s e ds hcheck d hd
    · obtain rfl := List.mem_singleton.mp hd
      exact ⟨rfl, rfl⟩

theorem runRule_congr (h : a.AgreesApartFrom id b) (he : e.ruleId ≠ id) :
    runRule b s e = runRule a s e := by
  rw [runRule, runRule, h.get? _ he]

theorem filter_entryReports (hlabels : ∀ id rule, a.get? id = some rule → rule.Labels)
    (chosen : String → Bool) :
    (entryReports s.path (e, runRule a s e)).filter (fun d => chosen d.ruleId) =
      if chosen e.ruleId then entryReports s.path (e, runRule a s e) else [] := by
  split
  · rename_i he
    apply List.filter_eq_self.mpr
    intro d hd
    rwa [(label_of_mem_entryReports hlabels hd).2]
  · rename_i he
    apply List.filter_eq_nil_iff.mpr
    intro d hd
    rwa [(label_of_mem_entryReports hlabels hd).2]

end Inspection

namespace Run
variable {w w' : Setup} {resolver : Resolver}

theorem file_of_mem_fileReports (hreg : Registered w.registry resolver) (hw : w.Labels)
    {p : String} {d : Diagnostic} (hd : d ∈ fileReports w resolver p) : d.file = p := by
  cases hs : w.source p with
  | ok s =>
      obtain ⟨e, -, hd⟩ := (mem_fileReports_of_source hreg hs).mp hd
      rw [(Inspection.label_of_mem_entryReports hw.rules hd).1, hw.path p s hs]
  | error f =>
      by_cases he : entriesFor resolver p = []
      · rw [fileReports_of_no_entries he] at hd
        cases hd
      · rw [fileReports_of_fault hreg he hs] at hd
        obtain rfl := List.mem_singleton.mp hd
        cases f <;> rfl

/-- The reports of a file depend on its source and on what the rules in force make of it. -/
theorem fileReports_congr (hreg : Registered w.registry resolver)
    (hreg' : Registered w'.registry resolver) {p : String} (hsource : w'.source p = w.source p)
    (hrules : ∀ s, w.source p = .ok s → ∀ e ∈ entriesFor resolver p,
      Inspection.runRule w'.registry s e = Inspection.runRule w.registry s e) :
    fileReports w' resolver p = fileReports w resolver p := by
  cases hs : w.source p with
  | ok s =>
      rw [fileReports_of_source hreg hs, fileReports_of_source hreg' (hsource.trans hs)]
      apply List.flatMap_congr
      intro e he
      rw [hrules s hs e he]
  | error f =>
      by_cases he : entriesFor resolver p = []
      · rw [fileReports_of_no_entries he, fileReports_of_no_entries he]
      · rw [fileReports_of_fault hreg he hs, fileReports_of_fault hreg' he (hsource.trans hs)]

/-! ### A rule that crashes -/

section
variable {registry : Registry} {id : String} (h : w.registry.AgreesApartFrom id registry)

include h in
theorem registered_of_agreesApartFrom (hreg : Registered w.registry resolver) :
    Registered registry resolver := by
  intro b hb e he
  rw [h.contains]
  exact hreg b hb e he

include h in
/-- The other rules report what they reported before. -/
theorem filter_fileReports_of_agreesApartFrom (hreg : Registered w.registry resolver)
    (hw : w.Labels) (hw' : ({ w with registry } : Setup).Labels) (p : String) :
    (fileReports { w with registry } resolver p).filter (·.ruleId ≠ id) =
      (fileReports w resolver p).filter (·.ruleId ≠ id) := by
  have hreg' := registered_of_agreesApartFrom h hreg
  cases hs : w.source p with
  | error f =>
      have hsame : fileReports { w with registry } resolver p = fileReports w resolver p :=
        fileReports_congr hreg hreg' rfl (by simp [hs])
      rw [hsame]
  | ok s =>
      rw [fileReports_of_source hreg hs,
        fileReports_of_source (w := { w with registry }) hreg' hs, List.filter_flatMap,
        List.filter_flatMap]
      apply List.flatMap_congr
      intro e _
      rw [Inspection.filter_entryReports hw.rules fun i => i ≠ id,
        Inspection.filter_entryReports hw'.rules fun i => i ≠ id]
      split
      · rename_i he
        rw [Inspection.runRule_congr h (by simpa using he)]
      · rfl

end

/-- Each entry of a rule that crashes is reported once. -/
theorem filter_fileReports_of_crash (hreg : Registered w.registry resolver) (hw : w.Labels)
    {id p : String} {s : Source} (hs : w.source p = .ok s)
    (hcrash : ∀ e ∈ entriesFor resolver p, e.ruleId = id →
      ∃ rule c, w.registry.get? id = some rule ∧ rule.check s e = .error c) :
    (fileReports w resolver p).filter (·.ruleId = id) =
      .replicate ((entriesFor resolver p).countP (·.ruleId = id)) (Inspection.crashReport p id) := by
  rw [fileReports_of_source hreg hs, List.filter_flatMap]
  generalize entriesFor resolver p = entries at hcrash
  induction entries with
  | nil => rfl
  | cons e es ih =>
      rw [List.flatMap_cons, ih fun e' he' => hcrash e' (List.mem_cons_of_mem e he'),
        Inspection.filter_entryReports hw.rules fun i => i = id]
      by_cases he : e.ruleId = id
      · obtain ⟨rule, c, hrule, hcheck⟩ := hcrash e List.mem_cons_self he
        have hreport : Inspection.entryReports s.path (e, Inspection.runRule w.registry s e) =
            [Inspection.crashReport p id] := by
          rw [Inspection.runRule, he, hrule]
          dsimp only
          rw [hcheck, Inspection.entryReports, hw.path p s hs, he]
        rw [if_pos (by simpa using he), hreport, List.countP_cons_of_pos (by simpa using he),
          List.replicate_succ, List.singleton_append]
      · rw [if_neg (by simpa using he), List.countP_cons_of_neg (by simpa using he),
          List.nil_append]

/-! ### A file without a source -/

section
variable {p : String} {f : LoadFault} (h : w.FaultAt p f w')

include h in
theorem registered_of_faultAt (hreg : Registered w.registry resolver) :
    Registered w'.registry resolver := by
  rwa [h.registry]

include h in
theorem labels_of_faultAt (hw : w.Labels) : w'.Labels where
  path := by
    intro q s hs
    by_cases hq : q = p
    · rw [hq, h.fault] at hs
      cases hs
    · exact hw.path q s (h.others q hq ▸ hs)
  rules := by
    rw [h.registry]
    exact hw.rules

include h in
theorem fileReports_of_faultAt (hreg : Registered w.registry resolver) {q : String} (hq : q ≠ p) :
    fileReports w' resolver q = fileReports w resolver q := by
  refine fileReports_congr hreg (registered_of_faultAt h hreg) (h.others q hq) fun s _ e _ => ?_
  rw [h.registry]

end

/-! ### Two runs -/

theorem filter_sort_congr {ps : List String} {f g : String → List Diagnostic}
    {chosen : Diagnostic → Bool} (h : ∀ p ∈ ps, (f p).filter chosen = (g p).filter chosen) :
    (Diagnostic.sort (ps.flatMap f)).filter chosen =
      (Diagnostic.sort (ps.flatMap g)).filter chosen := by
  rw [Diagnostic.filter_sort, Diagnostic.filter_sort, List.filter_flatMap, List.filter_flatMap,
    List.flatMap_congr h]

/-- An analysis that can begin and is not cancelled. -/
def Uncancelled (w : Setup) (config : Config) (paths : List String) (r : Run) : Prop :=
  r.phase = .loading ∧ (r.analyze w config paths).2.cancelled = false

/-- An analysis that comes to its end with a result. -/
def EndsWith (w : Setup) (config : Config) (paths : List String) (r : Run) (result : Result) :
    Prop :=
  (r.analyze w config paths).1 = .ok result ∧ (r.analyze w config paths).2.phase = .done

variable {config : Config} {paths : List String} {r : Run}

theorem Uncancelled.endsWith (hr : Uncancelled w config paths r)
    (hreg : Registered w.registry config.resolver) :
    ∃ result, EndsWith w config paths r result ∧ result.diagnostics = Diagnostic.sort
      ((worklist config.resolver paths).flatMap (fileReports w config.resolver)) := by
  obtain ⟨result, hok, hdone, -, hsort⟩ := analyze_eq_sort config paths hreg hr.1 hr.2
  exact ⟨result, ⟨hok, hdone⟩, hsort⟩

/-- Without a cancellation from outside or while a file is read, there is none. -/
theorem uncancelled_of_no_cancels (hquiet : ∀ p, (w.read p).cancels = false)
    (hr : r.phase = .loading) (hc : r.cancelled = false) : Uncancelled w config paths r := by
  obtain ⟨r', hr', he⟩ := analyze_eq w config paths hr
  refine ⟨hr, ?_⟩
  rw [he, hr']
  apply uncancelled_of_quiet hquiet
  rw [(core_eq_iff.mp (core_beforeTasks config paths r)).2.1]
  exact hc

theorem filter_file_sort (hreg : Registered w.registry config.resolver) (hw : w.Labels)
    {p : String} (hp : p ∈ paths) (hi : config.resolver.isIgnored p = false) :
    (Diagnostic.sort ((worklist config.resolver paths).flatMap
      (fileReports w config.resolver))).filter (·.file = p) =
        Diagnostic.sort (fileReports w config.resolver p) := by
  rw [Diagnostic.filter_sort, filter_flatMap_reports]
  · exact (worklist_ascending config.resolver paths).imp ne_of_lt
  · intro q _ d hd
    exact file_of_mem_fileReports hreg hw hd
  · exact mem_worklist.mpr ⟨hp, hi⟩

theorem filter_ne_file_fileReports (hreg : Registered w.registry config.resolver) (hw : w.Labels)
    (p : String) : (fileReports w config.resolver p).filter (·.file ≠ p) = [] := by
  apply List.filter_eq_nil_iff.mpr
  intro d hd
  simpa using file_of_mem_fileReports hreg hw hd

/-- A rule that crashes, on whichever files, leaves the reports of the other rules and their order
as they were, and where it crashes it is reported once for each entry. A file that gives no source
is reported once, and the reports of the other files stay as they were. In either case the analysis
comes to its end. -/
theorem faults_stay_local {origin : Config.Origin} (hread : origin.IsRead)
    (hload : origin.load w.registry w.loader = .ok config) (hw : w.Labels)
    (hr : Uncancelled w config paths r) :
    ∃ result, EndsWith w config paths r result ∧
      (∀ id registry, w.registry.AgreesApartFrom id registry →
        ({ w with registry } : Setup).Labels →
        ∀ r', Uncancelled { w with registry } config paths r' →
        ∃ result', EndsWith { w with registry } config paths r' result' ∧
          result'.diagnostics.filter (·.ruleId ≠ id) =
            result.diagnostics.filter (·.ruleId ≠ id) ∧
          ∀ p ∈ paths, config.resolver.isIgnored p = false → ∀ s, w.source p = .ok s →
            (∀ e ∈ entriesFor config.resolver p, e.ruleId = id →
              ∃ rule c, registry.get? id = some rule ∧ rule.check s e = .error c) →
            (result'.diagnostics.filter (·.file = p)).filter (·.ruleId = id) =
              .replicate ((entriesFor config.resolver p).countP (·.ruleId = id))
                { file := p, line := 1, column := 1, ruleId := id, severity := .error,
                  message := "rule crashed" }) ∧
      ∀ w' p f, w.FaultAt p f w' → ∀ r', Uncancelled w' config paths r' →
        ∃ result', EndsWith w' config paths r' result' ∧
          result'.diagnostics.filter (·.file ≠ p) = result.diagnostics.filter (·.file ≠ p) ∧
          (entriesFor config.resolver p = [] → result'.diagnostics = result.diagnostics) ∧
          (p ∈ paths → config.resolver.isIgnored p = false → entriesFor config.resolver p ≠ [] →
            ∃ d, result'.diagnostics.filter (·.file = p) = [d] ∧ d.ruleId = "unparsable-file" ∧
              d.severity = .error) := by
  have hreg := registered_of_load hread hload
  obtain ⟨result, hends, hsort⟩ := hr.endsWith hreg
  refine ⟨result, hends, ?_, ?_⟩
  · intro id registry hagree hw' r' hr'
    have hreg' := registered_of_agreesApartFrom hagree hreg
    obtain ⟨result', hends', hsort'⟩ := hr'.endsWith hreg'
    refine ⟨result', hends', ?_⟩
    rw [hsort, hsort']
    refine ⟨?_, ?_⟩
    · exact filter_sort_congr fun p _ => filter_fileReports_of_agreesApartFrom hagree hreg hw hw' p
    · intro p hp hi s hs hcrash
      rw [filter_file_sort hreg' hw' hp hi, Diagnostic.filter_sort,
        filter_fileReports_of_crash (w := { w with registry }) hreg' hw' hs hcrash]
      exact List.perm_replicate.mp (Diagnostic.sort_stablySorted _).perm
  · intro w' p f hfault r' hr'
    have hreg' := registered_of_faultAt hfault hreg
    have hw' := labels_of_faultAt hfault hw
    obtain ⟨result', hends', hsort'⟩ := hr'.endsWith hreg'
    refine ⟨result', hends', ?_⟩
    rw [hsort, hsort']
    refine ⟨?_, ?_, ?_⟩
    · refine filter_sort_congr fun q _ => ?_
      by_cases hq : q = p
      · rw [hq, filter_ne_file_fileReports hreg hw, filter_ne_file_fileReports hreg' hw']
      · rw [fileReports_of_faultAt hfault hreg hq]
    · intro he
      congr 1
      apply List.flatMap_congr
      intro q _
      by_cases hq : q = p
      · rw [hq, fileReports_of_no_entries he, fileReports_of_no_entries he]
      · exact fileReports_of_faultAt hfault hreg hq
    · intro hp hi he
      rw [filter_file_sort hreg' hw' hp hi, fileReports_of_fault hreg' he hfault.fault]
      refine ⟨Inspection.faultReport p f, List.mergeSort_singleton _, ?_, ?_⟩
      · cases f <;> rfl
      · cases f <;> rfl

/-! ### A crash and an unreadable file -/

def crashingRule : Rule where
  id := "no-localstorage"
  description := ""
  readOptions := NodeRule.readNoOptions "no-localstorage"
  check := fun _ _ => .error ⟨"RuntimeError()"⟩

def emptyDisk : Setup where
  registry := .builtin
  read := fun _ => ⟨.content ⟨[], { root := .mk { kind := "program" } [] }⟩, false⟩

def damagedDisk : Setup :=
  { emptyDisk with
    read := fun p => if p = "a.ts" then ⟨.unreadable "gone", false⟩ else emptyDisk.read p }

theorem labels_emptyDisk : emptyDisk.Labels where
  path _ _ hs := SourceFile.path_of_parse hs
  rules _ _ hrule := (Registry.reportsInOrder_builtin (List.mem_of_find?_eq_some hrule)).labels

theorem faultAt_damagedDisk : emptyDisk.FaultAt "a.ts" (.unreadable "gone") damagedDisk where
  registry := rfl
  others := by
    intro q hq
    simp [damagedDisk, Setup.source, hq]
  fault := rfl

theorem faults_stay_local_storage :
    ∃ config, Config.Origin.load emptyDisk.registry emptyDisk.loader (.data storageBan) =
        .ok config ∧
      (∃ result, EndsWith { emptyDisk with registry := emptyDisk.registry.replace crashingRule }
          config ["a.ts", "b.ts"] { phase := .loading } result ∧
        (result.diagnostics.filter (·.file = "a.ts")).filter (·.ruleId = "no-localstorage") =
          [{ file := "a.ts", line := 1, column := 1, ruleId := "no-localstorage",
             severity := .error, message := "rule crashed" }]) ∧
      ∃ result d, EndsWith damagedDisk config ["a.ts", "b.ts"] { phase := .loading } result ∧
        result.diagnostics.filter (·.file = "a.ts") = [d] ∧ d.ruleId = "unparsable-file" := by
  have hentries : (Config.Origin.load emptyDisk.registry emptyDisk.loader
      (.data storageBan)).toOption.map (fun c =>
      (c.resolver.isIgnored "a.ts", (entriesFor c.resolver "a.ts").map (·.ruleId))) =
      some (false, ["no-localstorage"]) := by
    decide +kernel
  cases hload : Config.Origin.load emptyDisk.registry emptyDisk.loader (.data storageBan) with
  | error e => rw [hload] at hentries; cases hentries
  | ok config =>
      rw [hload] at hentries
      obtain ⟨hignored, hentries⟩ := Prod.mk.inj (Option.some.inj hentries)
      obtain ⟨e, he, hid⟩ := List.map_eq_singleton_iff.mp hentries
      have hread : Config.Origin.IsRead (.data storageBan) := trivial
      have hr : Uncancelled emptyDisk config ["a.ts", "b.ts"] { phase := .loading } :=
        uncancelled_of_no_cancels (fun _ => rfl) rfl rfl
      obtain ⟨result, -, hcrash, hfault⟩ := faults_stay_local hread hload labels_emptyDisk hr
      have hcontains : emptyDisk.registry.contains crashingRule.id = true := by decide +kernel
      have hlabels : ({ emptyDisk with registry := emptyDisk.registry.replace crashingRule } :
          Setup).Labels :=
        ⟨labels_emptyDisk.path, Registry.labels_replace hcontains (fun _ _ _ h => nomatch h)
          labels_emptyDisk.rules⟩
      refine ⟨config, rfl, ?_, ?_⟩
      · obtain ⟨result', hends, -, honce⟩ := hcrash _ _ (Registry.agreesApartFrom_replace hcontains)
          hlabels { phase := .loading } (uncancelled_of_no_cancels (fun _ => rfl) rfl rfl)
        obtain ⟨s, hs⟩ : ∃ s, emptyDisk.source "a.ts" = .ok s := ⟨_, rfl⟩
        refine ⟨result', hends, (honce "a.ts" (by simp) hignored s hs fun e _ _ => ?_).trans ?_⟩
        · obtain ⟨rule, hrule⟩ := Option.isSome_iff_exists.mp hcontains
          refine ⟨crashingRule, ⟨"RuntimeError()"⟩, ?_, rfl⟩
          have hid : rule.id = crashingRule.id := by simpa using List.find?_some hrule
          rw [Registry.get?_replace hcontains, hrule]
          simp [hid]
        · simp [he, hid, crashingRule]
      · have hquiet : ∀ p, (damagedDisk.read p).cancels = false := by
          intro p
          simp only [damagedDisk]
          split <;> rfl
        obtain ⟨result', hends, -, -, honce⟩ := hfault damagedDisk "a.ts" _ faultAt_damagedDisk
          { phase := .loading } (uncancelled_of_no_cancels hquiet rfl rfl)
        obtain ⟨d, hd, hrule, -⟩ := honce (by simp) hignored (by simp [he])
        exact ⟨result', d, hends, hd, hrule⟩

end Run

end BoundaryLint
