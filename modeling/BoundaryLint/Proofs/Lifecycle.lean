import BoundaryLint.Proofs.RunResult

/-!
# The life of a run

Whoever holds a run may call it in any order: to load a configuration, to analyze files, to do both
at once, or to cancel. The log of the run records every phase that it enters, also those in the
middle of a call. Each call is judged by the phase it finds, so the phases that are recorded form a
path, a call out of turn changes nothing, and a run that has come to an end stays as it is.
-/
namespace BoundaryLint

/-- One phase may be followed by another. -/
inductive Phase.Next : Phase → Phase → Prop
  | load : Next .idle .loading
  | analyze : Next .loading .analyzing
  | aggregate : Next .analyzing .aggregating
  | finish : Next .aggregating .done
  | refuse : Next .loading .failed
  | breakOff : Next .analyzing .failed

/-- Transitions that lead from one phase to another, each allowed and each from where the one before
it went. -/
inductive Phase.Path : Phase → List (Phase × Phase) → Phase → Prop
  | nil (p : Phase) : Path p [] p
  | cons {p q r : Phase} {ts : List (Phase × Phase)} :
      Next p q → Path q ts r → Path p ((p, q) :: ts) r

theorem Phase.Path.snoc {p q r : Phase} {ts : List (Phase × Phase)} (h : Path p ts q)
    (hnext : Next q r) : Path p (ts ++ [(q, r)]) r := by
  induction h with
  | nil p => exact .cons hnext (.nil r)
  | cons hstep _ ih => exact .cons hstep (ih hnext)

def Log.transition? : Log → Option (Phase × Phase)
  | .phase a b => some (a, b)
  | _ => none

namespace Run

/-- The transitions that a run has recorded, in order. -/
def trail (r : Run) : List (Phase × Phase) := r.logs.filterMap Log.transition?

@[simp] theorem phase_enter (r : Run) (p : Phase) : (r.enter p).phase = p := rfl

@[simp] theorem trail_enter (r : Run) (p : Phase) :
    (r.enter p).trail = r.trail ++ [(r.phase, p)] := by
  simp [trail, enter, log, Log.transition?]

/-! ### Tasks stay in their phase -/

/-- A run stands where another stood, and no transition came between. -/
def Stays (r r' : Run) : Prop := r'.trail = r.trail ∧ r'.phase = r.phase

theorem Stays.refl (r : Run) : r.Stays r := ⟨rfl, rfl⟩

theorem Stays.trans {r₁ r₂ r₃ : Run} (h : r₁.Stays r₂) (h' : r₂.Stays r₃) : r₁.Stays r₃ :=
  ⟨h'.1.trans h.1, h'.2.trans h.2⟩

theorem stays_log {l : Log} (h : l.transition? = none) (r : Run) : r.Stays (r.log l) := by
  simp [Stays, trail, log, h]

theorem stays_cancel (r : Run) : r.Stays r.cancel :=
  stays_log rfl r

theorem stays_logs {ls : List Log} (h : ∀ l ∈ ls, l.transition? = none) (r : Run) (clock : Clock) :
    r.Stays { r with logs := r.logs ++ ls, clock } := by
  have hnone : ls.filterMap Log.transition? = [] := List.filterMap_eq_nil_iff.mpr h
  simp [Stays, trail, hnone]

theorem transition?_of_mem_entryLogs {path : String} {limit : Number.Binary64} {clock : Clock}
    {os : List (Entry × RuleOutcome)} :
    ∀ l ∈ (Inspection.entryLogs path limit clock os).1, l.transition? = none := by
  induction os generalizing clock with
  | nil => simp [Inspection.entryLogs]
  | cons o os ih =>
      obtain ⟨e, outcome⟩ := o
      cases outcome with
      | notRegistered => simp [Inspection.entryLogs]
      | crashed c =>
          intro l hl
          simp only [Inspection.entryLogs, List.mem_cons] at hl
          rcases hl with rfl | rfl | hl
          · rfl
          · rfl
          · exact ih l hl
      | found ds =>
          intro l hl
          simp only [Inspection.entryLogs] at hl
          split at hl
          · rcases List.mem_cons.mp hl with rfl | hl
            · rfl
            · exact ih l hl
          · exact ih l hl

theorem transition?_of_mem_logs {path : String} {limit : Number.Binary64} {clock : Clock}
    {i : Inspection} : ∀ l ∈ (i.logs path limit clock).1, l.transition? = none := by
  unfold Inspection.logs
  split
  · simp [Log.transition?]
  · simp [Log.transition?]
  · simp [Log.transition?]
  · exact transition?_of_mem_entryLogs

section
variable (w : Setup) (resolver : Resolver)

theorem stays_afterInspection (path : String) (r : Run) :
    r.Stays (afterInspection w resolver path r) := by
  unfold afterInspection
  have hread : r.Stays { r with reads := r.reads ++ [path] } := ⟨rfl, rfl⟩
  cases (w.read path).cancels with
  | true => exact (hread.trans (stays_cancel _)).trans (stays_logs transition?_of_mem_logs _ _)
  | false => exact hread.trans (stays_logs transition?_of_mem_logs _ _)

theorem stays_task (path : String) (r : Run) : r.Stays (task w resolver path r).2 := by
  cases hc : r.cancelled with
  | true =>
      rw [task_of_cancelled w resolver path hc]
      exact .refl r
  | false =>
      by_cases he : entriesFor resolver path = []
      · rw [task_of_no_entries w resolver path hc he]
        exact .refl r
      · rw [task_of_entries w resolver path hc he]
        exact stays_afterInspection w resolver path r

theorem stays_tasks (ps : List String) (r : Run) : r.Stays (tasks w resolver ps r).2 := by
  induction ps generalizing r with
  | nil => exact .refl r
  | cons p ps ih => exact (stays_task w resolver p r).trans (ih _)

end

theorem stays_ignoring (ps : List String) (r : Run) :
    r.Stays (ps.foldl (fun r p => r.log (.ignoring p)) r) := by
  induction ps generalizing r with
  | nil => exact .refl r
  | cons p ps ih => exact (stays_log rfl r).trans (ih _)

/-! ### Calls -/

inductive Call where
  | load (origin : Config.Origin)
  | analyze (config : Config) (paths : List String)
  | run (origin : Config.Origin) (paths : List String)
  | cancel

inductive Reply where
  | loaded (c : Config)
  | result (r : Result)
  | refused (e : RunError)
  | nothing

namespace Reply

def ofLoad : Except RunError Config → Reply
  | .ok c => .loaded c
  | .error e => .refused e

def ofAnalysis : Except RunError Result → Reply
  | .ok r => .result r
  | .error e => .refused e

def isResult : Reply → Bool
  | .result _ => true
  | _ => false

def isRejection : Reply → Bool
  | .refused (.alreadyStarted _) => true
  | .refused (.notLoaded _) => true
  | _ => false

end Reply

namespace Call

def perform (w : Setup) (r : Run) : Call → Reply × Run
  | .load origin => (.ofLoad (r.load w origin).1, (r.load w origin).2)
  | .analyze config paths =>
    (.ofAnalysis (r.analyze w config paths).1, (r.analyze w config paths).2)
  | .run origin paths => (.ofAnalysis (r.run w origin paths).1, (r.run w origin paths).2)
  | .cancel => (.nothing, r.cancel)

/-- Whether a call may come in a phase. -/
def DueIn : Call → Phase → Prop
  | .load _, p => p = .idle
  | .analyze _ _, p => p = .loading
  | .run _ _, p => p = .idle
  | .cancel, _ => True

def origin? : Call → Option Config.Origin
  | .load origin => some origin
  | .run origin _ => some origin
  | _ => none

/-- If the configuration of a call is refused, the refusal is reported and not raised past those who
report it. -/
def Documented (w : Setup) (c : Call) : Prop :=
  ∀ origin e, c.origin? = some origin → origin.load w.registry w.loader = .error e →
    e.escapes = false

end Call

/-- How an analysis ends that starts from a run. -/
inductive Ends (r : Run) : Reply → Run → Prop
  | result {result : Result} {r' : Run} : r'.phase = .done →
      r'.trail = r.trail ++
        [(.loading, .analyzing), (.analyzing, .aggregating), (.aggregating, .done)] →
      Ends r (.result result) r'
  | missing {id : String} {r' : Run} : r'.phase = .failed →
      r'.trail = r.trail ++ [(.loading, .analyzing), (.analyzing, .failed)] →
      Ends r (.refused (.notRegistered id)) r'

/-- All that a call can do. -/
inductive Performs (w : Setup) (r : Run) : Call → Reply → Run → Prop
  | rejected {c : Call} {reply : Reply} : ¬ c.DueIn r.phase → reply.isRejection = true →
      Performs w r c reply r
  | cancelled : Performs w r .cancel .nothing r.cancel
  | loaded {origin : Config.Origin} {config : Config} : r.phase = .idle →
      origin.load w.registry w.loader = .ok config →
      Performs w r (.load origin) (.loaded config) (r.enter .loading)
  | refused {c : Call} {origin : Config.Origin} {e : Config.LoadError} : r.phase = .idle →
      c.origin? = some origin → origin.load w.registry w.loader = .error e →
      Performs w r c (.refused (.load e))
        (if e.escapes then r.enter .loading else (r.enter .loading).enter .failed)
  | analyzed {config : Config} {paths : List String} {reply : Reply} {r' : Run} :
      r.phase = .loading → Ends r reply r' → Performs w r (.analyze config paths) reply r'
  | ran {origin : Config.Origin} {config : Config} {paths : List String} {reply : Reply}
      {r' : Run} : r.phase = .idle → origin.load w.registry w.loader = .ok config →
      Ends (r.enter .loading) reply r' → Performs w r (.run origin paths) reply r'

section
variable (w : Setup)

theorem load_of_started (origin : Config.Origin) {r : Run} (h : r.phase ≠ .idle) :
    r.load w origin = (.error (.alreadyStarted r.phase), r) := by
  rw [load, if_pos (by simpa using h)]

theorem load_of_idle (origin : Config.Origin) {r : Run} (h : r.phase = .idle) :
    r.load w origin = match origin.load w.registry w.loader with
      | .ok c => (.ok c, r.enter .loading)
      | .error e => (.error (.load e),
          if e.escapes then r.enter .loading else (r.enter .loading).enter .failed) := by
  have hidle : ¬ (r.phase != .idle) = true := by simp [h]
  exact if_neg hidle

theorem analyze_of_not_loading (config : Config) (paths : List String) {r : Run}
    (h : r.phase ≠ .loading) : r.analyze w config paths = (.error (.notLoaded r.phase), r) := by
  rw [analyze, if_pos (by simpa using h)]

theorem ends_analyze (config : Config) (paths : List String) {r : Run} (h : r.phase = .loading) :
    Ends r (.ofAnalysis (r.analyze w config paths).1) (r.analyze w config paths).2 := by
  rw [analyze, if_neg (by simp [h])]
  dsimp only
  have hstart : (({ r with clock := r.clock.look } : Run).enter .analyzing).trail =
      r.trail ++ [(.loading, .analyzing)] := by
    rw [trail_enter]
    exact congrArg (fun p => r.trail ++ [(p, .analyzing)]) h
  have hstays := (stays_ignoring (paths.filter config.resolver.isIgnored)
    (({ r with clock := r.clock.look } : Run).enter .analyzing)).trans
      (stays_tasks w config.resolver (worklist config.resolver paths) _)
  generalize tasks w config.resolver (worklist config.resolver paths) _ = t at hstays ⊢
  obtain ⟨htrail, hphase⟩ := hstays
  rw [hstart] at htrail
  rw [phase_enter] at hphase
  cases missing? t.1 with
  | some id => exact .missing rfl (by rw [trail_enter, htrail, hphase, List.append_assoc]; rfl)
  | none =>
      have hquiet : ∀ r₀ : Run, ∀ clock, r₀.Stays
          { (if r₀.cancelled then r₀.log (.cancelled (skippedCount t.1)) else r₀) with clock } := by
        intro r₀ clock
        split
        · exact stays_log rfl r₀
        · exact .refl r₀
      obtain ⟨htrail', hphase'⟩ := hquiet (t.2.enter .aggregating) _
      refine .result rfl ?_
      rw [trail_enter, htrail', hphase', trail_enter, htrail, hphase, List.append_assoc,
        List.append_assoc]
      rfl

theorem performs (c : Call) (r : Run) : Performs w r c (c.perform w r).1 (c.perform w r).2 := by
  cases c with
  | cancel => exact .cancelled
  | analyze config paths =>
      by_cases hp : r.phase = .loading
      · exact .analyzed hp (ends_analyze w config paths hp)
      · rw [Call.perform, analyze_of_not_loading w config paths hp]
        exact .rejected hp rfl
  | load origin =>
      by_cases hp : r.phase = .idle
      · rw [Call.perform, load_of_idle w origin hp]
        cases hload : origin.load w.registry w.loader with
        | ok config => exact .loaded hp hload
        | error e => exact .refused hp rfl hload
      · rw [Call.perform, load_of_started w origin hp]
        exact .rejected hp rfl
  | run origin paths =>
      rw [Call.perform, run]
      by_cases hp : r.phase = .idle
      · rw [load_of_idle w origin hp]
        cases hload : origin.load w.registry w.loader with
        | ok config => exact .ran hp hload (ends_analyze w config paths rfl)
        | error e => exact .refused hp rfl hload
      · rw [load_of_started w origin hp]
        exact .rejected hp rfl

end

/-! ### What every call keeps -/

/-- The transitions of a run lead from its start to where it stands. -/
def OnPath (r : Run) : Prop := Phase.Path .idle r.trail r.phase

theorem OnPath.enter {r : Run} (h : r.OnPath) {p : Phase} (hnext : Phase.Next r.phase p) :
    (r.enter p).OnPath := by
  unfold OnPath
  rw [trail_enter]
  exact h.snoc hnext

theorem OnPath.stays {r r' : Run} (h : r.OnPath) (hs : r.Stays r') : r'.OnPath := by
  unfold OnPath
  rw [hs.1, hs.2]
  exact h

theorem OnPath.ends {r r' : Run} {reply : Reply} (h : r.OnPath) (hp : r.phase = .loading)
    (hends : Ends r reply r') : r'.OnPath := by
  unfold OnPath at h ⊢
  rw [hp] at h
  cases hends with
  | result hphase htrail =>
      rw [hphase, htrail]
      have hdone := ((h.snoc .analyze).snoc .aggregate).snoc .finish
      simpa using hdone
  | missing hphase htrail =>
      rw [hphase, htrail]
      have hfailed := (h.snoc .analyze).snoc .breakOff
      simpa using hfailed

section
variable {w : Setup} {r r' : Run} {c : Call} {reply : Reply}

theorem Performs.onPath (h : Performs w r c reply r') (hr : r.OnPath) : r'.OnPath := by
  have hload : r.phase = .idle → (r.enter .loading).OnPath := by
    intro hp
    exact hr.enter (hp ▸ .load)
  cases h with
  | rejected => exact hr
  | cancelled => exact hr.stays (stays_cancel r)
  | loaded hp => exact hload hp
  | refused hp =>
      split
      · exact hload hp
      · exact (hload hp).enter .refuse
  | analyzed hp hends => exact hr.ends hp hends
  | ran hp _ hends => exact (hload hp).ends rfl hends

/-- A run that has come to an end is called in vain. -/
theorem Performs.phase_of_ended (h : Performs w r c reply r')
    (hr : r.phase = .done ∨ r.phase = .failed) :
    r'.phase = r.phase ∧ reply.isResult = false := by
  cases h with
  | @rejected _ reply _ hrejected =>
      refine ⟨rfl, ?_⟩
      cases reply <;> simp_all [Reply.isRejection, Reply.isResult]
  | cancelled => exact ⟨rfl, rfl⟩
  | loaded hp => simp [hp] at hr
  | refused hp => simp [hp] at hr
  | analyzed hp => simp [hp] at hr
  | ran hp => simp [hp] at hr

theorem Ends.phase_of_result (h : Ends r reply r') (hresult : reply.isResult = true) :
    r'.phase = .done := by
  cases h with
  | result hphase => exact hphase
  | missing => cases hresult

theorem Performs.phase_of_result (h : Performs w r c reply r') (hresult : reply.isResult = true) :
    r'.phase = .done := by
  cases h with
  | @rejected _ reply _ hrejected =>
      cases reply <;> simp_all [Reply.isRejection, Reply.isResult]
  | cancelled => cases hresult
  | loaded => cases hresult
  | refused => cases hresult
  | analyzed _ hends => exact hends.phase_of_result hresult
  | ran _ _ hends => exact hends.phase_of_result hresult

theorem Ends.isRejection (h : Ends r reply r') : reply.isRejection = false := by
  cases h <;> rfl

theorem Performs.isRejection_iff (h : Performs w r c reply r') :
    (reply.isRejection = true ↔ ¬ c.DueIn r.phase) ∧ (reply.isRejection = true → r' = r) := by
  cases h with
  | rejected hdue hrejected => exact ⟨⟨fun _ => hdue, fun _ => hrejected⟩, fun _ => rfl⟩
  | cancelled => simp [Reply.isRejection, Call.DueIn]
  | loaded hp => simp [Reply.isRejection, Call.DueIn, hp]
  | refused hp horigin =>
      cases c with
      | load => simp [Reply.isRejection, Call.DueIn, hp]
      | run => simp [Reply.isRejection, Call.DueIn, hp]
      | analyze => cases horigin
      | cancel => cases horigin
  | analyzed hp hends => simp [hends.isRejection, Call.DueIn, hp]
  | ran hp _ hends => simp [hends.isRejection, Call.DueIn, hp]

theorem Performs.phase_of_cancel (h : Performs w r .cancel reply r') : r'.phase = r.phase := by
  cases h with
  | rejected => rfl
  | cancelled => rfl
  | refused _ horigin => cases horigin

theorem Ends.phase_ne_loading (h : Ends r reply r') : r'.phase ≠ .loading := by
  cases h with
  | result hphase => simp [hphase]
  | missing hphase => simp [hphase]

theorem Performs.of_loading (h : Performs w r c reply r') (hc : c.Documented w)
    (hr : r'.phase = .loading) : r.phase = .loading ∨ ∃ config, reply = .loaded config := by
  cases h with
  | rejected => exact .inl hr
  | cancelled => exact .inl hr
  | loaded => exact .inr ⟨_, rfl⟩
  | @refused _ origin e _ horigin hload =>
      rw [if_neg (by simp [hc origin e horigin hload])] at hr
      cases hr
  | analyzed _ hends => exact absurd hr hends.phase_ne_loading
  | ran _ _ hends => exact absurd hr hends.phase_ne_loading

end

/-! ### Histories -/

/-- A call with the run before and after it. -/
structure Exchange where
  before : Run
  call : Call
  reply : Reply
  after : Run

/-- The exchanges of a run that is called again and again. -/
def history (w : Setup) : List Call → Run → List Exchange
  | [], _ => []
  | c :: cs, r => ⟨r, c, (c.perform w r).1, (c.perform w r).2⟩ :: history w cs (c.perform w r).2

def afterCalls (w : Setup) : List Call → Run → Run
  | [], r => r
  | c :: cs, r => afterCalls w cs (c.perform w r).2

/-- Files are analyzed in an exchange if the phase of analysis is entered or a file is read. -/
def Exchange.Analyzes (x : Exchange) : Prop :=
  (∃ p, (p, .analyzing) ∈ x.after.trail.drop x.before.trail.length) ∨
    x.after.reads ≠ x.before.reads

section
variable {w : Setup}

theorem performs_of_mem_history {cs : List Call} {r : Run} {x : Exchange}
    (h : x ∈ history w cs r) : Performs w x.before x.call x.reply x.after := by
  induction cs generalizing r with
  | nil => cases h
  | cons c cs ih =>
      rcases List.mem_cons.mp h with rfl | h
      · exact performs w c r
      · exact ih h

theorem onPath_afterCalls (cs : List Call) {r : Run} (h : r.OnPath) :
    (afterCalls w cs r).OnPath := by
  induction cs generalizing r with
  | nil => exact h
  | cons c cs ih => exact ih ((performs w c r).onPath h)

theorem countP_result_of_ended (cs : List Call) {r : Run}
    (h : r.phase = .done ∨ r.phase = .failed) :
    (history w cs r).countP (·.reply.isResult) = 0 := by
  induction cs generalizing r with
  | nil => rfl
  | cons c cs ih =>
      have hstep := (performs w c r).phase_of_ended h
      rw [history, List.countP_cons, ih (by rwa [hstep.1]), hstep.2]
      rfl

/-- After a result the run has come to an end, and there is no other. -/
theorem countP_result_le_one (cs : List Call) (r : Run) :
    (history w cs r).countP (·.reply.isResult) ≤ 1 := by
  induction cs generalizing r with
  | nil => exact Nat.zero_le 1
  | cons c cs ih =>
      rw [history, List.countP_cons]
      have hrest := ih (c.perform w r).2
      by_cases hresult : (c.perform w r).1.isResult = true
      · have hdone := (performs w c r).phase_of_result hresult
        rw [countP_result_of_ended cs (.inl hdone), if_pos hresult]
      · rw [if_neg hresult]
        exact hrest

theorem of_analyzes {x : Exchange} (h : Performs w x.before x.call x.reply x.after)
    (hx : x.Analyzes) :
    x.before.phase = .loading ∨
      ∃ origin paths config, x.call = .run origin paths ∧
        origin.load w.registry w.loader = .ok config := by
  obtain ⟨r, c, reply, r'⟩ := x
  dsimp only at h ⊢
  unfold Exchange.Analyzes at hx
  cases h with
  | rejected => simp at hx
  | cancelled =>
      have hreads : r.cancel.reads = r.reads := rfl
      simp [(stays_cancel r).1, hreads] at hx
  | loaded =>
      have hreads : (r.enter .loading).reads = r.reads := rfl
      simp [hreads] at hx
  | refused =>
      have hreads : ∀ p, (r.enter p).reads = r.reads := fun _ => rfl
      have hreads' : ∀ p q, ((r.enter p).enter q).reads = r.reads := fun _ _ => rfl
      split at hx
      · simp [hreads] at hx
      · simp [hreads'] at hx
  | analyzed hp => exact .inl hp
  | ran _ hload => exact .inr ⟨_, _, _, rfl, hload⟩

theorem loaded_before_analysis {cs : List Call} (hcs : ∀ c ∈ cs, c.Documented w) {r : Run}
    {front back : List Exchange} {x : Exchange} (h : history w cs r = front ++ x :: back)
    (hx : x.Analyzes) :
    r.phase = .loading ∨ (∃ y ∈ front, ∃ config, y.reply = .loaded config) ∨
      ∃ origin paths config, x.call = .run origin paths ∧
        origin.load w.registry w.loader = .ok config := by
  induction cs generalizing r front with
  | nil => simp [history] at h
  | cons c cs ih =>
      cases front with
      | nil =>
          obtain ⟨rfl, -⟩ := List.cons.inj h
          exact (of_analyzes (performs w c r) hx).imp id .inr
      | cons y front =>
          obtain ⟨rfl, hrest⟩ := List.cons.inj h
          have hcs' := fun c hc => hcs c (List.mem_cons_of_mem _ hc)
          rcases ih hcs' hrest with hp | ⟨y, hy, hloaded⟩ | hrun
          · have hc := hcs c List.mem_cons_self
            rcases (performs w c r).of_loading hc hp with hp | hloaded
            · exact .inl hp
            · exact .inr (.inl ⟨_, List.mem_cons_self, hloaded⟩)
          · exact .inr (.inl ⟨y, List.mem_cons_of_mem _ hy, hloaded⟩)
          · exact .inr (.inr hrun)

end

/-- However a fresh run is called, its transitions form a path of phases, and it never leaves its
last one. At most one call gives a result. A call is rejected exactly if it comes out of turn, and
then nothing changes; a cancellation does not change the phase. If refused configurations are
reported as such, no file is analyzed unless a configuration was loaded before. -/
theorem calls_follow_lifecycle (w : Setup) (cancelled : Bool) (clock : Clock) (calls : List Call) :
    Phase.Path .idle (afterCalls w calls { cancelled, clock }).trail
        (afterCalls w calls { cancelled, clock }).phase ∧
      (∀ x ∈ history w calls { cancelled, clock },
        x.before.phase = .done ∨ x.before.phase = .failed → x.after.phase = x.before.phase) ∧
      (history w calls { cancelled, clock }).countP (·.reply.isResult) ≤ 1 ∧
      (∀ x ∈ history w calls { cancelled, clock },
        (x.reply.isRejection = true ↔ ¬ x.call.DueIn x.before.phase) ∧
        (x.reply.isRejection = true → x.after = x.before) ∧
        (x.call = .cancel → x.after.phase = x.before.phase)) ∧
      ((∀ c ∈ calls, c.Documented w) → ∀ front x back,
        history w calls { cancelled, clock } = front ++ x :: back → x.Analyzes →
        (∃ y ∈ front, ∃ config, y.reply = .loaded config) ∨
          ∃ origin paths config, x.call = .run origin paths ∧
            origin.load w.registry w.loader = .ok config) := by
  refine ⟨onPath_afterCalls calls (.nil .idle), ?_, countP_result_le_one calls _, ?_, ?_⟩
  · intro x hx hended
    exact ((performs_of_mem_history hx).phase_of_ended hended).1
  · intro x hx
    have hperforms := performs_of_mem_history hx
    obtain ⟨hiff, hsame⟩ := hperforms.isRejection_iff
    refine ⟨hiff, hsame, fun hcancel => ?_⟩
    rw [hcancel] at hperforms
    exact hperforms.phase_of_cancel
  · intro hcalls front x back hhistory hx
    rcases loaded_before_analysis hcalls hhistory hx with hp | hloaded
    · cases hp
    · exact hloaded

/-! ### An analysis that comes too early and one in time -/

def noBlocks : Config := { version := 1, blocks := [], ignores := ⟨[], [], []⟩ }

def sampleCalls : List Call :=
  [.analyze noBlocks ["a.ts"], .load (.data storageBan), .cancel, .analyze noBlocks ["a.ts"]]

theorem documented_sampleCalls : ∀ c ∈ sampleCalls, c.Documented unreadableDisk := by
  have hok : (Config.Origin.load unreadableDisk.registry unreadableDisk.loader
      (.data storageBan)).isOk = true := by
    decide +kernel
  intro c hc origin e horigin hload
  simp only [sampleCalls, List.mem_cons, List.not_mem_nil, or_false] at hc
  rcases hc with rfl | rfl | rfl | rfl
  · cases horigin
  · cases horigin
    rw [hload] at hok
    cases hok
  · cases horigin
  · cases horigin

theorem calls_follow_lifecycle_sampleCalls :
    (∀ c ∈ sampleCalls, c.Documented unreadableDisk) ∧
      (history unreadableDisk sampleCalls {}).countP (·.reply.isResult) = 1 ∧
      ∃ front x, history unreadableDisk sampleCalls {} = front ++ [x] ∧ x.Analyzes ∧
        ∃ y ∈ front, ∃ config, y.reply = .loaded config := by
  have htrails : (history unreadableDisk sampleCalls {}).map (fun x =>
      (x.after.trail.drop x.before.trail.length, x.reply.isResult, x.call.origin?.isSome)) =
      [([], false, false), ([(.idle, .loading)], false, true), ([], false, false),
        ([(.loading, .analyzing), (.analyzing, .aggregating), (.aggregating, .done)], true,
          false)] := by
    decide +kernel
  have hloaded := (calls_follow_lifecycle unreadableDisk false {} sampleCalls).2.2.2.2
    documented_sampleCalls
  generalize history unreadableDisk sampleCalls {} = h at htrails hloaded ⊢
  obtain ⟨x₁, _, rfl, hx₁, h₁⟩ := List.map_eq_cons_iff.mp htrails
  obtain ⟨x₂, _, rfl, hx₂, h₂⟩ := List.map_eq_cons_iff.mp h₁
  obtain ⟨x₃, _, rfl, hx₃, h₃⟩ := List.map_eq_cons_iff.mp h₂
  obtain ⟨x₄, rfl, hx₄⟩ := List.map_eq_singleton_iff.mp h₃
  rw [Prod.mk.injEq, Prod.mk.injEq] at hx₁ hx₂ hx₃ hx₄
  have hanalyzes : x₄.Analyzes := .inl ⟨.loading, by simp [hx₄.1]⟩
  have hresults : [x₁, x₂, x₃, x₄].countP (·.reply.isResult) = 1 := by
    simp [hx₁.2.1, hx₂.2.1, hx₃.2.1, hx₄.2.1]
  refine ⟨documented_sampleCalls, hresults, [x₁, x₂, x₃], x₄, rfl, hanalyzes, ?_⟩
  rcases hloaded [x₁, x₂, x₃] x₄ [] rfl hanalyzes with hfront | ⟨origin, paths, config, hrun, -⟩
  · exact hfront
  · rw [hrun] at hx₄
    cases hx₄.2.2

end Run

end BoundaryLint
