import BoundaryLint.Proofs.RunResult
import Mathlib.Algebra.GroupWithZero.Nat

/-!
# Schedules

An analysis hands one task for each path of the worklist to a pool of workers, in ascending order.
Workers start and finish tasks in any order, and a cancellation may come at any moment. A task looks
at the flag once, when it starts. The main thread waits for the tasks in the order of submission and
counts or collects what comes of each.

Which tasks start before the cancellation is up to the schedule. Nothing else about it can be seen
in the result. The analysis that runs its tasks in turn is one of the schedules.
-/
namespace BoundaryLint.Schedule
open Run

/-- Where a submitted task stands. A running task knows whether it found the run cancelled. -/
inductive TaskState where
  | waiting
  | running (foundCancelled : Bool)
  | finished (o : TaskOutcome)
  deriving Repr

structure State where
  cancelled : Bool
  /-- The paths whose tasks are still to be submitted, in order. -/
  unsubmitted : List String
  /-- The tasks whose outcomes are still to be collected, in the order of submission. -/
  futures : List (String × TaskState) := []
  skipped : Nat := 0
  found : Collected := .empty
  /-- The rule that a collected task missed. -/
  missing : Option String := none
  deriving Repr

inductive Event where
  | submit
  | start (path : String)
  | finish (path : String)
  | collect
  | cancel
  deriving DecidableEq, Repr

def initial (resolver : Resolver) (paths : List String) (cancelled : Bool) : State :=
  { cancelled, unsubmitted := worklist resolver paths }

/-- Takes the outcome of the first future into account. -/
def State.take (s : State) (p : String) (o : TaskOutcome) (rest : List (String × TaskState)) :
    State :=
  { s with
    futures := rest
    skipped := if o.isSkipped then s.skipped + 1 else s.skipped
    found := gather s.found (p, o)
    missing := missing? [(p, o)] }

section
variable (w : Setup) (resolver : Resolver)

/-- What a task comes to that did or did not find the run cancelled. -/
def outcome (foundCancelled : Bool) (p : String) : TaskOutcome :=
  if foundCancelled then .skipped else fileOutcome w resolver p

/-- One step of the main thread, of a worker or of whoever cancels. After a missing rule no more
outcomes are collected. -/
inductive Step : State → Event → State → Prop
  | submit {s : State} {p : String} {ps : List String} : s.unsubmitted = p :: ps →
      Step s .submit { s with unsubmitted := ps, futures := s.futures ++ [(p, .waiting)] }
  | start {s : State} {p : String} {l₁ l₂ : List (String × TaskState)} :
      s.futures = l₁ ++ (p, .waiting) :: l₂ →
      Step s (.start p) { s with futures := l₁ ++ (p, .running s.cancelled) :: l₂ }
  | finish {s : State} {p : String} {c : Bool} {l₁ l₂ : List (String × TaskState)} :
      s.futures = l₁ ++ (p, .running c) :: l₂ →
      Step s (.finish p)
        { s with futures := l₁ ++ (p, .finished (outcome w resolver c p)) :: l₂ }
  | collect {s : State} {p : String} {o : TaskOutcome} {rest : List (String × TaskState)} :
      s.unsubmitted = [] → s.missing = none → s.futures = (p, .finished o) :: rest →
      Step s .collect (s.take p o rest)
  | cancel {s : State} : Step s .cancel { s with cancelled := true }

inductive Trace : State → List Event → State → Prop
  | done (s : State) : Trace s [] s
  | step {s t u : State} {e : Event} {es : List Event} :
      Step w resolver s e t → Trace t es u → Trace s (e :: es) u

end

/-- All tasks have come to an end, and all outcomes are collected unless a rule was missing. -/
def State.Complete (s : State) : Prop :=
  s.unsubmitted = [] ∧ (∀ f ∈ s.futures, ∃ o, f.2 = .finished o) ∧
    (s.missing = none → s.futures = [])

def State.result (s : State) (config : Config) (elapsed : Elapsed) : Except RunError Result :=
  match s.missing with
  | some id => .error (.notRegistered id)
  | none => .ok
      { diagnostics := s.found.results
        filesAnalyzed := s.found.fileCount
        filesSkipped := s.skipped
        rulesConfigured := config.ruleCount
        isPartial := s.cancelled
        elapsed }

def Event.flag (c : Bool) : Event → Bool
  | .cancel => true
  | _ => c

/-- Whether an event starts the task of a path while the flag is not set. -/
def Event.begins (path : String) (c : Bool) : Event → Bool
  | .start p => !c && p == path
  | _ => false

/-- Whether the task of a path starts before a cancellation. -/
def begins (path : String) : Bool → List Event → Bool
  | _, [] => false
  | c, e :: es => e.begins path c || begins path (e.flag c) es

variable {w : Setup} {resolver : Resolver}

theorem Step.flag {s t : State} {e : Event} (h : Step w resolver s e t) :
    t.cancelled = e.flag s.cancelled := by
  cases h <;> rfl

theorem Trace.flag {s t : State} {es : List Event} (h : Trace w resolver s es t) :
    t.cancelled = (s.cancelled || decide (.cancel ∈ es)) := by
  induction h with
  | done s => simp
  | @step s t u e es hstep _ ih =>
      rw [ih, hstep.flag]
      cases e <;> simp [Event.flag]

theorem Trace.append {s t u : State} {es fs : List Event} (h : Trace w resolver s es t)
    (h' : Trace w resolver t fs u) : Trace w resolver s (es ++ fs) u := by
  induction h with
  | done s => exact h'
  | step hstep _ ih => exact .step hstep (ih h')

/-! ### The invariant -/

/-- What is known about a task when `started` says which tasks began before a cancellation. -/
def Fits (w : Setup) (resolver : Resolver) (started : String → Bool) (cancelled : Bool) :
    String × TaskState → Prop
  | (p, .waiting) => started p = false
  | (p, .running c) => c = !started p ∧ (c = true → cancelled = true)
  | (p, .finished o) =>
      o = outcome w resolver (!started p) p ∧ (started p = false → cancelled = true)

theorem Fits.congr {started started' : String → Bool} {c : Bool} {f : String × TaskState}
    (h : Fits w resolver started c f) (hf : started f.1 = started' f.1) :
    Fits w resolver started' c f := by
  obtain ⟨p, t⟩ := f
  cases t <;> simpa only [Fits, hf] using h

theorem Fits.cancel {started : String → Bool} {c : Bool} {f : String × TaskState}
    (h : Fits w resolver started c f) : Fits w resolver started true f := by
  obtain ⟨p, t⟩ := f
  cases t with
  | waiting => exact h
  | running b => exact ⟨h.1, fun _ => rfl⟩
  | finished o => exact ⟨h.1, fun _ => rfl⟩

/-- The outcomes `os` are collected, and with the futures and the paths to submit they make up the
worklist. The counter, the table and the missing rule are those of `os`. -/
structure Inv (w : Setup) (resolver : Resolver) (work : List String) (started : String → Bool)
    (s : State) (os : List (String × TaskOutcome)) : Prop where
  paths : os.map (·.1) ++ (s.futures.map (·.1) ++ s.unsubmitted) = work
  outcomes : os = outcomesOf w resolver started (os.map (·.1))
  late : ∀ o ∈ os, started o.1 = false → s.cancelled = true
  futures : ∀ f ∈ s.futures, Fits w resolver started s.cancelled f
  unsubmitted : ∀ p ∈ s.unsubmitted, started p = false
  found : s.found = Run.collect os
  skipped : s.skipped = skippedCount os
  missing : s.missing = missing? os

theorem inv_initial (paths : List String) (c : Bool) :
    Inv w resolver (worklist resolver paths) (fun _ => false) (initial resolver paths c) [] where
  paths := rfl
  outcomes := rfl
  late := by simp
  futures := by simp [initial]
  unsubmitted := by simp
  found := rfl
  skipped := rfl
  missing := rfl

variable {work : List String} {started : String → Bool} {s t : State}
variable {os : List (String × TaskOutcome)}

/-- A task that starts before a cancellation joins those that did. The other paths of the worklist
are different from its path, so nothing changes for them. -/
theorem Inv.start (hwork : work.Nodup) (h : Inv w resolver work started s os) {p : String}
    {l₁ l₂ : List (String × TaskState)} (hs : s.futures = l₁ ++ (p, .waiting) :: l₂) :
    Inv w resolver work (fun q => started q || p == q)
      { s with futures := l₁ ++ (p, .running false) :: l₂ } os := by
  have hnodup : (os.map (·.1) ++ ((l₁ ++ (p, TaskState.waiting) :: l₂).map (·.1) ++
      s.unsubmitted)).Nodup := by
    rw [← hs, h.paths]
    exact hwork
  have hother : ∀ q ∈ os.map (·.1) ++ (l₁.map (·.1) ++ (l₂.map (·.1) ++ s.unsubmitted)),
      started q = (started q || p == q) := by
    intro q hq
    have hne : p ≠ q := by
      rintro rfl
      simp only [List.map_append, List.map_cons, List.append_assoc, List.cons_append] at hnodup
      rw [← List.append_assoc, List.nodup_middle, List.nodup_cons, List.append_assoc] at hnodup
      exact hnodup.1 hq
    simp [hne]
  have hfits : ∀ f ∈ l₁ ++ l₂, Fits w resolver (fun q => started q || p == q) s.cancelled f := by
    intro f hf
    have hmem : f ∈ s.futures := by
      rw [hs]
      rcases List.mem_append.mp hf with hf | hf <;> simp [hf]
    apply (h.futures f hmem).congr
    apply hother
    rcases List.mem_append.mp hf with hf | hf
    · simp only [List.mem_append]
      exact .inr (.inl (List.mem_map_of_mem hf))
    · simp only [List.mem_append]
      exact .inr (.inr (.inl (List.mem_map_of_mem hf)))
  refine ⟨?_, ?_, ?_, ?_, ?_, h.found, h.skipped, h.missing⟩
  · rw [← h.paths, hs]
    simp
  · rw [← outcomesOf_congr w resolver fun q hq => hother q (by simp [hq])]
    exact h.outcomes
  · intro o ho hlate
    rw [← hother o.1 (by simp [List.mem_map_of_mem ho])] at hlate
    exact h.late o ho hlate
  · intro f hf
    rcases List.mem_append.mp hf with hf | hf
    · exact hfits f (by simp [hf])
    · rcases List.mem_cons.mp hf with rfl | hf
      · simp [Fits]
      · exact hfits f (by simp [hf])
  · intro q hq
    rw [← hother q (by simp [hq])]
    exact h.unsubmitted q hq

theorem Inv.replace (h : Inv w resolver work started s os) {p : String} {a b : TaskState}
    {l₁ l₂ : List (String × TaskState)} (hs : s.futures = l₁ ++ (p, a) :: l₂)
    (hb : Fits w resolver started s.cancelled (p, b)) :
    Inv w resolver work started { s with futures := l₁ ++ (p, b) :: l₂ } os := by
  refine ⟨?_, h.outcomes, h.late, ?_, h.unsubmitted, h.found, h.skipped, h.missing⟩
  · rw [← h.paths, hs]
    simp
  · intro f hf
    rcases List.mem_append.mp hf with hf | hf
    · exact h.futures f (by simp [hs, hf])
    · rcases List.mem_cons.mp hf with rfl | hf
      · exact hb
      · exact h.futures f (by simp [hs, hf])

theorem Inv.submit (h : Inv w resolver work started s os) {p : String} {ps : List String}
    (hs : s.unsubmitted = p :: ps) :
    Inv w resolver work started
      { s with unsubmitted := ps, futures := s.futures ++ [(p, .waiting)] } os := by
  refine ⟨?_, h.outcomes, h.late, ?_, ?_, h.found, h.skipped, h.missing⟩
  · rw [← h.paths, hs]
    simp
  · intro f hf
    rcases List.mem_append.mp hf with hf | hf
    · exact h.futures f hf
    · obtain rfl := List.mem_singleton.mp hf
      exact h.unsubmitted p (by simp [hs])
  · intro q hq
    exact h.unsubmitted q (by simp [hs, hq])

theorem missing?_append (os os' : List (String × TaskOutcome)) :
    missing? (os ++ os') = (missing? os).or (missing? os') := by
  induction os with
  | nil => rfl
  | cons o os ih =>
      obtain ⟨p, o⟩ := o
      cases o with
      | notRegistered id => rfl
      | skipped => exact ih
      | analyzed ds => exact ih

theorem Inv.collect (h : Inv w resolver work started s os) {p : String} {o : TaskOutcome}
    {rest : List (String × TaskState)} (hm : s.missing = none)
    (hs : s.futures = (p, .finished o) :: rest) :
    Inv w resolver work started (s.take p o rest) (os ++ [(p, o)]) := by
  obtain ⟨ho, hlate⟩ : Fits w resolver started s.cancelled (p, .finished o) :=
    h.futures _ (by simp [hs])
  refine ⟨?_, ?_, ?_, ?_, h.unsubmitted, ?_, ?_, ?_⟩
  · rw [← h.paths, hs]
    simp [State.take]
  · rw [List.map_append, outcomesOf, List.map_append]
    congr 1
    · exact h.outcomes
    · cases hp : started p <;> simp [ho, outcome, hp]
  · intro q hq hstart
    rcases List.mem_append.mp hq with hq | hq
    · exact h.late q hq hstart
    · obtain rfl := List.mem_singleton.mp hq
      exact hlate hstart
  · intro f hf
    exact h.futures f (by simp only [hs, List.mem_cons]; exact .inr hf)
  · simp [State.take, Run.collect, h.found]
  · cases o <;> simp [State.take, skippedCount, TaskOutcome.isSkipped, h.skipped]
  · rw [missing?_append, ← h.missing, hm]
    rfl

theorem Inv.cancel (h : Inv w resolver work started s os) :
    Inv w resolver work started { s with cancelled := true } os where
  paths := h.paths
  outcomes := h.outcomes
  late _ _ _ := rfl
  futures f hf := (h.futures f hf).cancel
  unsubmitted := h.unsubmitted
  found := h.found
  skipped := h.skipped
  missing := h.missing

/-- One step keeps the invariant, for the tasks that have begun by then. -/
theorem Step.inv (hwork : work.Nodup) {e : Event} (hstep : Step w resolver s e t)
    (h : Inv w resolver work started s os) :
    ∃ os', Inv w resolver work (fun q => started q || e.begins q s.cancelled) t os' := by
  cases hstep with
  | submit hs => exact ⟨os, by simpa [Event.begins] using h.submit hs⟩
  | @start p l₁ l₂ hs =>
      refine ⟨os, ?_⟩
      cases hc : s.cancelled with
      | false => simpa [Event.begins, hc] using h.start hwork hs
      | true =>
          have hp : started p = false := h.futures (p, .waiting) (by simp [hs])
          have hfits : Fits w resolver started s.cancelled (p, .running true) := by
            simp [Fits, hp, hc]
          simpa [Event.begins, hc] using h.replace hs hfits
  | @finish p c l₁ l₂ hs =>
      obtain ⟨hp, hlate⟩ : Fits w resolver started s.cancelled (p, .running c) :=
        h.futures _ (by simp [hs])
      have hfits : Fits w resolver started s.cancelled
          (p, .finished (outcome w resolver c p)) := by
        refine ⟨by rw [hp], fun hstart => hlate ?_⟩
        rw [hp, hstart]
        rfl
      exact ⟨os, by simpa [Event.begins] using h.replace hs hfits⟩
  | @collect p o rest _ hm hs =>
      exact ⟨os ++ [(p, o)], by simpa [Event.begins] using h.collect hm hs⟩
  | cancel => exact ⟨os, by simpa [Event.begins] using h.cancel⟩

/-- A whole schedule keeps the invariant. -/
theorem Trace.inv (hwork : work.Nodup) {es : List Event} (htrace : Trace w resolver s es t)
    (h : Inv w resolver work started s os) :
    ∃ os', Inv w resolver work (fun q => started q || begins q s.cancelled es) t os' := by
  induction htrace generalizing started os with
  | done s => exact ⟨os, by simpa [begins] using h⟩
  | @step s t u e es hstep _ ih =>
      obtain ⟨os₁, h₁⟩ := hstep.inv hwork h
      obtain ⟨os₂, h₂⟩ := ih h₁
      refine ⟨os₂, ?_⟩
      simpa only [begins, hstep.flag, Bool.or_assoc] using h₂

/-! ### Every schedule can be brought to its end -/

/-- How many steps a task still needs until it is collected. -/
def TaskState.steps : TaskState → Nat
  | .waiting => 3
  | .running _ => 2
  | .finished _ => 1

/-- How many steps besides cancellations a schedule can still make. -/
def State.steps (s : State) : Nat :=
  4 * s.unsubmitted.length + (s.futures.map fun f => f.2.steps).sum

theorem Step.steps {e : Event} (h : Step w resolver s e t) :
    if e = .cancel then t.steps = s.steps else t.steps + 1 = s.steps := by
  cases h with
  | submit hs =>
      simp [State.steps, hs, TaskState.steps]
      omega
  | start hs =>
      simp [State.steps, hs, TaskState.steps]
      omega
  | finish hs =>
      simp [State.steps, hs, TaskState.steps]
      omega
  | collect _ _ hs =>
      simp [State.steps, hs, TaskState.steps, State.take]
      omega
  | cancel => simp [State.steps]

/-- A schedule that is not complete can go on without a cancellation. -/
theorem exists_step (w : Setup) (resolver : Resolver) (hs : ¬s.Complete) :
    ∃ e t, e ≠ .cancel ∧ Step w resolver s e t := by
  cases hu : s.unsubmitted with
  | cons p ps => exact ⟨.submit, _, by simp, .submit hu⟩
  | nil =>
      by_cases hall : ∀ f ∈ s.futures, ∃ o, f.2 = .finished o
      · -- all tasks are finished, so the first outcome can be collected
        have hm : s.missing = none ∧ s.futures ≠ [] := by
          by_contra hcon
          exact hs ⟨hu, hall, fun hm => by_contra fun hne => hcon ⟨hm, hne⟩⟩
        obtain ⟨⟨p, t⟩, rest, hf⟩ := List.exists_cons_of_ne_nil hm.2
        obtain ⟨o, rfl⟩ := hall (p, t) (by simp [hf])
        exact ⟨.collect, _, by simp, .collect hu hm.1 hf⟩
      · push Not at hall
        obtain ⟨⟨p, t⟩, hmem, hne⟩ := hall
        obtain ⟨l₁, l₂, hf⟩ := List.append_of_mem hmem
        cases t with
        | waiting => exact ⟨.start p, _, by simp, .start hf⟩
        | running c => exact ⟨.finish p, _, by simp, .finish hf⟩
        | finished o => exact absurd rfl (hne o)

theorem exists_complete (w : Setup) (resolver : Resolver) (s : State) :
    ∃ es t, Trace w resolver s es t ∧ t.Complete := by
  induction hn : s.steps using Nat.strong_induction_on generalizing s with
  | _ n ih =>
      by_cases hs : s.Complete
      · exact ⟨[], s, .done s, hs⟩
      · obtain ⟨e, t, he, hstep⟩ := exists_step w resolver hs
        have hsteps := hstep.steps
        rw [if_neg he] at hsteps
        obtain ⟨es, u, htrace, hu⟩ := ih t.steps (by omega) t rfl
        exact ⟨e :: es, u, .step hstep htrace, hu⟩

/-- The outcomes of a complete schedule, if all rules are registered. -/
theorem Inv.complete (hreg : Registered w.registry resolver)
    (h : Inv w resolver work started s os) (hs : s.Complete) :
    os = outcomesOf w resolver started work ∧ s.missing = none := by
  have hm : s.missing = none := by
    rw [h.missing, h.outcomes]
    exact missing?_outcomesOf hreg started
  have hpaths := h.paths
  rw [hs.2.2 hm, hs.1] at hpaths
  simp only [List.map_nil, List.append_nil] at hpaths
  exact ⟨hpaths ▸ h.outcomes, hm⟩

/-! ### Tasks in turn -/

theorem trace_submit (w : Setup) (resolver : Resolver) (s : State) :
    ∃ es, Trace w resolver s es
      { s with unsubmitted := [], futures := s.futures ++ s.unsubmitted.map (·, .waiting) } := by
  induction hu : s.unsubmitted generalizing s with
  | nil =>
      refine ⟨[], ?_⟩
      have hsame : { s with unsubmitted := [] } = s := by rw [← hu]
      simpa [hsame] using Trace.done s
  | cons p ps ih =>
      obtain ⟨es, htrace⟩ := ih
        { s with unsubmitted := ps, futures := s.futures ++ [(p, .waiting)] } rfl
      exact ⟨.submit :: es, .step (.submit hu) (by simpa using htrace)⟩

/-- A task that starts and finishes while no other task does, and may be cancelled in between. -/
theorem trace_task (w : Setup) (resolver : Resolver) {s : State} {r : Run} {p : String}
    {l₁ l₂ : List (String × TaskState)} (hc : s.cancelled = r.cancelled)
    (hs : s.futures = l₁ ++ (p, .waiting) :: l₂) :
    ∃ es, Trace w resolver s es
      { s with
        cancelled := (task w resolver p r).2.cancelled
        futures := l₁ ++ (p, .finished (task w resolver p r).1) :: l₂ } := by
  have hout : outcome w resolver s.cancelled p = (task w resolver p r).1 := by
    rw [task_fst, hc]
    rfl
  have hstart : Step w resolver s (.start p) _ := .start hs
  by_cases hsame : (task w resolver p r).2.cancelled = s.cancelled
  · refine ⟨[.start p, .finish p], .step hstart (.step (.finish rfl) ?_)⟩
    rw [hsame, hout]
    exact .done _
  · -- the flag only ever changes to `true`
    have htrue : (task w resolver p r).2.cancelled = true := by
      cases hr : r.cancelled with
      | true => exact cancelled_task w resolver p hr
      | false => simpa [hc, hr] using hsame
    refine ⟨[.start p, .cancel, .finish p],
      .step hstart (.step .cancel (.step (.finish (c := s.cancelled) rfl) ?_))⟩
    rw [htrue, hout]
    exact .done _

theorem trace_tasks (w : Setup) (resolver : Resolver) (ps : List String) {s : State} {r : Run}
    {l : List (String × TaskState)} (hc : s.cancelled = r.cancelled)
    (hs : s.futures = l ++ ps.map (·, .waiting)) :
    ∃ es, Trace w resolver s es
      { s with
        cancelled := (tasks w resolver ps r).2.cancelled
        futures := l ++ (tasks w resolver ps r).1.map fun o => (o.1, .finished o.2) } := by
  induction ps generalizing s r l with
  | nil =>
      refine ⟨[], ?_⟩
      have hsame : s = { s with cancelled := r.cancelled, futures := l } := by
        rw [← hc, show l = s.futures by simpa using hs.symm]
      simpa [tasks, ← hsame] using Trace.done s
  | cons p ps ih =>
      obtain ⟨es, hfirst⟩ := trace_task w resolver hc (by simpa using hs)
      obtain ⟨es', hrest⟩ := ih (r := (task w resolver p r).2)
        (l := l ++ [(p, .finished (task w resolver p r).1)])
        (s := { s with
          cancelled := (task w resolver p r).2.cancelled
          futures := l ++ (p, .finished (task w resolver p r).1) :: ps.map (·, .waiting) })
        rfl (by simp)
      refine ⟨es ++ es', hfirst.append ?_⟩
      simpa [tasks] using hrest

theorem trace_collect (w : Setup) (resolver : Resolver) (os : List (String × TaskOutcome))
    {s : State} (hu : s.unsubmitted = []) (hm : s.missing = none)
    (hs : s.futures = os.map fun o => (o.1, .finished o.2)) :
    ∃ es t, Trace w resolver s es t ∧ t.Complete ∧ t.cancelled = s.cancelled ∧
      t.missing = missing? os ∧
      (missing? os = none → t.found = os.foldl gather s.found ∧
        t.skipped = s.skipped + skippedCount os) := by
  induction os generalizing s with
  | nil => exact ⟨[], s, .done s, ⟨hu, by simp [hs], fun _ => by simpa using hs⟩, rfl, hm, by
      simp [skippedCount]⟩
  | cons o os ih =>
      obtain ⟨p, o⟩ := o
      have hstep : Step w resolver s .collect (s.take p o _) := .collect hu hm (by simpa using hs)
      have hcons : missing? ((p, o) :: os) = (missing? [(p, o)]).or (missing? os) :=
        missing?_append [(p, o)] os
      cases ho : missing? [(p, o)] with
      | some id =>
          -- the trace ends here, and the other tasks stay finished
          rw [hcons, ho]
          refine ⟨[.collect], _, .step hstep (.done _), ⟨hu, ?_, ?_⟩, rfl, ho, by simp⟩
          · intro f hf
            obtain ⟨o', -, rfl⟩ := List.mem_map.mp hf
            exact ⟨o'.2, rfl⟩
          · simp [State.take, ho]
      | none =>
          rw [hcons, ho, Option.none_or]
          obtain ⟨es, t, htrace, ht, hc, hmissing, hnone⟩ := ih (s := s.take p o _) hu ho rfl
          refine ⟨.collect :: es, t, .step hstep htrace, ht, hc, hmissing, fun hm => ?_⟩
          obtain ⟨hfound, hskipped⟩ := hnone hm
          refine ⟨hfound, ?_⟩
          rw [hskipped]
          cases hskip : o.isSkipped <;> simp [State.take, skippedCount, hskip]
          omega

/-- The analysis is a schedule that is complete. -/
theorem exists_trace_analyze (config : Config) (paths : List String) {r : Run}
    (h : r.phase = .loading) :
    ∃ es s, Trace w config.resolver (initial config.resolver paths r.cancelled) es s ∧
      s.Complete ∧ (r.analyze w config paths).1 = s.result config (elapsedOf w config paths r) := by
  have hflag : (beforeTasks config paths r).cancelled = r.cancelled :=
    (core_eq_iff.mp (core_beforeTasks config paths r)).2.1
  obtain ⟨es₁, hsubmit⟩ := trace_submit w config.resolver
    (initial config.resolver paths r.cancelled)
  obtain ⟨es₂, htasks⟩ := trace_tasks w config.resolver
    (worklist config.resolver paths) (l := []) (r := beforeTasks config paths r)
    (s := { initial config.resolver paths r.cancelled with
      unsubmitted := [], futures := [] ++ (worklist config.resolver paths).map (·, .waiting) })
    hflag.symm rfl
  obtain ⟨es₃, s, hcollect, hs, hcancelled, hmissing, hnone⟩ := trace_collect w config.resolver
    (taskPhase w config paths r).1
    (s := { initial config.resolver paths (taskPhase w config paths r).2.cancelled with
      unsubmitted := []
      futures := (taskPhase w config paths r).1.map fun o => (o.1, .finished o.2) })
    rfl rfl rfl
  refine ⟨es₁ ++ (es₂ ++ es₃), s, hsubmit.append (htasks.append hcollect), hs, ?_⟩
  obtain ⟨_, -, hanalyze⟩ := analyze_eq w config paths h
  rw [hanalyze, resultOf, State.result, hmissing]
  cases hm : missing? (taskPhase w config paths r).1 with
  | some id => rfl
  | none =>
      obtain ⟨hfound, hskipped⟩ := hnone hm
      simp only [hfound, hskipped, hcancelled, initial, Run.collect, Nat.zero_add]

/-! ### The result of a schedule -/

theorem Inv.result (hreg : Registered w.registry resolver) (hwork : work.Pairwise (· < ·))
    (h : Inv w resolver work started s os) (hs : s.Complete) (config : Config)
    (elapsed : Elapsed) :
    s.result config elapsed = .ok
      { diagnostics := Diagnostic.sort ((work.filter started).flatMap (fileReports w resolver))
        filesAnalyzed := (work.filter started).length
        filesSkipped := (work.filter fun p => !started p).length
        rulesConfigured := config.ruleCount
        isPartial := s.cancelled
        elapsed } := by
  obtain ⟨rfl, hm⟩ := h.complete hreg hs
  rw [State.result, hm]
  simp only [h.found, h.skipped, results_outcomesOf hreg started hwork,
    fileCount_outcomesOf hreg started (hwork.imp ne_of_lt), skippedCount_outcomesOf hreg started]

theorem Inv.all_started (hreg : Registered w.registry resolver)
    (h : Inv w resolver work started s os) (hs : s.Complete) (hc : s.cancelled = false) :
    ∀ p ∈ work, started p = true := by
  intro p hp
  by_contra hstart
  have hmem : (p, TaskOutcome.skipped) ∈ os := by
    rw [(h.complete hreg hs).1]
    exact List.mem_map.mpr ⟨p, hp, by simp [hstart]⟩
  have := h.late _ hmem (by simpa using hstart)
  simp [hc] at this

variable (w) in
/-- Every schedule can be brought to its end, and what it then returns depends only on which files
were begun before a cancellation: each path that is not ignored is analyzed or skipped once, and
the diagnostics are the stably sorted reports that the analyzed files give alone. The analysis that
runs its tasks in turn is one of the schedules. -/
theorem result_of_schedule {origin : Config.Origin} {config : Config} (hread : origin.IsRead)
    (hload : origin.load w.registry w.loader = .ok config) (paths : List String) (cancelled : Bool)
    (elapsed : Elapsed) :
    (∀ es s, Trace w config.resolver (initial config.resolver paths cancelled) es s →
      (∃ es' s', Trace w config.resolver s es' s' ∧ s'.Complete) ∧
      (s.Complete → ∃ (result : Result) (analyzed : List String),
        s.result config elapsed = .ok result ∧
        result.filesAnalyzed + result.filesSkipped =
          (paths.filter fun p => !config.resolver.isIgnored p).toFinset.card ∧
        result.isPartial = (cancelled || decide (.cancel ∈ es)) ∧
        (result.isPartial = false → result.filesSkipped = 0) ∧
        analyzed.Pairwise (· < ·) ∧
        (∀ p, p ∈ analyzed ↔
          p ∈ paths ∧ config.resolver.isIgnored p = false ∧ begins p cancelled es = true) ∧
        result.filesAnalyzed = analyzed.length ∧
        StablySorted Diagnostic.key (analyzed.flatMap (fileReports w config.resolver))
          result.diagnostics ∧
        ((∀ p ∈ analyzed, ∀ d ∈ fileReports w config.resolver p, d.file = p) →
          ∀ p ∈ analyzed, StablySorted Diagnostic.key (fileReports w config.resolver p)
            (result.diagnostics.filter (·.file = p))))) ∧
    ∀ r : Run, r.phase = .loading → r.cancelled = cancelled →
      ∃ es s, Trace w config.resolver (initial config.resolver paths cancelled) es s ∧
        s.Complete ∧
        (r.analyze w config paths).1 = s.result config (elapsedOf w config paths r) := by
  have hreg := registered_of_load hread hload
  refine ⟨fun es s htrace => ⟨exists_complete w config.resolver s, fun hs => ?_⟩, ?_⟩
  · have hwork := worklist_ascending config.resolver paths
    obtain ⟨os, hinv⟩ := htrace.inv (hwork.imp ne_of_lt) (inv_initial paths cancelled)
    simp only [Bool.false_or] at hinv
    set started := fun q => begins q (initial config.resolver paths cancelled).cancelled es
    set analyzed := (worklist config.resolver paths).filter started with hanalyzed
    have hsorted := Diagnostic.sort_stablySorted (analyzed.flatMap (fileReports w config.resolver))
    have hascending : analyzed.Pairwise (· < ·) := hwork.filter started
    refine ⟨_, analyzed, hinv.result hreg hwork hs config elapsed, ?_, htrace.flag, ?_, hascending,
      ?_, rfl, hsorted, ?_⟩
    · rw [← length_worklist]
      have hsplit := (worklist config.resolver paths).length_eq_length_filter_add started
      dsimp only
      exact_mod_cast hsplit.symm
    · intro hc
      have hall := hinv.all_started hreg hs hc
      simpa using hall
    · intro p
      rw [hanalyzed, List.mem_filter, mem_worklist, and_assoc]
      rfl
    · intro hfile p hp
      have := hsorted.filter (·.file = p)
      rwa [filter_flatMap_reports (hascending.imp ne_of_lt) hfile hp] at this
  · rintro r hr rfl
    exact exists_trace_analyze config paths hr

/-! ### A schedule that is cancelled between two files -/

def samplePaths : List String := ["b.ts", "node_modules/c.ts", "a.ts", "b.ts"]

/-- The second file starts after the cancellation and finishes first. -/
def sampleEvents : List Event :=
  [.submit, .submit, .start "a.ts", .cancel, .start "b.ts", .finish "b.ts", .finish "a.ts",
    .collect, .collect]

theorem worklist_samplePaths {resolver : Resolver}
    (h : samplePaths.map resolver.isIgnored = [false, true, false, false]) :
    worklist resolver samplePaths = ["a.ts", "b.ts"] := by
  simp only [samplePaths, List.map_cons, List.map_nil, List.cons.injEq, and_true] at h
  obtain ⟨hb, hc, ha, -⟩ := h
  have hsample : ["a.ts", "b.ts"].Pairwise (· < ·) := by decide
  refine List.Perm.eq_of_pairwise (fun a b _ _ hab hba => absurd hab hba.asymm)
    (worklist_ascending resolver samplePaths) hsample ?_
  rw [List.perm_ext_iff_of_nodup ((worklist_ascending _ _).imp ne_of_lt) (hsample.imp ne_of_lt)]
  intro p
  rw [mem_worklist]
  constructor
  · rintro ⟨hp, hi⟩
    simp only [samplePaths, List.mem_cons, List.not_mem_nil, or_false] at hp
    rcases hp with rfl | rfl | rfl | rfl <;> simp_all
  · intro hp
    simp only [List.mem_cons, List.not_mem_nil, or_false] at hp
    rcases hp with rfl | rfl <;> simp [samplePaths, ha, hb]

theorem exists_trace_sampleEvents {config : Config}
    (hreg : Registered unreadableDisk.registry config.resolver)
    (hwork : worklist config.resolver samplePaths = ["a.ts", "b.ts"]) :
    ∃ s, Trace unreadableDisk config.resolver (initial config.resolver samplePaths false)
      sampleEvents s ∧ s.Complete := by
  have hmissing :
      missing? [("a.ts", outcome unreadableDisk config.resolver false "a.ts")] = none := by
    simp [outcome, fileOutcome_eq_analyzed hreg, missing?]
  rw [initial, hwork]
  exact ⟨_, .step (.submit rfl) (.step (.submit rfl) (.step (@Step.start _ _ _ _ [] _ rfl)
    (.step .cancel (.step (@Step.start _ _ _ _ [_] _ rfl) (.step (@Step.finish _ _ _ _ _ [_] _ rfl)
    (.step (@Step.finish _ _ _ _ _ [] _ rfl) (.step (.collect rfl rfl rfl)
    (.step (.collect rfl hmissing rfl) (.done _))))))))), rfl, by simp [State.take], fun _ => rfl⟩

theorem result_of_schedule_cancelled_between :
    ∃ config, Config.Origin.load unreadableDisk.registry unreadableDisk.loader (.data storageBan) =
        .ok config ∧
      ∃ s, Trace unreadableDisk config.resolver (initial config.resolver samplePaths false)
        sampleEvents s ∧ s.Complete ∧
      ∃ (result : Result) (analyzed : List String),
        s.result config (.whole 0) = .ok result ∧
        result.filesAnalyzed + result.filesSkipped = 2 ∧ result.isPartial = true ∧
        "a.ts" ∈ analyzed ∧ "b.ts" ∉ analyzed ∧
        StablySorted Diagnostic.key
          (analyzed.flatMap (fileReports unreadableDisk config.resolver)) result.diagnostics := by
  have hignored : (Config.Origin.load unreadableDisk.registry unreadableDisk.loader
      (.data storageBan)).toOption.map (fun c => samplePaths.map c.resolver.isIgnored) =
        some [false, true, false, false] := by
    decide +kernel
  cases hload : Config.Origin.load unreadableDisk.registry unreadableDisk.loader
      (.data storageBan) with
  | error e => rw [hload] at hignored; cases hignored
  | ok config =>
      rw [hload] at hignored
      have hwork := worklist_samplePaths (Option.some.inj hignored)
      have hread : Config.Origin.IsRead (.data storageBan) := trivial
      have hreg := registered_of_load hread hload
      obtain ⟨s, htrace, hs⟩ := exists_trace_sampleEvents hreg hwork
      obtain ⟨result, analyzed, hresult, hcount, hpartial, -, -, hmem, -, hsorted, -⟩ :=
        ((result_of_schedule unreadableDisk hread hload samplePaths
          false (.whole 0)).1 sampleEvents s htrace).2 hs
      refine ⟨config, rfl, s, htrace, hs, result, analyzed, hresult, ?_, hpartial, ?_, ?_,
        hsorted⟩
      · rw [hcount, ← length_worklist, hwork]
        rfl
      · have ha : "a.ts" ∈ worklist config.resolver samplePaths := by simp [hwork]
        exact (hmem _).mpr ⟨by decide, (mem_worklist.mp ha).2, by decide⟩
      · intro hb
        exact absurd ((hmem _).mp hb).2.2 (by decide)

end BoundaryLint.Schedule
