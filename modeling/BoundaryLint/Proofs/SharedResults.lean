import BoundaryLint.Proofs.ActiveEntries
import Mathlib.Data.List.AList

/-!
# Results that are shared between calls

A resolver that many workers use at once keeps the blocks it has found, by path. A call looks its
path up under a lock. If nothing is kept it finds the blocks without the lock and stores them under
the lock again, so two calls for one path may both find nothing and both store.

Calls may begin at any moment and take their steps in any order. What they return is what they would
return without anything kept, so the resolver can be used as a function of the path.
-/
namespace BoundaryLint.Resolver.Shared

/-- The blocks that are kept, by path. -/
abbrev Kept := AList fun _ : String => List Block

/-- How far a call has come. -/
inductive Stage where
  | begun
  | missed
  | computed (result : List Block)
  | returned (result : List Block)
  deriving Repr

structure Call where
  path : String
  stage : Stage := .begun
  deriving Repr

/-- What is kept, and all calls that have begun, in the order in which they did. -/
structure State where
  kept : Kept := ∅
  calls : List Call := []

inductive Event where
  | call (path : String)
  | lookup (i : Nat)
  | compute (i : Nat)
  | store (i : Nat)
  deriving DecidableEq, Repr

def State.advance (s : State) (i : Nat) (path : String) (stage : Stage) : State :=
  { s with calls := s.calls.set i { path, stage } }

/-- One step of a call, or the beginning of one more. The steps that use what is kept are
indivisible, since they hold the lock. -/
inductive Step (r : Resolver) : State → Event → State → Prop
  | call {s : State} (path : String) :
      Step r s (.call path) { s with calls := s.calls ++ [{ path }] }
  | hit {s : State} {i : Nat} {path : String} {result : List Block} :
      s.calls[i]? = some { path } → s.kept.lookup path = some result →
      Step r s (.lookup i) (s.advance i path (.returned result))
  | miss {s : State} {i : Nat} {path : String} :
      s.calls[i]? = some { path } → s.kept.lookup path = none →
      Step r s (.lookup i) (s.advance i path .missed)
  | compute {s : State} {i : Nat} {path : String} :
      s.calls[i]? = some { path, stage := .missed } →
      Step r s (.compute i) (s.advance i path (.computed (r.resolve path)))
  | store {s : State} {i : Nat} {path : String} {result : List Block} :
      s.calls[i]? = some { path, stage := .computed result } →
      Step r s (.store i)
        ({ s with kept := s.kept.insert path result }.advance i path (.returned result))

inductive Trace (r : Resolver) : State → List Event → State → Prop
  | done (s : State) : Trace r s [] s
  | step {s t u : State} {e : Event} {es : List Event} :
      Step r s e t → Trace r t es u → Trace r s (e :: es) u

variable {r : Resolver} {s t : State}

/-! ### What is kept is right -/

/-- A call that has found a result has found `value`. -/
def Stage.Finds (value : List Block) : Stage → Prop
  | .begun | .missed => True
  | .computed result | .returned result => result = value

/-- Everything kept and everything found by a call is what the resolver gives for the path. -/
structure Right (r : Resolver) (s : State) : Prop where
  kept : ∀ path result, s.kept.lookup path = some result → result = r.resolve path
  calls : ∀ c ∈ s.calls, c.stage.Finds (r.resolve c.path)

theorem right_initial (r : Resolver) : Right r {} where
  kept path result h := by simp at h
  calls c hc := by simp at hc

theorem Right.advance (h : Right r s) (i : Nat) {path : String} {stage : Stage}
    (hstage : stage.Finds (r.resolve path)) : Right r (s.advance i path stage) where
  kept := h.kept
  calls c hc := by
    rcases List.mem_or_eq_of_mem_set hc with hc | rfl
    · exact h.calls c hc
    · exact hstage

theorem Right.store (h : Right r s) {path : String} {result : List Block}
    (hresult : result = r.resolve path) :
    Right r { s with kept := s.kept.insert path result } where
  kept path' result' hlookup := by
    by_cases hpath : path' = path
    · subst hpath
      rw [AList.lookup_insert, Option.some.injEq] at hlookup
      rw [← hlookup, hresult]
    · rw [AList.lookup_insert_ne hpath] at hlookup
      exact h.kept path' result' hlookup
  calls := h.calls

/-- One step keeps what is right. A call that stores has found its result itself, so it does not
matter what other calls have stored since it looked. -/
theorem Step.right {e : Event} (hstep : Step r s e t) (h : Right r s) : Right r t := by
  cases hstep with
  | call path =>
      refine ⟨h.kept, fun c hc => ?_⟩
      rcases List.mem_append.mp hc with hc | hc
      · exact h.calls c hc
      · obtain rfl := List.mem_singleton.mp hc
        trivial
  | hit _ hkept => exact h.advance _ (h.kept _ _ hkept)
  | miss => exact h.advance _ trivial
  | compute => exact h.advance _ rfl
  | store hcall =>
      have hresult := h.calls _ (List.mem_of_getElem? hcall)
      exact (h.store hresult).advance _ hresult

theorem Trace.right {es : List Event} (htrace : Trace r s es t) (h : Right r s) : Right r t := by
  induction htrace with
  | done => exact h
  | step hstep _ ih => exact ih (hstep.right h)

/-! ### Every call comes to its end -/

/-- Whether an event is a step of the call at a position. -/
def Event.isOf (i : Nat) : Event → Bool
  | .call _ => false
  | .lookup j | .compute j | .store j => j == i

/-- How many steps a call can still take. -/
def Stage.left : Stage → Nat
  | .begun => 3
  | .missed => 2
  | .computed _ => 1
  | .returned _ => 0

/-- How many steps the call at a position can still take. One that has not begun has all of them
left. -/
def State.left (s : State) (i : Nat) : Nat :=
  (s.calls[i]?.map (·.stage.left)).getD 3

theorem State.left_of_call {i : Nat} {c : Call} (hcall : s.calls[i]? = some c) :
    s.left i = c.stage.left := by
  simp [left, hcall]

theorem State.left_le_three (s : State) (i : Nat) : s.left i ≤ 3 := by
  cases hcall : s.calls[i]? with
  | none => simp [left, hcall]
  | some c =>
      rw [left_of_call hcall]
      cases c.stage <;> simp [Stage.left]

/-- A call that comes closer to its end uses up a step of its own and leaves the other calls
theirs. -/
theorem State.left_advance {i j : Nat} {c : Call} (hcall : s.calls[i]? = some c) (path : String)
    {stage : Stage} (hstage : stage.left < c.stage.left) :
    (if i == j then 1 else 0) + (s.advance i path stage).left j ≤ s.left j := by
  have hi := (List.getElem?_eq_some_iff.mp hcall).choose
  by_cases hij : i = j
  · subst hij
    have hcall' : (s.advance i path stage).calls[i]? = some { path, stage } := by
      simp [advance, hi]
    rw [left_of_call hcall, left_of_call hcall']
    simp only [beq_self_eq_true, if_true]
    omega
  · simp [left, advance, hij]

theorem Step.left {e : Event} (hstep : Step r s e t) (i : Nat) :
    (if e.isOf i then 1 else 0) + t.left i ≤ s.left i := by
  cases hstep with
  | call path =>
      simp only [Event.isOf, Bool.false_eq_true, if_false, Nat.zero_add]
      by_cases hi : i < s.calls.length
      · simp [State.left, List.getElem?_append_left hi]
      · have hleft : s.left i = 3 := by
          simp [State.left, List.getElem?_eq_none (Nat.le_of_not_lt hi)]
        rw [hleft]
        exact State.left_le_three _ i
  | hit hcall | miss hcall | compute hcall =>
      exact State.left_advance hcall _ (by simp [Stage.left])
  | store hcall =>
      exact State.left_advance (s := { s with kept := s.kept.insert _ _ }) hcall _
        (by simp [Stage.left])

theorem Trace.left {es : List Event} (htrace : Trace r s es t) (i : Nat) :
    es.countP (·.isOf i) + t.left i ≤ s.left i := by
  induction htrace with
  | done => simp
  | @step s t u e es hstep _ ih =>
      have hone := hstep.left i
      rw [List.countP_cons]
      omega

theorem exists_step_of {i : Nat} {c : Call} (hcall : s.calls[i]? = some c) (r : Resolver)
    (hleft : 0 < c.stage.left) : ∃ e t, e.isOf i = true ∧ Step r s e t := by
  obtain ⟨path, stage⟩ := c
  cases stage with
  | begun =>
      cases hkept : s.kept.lookup path with
      | none => exact ⟨.lookup i, _, by simp [Event.isOf], .miss hcall hkept⟩
      | some result => exact ⟨.lookup i, _, by simp [Event.isOf], .hit hcall hkept⟩
  | missed => exact ⟨.compute i, _, by simp [Event.isOf], .compute hcall⟩
  | computed result => exact ⟨.store i, _, by simp [Event.isOf], .store hcall⟩
  | returned result => simp [Stage.left] at hleft

/-- If something is kept for the path of a call that begins, it is what the call returns, also if it
is the empty list. -/
theorem Step.of_kept {e : Event} (hstep : Step r s e t) {i : Nat} {path : String}
    {result : List Block} (hcall : s.calls[i]? = some { path })
    (hkept : s.kept.lookup path = some result) (he : e.isOf i = true) :
    t.calls[i]? = some { path, stage := .returned result } := by
  have hi := (List.getElem?_eq_some_iff.mp hcall).choose
  cases hstep with
  | call => cases he
  | hit hcall' hkept' =>
      obtain rfl := beq_iff_eq.mp he
      cases hcall.symm.trans hcall'
      cases hkept.symm.trans hkept'
      simp [State.advance, hi]
  | miss hcall' hkept' =>
      obtain rfl := beq_iff_eq.mp he
      cases hcall.symm.trans hcall'
      cases hkept.symm.trans hkept'
  | compute hcall' | store hcall' =>
      obtain rfl := beq_iff_eq.mp he
      cases hcall.symm.trans hcall'

/-- However the steps of any number of calls are interleaved, what is kept for a path and what a
call returns are the blocks that apply to the path, in the order of their indices, and nothing for a
path that is ignored altogether. What is kept is what a call that begins returns, also if it is
empty. A call that has not returned can always go on, and it takes at most three steps. -/
theorem calls_return_applying_blocks (blocks : List Block) (ignores : GlobSet) :
    ∃ sorted, StablySorted Block.index blocks sorted ∧
      ∀ es s, Trace (ofBlocks blocks ignores) {} es s →
        (∀ path result, s.kept.lookup path = some result →
          result = applying ignores path sorted) ∧
        (∀ c ∈ s.calls, ∀ result, c.stage = .returned result →
          result = applying ignores c.path sorted) ∧
        ∀ i c, s.calls[i]? = some c →
          (∀ result, c.stage = .begun → s.kept.lookup c.path = some result →
            ∀ e t, e.isOf i = true → Step (ofBlocks blocks ignores) s e t →
              t.calls[i]? = some { path := c.path, stage := .returned result }) ∧
          ((∃ result, c.stage = .returned result) ∨
            ∃ e t, e.isOf i = true ∧ Step (ofBlocks blocks ignores) s e t) ∧
          es.countP (·.isOf i) ≤ 3 := by
  refine ⟨_, blocks_stablySorted blocks ignores, fun es s htrace => ?_⟩
  have hright := htrace.right (right_initial _)
  refine ⟨hright.kept, ?_, fun i c hcall => ⟨?_, ?_, ?_⟩⟩
  · intro c hc result hstage
    have hfinds := hright.calls c hc
    rw [hstage] at hfinds
    exact hfinds
  · intro result hstage hkept e t he hstep
    obtain ⟨path, stage⟩ := c
    cases hstage
    exact hstep.of_kept hcall hkept he
  · cases hstage : c.stage with
    | returned result => exact .inl ⟨result, rfl⟩
    | begun | missed | computed =>
        exact .inr (exists_step_of hcall _ (by simp [hstage, Stage.left]))
  · have hleft := htrace.left i
    have hthree := State.left_le_three {} i
    omega

def onlyDist : GlobSet :=
  let pieces := Glob.Expr.cat (.lit 'd') (.cat (.lit 'i') (.cat (.lit 's') (.cat (.lit 't') .nil)))
  { patterns := ["dist"], globs := [⟨"dist", pieces.pattern⟩], directories := [] }

/-- Two calls for one path look it up before either stores, and another path is asked for again
after the result for it is kept. -/
def crossedEvents : List Event :=
  [.call "a.ts", .call "a.ts", .call "dist", .lookup 0, .lookup 1, .lookup 2, .compute 1,
    .compute 2, .store 1, .compute 0, .store 2, .store 0, .call "dist", .lookup 3]

theorem trace_crossedEvents (r : Resolver) :
    Trace r {} crossedEvents
      { kept := (((∅ : Kept).insert "a.ts" (r.resolve "a.ts")).insert
          "dist" (r.resolve "dist")).insert "a.ts" (r.resolve "a.ts")
        calls :=
          [⟨"a.ts", .returned (r.resolve "a.ts")⟩, ⟨"a.ts", .returned (r.resolve "a.ts")⟩,
            ⟨"dist", .returned (r.resolve "dist")⟩, ⟨"dist", .returned (r.resolve "dist")⟩] } := by
  refine .step (.call _) (.step (.call _) (.step (.call _) ?_))
  refine .step (.miss rfl rfl) (.step (.miss rfl rfl) (.step (.miss rfl rfl) ?_))
  refine .step (.compute rfl) (.step (.compute rfl) (.step (.store rfl) (.step (.compute rfl) ?_)))
  refine .step (.store rfl) (.step (.store rfl) (.step (.call _) (.step (.hit rfl ?_) (.done _))))
  exact (AList.lookup_insert_ne (by decide)).trans (AList.lookup_insert _)

/-- Both calls for `a.ts` find nothing kept and both store. The second call for `dist`, which is
ignored, is given the empty list that the first one has stored. -/
theorem calls_return_applying_blocks_crossed :
    let blocks := [singleRule 1 "no-localstorage" .warn, singleRule 0 "no-direct-file-open" .error]
    ∃ s, Trace (ofBlocks blocks onlyDist) {} crossedEvents s ∧
      s.calls[3]? = some ⟨"dist", .returned []⟩ ∧
      ∃ result, s.calls[0]? = some ⟨"a.ts", .returned result⟩ ∧
        ∃ sorted, StablySorted Block.index blocks sorted ∧
          result = applying onlyDist "a.ts" sorted ∧ [] = applying onlyDist "dist" sorted := by
  intro blocks
  have htrace := trace_crossedEvents (ofBlocks blocks onlyDist)
  have hdist : (ofBlocks blocks onlyDist).resolve "dist" = [] := if_pos (by decide)
  rw [hdist] at htrace
  obtain ⟨sorted, hsorted, h⟩ := calls_return_applying_blocks blocks onlyDist
  have hreturned := (h _ _ htrace).2.1
  refine ⟨_, htrace, rfl, _, rfl, sorted, hsorted, ?_, ?_⟩
  · exact hreturned ⟨"a.ts", .returned _⟩ (by simp) _ rfl
  · exact hreturned ⟨"dist", .returned []⟩ (by simp) _ rfl

end BoundaryLint.Resolver.Shared
