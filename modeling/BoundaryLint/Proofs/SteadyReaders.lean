import BoundaryLint.Regex.Parser

/-!
# Readers of patterns under more modes

Two runs of a reader are compared, of which the second one starts under additional modes. They are
alike if they fail with the same error, or both succeed in states that still differ by these modes
alone. A reader is steady if its result is the same in both runs. All readers that look neither at the
modes nor at the expressions read before are steady.
-/
namespace BoundaryLint.Regex

namespace Flags

theorem has_add (f : Flags) (c d : Char) : (f.add c).has d = (f.has d || d == c) := by
  unfold add
  split
  · rename_i hc
    by_cases hd : d = c
    · simp [hd, hc]
    · simp [hd]
  · rw [has, has, List.contains_append, List.contains_cons, List.contains_nil, Bool.or_false]

theorem has_union (f g : Flags) (c : Char) : (f.union g).has c = (f.has c || g.has c) := by
  obtain ⟨ls⟩ := g
  show (ls.foldl add f).has c = (f.has c || ls.contains c)
  induction ls generalizing f with
  | nil => rw [List.foldl_nil, List.contains_nil, Bool.or_false]
  | cons d ls ih => rw [List.foldl_cons, ih, has_add, List.contains_cons, Bool.or_assoc]

end Flags

namespace Reader

/-- The second state has the modes `ms` on top of those of the first, and is the same otherwise. -/
inductive Extends (ms : List Char) : State → State → Prop
  | intro (s : State) (f : Flags) : (∀ c, f.has c = (s.flags.has c || ms.contains c)) →
      Extends ms s { s with flags := f }

/-- Outcomes in step: the same error, or results in `R` and states that differ by `ms`. -/
inductive InStep (ms : List Char) {α β : Type} (R : α → β → Prop) :
    Except Error (α × State) → Except Error (β × State) → Prop
  | ok {a : α} {b : β} {s t : State} : R a b → Extends ms s t → InStep ms R (.ok (a, s)) (.ok (b, t))
  | error (e : Error) : InStep ms R (.error e) (.error e)

/-- Readers that stay in step when the second one starts under the modes `ms` too. -/
def Alike (ms : List Char) {α β : Type} (R : α → β → Prop) (x : Reader α) (y : Reader β) : Prop :=
  ∀ s t, Extends ms s t → InStep ms R (x s) (y t)

/-- A reader whose result does not depend on the modes `ms`. -/
abbrev Steady (ms : List Char) {α : Type} (x : Reader α) : Prop :=
  Alike ms (· = ·) x x

section
variable {ms : List Char} {α β γ δ : Type} {R : α → β → Prop} {Q : γ → δ → Prop}

/-! ### Composition -/

theorem Alike.pure {a : α} {b : β} (h : R a b) : Alike ms R (pure a) (pure b) := by
  intro s t hst
  exact .ok h hst

theorem Alike.bind {x : Reader α} {y : Reader β} {f : α → Reader γ} {g : β → Reader δ}
    (h : Alike ms R x y) (hf : ∀ a b, R a b → Alike ms Q (f a) (g b)) :
    Alike ms Q (x >>= f) (y >>= g) := by
  intro s t hst
  have hxy := h s t hst
  show InStep ms Q ((x s).bind fun p => f p.1 p.2) ((y t).bind fun p => g p.1 p.2)
  generalize x s = v at hxy ⊢
  generalize y t = w at hxy ⊢
  cases hxy with
  | ok hab hst' => exact hf _ _ hab _ _ hst'
  | error e => exact .error e

theorem Steady.bind {x : Reader α} {f : α → Reader γ} {g : α → Reader δ} (h : Steady ms x)
    (hf : ∀ a, Alike ms Q (f a) (g a)) : Alike ms Q (x >>= f) (x >>= g) := by
  apply Alike.bind h
  intro a b hab
  subst hab
  exact hf a

theorem Alike.halt {x : Reader α} {y : Reader β} {f : α → Reader γ} {g : β → Reader δ}
    (h : Alike ms (fun _ _ => False) x y) : Alike ms Q (x >>= f) (y >>= g) :=
  h.bind fun _ _ hfalse => hfalse.elim

theorem Steady.ite_bind {c : Prop} [Decidable c] {x y : Reader α} {f : α → Reader γ}
    {g : α → Reader δ} (hx : Steady ms x) (hy : Steady ms y) (hf : ∀ a, Alike ms Q (f a) (g a)) :
    Alike ms Q (if c then x >>= f else y >>= f) (if c then x >>= g else y >>= g) := by
  split
  · exact hx.bind hf
  · exact hy.bind hf

theorem Alike.halt_if {c : Prop} [Decidable c] {x : Reader α} {y : Reader β}
    {f : α → Reader γ} {g : β → Reader δ} {u : Reader γ} {v : Reader δ}
    (h : Alike ms (fun _ _ => False) x y) (hrest : Alike ms Q u v) :
    Alike ms Q (if c then x >>= f else u) (if c then y >>= g else v) := by
  split
  · exact h.halt
  · exact hrest

theorem alike_throw (e : Error) : Alike ms R (throw e) (throw e) :=
  fun _ _ _ => .error e

theorem alike_failAt (reason : Reason) (pos : Nat) :
    Alike ms R (failAt reason pos) (failAt reason pos) :=
  alike_throw _

/-- What follows may look at every part of the state but the modes. -/
theorem Alike.get_bind {f : State → Reader γ} {g : State → Reader δ}
    (h : ∀ s t, Extends ms s t → Alike ms Q (f s) (g t)) : Alike ms Q (get >>= f) (get >>= g) := by
  have hget : Alike ms (Extends ms) get get := fun _ _ hst => .ok hst hst
  exact hget.bind h

theorem Alike.set_bind {s t : State} {x : Reader α} {y : Reader β} (hst : Extends ms s t)
    (h : Alike ms R x y) : Alike ms R (set s >>= fun _ => x) (set t >>= fun _ => y) := by
  have hset : Alike ms (· = ·) (set s) (set t) := fun _ _ _ => .ok rfl hst
  exact hset.bind fun _ _ _ => h

theorem steady_modify {f : State → State} (h : ∀ s t, Extends ms s t → Extends ms (f s) (f t)) :
    Steady ms (modify f) :=
  fun s t hst => .ok rfl (h s t hst)

theorem alike_fail (reason : Reason) (offset : Nat) :
    Alike ms R (fail reason offset) (fail reason offset) := by
  apply Alike.get_bind
  rintro s _ ⟨f, h⟩
  exact alike_failAt _ _

end

section
variable {ms : List Char}

/-! ### Tokens -/

theorem steady_peek : Steady ms peek := by
  apply Alike.get_bind
  rintro s _ ⟨f, h⟩
  exact .pure rfl

theorem steady_position : Steady ms position := by
  apply Alike.get_bind
  rintro s _ ⟨f, h⟩
  exact .pure rfl

theorem steady_next : Steady ms next := by
  apply Alike.get_bind
  rintro s _ ⟨f, h⟩
  dsimp only
  split
  · exact .pure rfl
  · apply (alike_failAt _ _).halt_if
    exact .set_bind (.intro _ f h) (.pure rfl)

theorem steady_accept (c : Char) : Steady ms (accept c) := by
  apply steady_peek.bind
  intro t
  split
  · exact steady_next.bind fun _ => .pure rfl
  · exact .pure rfl

theorem steady_takeChars (p : Char → Bool) (n : Nat) : Steady ms (takeChars p n) := by
  induction n with
  | zero => exact .pure rfl
  | succ n ih =>
      apply steady_peek.bind
      intro t
      split
      · split
        · exact steady_next.bind fun _ => ih.bind fun _ => .pure rfl
        · exact .pure rfl
      · exact .pure rfl

theorem steady_takeAll (p : Char → Bool) : Steady ms (takeAll p) := by
  apply Alike.get_bind
  rintro s _ ⟨f, h⟩
  exact steady_takeChars _ _

theorem steady_takeUntil (close : Char) (what : String) (fuel : Nat) (acc : List Char) :
    Steady ms (takeUntil close what fuel acc) := by
  induction fuel generalizing acc with
  | zero => exact .pure rfl
  | succ fuel ih =>
      apply steady_next.bind
      intro t
      split
      · split
        · exact alike_fail _ _
        · exact alike_fail _ _
      · split
        · split
          · exact alike_fail _ _
          · exact .pure rfl
        · exact ih _

theorem steady_name (close : Char) (what : String) : Steady ms (name close what) := by
  apply Alike.get_bind
  rintro s _ ⟨f, h⟩
  exact steady_takeUntil _ _ _ _

theorem steady_skipComment (close : Char) (fuel : Nat) : Steady ms (skipComment close fuel) := by
  induction fuel with
  | zero => exact .pure rfl
  | succ fuel ih =>
      apply steady_next.bind
      intro t
      split
      · exact .pure rfl
      · split
        · exact .pure rfl
        · exact ih

/-! ### Escapes and classes -/

theorem steady_hexEscape (letter : Char) (count : Nat) : Steady ms (hexEscape letter count) := by
  apply (steady_takeChars _ _).bind
  intro ds
  dsimp only
  apply (alike_fail _ _).halt_if
  apply (alike_fail _ _).halt_if
  exact .pure rfl

theorem steady_namedEscape : Steady ms namedEscape := by
  apply (steady_accept _).bind
  intro b
  dsimp only
  apply (alike_fail _ _).halt_if
  apply (steady_name _ _).bind
  intro n
  split
  · exact .pure rfl
  · exact alike_fail _ _

theorem steady_of_codeEscape? {c : Char} {x : Reader Nat} (h : codeEscape? c = some x) :
    Steady ms x := by
  unfold codeEscape? at h
  split at h
  · cases h
    exact steady_hexEscape _ _
  · cases h
    exact steady_hexEscape _ _
  · cases h
    exact steady_hexEscape _ _
  · cases h
    exact steady_namedEscape
  · cases h

theorem steady_classEscape (ascii : Bool) (c : Char) : Steady ms (classEscape ascii c) := by
  unfold classEscape
  split
  · exact .pure rfl
  split
  · exact .pure rfl
  split
  · rename_i x hx
    exact (steady_of_codeEscape? hx).bind fun _ => .pure rfl
  split
  · apply (steady_takeChars _ _).bind
    intro ds
    dsimp only
    apply (alike_fail _ _).halt_if
    exact .pure rfl
  · split
    · exact alike_fail _ _
    · exact .pure rfl

theorem steady_classToken (ascii : Bool) (t : Token) : Steady ms (classToken ascii t) := by
  cases t with
  | plain c => exact .pure rfl
  | escaped c => exact steady_classEscape ascii c
  | dangling => exact .pure rfl

theorem steady_classItems (ascii : Bool) (start fuel : Nat) (acc : List ClassItem) :
    Steady ms (classItems ascii start fuel acc) := by
  induction fuel generalizing acc with
  | zero => exact alike_failAt _ _
  | succ fuel ih =>
      apply steady_next.bind
      intro t
      split
      · exact alike_failAt _ _
      split
      · exact .pure rfl
      apply (steady_classToken _ _).bind
      intro lo
      apply (steady_accept _).bind
      intro b
      split
      · apply steady_next.bind
        intro u
        split
        · exact alike_failAt _ _
        split
        · exact .pure rfl
        apply (steady_classToken _ _).bind
        intro hi
        dsimp only
        split
        · apply (alike_fail _ _).halt_if
          exact ih _
        · exact (alike_fail _ _).halt
      · exact ih _

theorem steady_charset (ascii : Bool) (start : Nat) : Steady ms (charset ascii start) := by
  apply (steady_accept _).bind
  intro b
  apply Alike.get_bind
  rintro s _ ⟨f, h⟩
  exact (steady_classItems _ _ _ _).bind fun _ => .pure rfl

/-! ### Repetitions -/

theorem steady_braceBounds : Steady ms braceBounds := by
  apply steady_peek.bind
  intro t
  split
  · exact .pure rfl
  apply (steady_takeAll _).bind
  intro lo
  apply (steady_accept _).bind
  intro b
  apply Steady.ite_bind (steady_takeAll _) (.pure rfl)
  intro hi
  apply (steady_accept _).bind
  intro b
  split
  · exact .pure rfl
  · exact .pure rfl

theorem steady_bounds (start : Nat) (c : Char) : Steady ms (bounds start c) := by
  unfold bounds
  split
  · exact .pure rfl
  · exact .pure rfl
  · exact .pure rfl
  apply Alike.get_bind
  intro s t hst
  apply steady_braceBounds.bind
  intro b
  split
  · -- the brace is plain, and both runs go back to where they were
    exact .set_bind hst (.pure rfl)
  dsimp only
  apply (alike_throw _).halt_if
  apply (alike_throw _).halt_if
  split
  · exact .pure rfl
  apply (alike_throw _).halt_if
  apply (alike_throw _).halt_if
  apply (alike_failAt _ _).halt_if
  exact .pure rfl

theorem steady_greed : Steady ms greed := by
  apply (steady_accept _).bind
  intro b
  split
  · exact .pure rfl
  apply (steady_accept _).bind
  intro b
  split
  · exact .pure rfl
  · exact .pure rfl

/-! ### Groups and inline modes -/

theorem steady_flagsOn (fuel : Nat) (t : Token) (on : Flags) : Steady ms (flagsOn fuel t on) := by
  induction fuel generalizing t on with
  | zero => exact .pure rfl
  | succ fuel ih =>
      unfold flagsOn
      split
      · dsimp only
        apply (alike_fail _ _).halt_if
        apply (alike_fail _ _).halt_if
        apply steady_next.bind
        intro u
        split
        · exact alike_fail _ _
        split
        · exact .pure rfl
        split
        · split
          · exact ih _ _
          · exact alike_fail _ _
        · exact alike_fail _ _
      · exact .pure rfl

theorem steady_flagsOff (fuel : Nat) (c : Char) (off : Flags) : Steady ms (flagsOff fuel c off) := by
  induction fuel generalizing c off with
  | zero => exact .pure rfl
  | succ fuel ih =>
      unfold flagsOff
      dsimp only
      apply (alike_fail _ _).halt_if
      apply steady_next.bind
      intro u
      split
      · exact alike_fail _ _
      · exact .pure rfl
      · split
        · exact ih _ _
        · exact alike_fail _ _
      · exact alike_fail _ _

theorem steady_inlineFlags (t : Token) : Steady ms (inlineFlags t) := by
  have hoff (on off : Flags) : Steady ms (do
      if off.has 't' then fail .globalFlagOff 1
      if on.meets off then fail .flagOnAndOff 1
      return some (on, off)) := by
    dsimp only
    apply (alike_fail _ _).halt_if
    apply (alike_fail _ _).halt_if
    exact .pure rfl
  apply Alike.get_bind
  rintro s _ ⟨f, h⟩
  apply Steady.ite_bind (.pure rfl) (steady_flagsOn _ _ _)
  rintro ⟨on, close⟩
  dsimp only
  split
  · refine Steady.bind (steady_modify ?_) fun _ => .pure rfl
    rintro s _ ⟨f, h⟩
    refine .intro _ (f.union on) ?_
    intro c
    rw [Flags.has_union, Flags.has_union, h, Bool.or_right_comm]
  apply (alike_fail _ _).halt_if
  split
  · apply steady_next.bind
    intro u
    split
    · exact (alike_fail _ _).halt
    · split
      · exact (steady_flagsOff _ _ _).bind (hoff on)
      · exact (alike_fail _ _).halt
    · exact (alike_fail _ _).halt
  · exact hoff on .none

theorem steady_openGroup (named : Option (List Char)) : Steady ms (openGroup named) := by
  apply Alike.get_bind
  rintro s _ ⟨f, h⟩
  dsimp only
  split
  · exact .set_bind (.intro _ f h) (.pure rfl)
  · split
    · exact (alike_fail _ _).halt
    · exact .set_bind (.intro _ f h) (.pure rfl)

theorem steady_checkBehind (index : Nat) : Steady ms (checkBehind index) := by
  apply Alike.get_bind
  rintro s _ ⟨f, h⟩
  dsimp only
  split
  · exact .pure rfl
  apply (alike_fail _ _).halt_if
  split
  · exact alike_fail _ _
  · exact .pure rfl

theorem steady_groupName (close : Char) : Steady ms (groupName close) := by
  apply (steady_name _ _).bind
  intro n
  dsimp only
  apply (alike_fail _ _).halt_if
  exact .pure rfl

theorem steady_conditionGroup : Steady ms conditionGroup := by
  apply (steady_name _ _).bind
  intro n
  have hcheck (index : Nat) : Steady ms (checkBehind index >>= fun _ => pure index) :=
    (steady_checkBehind index).bind fun _ => .pure rfl
  dsimp only
  split
  · apply Alike.get_bind
    rintro s _ ⟨f, h⟩
    dsimp only
    split
    · exact hcheck _
    · exact (alike_fail _ _).halt
  split
  · exact (alike_fail _ _).halt
  apply (alike_fail _ _).halt_if
  apply (alike_fail _ _).halt_if
  apply (alike_fail _ _).halt_if
  refine Steady.bind (steady_modify ?_) fun _ => hcheck _
  rintro s _ ⟨f, h⟩
  dsimp only
  split
  · exact .intro _ f h
  · exact .intro _ f h

theorem steady_close (start : Nat) : Steady ms (close start) := by
  apply (steady_accept _).bind
  intro b
  split
  · exact alike_failAt _ _
  · exact .pure rfl

end

end Reader

end BoundaryLint.Regex
