import Mathlib.Data.List.Forall2

/-!
# Results of checks

Readers of configurations, globs and targets are chains of checks, and the first one that fails ends
the chain. A chain that succeeds tells how each of its parts came out. What all results and all
faults of a chain have in common follows from what those of its parts have in common.
-/
namespace BoundaryLint

section
variable {ε ε' α β : Type}

theorem bind_eq_ok_iff {x : Except ε α} {f : α → Except ε β} {b : β} :
    x >>= f = .ok b ↔ ∃ a, x = .ok a ∧ f a = .ok b := by
  cases x with
  | error e => simp [bind, Except.bind]
  | ok a => simp [bind, Except.bind]

theorem map_eq_ok_iff {x : Except ε α} {f : α → β} {b : β} :
    x.map f = .ok b ↔ ∃ a, x = .ok a ∧ f a = b := by
  cases x with
  | error e => simp [Except.map]
  | ok a => simp [Except.map]

theorem guard_eq_ok_iff {c : Prop} [Decidable c] {e : ε} {f : α → Except ε β} {x : Except ε β}
    {b : β} : (if c then throw e >>= f else x) = .ok b ↔ ¬ c ∧ x = .ok b := by
  by_cases hc : c
  · rw [if_pos hc]
    constructor
    · intro h
      cases h
    · intro h
      exact absurd hc h.1
  · rw [if_neg hc, and_iff_right hc]

@[simp] theorem mapError_eq_ok_iff {x : Except ε α} {f : ε → ε'} {a : α} :
    x.mapError f = .ok a ↔ x = .ok a := by
  cases x with
  | error e => simp [Except.mapError]
  | ok b => simp [Except.mapError]

theorem mapM_eq_ok_iff {f : α → Except ε β} {l : List α} {m : List β} :
    l.mapM f = .ok m ↔ List.Forall₂ (fun a b => f a = .ok b) l m := by
  induction l generalizing m with
  | nil => simp [pure, Except.pure, eq_comm]
  | cons a l ih =>
      rw [List.mapM_cons, bind_eq_ok_iff]
      constructor
      · rintro ⟨b, hb, h⟩
        obtain ⟨bs, hbs, hm⟩ := bind_eq_ok_iff.mp h
        obtain rfl : b :: bs = m := by simpa [pure, Except.pure] using hm
        exact .cons hb (ih.mp hbs)
      · intro h
        cases h with
        | cons hb hbs => exact ⟨_, hb, bind_eq_ok_iff.mpr ⟨_, ih.mpr hbs, rfl⟩⟩

theorem exists_of_mapM_eq_ok {f : α → Except ε β} {l : List α} {m : List β}
    (h : l.mapM f = .ok m) {b : β} (hb : b ∈ m) : ∃ a ∈ l, f a = .ok b := by
  obtain ⟨i, hi, rfl⟩ := List.getElem_of_mem hb
  have hall := mapM_eq_ok_iff.mp h
  have hl : i < l.length := by rw [hall.length_eq]; exact hi
  exact ⟨l[i], List.getElem_mem hl, hall.get hl hi⟩

theorem exists_mem_of_mapM_eq_ok {f : α → Except ε β} {l : List α} {m : List β}
    (h : l.mapM f = .ok m) {a : α} (ha : a ∈ l) : ∃ b ∈ m, f a = .ok b := by
  obtain ⟨i, hi, rfl⟩ := List.getElem_of_mem ha
  have hall := mapM_eq_ok_iff.mp h
  have hm : i < m.length := by rw [← hall.length_eq]; exact hi
  exact ⟨m[i], List.getElem_mem hm, hall.get hi hm⟩

theorem mapM_eq_error_iff {f : α → Except ε β} {l : List α} {e : ε} :
    l.mapM f = .error e ↔ ∃ front a back, l = front ++ a :: back ∧
      (∀ x ∈ front, ∃ y, f x = .ok y) ∧ f a = .error e := by
  constructor
  · intro h
    induction l with
    | nil => cases h
    | cons a l ih =>
        rw [List.mapM_cons] at h
        cases ha : f a with
        | error e' =>
            rw [ha] at h
            cases h
            exact ⟨[], a, l, rfl, List.forall_mem_nil _, ha⟩
        | ok b =>
            have hrest : l.mapM f = .error e := by
              rw [ha] at h
              cases hl : l.mapM f with
              | error e' =>
                  rw [hl] at h
                  cases h
                  rfl
              | ok bs =>
                  rw [hl] at h
                  cases h
            obtain ⟨front, x, back, rfl, hfront, hx⟩ := ih hrest
            exact ⟨a :: front, x, back, rfl, List.forall_mem_cons.mpr ⟨⟨b, ha⟩, hfront⟩, hx⟩
  · rintro ⟨front, a, back, rfl, hfront, ha⟩
    induction front with
    | nil =>
        rw [List.nil_append, List.mapM_cons, ha]
        rfl
    | cons x front ih =>
        obtain ⟨⟨y, hy⟩, hfront⟩ := List.forall_mem_cons.mp hfront
        rw [List.cons_append, List.mapM_cons, hy]
        dsimp only [bind, Except.bind]
        rw [ih hfront]

/-- A check gives a result that satisfies `P`, or a fault that satisfies `Q`. -/
def Meets (x : Except ε α) (P : α → Prop) (Q : ε → Prop) : Prop :=
  match x with
  | .ok a => P a
  | .error e => Q e

namespace Meets
variable {P P' : α → Prop} {Q Q' : ε → Prop} {R : β → Prop}

theorem mono {x : Except ε α} (h : Meets x P Q) (hok : ∀ a, P a → P' a)
    (herror : ∀ e, Q e → Q' e) : Meets x P' Q' := by
  cases x with
  | ok a => exact hok a h
  | error e => exact herror e h

theorem fault {x : Except ε α} (h : Meets x P Q) {e : ε} (hx : x = .error e) : Q e := by
  rw [hx] at h
  exact h

theorem bind {x : Except ε α} {f : α → Except ε β} (h : Meets x P Q)
    (hf : ∀ a, P a → Meets (f a) R Q) : Meets (x >>= f) R Q := by
  cases x with
  | ok a => exact hf a h
  | error e => exact h

theorem map {x : Except ε α} {f : α → β} (h : Meets x (fun a => R (f a)) Q) :
    Meets (x.map f) R Q := by
  cases x with
  | ok a => exact h
  | error e => exact h

theorem mapError {x : Except ε α} {f : ε → ε'} {Q : ε' → Prop} (h : Meets x P fun e => Q (f e)) :
    Meets (x.mapError f) P Q := by
  cases x with
  | ok a => exact h
  | error e => exact h

theorem foldlM {f : β → α → Except ε β} {l : List α}
    (hstep : ∀ b, ∀ a ∈ l, R b → Meets (f b a) R Q) {b : β} (hb : R b) :
    Meets (l.foldlM f b) R Q := by
  induction l generalizing b with
  | nil => exact hb
  | cons a l ih =>
      rw [List.foldlM_cons]
      have hrest : ∀ c, R c → Meets (l.foldlM f c) R Q := by
        intro c hc
        exact ih (fun b a ha => hstep b a (List.mem_cons_of_mem _ ha)) hc
      exact (hstep b a List.mem_cons_self hb).bind hrest

theorem mapM {f : α → Except ε β} {l : List α} (h : ∀ a ∈ l, Meets (f a) R Q) :
    Meets (l.mapM f) (fun bs => ∀ b ∈ bs, R b) Q := by
  induction l with
  | nil =>
      rw [List.mapM_nil]
      exact List.forall_mem_nil _
  | cons a l ih =>
      rw [List.mapM_cons]
      have hrest := ih fun a ha => h a (List.mem_cons_of_mem _ ha)
      refine (h a List.mem_cons_self).bind fun b hb => hrest.bind fun bs hbs => ?_
      exact List.forall_mem_cons.mpr ⟨hb, hbs⟩

theorem mapM_fault {f : α → Except ε β} {l : List α} (h : ∀ a ∈ l, Meets (f a) (fun _ => True) Q) :
    Meets (l.mapM f) (fun _ => True) Q :=
  (mapM h).mono (fun _ _ => trivial) fun _ he => he

end Meets

end

end BoundaryLint
