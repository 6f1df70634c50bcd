import BoundaryLint.Regex.Match
import BoundaryLint.Regex.Parser
import Mathlib.Computability.Language

/-!
# Languages of regular expressions

An expression denotes a language if, wherever it is matched, it takes a word of that language and
leaves the rest to what follows. Which of the words it tries first makes no difference to whether
there is a match. Concatenation, alternatives and greedy repetition then mean what they mean for
languages, the last one as long as each round takes something.
-/
namespace BoundaryLint.Regex

open Computability

namespace Cursor

/-- The cursor behind a word. -/
def past (c : Cursor) (w : List Char) : Cursor :=
  { c with
    before := w.reverse ++ c.before
    after := c.after.drop w.length
    pos := c.pos + w.length }

@[simp] theorem past_nil (c : Cursor) : c.past [] = c := rfl

@[simp] theorem after_past (c : Cursor) (w : List Char) :
    (c.past w).after = c.after.drop w.length := rfl

@[simp] theorem pos_past (c : Cursor) (w : List Char) : (c.past w).pos = c.pos + w.length := rfl

theorem past_past (c : Cursor) (v w : List Char) : (c.past v).past w = c.past (v ++ w) := by
  simp [past, Nat.add_assoc]

end Cursor

theorem append_prefix_iff {v w s : List Char} :
    v ++ w <+: s ↔ v <+: s ∧ w <+: s.drop v.length := by
  constructor
  · intro h
    obtain ⟨t, rfl⟩ := h
    refine ⟨⟨w ++ t, by simp⟩, ?_⟩
    rw [List.append_assoc, List.drop_left]
    exact List.prefix_append w t
  · intro h
    obtain ⟨⟨t, rfl⟩, hw⟩ := h
    rw [List.drop_left] at hw
    exact (List.prefix_append_right_inj v).mpr hw

/-- The words of one character that satisfies `p`. -/
def singles (p : Char → Bool) : Language Char := {w | ∃ x, p x = true ∧ w = [x]}

theorem nil_not_mem_singles (p : Char → Bool) : [] ∉ singles p := by
  intro h
  obtain ⟨x, -, hx⟩ := h
  cases hx

/-- A repetition of single characters takes the texts that consist of them. -/
theorem mem_kstar_singles {p : Char → Bool} {w : List Char} :
    w ∈ (singles p)∗ ↔ ∀ x ∈ w, p x = true := by
  constructor
  · intro hw
    obtain ⟨parts, rfl, hparts⟩ := Language.mem_kstar.mp hw
    intro x hx
    obtain ⟨part, hpart, hx⟩ := List.mem_flatten.mp hx
    obtain ⟨y, hy, rfl⟩ := hparts part hpart
    rw [List.mem_singleton.mp hx]
    exact hy
  · intro hw
    refine Language.mem_kstar.mpr ⟨w.map fun x => [x], ?_, ?_⟩
    · rw [← List.flatMap_def, List.flatMap_singleton']
    · intro part hpart
      obtain ⟨x, hx, rfl⟩ := List.mem_map.mp hpart
      exact ⟨x, hw x hx, rfl⟩

namespace Node

/-- A match takes a word of the language and leaves the rest to what follows. -/
def Denotes (n : Node) (l : Language Char) : Prop :=
  ∀ (k : Next) (c : Cursor),
    (n.run k c).isSome = true ↔ ∃ w ∈ l, w <+: c.after ∧ (k (c.past w)).isSome = true

section
variable {a b n : Node} {l m : Language Char}

theorem denotes_empty : Denotes .empty 1 := by
  intro k c
  simp [run, Language.mem_one]

theorem isSome_step_bind (p : Char → Bool) (k : Next) (c : Cursor) :
    ((c.step p).bind k).isSome = true ↔
      ∃ x, p x = true ∧ [x] <+: c.after ∧ (k (c.past [x])).isSome = true := by
  obtain ⟨before, after, pos, groups⟩ := c
  cases after with
  | nil => simp [Cursor.step]
  | cons x rest =>
      by_cases hx : p x = true
      · simp [Cursor.step, hx, Cursor.past]
      · constructor
        · intro h
          simp [Cursor.step, hx] at h
        · intro h
          obtain ⟨y, hy, hfront, -⟩ := h
          obtain ⟨rfl, -⟩ := List.cons_prefix_cons.mp hfront
          exact absurd hy hx

/-- A leaf takes one character. -/
theorem denotes_leaf {p : Char → Bool} (h : ∀ k c, n.run k c = (c.step p).bind k) :
    Denotes n (singles p) := by
  intro k c
  rw [h, isSome_step_bind]
  constructor
  · intro h
    obtain ⟨x, hx, hrest⟩ := h
    exact ⟨[x], ⟨x, hx, rfl⟩, hrest⟩
  · intro h
    obtain ⟨w, ⟨x, hx, rfl⟩, hrest⟩ := h
    exact ⟨x, hx, hrest⟩

theorem Denotes.seq (ha : a.Denotes l) (hb : b.Denotes m) : (Node.seq a b).Denotes (l * m) := by
  intro k c
  rw [run, ha]
  constructor
  · intro h
    obtain ⟨v, hv, hfront, hrun⟩ := h
    obtain ⟨w, hw, hbehind, hk⟩ := (hb k _).mp hrun
    rw [Cursor.past_past] at hk
    exact ⟨v ++ w, Language.append_mem_mul hv hw, append_prefix_iff.mpr ⟨hfront, hbehind⟩, hk⟩
  · intro h
    obtain ⟨u, hu, hfront, hk⟩ := h
    obtain ⟨v, hv, w, hw, rfl⟩ := Language.mem_mul.mp hu
    obtain ⟨hfront, hbehind⟩ := append_prefix_iff.mp hfront
    refine ⟨v, hv, hfront, (hb k _).mpr ⟨w, hw, hbehind, ?_⟩⟩
    rw [Cursor.past_past]
    exact hk

theorem Denotes.alt (ha : a.Denotes l) (hb : b.Denotes m) : (Node.alt a b).Denotes (l + m) := by
  intro k c
  have hrun : ((Node.alt a b).run k c).isSome = true ↔
      (a.run k c).isSome = true ∨ (b.run k c).isSome = true := by
    rw [run]
    cases a.run k c with
    | none => simp
    | some r => simp
  rw [hrun, ha, hb]
  simp only [Language.mem_add, or_and_right, exists_or]

theorem Denotes.group (h : n.Denotes l) : (Node.group n).Denotes l := by
  intro k c
  rw [run]
  exact h k c

/-- Rounds that each take something find every word of the star, as long as there is room for the
characters that are left. -/
theorem Denotes.isSome_greedyRounds (h : n.Denotes l) (hne : [] ∉ l) (k : Next) (room : Nat)
    (last : Option Nat) (c : Cursor) (hroom : c.after.length < room) (hlast : last ≠ some c.pos) :
    (greedyRounds n.run k room none last c).isSome = true ↔
      ∃ w ∈ l∗, w <+: c.after ∧ (k (c.past w)).isSome = true := by
  induction room generalizing last c with
  | zero => omega
  | succ room ih =>
      have hrun : (greedyRounds n.run k (room + 1) none last c).isSome = true ↔
          (n.run (greedyRounds n.run k room none (some c.pos)) c).isSome = true ∨
            (k c).isSome = true := by
        rw [greedyRounds, if_neg (by simpa using hlast), Option.map_none]
        cases n.run (greedyRounds n.run k room none (some c.pos)) c with
        | none => simp
        | some r => simp
      -- a round takes a word that is not empty, so the cursor moves and the room suffices
      have hround : ∀ w ∈ l, w <+: c.after →
          ((greedyRounds n.run k room none (some c.pos) (c.past w)).isSome = true ↔
            ∃ v ∈ l∗, v <+: (c.past w).after ∧ (k ((c.past w).past v)).isSome = true) := by
        intro w hw hfront
        have hpos : 0 < w.length := List.length_pos_iff.mpr fun hnil => hne (hnil ▸ hw)
        have hlength := hfront.length_le
        refine ih (some c.pos) (c.past w) ?_ ?_
        · rw [Cursor.after_past, List.length_drop]
          omega
        · rw [Cursor.pos_past, ne_eq, Option.some.injEq]
          omega
      rw [hrun, h, ← Language.one_add_self_mul_kstar_eq_kstar l]
      constructor
      · intro hor
        rcases hor with ⟨w, hw, hfront, hrest⟩ | hk
        · obtain ⟨v, hv, hbehind, hk⟩ := (hround w hw hfront).mp hrest
          rw [Cursor.past_past] at hk
          exact ⟨w ++ v, .inr (Language.append_mem_mul hw hv),
            append_prefix_iff.mpr ⟨hfront, hbehind⟩, hk⟩
        · exact ⟨[], .inl ((Language.mem_one []).mpr rfl), List.nil_prefix, hk⟩
      · intro hex
        obtain ⟨u, hu, hfront, hk⟩ := hex
        rcases hu with hu | hu
        · obtain rfl := (Language.mem_one u).mp hu
          exact .inr hk
        · obtain ⟨w, hw, v, hv, rfl⟩ := Language.mem_mul.mp hu
          obtain ⟨hfront, hbehind⟩ := append_prefix_iff.mp hfront
          refine .inl ⟨w, hw, hfront, (hround w hw hfront).mpr ⟨v, hv, hbehind, ?_⟩⟩
          rw [Cursor.past_past]
          exact hk

theorem Denotes.loop (h : n.Denotes l) (hne : [] ∉ l) :
    (Node.loop 0 none .greedy n).Denotes l∗ := by
  intro k c
  rw [run, times]
  exact h.isSome_greedyRounds hne k _ none c (by omega) (by simp)

theorem run_sequence_cons (a : Node) (as : List Node) (k : Next) :
    (Reader.sequence (a :: as).reverse).run k = a.run ((Reader.sequence as.reverse).run k) := by
  rw [List.reverse_cons]
  cases has : as.reverse with
  | nil => rfl
  | cons last items =>
      have hsequence : Reader.sequence (last :: items ++ [a]) =
          .seq a (Reader.sequence (last :: items)) := by
        simp [Reader.sequence, List.foldl_append]
      rw [hsequence]
      rfl

theorem run_sequence_append (as bs : List Node) (k : Next) :
    (Reader.sequence (as ++ bs).reverse).run k =
      (Reader.sequence as.reverse).run ((Reader.sequence bs.reverse).run k) := by
  induction as with
  | nil => rfl
  | cons a as ih => rw [List.cons_append, run_sequence_cons, run_sequence_cons, ih]

/-- Items one after the other. -/
theorem Denotes.sequence_append {as bs : List Node} (h : (Reader.sequence as.reverse).Denotes l)
    (h' : (Reader.sequence bs.reverse).Denotes m) :
    (Reader.sequence (as ++ bs).reverse).Denotes (l * m) := by
  intro k c
  rw [run_sequence_append]
  exact h.seq h' k c

/-- Matched up to the end of the text, an expression accepts the words of its language. -/
theorem Denotes.isSome_run_textEnd (h : n.Denotes l) (text : List Char) :
    ((Node.seq n (.anchor .textEnd)).run some { after := text }).isSome = true ↔ text ∈ l := by
  rw [run, h]
  constructor
  · intro hex
    obtain ⟨w, hw, ⟨t, rfl⟩, hend⟩ := hex
    have ht : t = [] := by
      simpa [run, Cursor.holds] using hend
    rw [ht, List.append_nil]
    exact hw
  · intro htext
    refine ⟨text, htext, List.prefix_refl text, ?_⟩
    simp [run, Cursor.holds]

end

end Node

end BoundaryLint.Regex
