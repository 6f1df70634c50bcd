import BoundaryLint.Proofs.GlobLanguage
import BoundaryLint.Proofs.PatternModes
import BoundaryLint.Proofs.RegexLanguage
import Mathlib.Tactic.FinCases

/-!
# The pattern of a glob

A glob is matched as a regular expression. The text that an expression has there is read back piece
by piece: the reader of regular expressions comes behind the text of a piece with the node of that
piece, whatever follows, and from pieces this goes on to rows of pieces, alternatives and groups. So
the pattern of a glob with plain classes is known, and it matches the paths that the glob denotes.
-/
namespace BoundaryLint

namespace Regex.Reader

/-- The modes inside the pattern of a glob: the dot takes line feeds too. -/
def dotAll : Flags := ⟨['s']⟩

/-- What may follow an item: nothing that belongs to a repetition, and no lone backslash. -/
structure Calm (more : List Char) : Prop where
  notLazy : more.head? ≠ some '?'
  notPossessive : more.head? ≠ some '+'
  notDangling : more ≠ ['\\']

section
variable {t u : List Char} {p q : Prop} {as bs : List Node} {n : Node}

/-- With a text in front, the reader of items goes on behind it with the nodes of the text if `p`
holds, and does not come to an end otherwise. -/
def Yields (t : List Char) (p : Prop) (as : List Node) : Prop :=
  ∀ (s : State) (k : Nat) (more : List Char) (first : Bool) (acc : List Node) (fuel : Nat),
    Calm more → t.length < fuel →
    ∃ left, fuel ≤ left + t.length ∧ ∀ r,
      (items fuel (some dotAll) first acc).run (s.at (t ++ more) k) = .ok r ↔
        p ∧ (items left (some dotAll) first (as.reverse ++ acc)).run (s.at more (k + t.length)) =
          .ok r

theorem yields_nil : Yields [] True [] := by
  intro s k more first acc fuel hmore hfuel
  exact ⟨fuel, Nat.le_refl fuel, by simp⟩

theorem Yields.append (h : Yields t p as) (h' : Yields u q bs)
    (hcalm : ∀ more, Calm more → Calm (u ++ more)) : Yields (t ++ u) (p ∧ q) (as ++ bs) := by
  intro s k more first acc fuel hmore hfuel
  rw [List.length_append] at hfuel ⊢
  obtain ⟨left, hleft, hrun⟩ := h s k (u ++ more) first acc fuel (hcalm more hmore) (by omega)
  obtain ⟨left', hleft', hrun'⟩ :=
    h' s (k + t.length) more first (as.reverse ++ acc) left hmore (by omega)
  refine ⟨left', by omega, fun r => ?_⟩
  rw [List.append_assoc, hrun, hrun', and_assoc, List.reverse_append, List.append_assoc,
    Nat.add_assoc]

theorem yields_of_turn (ht : t ≠ [])
    (h : ∀ (s : State) (k : Nat) (more : List Char) (first : Bool) (acc : List Node) (fuel : Nat)
      (r : List Node × State), Calm more → t.length ≤ fuel →
      ((items (fuel + 1) (some dotAll) first acc).run (s.at (t ++ more) k) = .ok r ↔
        p ∧ (items fuel (some dotAll) first (n :: acc)).run (s.at more (k + t.length)) = .ok r)) :
    Yields t p [n] := by
  intro s k more first acc fuel hmore hfuel
  have hlength := List.length_pos_iff.mpr ht
  obtain ⟨left, rfl⟩ := Nat.exists_eq_succ_of_ne_zero (Nat.ne_zero_of_lt hfuel)
  exact ⟨left, by omega, fun r => h s k more first acc left r hmore (by omega)⟩

variable {s : State} {k fuel : Nat} {first : Bool} {acc : List Node} {c : Char}
  {cs more : List Char}

theorem run_get (s : State) : (get : Reader State).run s = .ok (s, s) := rfl

theorem run_position (s : State) : position.run s = .ok (s.pos, s) := rfl

/-! ### One turn for each kind of item -/

theorem run_items_char (hc : Glob.isSpecial c = false) (hcs : cs ≠ ['\\']) :
    (items (fuel + 1) (some dotAll) first acc).run (s.at (c :: cs) k) =
      (items fuel (some dotAll) first (.char c.toNat .exact :: acc)).run (s.at cs (k + 1)) := by
  have hescape : c ≠ '\\' := by
    intro h
    subst h
    cases hc
  rw [items, run_bind_of_ok (run_get _), run_bind_of_ok (run_peek hescape)]
  split
  · rename_i heq
    cases heq
  · rename_i heq
    cases heq
    cases hc
  · rename_i heq
    cases heq
    cases hc
  · rename_i heq
    cases heq
    rw [run_bind_of_ok (run_next hescape hcs)]
    dsimp only
    rw [if_neg (by simp [dotAll, Flags.has]), if_neg (by simp [dotAll, Flags.has])]
    -- all characters with a meaning of their own are special, so the last case is left
    split
    case _ => cases hc
    case _ => cases hc
    case _ => cases hc
    case _ => cases hc
    case _ => cases hc
    case _ =>
      rw [if_neg]
      · rfl
      · intro hrepeat
        simp only [Bool.or_eq_true, beq_iff_eq] at hrepeat
        rcases hrepeat with ((rfl | rfl) | rfl) | rfl <;> cases hc

theorem escape_of_isSpecial (hc : Glob.isSpecial c = true) :
    (escape dotAll c).run s = .ok (.char c.toNat .exact, s) := by
  simp only [Glob.isSpecial, List.contains_eq_mem, decide_eq_true_eq] at hc
  fin_cases hc <;> rfl

theorem run_items_escaped (hc : Glob.isSpecial c = true) (hcs : cs ≠ ['\\']) :
    (items (fuel + 1) (some dotAll) first acc).run (s.at ('\\' :: c :: cs) k) =
      (items fuel (some dotAll) first (.char c.toNat .exact :: acc)).run (s.at cs (k + 2)) := by
  have hturn : (items (fuel + 1) (some dotAll) first acc).run (s.at ('\\' :: c :: cs) k) =
      (next >>= fun _ => escape dotAll c >>= fun a =>
        items fuel (some dotAll) first (a :: acc)).run (s.at ('\\' :: c :: cs) k) := rfl
  have hnext : next.run (s.at ('\\' :: c :: cs) k) = .ok (some (.escaped c), s.at cs (k + 2)) :=
    run_next_of_rest rfl (Token.head?_ofChars_ne hcs)
  rw [hturn, run_bind_of_ok hnext, run_bind_of_ok (escape_of_isSpecial hc)]

theorem run_items_dot (hcs : cs ≠ ['\\']) :
    (items (fuel + 1) (some dotAll) first acc).run (s.at ('.' :: cs) k) =
      (items fuel (some dotAll) first (.any true :: acc)).run (s.at cs (k + 1)) := by
  have hturn : (items (fuel + 1) (some dotAll) first acc).run (s.at ('.' :: cs) k) =
      (next >>= fun _ => items fuel (some dotAll) first (.any true :: acc)).run
        (s.at ('.' :: cs) k) := rfl
  rw [hturn, run_bind_of_ok (run_next (by decide) hcs)]

theorem run_items_set {r : List Node × State} {body : List Char} (hplain : Glob.isPlain body = true)
    (hclose : ']' ∉ body) (hmore : more ≠ ['\\']) :
    (items (fuel + 1) (some dotAll) first acc).run (s.at ('[' :: (body ++ ']' :: more)) k) = .ok r ↔
      Glob.Ascending (Glob.unsigned body) ∧
        (items fuel (some dotAll) first (.set (Glob.charsetOf body) .exact :: acc)).run
          (s.at more (k + (body.length + 2))) = .ok r := by
  have hturn : (items (fuel + 1) (some dotAll) first acc).run
      (s.at ('[' :: (body ++ ']' :: more)) k) =
      (next >>= fun _ => position >>= fun start => charset false (start - 1) >>= fun set =>
        items fuel (some dotAll) first (.set set .exact :: acc)).run
          (s.at ('[' :: (body ++ ']' :: more)) k) := rfl
  rw [hturn, run_bind_of_ok (run_next (by decide) (append_cons_ne (by decide) body more)),
    run_bind_of_ok (run_position _),
    run_bind_eq_ok_iff fun r => run_charset_eq_ok_iff (r := r) _ hplain hclose hmore, Nat.add_assoc,
    Nat.add_comm 1]

theorem run_items_star {item : Node} (hanchor : ∀ a, item ≠ .anchor a)
    (hloop : ∀ lo hi greed body, item ≠ .loop lo hi greed body) (hmore : Calm more) :
    (items (fuel + 1) (some dotAll) first (item :: acc)).run (s.at ('*' :: more) k) =
      (items fuel (some dotAll) first (.loop 0 none .greedy item :: acc)).run
        (s.at more (k + 1)) := by
  have hturn : (items (fuel + 1) (some dotAll) first (item :: acc)).run (s.at ('*' :: more) k) =
      (next >>= fun _ => repetition dotAll '*' (item :: acc) >>= fun acc =>
        items fuel (some dotAll) first acc).run (s.at ('*' :: more) k) := rfl
  have hgreed : greed.run (s.at more (k + 1)) = .ok (.greedy, s.at more (k + 1)) := by
    rw [greed, run_bind_of_ok (run_accept_other hmore.notLazy), if_neg (by simp),
      run_bind_of_ok (run_accept_other hmore.notPossessive)]
    rfl
  have hrepetition : (repetition dotAll '*' (item :: acc)).run (s.at more (k + 1)) =
      .ok (.loop 0 none .greedy item :: acc, s.at more (k + 1)) := by
    have hbounds (start : Nat) (s : State) :
      (bounds start '*').run s = .ok (some (0, none), s) := rfl
    rw [repetition, run_bind_of_ok (run_position _), run_bind_of_ok (hbounds _ _)]
    dsimp only
    split
    · rename_i heq
      cases heq
    · rename_i a as heq
      cases heq
      exact absurd rfl (hanchor a)
    · rename_i lo hi greed body as heq
      cases heq
      exact absurd rfl (hloop lo hi greed body)
    · rename_i heq
      cases heq
      rw [run_bind_of_ok hgreed]
      rfl
  rw [hturn, run_bind_of_ok (run_next (by decide) hmore.notDangling), run_bind_of_ok hrepetition]

theorem run_items_group {p : Prop} {m : Node} {s' : State} {r : List Node × State}
    (h : ∀ start atStart r, (groupAt fuel dotAll atStart start).run (s.at cs (k + 1)) = .ok r ↔
      p ∧ r = (some m, s')) (hcs : cs ≠ ['\\']) :
    (items (fuel + 1) (some dotAll) first acc).run (s.at ('(' :: cs) k) = .ok r ↔
      p ∧ (items fuel (some dotAll) first (m :: acc)).run s' = .ok r := by
  rw [items, run_bind_of_ok (run_get _), run_bind_of_ok (run_peek (by decide))]
  change StateT.run (next >>= fun _ => position >>= fun start =>
    groupAt fuel dotAll (first && acc.isEmpty) (start - 1) >>= _) _ = _ ↔ _
  rw [run_bind_of_ok (run_next (by decide) hcs), run_bind_of_ok (run_position _),
    run_bind_eq_ok_iff (h _ _)]

theorem run_items_stop (hc : c = '|' ∨ c = ')') :
    (items (fuel + 1) (some dotAll) first acc).run (s.at (c :: cs) k) =
      .ok (acc, s.at (c :: cs) k) := by
  rcases hc with rfl | rfl
  · rfl
  · rfl

end

/-! ### Pieces of text -/

section
variable {t u : List Char} {p q : Prop} {as : List Node} {n : Node}

theorem Calm.of_head {c : Char} (h : c ≠ '?') (h' : c ≠ '+') (hescape : c ≠ '\\')
    (cs : List Char) : Calm (c :: cs) :=
  ⟨by simpa using h, by simpa using h', by simp [hescape]⟩

theorem yields_char {c : Char} (hc : Glob.isSpecial c = false) :
    Yields [c] True [.char c.toNat .exact] := by
  apply yields_of_turn (by simp)
  intro s k more first acc fuel r hmore _
  rw [List.singleton_append, run_items_char hc hmore.notDangling]
  simp

theorem yields_escaped {c : Char} (hc : Glob.isSpecial c = true) :
    Yields ['\\', c] True [.char c.toNat .exact] := by
  apply yields_of_turn (by simp)
  intro s k more first acc fuel r hmore _
  rw [List.cons_append, List.singleton_append, run_items_escaped hc hmore.notDangling]
  simp

theorem yields_dot : Yields ['.'] True [.any true] := by
  apply yields_of_turn (by simp)
  intro s k more first acc fuel r hmore _
  rw [List.singleton_append, run_items_dot hmore.notDangling]
  simp

theorem yields_set {body : List Char} (hplain : Glob.isPlain body = true) (hclose : ']' ∉ body) :
    Yields ('[' :: body ++ [']']) (Glob.Ascending (Glob.unsigned body))
      [.set (Glob.charsetOf body) .exact] := by
  apply yields_of_turn (by simp)
  intro s k more first acc fuel r hmore _
  rw [List.cons_append, List.cons_append, List.append_assoc, List.singleton_append,
    run_items_set hplain hclose hmore.notDangling]
  simp

theorem Yields.star (h : Yields t p [n]) (hanchor : ∀ a, n ≠ .anchor a)
    (hloop : ∀ lo hi greed body, n ≠ .loop lo hi greed body) :
    Yields (t ++ ['*']) p [.loop 0 none .greedy n] := by
  intro s k more first acc fuel hmore hfuel
  rw [List.length_append, List.length_singleton] at hfuel ⊢
  have hcalm : Calm ('*' :: more) := .of_head (by decide) (by decide) (by decide) more
  obtain ⟨left, hleft, hrun⟩ := h s k ('*' :: more) first acc fuel hcalm (by omega)
  obtain ⟨left, rfl⟩ : ∃ m, left = m + 1 := ⟨left - 1, by omega⟩
  refine ⟨left, by omega, fun r => ?_⟩
  rw [List.append_assoc, List.singleton_append, hrun, List.reverse_singleton,
    List.singleton_append, run_items_star hanchor hloop hmore]
  rfl

/-! ### Alternatives and groups -/

/-- In front of a closing parenthesis, a text is read as an expression if `p` holds, and not at all
otherwise. -/
def ReadsAs (t : List Char) (p : Prop) (n : Node) : Prop :=
  ∀ (s : State) (k : Nat) (more : List Char) (first : Bool) (fuel : Nat), t.length + 1 < fuel →
    ∀ r, (alternatives fuel (some dotAll) first).run (s.at (t ++ ')' :: more) k) = .ok r ↔
      p ∧ r = (n, s.at (')' :: more) (k + t.length))

theorem Yields.run_items (h : Yields t p as) {s : State} {k : Nat} {c : Char} {more : List Char}
    {first : Bool} {fuel : Nat} (hc : c = '|' ∨ c = ')') (hfuel : t.length < fuel)
    {r : List Node × State} :
    (items fuel (some dotAll) first []).run (s.at (t ++ c :: more) k) = .ok r ↔
      p ∧ r = (as.reverse, s.at (c :: more) (k + t.length)) := by
  have hcalm : Calm (c :: more) := by
    rcases hc with rfl | rfl
    · exact .of_head (by decide) (by decide) (by decide) more
    · exact .of_head (by decide) (by decide) (by decide) more
  obtain ⟨left, hleft, hrun⟩ := h s k (c :: more) first [] fuel hcalm hfuel
  obtain ⟨left, rfl⟩ : ∃ m, left = m + 1 := ⟨left - 1, by omega⟩
  rw [hrun, run_items_stop hc, List.append_nil, Except.ok.injEq]
  simp only [eq_comm]

theorem Yields.readsAs (h : Yields t p as) : ReadsAs t p (sequence as.reverse) := by
  intro s k more first fuel hfuel r
  obtain ⟨fuel, rfl⟩ : ∃ m, fuel = m + 1 := ⟨fuel - 1, by omega⟩
  rw [alternatives, run_bind_eq_ok_iff fun r =>
    h.run_items (r := r) (.inr rfl) (Nat.lt_of_succ_lt_succ hfuel)]
  dsimp only
  rw [run_bind_of_ok (run_accept_other (by simp)), if_neg (by simp), run_pure_eq_ok_iff]

theorem Yields.readsAs_alt (h : Yields t p as) (h' : ReadsAs u q n) :
    ReadsAs (t ++ '|' :: u) (p ∧ q) (.alt (sequence as.reverse) n) := by
  intro s k more first fuel hfuel r
  rw [List.length_append, List.length_cons] at hfuel ⊢
  obtain ⟨fuel, rfl⟩ : ∃ m, fuel = m + 1 := ⟨fuel - 1, by omega⟩
  have hbar : u ++ ')' :: more ≠ ['\\'] := append_cons_ne (by decide) u more
  have hrest := h' s (k + t.length + 1) more false fuel (by omega)
  rw [List.append_assoc, List.cons_append, alternatives, run_bind_eq_ok_iff fun r =>
    h.run_items (r := r) (.inl rfl) (by omega)]
  dsimp only
  rw [run_bind_of_ok (run_accept_self (by decide) hbar), if_pos rfl, run_bind_eq_ok_iff hrest,
    run_pure_eq_ok_iff, and_assoc]
  simp only [Nat.add_assoc, Nat.add_comm 1]

theorem run_close {s : State} {k : Nat} {more : List Char} (start : Nat) (hmore : more ≠ ['\\']) :
    (close start).run (s.at (')' :: more) k) = .ok ((), s.at more (k + 1)) := by
  rw [close, run_bind_of_ok (run_accept_self (by decide) hmore)]
  rfl

/-- The group whose opening leads to the modes of the pattern. -/
theorem ReadsAs.run_groupAt (h : ReadsAs t p n) {s s₀ : State} {k fuel start : Nat}
    {more : List Char} {flags : Flags} {atStart : Bool} {r : Option Node × State}
    (hopening : (opening start flags atStart).run s₀ =
      .ok (.body false none false dotAll, s.at (t ++ ')' :: more) k))
    (hmore : more ≠ ['\\']) (hfuel : t.length + 1 < fuel) :
    (groupAt (fuel + 1) flags atStart start).run s₀ = .ok r ↔
      p ∧ r = (some (.group n), s.at more (k + (t.length + 1))) := by
  rw [groupAt, run_bind_of_ok hopening]
  dsimp only
  have hnone : (pure none : Reader (Option Nat)).run (s.at (t ++ ')' :: more) k) =
    .ok (none, s.at (t ++ ')' :: more) k) := rfl
  rw [if_neg (by simp), run_bind_of_ok hnone, run_bind_eq_ok_iff (h s k more false fuel hfuel),
    run_bind_of_ok (run_close start hmore)]
  dsimp only
  rw [if_neg (by simp), run_pure_eq_ok_iff, Nat.add_assoc]

theorem ReadsAs.group (h : ReadsAs t p n) :
    Yields ('(' :: '?' :: ':' :: (t ++ [')'])) p [.group n] := by
  apply yields_of_turn (by simp)
  intro s k more first acc fuel r hmore hfuel
  simp only [List.length_cons, List.length_append, List.length_nil] at hfuel
  obtain ⟨fuel, rfl⟩ : ∃ m, fuel = m + 1 := ⟨fuel - 1, by omega⟩
  have htext : '(' :: '?' :: ':' :: (t ++ [')']) ++ more =
      '(' :: '?' :: ':' :: (t ++ ')' :: more) := by
    simp
  have hbody : t ++ ')' :: more ≠ ['\\'] := append_cons_ne (by decide) t more
  have hopening (start : Nat) (atStart : Bool) : (opening start dotAll atStart).run
      (s.at ('?' :: ':' :: (t ++ ')' :: more)) (k + 1)) =
      .ok (.body false none false dotAll, s.at (t ++ ')' :: more) (k + 3)) := by
    rw [opening, run_bind_of_ok (run_accept_self (by decide) (by simp)), if_neg (by simp),
      run_bind_of_ok (run_next (by decide) hbody)]
    rfl
  have hfuel' : t.length + 1 < fuel := by omega
  have hgroup (start : Nat) (atStart : Bool) (r : Option Node × State) :=
    h.run_groupAt (r := r) (hopening start atStart) hmore.notDangling hfuel'
  rw [htext, run_items_group hgroup (by simp)]
  simp [Nat.add_comm, Nat.add_left_comm]

end

end Regex.Reader

namespace Glob

open Regex Regex.Reader

/-! ### The text of an expression -/

def notSlash : Regex.Node := .set (charsetOf ['^', '/']) .exact

/-- The nodes of an expression whose classes are plain. -/
def Expr.nodes : Expr (List Char) → List Regex.Node
  | .nil => []
  | .lit c => [.char c.toNat .exact]
  | .one => [notSlash]
  | .star => [.loop 0 none .greedy notSlash]
  | .cls body => [.set (charsetOf body) .exact]
  | .dirs => [.loop 0 none .greedy (.group (.seq (.loop 0 none .greedy notSlash)
      (.char '/'.toNat .exact)))]
  | .rest => [.loop 0 none .greedy (.any true)]
  | .cat a b => a.nodes ++ b.nodes
  | .alt a b => [.alt (sequence a.nodes.reverse) (sequence b.nodes.reverse)]
  | .brace body => [.group (sequence body.nodes.reverse)]

/-- The regular expression of an expression whose classes are plain. -/
def Expr.node (e : Expr (List Char)) : Regex.Node :=
  sequence e.nodes.reverse

section
variable (c : Char) (a b : Expr (List Char))

theorem Expr.text_lit : (Expr.lit c).text = if isSpecial c then ['\\', c] else [c] := rfl

theorem Expr.text_cat : (Expr.cat a b).text = a.text ++ b.text := rfl

theorem Expr.text_alt : (Expr.alt a b).text = a.text ++ '|' :: b.text := rfl

end

/-- The text of an expression neither continues a repetition nor ends in a lone backslash. -/
theorem Expr.calm_text (e : Expr (List Char)) {more : List Char} (h : Calm more) :
    Calm (e.text ++ more) := by
  induction e generalizing more with
  | nil => exact h
  | lit c =>
      rw [text_lit]
      by_cases hc : isSpecial c = true
      · rw [if_pos hc]
        exact ⟨by simp, by simp, by simp⟩
      · rw [if_neg hc]
        refine .of_head ?_ ?_ ?_ more
        all_goals
          intro heq
          subst heq
          exact hc rfl
  | cat a b iha ihb =>
      rw [text_cat, List.append_assoc]
      exact iha (ihb h)
  | alt a b iha ihb =>
      rw [text_alt, List.append_assoc]
      exact iha (.of_head (by decide) (by decide) (by decide) _)
  | one | star | cls | dirs | rest | brace =>
      exact .of_head (by decide) (by decide) (by decide) _

theorem yields_one : Yields Expr.one.text Expr.one.Ascends Expr.one.nodes := by
  have h := @yields_set ['^', '/'] rfl (by decide)
  have hascending : Ascending (unsigned ['^', '/']) = True := by
    simp [Ascending, unsigned, intervals]
  rw [hascending] at h
  exact h

theorem yields_star : Yields Expr.star.text Expr.star.Ascends Expr.star.nodes :=
  yields_one.star (by simp [notSlash]) (by simp [notSlash])

theorem yields_lit (c : Char) :
    Yields (Expr.lit c).text (Expr.lit c).Ascends (Expr.lit c).nodes := by
  rw [Expr.text_lit]
  by_cases hc : isSpecial c = true
  · rw [if_pos hc]
    exact yields_escaped hc
  · rw [if_neg hc]
    exact yields_char (by simpa using hc)

theorem yields_dirs : Yields Expr.dirs.text Expr.dirs.Ascends Expr.dirs.nodes := by
  have hsegment := yields_star.append (yields_lit '/') fun _ => (Expr.lit '/').calm_text
  have hslash : (Expr.star.Ascends ∧ (Expr.lit '/').Ascends) = True := by simp [Expr.Ascends]
  rw [hslash] at hsegment
  exact hsegment.readsAs.group.star (by simp) (by simp)

theorem yields_rest : Yields Expr.rest.text Expr.rest.Ascends Expr.rest.nodes :=
  yields_dot.star (by simp) (by simp)

theorem yields_cls {body : List Char} (hplain : (Expr.cls body).plain = true)
    (hclose : ']' ∉ body) :
    Yields (Expr.cls body).text (Expr.cls body).Ascends (Expr.cls body).nodes :=
  yields_set hplain hclose

/-- How the text of what was read is read as a regular expression. -/
def Part.Yields : Part → Expr (List Char) → Prop
  | .pieces _, e => Reader.Yields e.text e.Ascends e.nodes
  | .choices, e => ReadsAs e.text e.Ascends e.node

theorem yields_cat {a e : Expr (List Char)} (h : Yields a.text a.Ascends a.nodes)
    (h' : Yields e.text e.Ascends e.nodes) :
    Yields (Expr.cat a e).text (Expr.cat a e).Ascends (Expr.cat a e).nodes :=
  h.append h' fun _ => e.calm_text

/-- What a glob is read as has a text that is read as its regular expression, if its classes are
plain and no interval of them ends before it begins. -/
theorem Reads.yields {part : Part} {prev : Option Char} {cs r : List Char} {e : Expr (List Char)}
    (h : Reads part prev cs e r) (hplain : e.plain = true) : part.Yields e := by
  induction h with
  | done | stop => exact yields_nil
  | rest => exact yields_cat yields_rest yields_nil
  | dirs _ _ ih => exact yields_cat yields_dirs (ih hplain)
  | star _ _ ih => exact yields_cat yields_star (ih hplain)
  | one _ ih => exact yields_cat yields_one (ih hplain)
  | lit _ _ _ ih => exact yields_cat (yields_lit _) (ih hplain)
  | @cls _ _ _ body _ _ _ hsplit _ _ ih =>
      obtain ⟨hbody, hrest⟩ := Bool.and_eq_true_iff.mp hplain
      have hclose : ']' ∉ classBody body := by
        have hbody := bracket_not_mem_of_splitClass hsplit
        unfold classBody
        split
        · simpa using hbody
        · exact hbody
      exact yields_cat (yields_cls hbody hclose) (ih hrest)
  | brace _ _ ih ih' =>
      obtain ⟨hbody, hrest⟩ := Bool.and_eq_true_iff.mp hplain
      have hgroup := ReadsAs.group (ih hbody)
      exact yields_cat hgroup (ih' hrest)
  | last _ ih => exact (ih hplain).readsAs
  | more _ _ ih ih' =>
      obtain ⟨hfirst, hrest⟩ := Bool.and_eq_true_iff.mp hplain
      exact (ih hfirst).readsAs_alt (ih' hrest)

/-! ### What the pattern matches -/

theorem holds_notSlash {x : Char} : (charsetOf ['^', '/']).holds .exact x = true ↔ x ≠ '/' := by
  have hset : (charsetOf ['^', '/']).holds .exact x = ((47 == x.toNat || false) != true) := rfl
  rw [hset, Bool.or_false, Bool.bne_true, Bool.not_eq_true', beq_eq_false_iff_ne]
  exact not_congr ⟨fun h => Char.toNat_inj.mp h.symm, fun h => by rw [h]; rfl⟩

section
open Computability

theorem denotes_star : (Node.loop 0 none .greedy notSlash).Denotes {w | '/' ∉ w} := by
  have hleaf : notSlash.Denotes (singles ((charsetOf ['^', '/']).holds .exact)) :=
    Node.denotes_leaf fun _ _ => rfl
  have hloop := hleaf.loop (nil_not_mem_singles _)
  have hlanguage : (singles ((charsetOf ['^', '/']).holds .exact))∗ = {w | '/' ∉ w} := by
    ext w
    rw [mem_kstar_singles]
    simp only [holds_notSlash]
    constructor
    · intro h hmem
      exact h '/' hmem rfl
    · intro h x hx heq
      exact h (heq ▸ hx)
  rwa [hlanguage] at hloop

theorem denotes_char (c : Char) : (Node.char c.toNat .exact).Denotes {[c]} := by
  have hleaf : (Node.char c.toNat .exact).Denotes (singles fun x => c.toNat == x.toNat) :=
    Node.denotes_leaf fun _ _ => rfl
  have hlanguage : singles (fun x => c.toNat == x.toNat) = {[c]} := by
    ext w
    constructor
    · intro h
      obtain ⟨x, hx, rfl⟩ := h
      obtain rfl := Char.toNat_inj.mp (beq_iff_eq.mp hx)
      rfl
    · intro h
      exact ⟨c, beq_self_eq_true _, h⟩
  rwa [hlanguage] at hleaf

theorem denotes_rest : (Node.loop 0 none .greedy (.any true)).Denotes Set.univ := by
  have hleaf : (Node.any true).Denotes (singles fun _ => true) := Node.denotes_leaf fun _ _ => rfl
  have hloop := hleaf.loop (nil_not_mem_singles _)
  have hlanguage : (singles fun _ => true)∗ = Set.univ := by
    ext w
    exact iff_of_true (mem_kstar_singles.mpr fun _ _ => rfl) trivial
  rwa [hlanguage] at hloop

theorem denotes_dirs : Expr.dirs.node.Denotes segments∗ := by
  have hsegment := denotes_star.seq (denotes_char '/')
  have hlanguage : Expr.star.language charsOf * (Expr.lit '/').language charsOf = segments := by
    ext w
    constructor
    · intro h
      obtain ⟨name, hname, slash, hslash, rfl⟩ := Language.mem_mul.mp h
      obtain rfl : slash = ['/'] := hslash
      exact ⟨name, hname, rfl⟩
    · intro h
      obtain ⟨name, hname, rfl⟩ := h
      exact Language.append_mem_mul hname rfl
  refine Node.Denotes.loop (hlanguage ▸ hsegment.group) ?_
  intro h
  obtain ⟨name, -, hnil⟩ := h
  simp at hnil

/-- The regular expression of an expression denotes the language of the expression. -/
theorem Expr.denotes_node (e : Expr (List Char)) : e.node.Denotes (e.language charsOf) := by
  induction e with
  | nil => exact Node.denotes_empty
  | lit c => exact denotes_char c
  | one =>
      have hleaf : Expr.one.node.Denotes (singles ((charsetOf ['^', '/']).holds .exact)) :=
        Node.denotes_leaf fun _ _ => rfl
      simp only [singles, holds_notSlash] at hleaf
      exact hleaf
  | star => exact denotes_star
  | cls body => exact Node.denotes_leaf fun _ _ => rfl
  | dirs => exact denotes_dirs
  | rest => exact denotes_rest
  | cat a b iha ihb => exact iha.sequence_append ihb
  | alt a b iha ihb => exact iha.alt ihb
  | brace body ih => exact ih.group

end

/-! ### Patterns -/

def Expr.pattern (e : Expr (List Char)) : Pattern where
  source := e.wholeText
  flags := .none
  root := .seq (.group e.node) (.anchor .textEnd)

/-- The pattern matches the paths that the expression denotes. -/
theorem Expr.matchesStart_pattern (e : Expr (List Char)) (path : List Char) :
    e.pattern.matchesStart path = true ↔ path ∈ e.language charsOf :=
  e.denotes_node.group.isSome_run_textEnd path

theorem Expr.wholeText_eq (e : Expr (List Char)) :
    e.wholeText = '(' :: '?' :: 's' :: ':' :: (e.text ++ [')', '\\', 'Z']) := by
  simp [wholeText]

theorem Expr.length_wholeText (e : Expr (List Char)) : e.wholeText.length = e.text.length + 7 := by
  rw [wholeText_eq]
  simp

theorem run_inlineFlags {s : State} {k : Nat} {cs : List Char} (hcs : cs ≠ ['\\']) :
    (inlineFlags (.plain 's')).run (s.at (':' :: cs) k) =
      .ok (some (dotAll, .none), s.at cs (k + 1)) := by
  have hflags (fuel : Nat) : (flagsOn (fuel + 1) (.plain 's') .none).run (s.at (':' :: cs) k) =
      .ok ((dotAll, .plain ':'), s.at cs (k + 1)) := by
    have hturn : (flagsOn (fuel + 1) (.plain 's') .none).run (s.at (':' :: cs) k) =
        (next >>= _).run (s.at (':' :: cs) k) := rfl
    rw [hturn, run_bind_of_ok (run_next (by decide) hcs)]
    rfl
  rw [inlineFlags, run_bind_of_ok (run_get _)]
  dsimp only
  rw [if_neg (by simp), run_bind_of_ok (hflags _)]
  rfl

theorem run_opening {s : State} {k : Nat} {cs : List Char} (start : Nat) (hcs : cs ≠ ['\\']) :
    (opening start .none true).run (s.at ('?' :: 's' :: ':' :: cs) k) =
      .ok (.body false none false dotAll, s.at cs (k + 3)) := by
  rw [opening, run_bind_of_ok (run_accept_self (by decide) (by simp)), if_neg (by simp),
    run_bind_of_ok (run_next (by decide) (by simp))]
  change StateT.run (inlineFlags (.plain 's') >>= _) _ = _
  rw [run_bind_of_ok (run_inlineFlags hcs)]
  rfl

theorem run_items_end {s : State} (hs : s.flags = .none) (k fuel : Nat) (acc : List Regex.Node) :
    (items (fuel + 2) none true acc).run (s.at ['\\', 'Z'] k) =
      .ok (.anchor .textEnd :: acc, s.at [] (k + 2)) := by
  obtain ⟨rest, pos, flags⟩ := s
  obtain rfl : flags = .none := hs
  rfl

section
variable {e : Expr (List Char)} (h : ReadsAs e.text e.Ascends e.node) {s : State} {fuel : Nat}
include h

/-- The items of the whole text: the group, and the end of the text. -/
theorem run_items_wholeText (hs : s.flags = .none) (hfuel : e.text.length + 1 < fuel)
    {r : List Regex.Node × State} :
    (items (fuel + 2) none true []).run (s.at e.wholeText 0) = .ok r ↔
      e.Ascends ∧ r = ([.anchor .textEnd, .group e.node], s.at [] e.wholeText.length) := by
  have hbody : e.text ++ [')', '\\', 'Z'] ≠ ['\\'] := append_cons_ne (by decide) _ _
  obtain ⟨fuel, rfl⟩ : ∃ m, fuel = m + 1 := ⟨fuel - 1, by omega⟩
  obtain ⟨rest, pos, flags⟩ := s
  obtain rfl : flags = .none := hs
  rw [e.wholeText_eq, items, run_bind_of_ok (run_get _), run_bind_of_ok (run_peek (by decide))]
  -- the opening switches to the modes of the body, and behind the group they are off again
  change StateT.run (next >>= fun _ => position >>= fun start =>
    groupAt (fuel + 2) .none true (start - 1) >>= _) _ = _ ↔ _
  rw [run_bind_of_ok (run_next (by decide) (by simp)), run_bind_of_ok (run_position _),
    run_bind_eq_ok_iff fun r => h.run_groupAt (r := r) (run_opening _ hbody) (by simp) hfuel]
  dsimp only
  have hend : 0 + 1 + 3 + (e.text.length + 1) + 2 = e.text.length + 7 := by omega
  rw [run_items_end rfl, Except.ok.injEq, eq_comm, ← e.wholeText_eq, e.length_wholeText, hend]

theorem run_alternatives_wholeText (hs : s.flags = .none) (hfuel : e.text.length + 1 < fuel)
    {r : Regex.Node × State} :
    (alternatives (fuel + 3) none true).run (s.at e.wholeText 0) = .ok r ↔
      e.Ascends ∧ r = (e.pattern.root, s.at [] e.wholeText.length) := by
  rw [alternatives, run_bind_eq_ok_iff fun r => run_items_wholeText h (r := r) hs hfuel]
  dsimp only
  rw [run_bind_of_ok (run_accept_other (by simp)), if_neg (by simp), run_pure_eq_ok_iff]
  rfl

end

/-- A token has at most two characters. -/
theorem length_le_two_mul (cs : List Char) : cs.length ≤ 2 * (Token.ofChars cs).length := by
  fun_induction Token.ofChars cs with
  | case1 => simp
  | case2 => simp
  | case3 c cs ih =>
      simp only [List.length_cons]
      omega
  | case4 c cs _ _ ih =>
      simp only [List.length_cons]
      omega

theorem parse_wholeText_of_readsAs {e : Expr (List Char)} (h : ReadsAs e.text e.Ascends e.node)
    {p : Pattern} :
    Pattern.parse e.wholeText .none = .ok p ↔ e.Ascends ∧ p = e.pattern := by
  have hdangling : (Token.ofChars e.wholeText).head? ≠ some .dangling := by
    rw [e.wholeText_eq, Token.ofChars_cons (by decide)]
    simp
  have hlength := length_le_two_mul e.wholeText
  rw [e.length_wholeText] at hlength
  obtain ⟨fuel, hfuel⟩ : ∃ m, 2 * (Token.ofChars e.wholeText).length + 2 = m + 3 :=
    ⟨2 * (Token.ofChars e.wholeText).length - 1, by omega⟩
  have hroom : e.text.length + 1 < fuel := by omega
  have hrun (r : Regex.Node × State) :=
    run_alternatives_wholeText h (s := { rest := [], flags := .none }) (r := r) rfl hroom
  rw [Pattern.parse_eq_ok_iff, hfuel]
  constructor
  · intro hparse
    obtain ⟨-, s, hs, -, hsource, hflags⟩ := hparse
    obtain ⟨hascends, heq⟩ := (hrun _).mp hs
    obtain ⟨hroot, rfl⟩ := Prod.mk.inj heq
    refine ⟨hascends, ?_⟩
    obtain ⟨source, flags, root⟩ := p
    cases hsource
    cases hflags
    cases hroot
    rfl
  · intro hpattern
    obtain ⟨hascends, rfl⟩ := hpattern
    refine ⟨by simpa using hdangling, _, (hrun _).mpr ⟨hascends, rfl⟩, ?_, rfl, rfl⟩
    exact ⟨rfl, rfl, rfl, by simp [State.at, Flags.has, Flags.none], rfl, rfl⟩

section
variable {cs : List Char} {e : Expr (List Char)}

/-- The text of what was read, for whole paths, is read as the pattern. -/
theorem parse_wholeText_eq_ok_iff (he : Expr.parse cs = .ok e) (hplain : e.plain = true)
    {p : Pattern} : Pattern.parse e.wholeText .none = .ok p ↔ e.Ascends ∧ p = e.pattern :=
  parse_wholeText_of_readsAs (Yields.readsAs ((parse_eq_ok_iff.mp he).yields hplain))

theorem parse_wholeText_of_classFree (he : Expr.parse cs = .ok e) (hfree : e.classFree = true) :
    Pattern.parse e.wholeText .none = .ok e.pattern :=
  (parse_wholeText_eq_ok_iff he (Expr.plain_of_classFree hfree).1).mpr
    ⟨(Expr.plain_of_classFree hfree).2, rfl⟩

end

/-! ### Globs -/

theorem ofText_eq_ok_iff {s : String} {g : Glob} :
    ofText s = .ok g ↔ Text.isBlankText s = false ∧ (normalized s.toList).head? ≠ some '/' ∧
      g.source = s ∧ ∃ e, Expr.parse (normalized s.toList) = .ok e ∧
        Pattern.parse e.wholeText .none = .ok g.pattern := by
  unfold ofText
  dsimp only
  cases hblank : Text.isBlankText s with
  | true => simp
  | false =>
      by_cases hroot : (normalized s.toList).head? = some '/'
      · simp [hroot]
      · cases hparse : Expr.parse (normalized s.toList) with
        | error f => simp [hroot]
        | ok e =>
            cases hp : Pattern.parse e.wholeText .none with
            | error err => simp [hroot, hp]
            | ok p =>
                obtain ⟨source, pattern⟩ := g
                simp [hroot, hp, eq_comm (a := s)]

theorem ofText_eq_ok {s : String} {g : Glob} (h : ofText s = .ok g) :
    g.source = s ∧ ∃ e, Expr.parse (normalized s.toList) = .ok e ∧
      Pattern.parse e.wholeText .none = .ok g.pattern :=
  (ofText_eq_ok_iff.mp h).2.2

def IsPlain (s : String) : Prop :=
  ∀ e, Expr.parse (normalized s.toList) = .ok e → e.plain = true

instance (s : String) : Decidable (IsPlain s) :=
  match h : Expr.parse (normalized s.toList) with
  | .ok e => decidable_of_iff (e.plain = true) (by simp [IsPlain, h])
  | .error _ => .isTrue (by simp [IsPlain, h])

/-- A glob with plain classes matches the paths that it denotes. -/
theorem accepts_iff_of_plain {s : String} {g : Glob} (h : ofText s = .ok g) (hplain : IsPlain s) :
    ∃ e, Expr.parse (normalized s.toList) = .ok e ∧
      ∀ path, g.accepts path = true ↔ path.toList ∈ e.language charsOf := by
  obtain ⟨-, e, he, hp⟩ := ofText_eq_ok h
  obtain ⟨-, hpattern⟩ := (parse_wholeText_eq_ok_iff he (hplain e he)).mp hp
  refine ⟨e, he, fun path => ?_⟩
  rw [accepts, hpattern, e.matchesStart_pattern]

end Glob

end BoundaryLint
