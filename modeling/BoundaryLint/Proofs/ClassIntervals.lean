import BoundaryLint.Proofs.Checked
import BoundaryLint.Glob.Parser

/-!
# What a class holds

A class of a glob is plain if its body has something behind the sign of negation and no backslash.
What a plain class holds can be seen in its body, as intervals of characters, and this is what the
reader of regular expressions makes of it, unless an interval ends before it begins.
-/
namespace BoundaryLint

namespace Glob

/-! ### The sign of negation -/

/-- The body of a class without the sign of negation that regular expressions have. -/
def unsigned : List Char → List Char
  | '^' :: body => body
  | body => body

/-- Whether the body of a class holds something and escapes nothing. -/
def isPlain (body : List Char) : Bool :=
  !(unsigned body).isEmpty && !body.contains '\\'

/-- A class is negated by `!` or `^` in front. -/
def isMarked (body : List Char) : Bool :=
  body.head? == some '!' || body.head? == some '^'

/-- The body of a class without the sign of negation. -/
def unmarked (body : List Char) : List Char :=
  if isMarked body then body.tail else body

/-- The body of a class holds something and escapes nothing. -/
def PlainBody (body : List Char) : Prop :=
  unmarked body ≠ [] ∧ '\\' ∉ body

instance (body : List Char) : Decidable (PlainBody body) := by
  unfold PlainBody
  infer_instance

theorem classBody_eq (body : List Char) :
    classBody body = if isMarked body then '^' :: unmarked body else unmarked body := by
  cases body with
  | nil => rfl
  | cons c body =>
      by_cases hbang : c = '!'
      · subst hbang
        rfl
      · by_cases hcaret : c = '^'
        · subst hcaret
          rfl
        · have hbody : classBody (c :: body) = c :: body := by
            rw [classBody]
            rintro _ ⟨rfl, -⟩
            exact hbang rfl
          simp [hbody, unmarked, isMarked, hbang, hcaret]

theorem unsigned_classBody (body : List Char) : unsigned (classBody body) = unmarked body := by
  rw [classBody_eq]
  split
  · rfl
  · rename_i hmarked
    have hhead : (unmarked body).head? ≠ some '^' := by
      simp_all [unmarked, isMarked]
    rw [unsigned]
    intro body' hbody
    simp [hbody] at hhead

theorem head?_classBody (body : List Char) :
    ((classBody body).head? == some '^') = isMarked body := by
  rw [classBody_eq]
  split
  · rename_i hmarked
    rw [hmarked]
    rfl
  · rename_i hmarked
    simp_all [unmarked, isMarked]

theorem isPlain_classBody (body : List Char) :
    isPlain (classBody body) = true ↔ PlainBody body := by
  have hmem : '\\' ∈ classBody body ↔ '\\' ∈ body := by
    unfold classBody
    split <;> simp
  simp [isPlain, unsigned_classBody, hmem, PlainBody]

/-! ### Intervals -/

/-- The characters of a body as intervals. A character with a dash and another one behind it begins
an interval, any other character is one by itself. -/
def intervals : List Char → List (Char × Char)
  | a :: '-' :: b :: cs => (a, b) :: intervals cs
  | a :: cs => (a, a) :: intervals cs
  | [] => []

/-- Whether a class with a plain body holds a character. -/
def admits (body : List Char) (c : Char) : Bool :=
  (intervals (unmarked body)).any (fun p => p.1 ≤ c && c ≤ p.2) != isMarked body

/-- No interval ends before it begins. -/
def Ascending (cs : List Char) : Prop :=
  ∀ p ∈ intervals cs, p.1 ≤ p.2

def itemsOf : List Char → List Regex.ClassItem
  | a :: '-' :: b :: cs => .range a.toNat b.toNat :: itemsOf cs
  | a :: cs => .one a.toNat :: itemsOf cs
  | [] => []

def charsetOf (body : List Char) : Regex.Charset where
  items := itemsOf (unsigned body)
  negated := body.head? == some '^'

theorem holds_one (c x : Char) :
    (Regex.ClassItem.one c.toNat).holds .exact x = (c ≤ x && x ≤ c) := by
  rw [Bool.eq_iff_iff]
  simp only [Regex.ClassItem.holds, Regex.CaseMode.same, beq_iff_eq, Bool.and_eq_true,
    decide_eq_true_eq]
  constructor
  · intro h
    obtain rfl := Char.toNat_inj.mp h
    exact ⟨Char.le_refl _, Char.le_refl _⟩
  · intro h
    rw [Char.le_antisymm h.1 h.2]

theorem holds_range (c d x : Char) :
    (Regex.ClassItem.range c.toNat d.toNat).holds .exact x = (c ≤ x && x ≤ d) := by
  simp [Regex.ClassItem.holds, Regex.CaseMode.variants, Char.le_def, UInt32.le_iff_toNat_le]

theorem any_itemsOf (cs : List Char) (x : Char) :
    (itemsOf cs).any (·.holds .exact x) =
      (intervals cs).any fun p => p.1 ≤ x && x ≤ p.2 := by
  fun_induction itemsOf cs with
  | case1 a b cs ih => simp only [intervals, List.any_cons, holds_range, ih]
  | case2 a cs hdash ih =>
      rw [intervals]
      · simp only [List.any_cons, holds_one, ih]
      · exact hdash
  | case3 => rfl

/-- A plain class holds what its text says. -/
theorem holds_charsetOf (body : List Char) (x : Char) :
    (charsetOf (classBody body)).holds .exact x = admits body x := by
  rw [Regex.Charset.holds, charsetOf, any_itemsOf, unsigned_classBody, head?_classBody]
  rfl

end Glob

/-! ### The reader of classes -/

namespace Regex

namespace Token

theorem ofChars_cons {c : Char} (hc : c ≠ '\\') (cs : List Char) :
    ofChars (c :: cs) = .plain c :: ofChars cs := by
  rw [ofChars]
  · intro h
    exact absurd h hc
  · intro d ds h
    exact absurd h hc

theorem head?_ofChars_ne {cs : List Char} (h : cs ≠ ['\\']) :
    (ofChars cs).head? ≠ some .dangling := by
  fun_cases ofChars cs with
  | case1 => simp
  | case2 => exact absurd rfl h
  | case3 => simp
  | case4 => simp

end Token

namespace Reader

/-- The state with `text` left to read, `n` characters further on. -/
def State.at (s : State) (text : List Char) (n : Nat) : State :=
  { s with rest := Token.ofChars text, pos := s.pos + n }

section
variable {s : State} {n : Nat} {c : Char} {cs : List Char}

theorem run_bind_of_ok {α β : Type} {x : Reader α} {f : α → Reader β} {a : α} {s s' : State}
    (h : x.run s = .ok (a, s')) : (x >>= f).run s = (f a).run s' := by
  rw [StateT.run_bind, h]
  rfl

/-- A reader that succeeds in one way only hands this way on. -/
theorem run_bind_eq_ok_iff {α β : Type} {x : Reader α} {f : α → Reader β} {p : Prop} {a : α}
    {s s' : State} (h : ∀ r, x.run s = .ok r ↔ p ∧ r = (a, s')) {r : β × State} :
    (x >>= f).run s = .ok r ↔ p ∧ (f a).run s' = .ok r := by
  rw [StateT.run_bind, bind_eq_ok_iff]
  constructor
  · intro hrun
    obtain ⟨r', hx, hf⟩ := hrun
    obtain ⟨hp, rfl⟩ := (h r').mp hx
    exact ⟨hp, hf⟩
  · intro hrun
    exact ⟨(a, s'), (h _).mpr ⟨hrun.1, rfl⟩, hrun.2⟩

theorem run_pure_eq_ok_iff {α : Type} {a : α} {s : State} {r : α × State} :
    (pure a : Reader α).run s = .ok r ↔ r = (a, s) :=
  ⟨fun h => (Except.ok.inj h).symm, fun h => congrArg Except.ok h.symm⟩

theorem run_next_of_rest {t : Token} {rest : List Token} (hs : s.rest = t :: rest)
    (hrest : rest.head? ≠ some .dangling) :
    next.run s = .ok (some t, { s with rest, pos := s.pos + t.width }) := by
  have hhead : ¬ (rest.head? == some .dangling) = true := by simpa using hrest
  have hget : (get : Reader State).run s = .ok (s, s) := rfl
  rw [next, run_bind_of_ok hget, hs]
  dsimp only
  rw [if_neg hhead]
  rfl

theorem run_next (hc : c ≠ '\\') (hcs : cs ≠ ['\\']) :
    next.run (s.at (c :: cs) n) = .ok (some (.plain c), s.at cs (n + 1)) :=
  run_next_of_rest (Token.ofChars_cons hc cs) (Token.head?_ofChars_ne hcs)

theorem run_peek (hc : c ≠ '\\') :
    peek.run (s.at (c :: cs) n) = .ok (some (.plain c), s.at (c :: cs) n) := by
  have hrest : (s.at (c :: cs) n).rest = .plain c :: Token.ofChars cs := Token.ofChars_cons hc cs
  have hpeek : peek.run (s.at (c :: cs) n) =
      .ok ((s.at (c :: cs) n).rest.head?, s.at (c :: cs) n) := rfl
  rw [hpeek, hrest]
  rfl

theorem run_accept_self (hc : c ≠ '\\') (hcs : cs ≠ ['\\']) :
    (accept c).run (s.at (c :: cs) n) = .ok (true, s.at cs (n + 1)) := by
  rw [accept, run_bind_of_ok (run_peek hc), if_pos (beq_self_eq_true _),
    run_bind_of_ok (run_next hc hcs)]
  rfl

theorem run_accept_other {d : Char} (hd : cs.head? ≠ some d) :
    (accept d).run (s.at cs n) = .ok (false, s.at cs n) := by
  have hpeek : peek.run (s.at cs n) = .ok ((s.at cs n).rest.head?, s.at cs n) := rfl
  have hhead : ¬ ((s.at cs n).rest.head? == some (.plain d)) = true := by
    rw [beq_iff_eq]
    show (Token.ofChars cs).head? ≠ _
    fun_cases Token.ofChars cs with
    | case1 => simp
    | case2 => simp
    | case3 => simp
    | case4 c cs =>
        simpa using hd
  rw [accept, run_bind_of_ok hpeek, if_neg hhead]
  rfl

theorem run_classToken (c : Char) :
    (classToken false (.plain c)).run s = .ok (.one c.toNat, s) := rfl

variable (start fuel : Nat) {acc : List ClassItem} {more : List Char}

theorem run_classItems_close (hacc : acc ≠ []) (hmore : more ≠ ['\\']) :
    (classItems false start (fuel + 1) acc).run (s.at (']' :: more) n) =
      .ok (acc, s.at more (n + 1)) := by
  have hclose : (Token.plain ']' == Token.plain ']' && !acc.isEmpty) = true := by simp [hacc]
  rw [classItems, run_bind_of_ok (run_next (by decide) hmore)]
  dsimp only
  rw [if_pos hclose]
  rfl

theorem run_classItems_one (hc : c ≠ ']') (hc' : c ≠ '\\') (hdash : cs.head? ≠ some '-')
    (hcs : cs ≠ ['\\']) :
    (classItems false start (fuel + 1) acc).run (s.at (c :: cs) n) =
      (classItems false start fuel (acc ++ [.one c.toNat])).run (s.at cs (n + 1)) := by
  have hne : ¬ (Token.plain c == Token.plain ']' && !acc.isEmpty) = true := by simp [hc]
  rw [classItems, run_bind_of_ok (run_next hc' hcs)]
  dsimp only
  rw [if_neg hne, run_bind_of_ok (run_classToken c), run_bind_of_ok (run_accept_other hdash)]
  rfl

theorem run_classItems_dash (acc : List ClassItem) (hc : c ≠ ']') (hc' : c ≠ '\\')
    (hmore : more ≠ ['\\']) :
    (classItems false start (fuel + 1) acc).run (s.at (c :: '-' :: ']' :: more) n) =
      .ok (acc ++ [.one c.toNat, .one 0x2d], s.at more (n + 3)) := by
  have hne : ¬ (Token.plain c == Token.plain ']' && !acc.isEmpty) = true := by simp [hc]
  rw [classItems, run_bind_of_ok (run_next hc' (by simp))]
  dsimp only
  rw [if_neg hne, run_bind_of_ok (run_classToken c),
    run_bind_of_ok (run_accept_self (by decide) (by simp)), if_pos rfl,
    run_bind_of_ok (run_next (by decide) hmore)]
  rfl

theorem run_classItems_range {d : Char} {r : List ClassItem × State} (hc : c ≠ ']')
    (hc' : c ≠ '\\') (hd : d ≠ ']') (hd' : d ≠ '\\') (hcs : cs ≠ ['\\']) :
    (classItems false start (fuel + 1) acc).run (s.at (c :: '-' :: d :: cs) n) = .ok r ↔
      c ≤ d ∧
        (classItems false start fuel (acc ++ [.range c.toNat d.toNat])).run (s.at cs (n + 3)) =
          .ok r := by
  have hne : ¬ (Token.plain c == Token.plain ']' && !acc.isEmpty) = true := by simp [hc]
  have hne' : ¬ (Token.plain d == Token.plain ']') = true := by simp [hd]
  rw [classItems, run_bind_of_ok (run_next hc' (by simp))]
  dsimp only
  rw [if_neg hne, run_bind_of_ok (run_classToken c),
    run_bind_of_ok (run_accept_self (by decide) (by simp [hd'])), if_pos rfl,
    run_bind_of_ok (run_next hd' hcs)]
  dsimp only
  rw [if_neg hne', run_bind_of_ok (run_classToken d)]
  dsimp only
  by_cases hlt : d.toNat < c.toNat
  · have hnot : ¬ c ≤ d := Nat.not_le_of_lt hlt
    rw [if_pos hlt]
    simp only [hnot, false_and, iff_false]
    intro h
    cases h
  · have hle : c ≤ d := Nat.le_of_not_lt hlt
    rw [if_neg hlt]
    simp only [hle, true_and]
    exact Iff.rfl

theorem append_cons_ne (hc : c ≠ '\\') (cs more : List Char) : cs ++ c :: more ≠ ['\\'] := by
  intro h
  have hmem : c ∈ ['\\'] := by
    rw [← h]
    simp
  exact hc (List.mem_singleton.mp hmem)

open Glob in
/-- The items of a plain class are those of its body, if no interval of it ends before it begins. -/
theorem run_classItems_eq_ok_iff {r : List ClassItem × State} (hescape : '\\' ∉ cs)
    (hclose : ']' ∉ cs) (hmore : more ≠ ['\\']) (hfuel : cs.length < fuel)
    (hne : acc ≠ [] ∨ cs ≠ []) :
    (classItems false start fuel acc).run (s.at (cs ++ ']' :: more) n) = .ok r ↔
      Ascending cs ∧ r = (acc ++ itemsOf cs, s.at more (n + (cs.length + 1))) := by
  induction fuel generalizing cs acc n with
  | zero => omega
  | succ fuel ih =>
      fun_cases intervals cs with
      | case1 a b cs =>
          simp only [List.mem_cons, not_or] at hclose hescape
          simp only [List.length_cons] at hfuel
          rw [List.cons_append, List.cons_append, List.cons_append,
            run_classItems_range start fuel (Ne.symm hclose.1) (Ne.symm hescape.1)
              (Ne.symm hclose.2.2.1) (Ne.symm hescape.2.2.1) (append_cons_ne (by decide) cs more),
            ih hescape.2.2.2 hclose.2.2.2 (by omega) (by simp)]
          simp [Ascending, intervals, itemsOf, Nat.add_comm, Nat.add_left_comm, and_assoc]
      | case2 a cs hdash =>
          simp only [List.mem_cons, not_or] at hclose hescape
          simp only [List.length_cons] at hfuel
          have hitems : itemsOf (a :: cs) = .one a.toNat :: itemsOf cs := by
            rw [itemsOf]
            exact hdash
          have hintervals : intervals (a :: cs) = (a, a) :: intervals cs := by
            rw [intervals]
            exact hdash
          rw [List.cons_append]
          by_cases hlast : cs = ['-']
          · -- a dash that comes last stands for itself
            subst hlast
            rw [List.singleton_append,
              run_classItems_dash start fuel acc (Ne.symm hclose.1) (Ne.symm hescape.1) hmore]
            simp [Ascending, hintervals, intervals, itemsOf, eq_comm]
          · have hhead : (cs ++ ']' :: more).head? ≠ some '-' := by
              cases cs with
              | nil => simp
              | cons d ds =>
                  intro hd
                  obtain rfl : d = '-' := by simpa using hd
                  cases ds with
                  | nil => exact hlast rfl
                  | cons b ds => exact hdash b ds rfl
            rw [run_classItems_one start fuel (Ne.symm hclose.1) (Ne.symm hescape.1) hhead
                (append_cons_ne (by decide) cs more),
              ih hescape.2 hclose.2 (by omega) (by simp)]
            simp [Ascending, hintervals, hitems, Nat.add_comm, Nat.add_left_comm]
      | case3 =>
          rw [List.nil_append, run_classItems_close start fuel (by simpa using hne) hmore]
          simp [Ascending, intervals, itemsOf, eq_comm]

end

/-! ### Whole classes -/

section
variable {s : State} {n : Nat} {more : List Char}

theorem length_le_length_ofChars {cs : List Char} (h : '\\' ∉ cs) (more : List Char) :
    cs.length ≤ (Token.ofChars (cs ++ more)).length := by
  induction cs with
  | nil => simp
  | cons c cs ih =>
      simp only [List.mem_cons, not_or] at h
      rw [List.cons_append, Token.ofChars_cons (Ne.symm h.1)]
      simpa using ih h.2

open Glob in
theorem run_charset_of_accept {s₀ : State} {negated : Bool} {cs : List Char} {r : Charset × State}
    (start : Nat) (hsign : (accept '^').run s₀ = .ok (negated, s.at (cs ++ ']' :: more) n))
    (hescape : '\\' ∉ cs) (hclose : ']' ∉ cs) (hne : cs ≠ []) (hmore : more ≠ ['\\']) :
    (charset false start).run s₀ = .ok r ↔
      Ascending cs ∧ r = (⟨itemsOf cs, negated⟩, s.at more (n + (cs.length + 1))) := by
  have hget (s : State) : (get : Reader State).run s = .ok (s, s) := rfl
  have hfuel : cs.length < (s.at (cs ++ ']' :: more) n).rest.length + 1 :=
    Nat.lt_succ_of_le (length_le_length_ofChars hescape _)
  have hstart : ([] : List ClassItem) ≠ [] ∨ cs ≠ [] := .inr hne
  have hitems (r : List ClassItem × State) :=
    run_classItems_eq_ok_iff (s := s) (n := n) (r := r) start _ hescape hclose hmore hfuel hstart
  rw [charset, run_bind_of_ok hsign, run_bind_of_ok (hget _), run_bind_eq_ok_iff hitems,
    run_pure_eq_ok_iff, List.nil_append]

open Glob in
/-- A plain class is read as what its body says. -/
theorem run_charset_eq_ok_iff {body : List Char} {r : Charset × State} (start : Nat)
    (hplain : isPlain body = true) (hclose : ']' ∉ body) (hmore : more ≠ ['\\']) :
    (charset false start).run (s.at (body ++ ']' :: more) n) = .ok r ↔
      Ascending (unsigned body) ∧ r = (charsetOf body, s.at more (n + (body.length + 1))) := by
  simp only [isPlain, Bool.and_eq_true, Bool.not_eq_true', List.isEmpty_eq_false_iff,
    List.contains_eq_mem, decide_eq_false_iff_not] at hplain
  by_cases hsign : body.head? = some '^'
  · obtain ⟨cs, rfl⟩ := List.head?_eq_some_iff.mp hsign
    simp only [List.mem_cons, not_or] at hclose hplain
    rw [List.cons_append, run_charset_of_accept start
      (run_accept_self (by decide) (append_cons_ne (by decide) cs more)) hplain.2.2 hclose.2
      hplain.1 hmore]
    simp [unsigned, charsetOf, Nat.add_comm, Nat.add_left_comm]
  · have hunsigned : unsigned body = body := by
      rw [unsigned]
      intro cs hcs
      exact hsign (by rw [hcs]; rfl)
    have hhead : (body ++ ']' :: more).head? ≠ some '^' := by
      cases body with
      | nil => simp
      | cons c cs => simpa using hsign
    have hnegated : (body.head? == some '^') = false := by simpa using hsign
    rw [hunsigned] at hplain
    rw [run_charset_of_accept start (run_accept_other hhead) hplain.2 hclose hplain.1 hmore,
      charsetOf, hunsigned, hnegated]

end

end Reader

end Regex

end BoundaryLint
