import BoundaryLint.Glob.Set
import BoundaryLint.Proofs.Checked

/-!
# The grammar of globs

What a glob is read as, said as a relation and without a bound on the number of steps. The reader
follows this grammar: given enough steps it finds exactly what the grammar allows.
-/
namespace BoundaryLint.Glob

/-- What is read: pieces of a whole glob or of one alternative, or all alternatives in braces. -/
inductive Part where
  | pieces (inner : Bool)
  | choices
  deriving DecidableEq

def isLiteral (c : Char) : Bool :=
  !("*?[\x7b\x7d".toList.contains c)

/-- `Reads part prev cs e r`: after the character `prev`, the text `cs` is read as `e`, and `r` is
left of it. -/
inductive Reads : Part → Option Char → List Char → Expr (List Char) → List Char → Prop
  | done {inner : Bool} {prev : Option Char} : Reads (.pieces inner) prev [] .nil []
  | stop {prev : Option Char} {c : Char} {cs : List Char} :
      c = ',' ∨ c = '\x7d' → Reads (.pieces true) prev (c :: cs) .nil (c :: cs)
  | rest {inner : Bool} {prev : Option Char} : beginsSegment prev = true →
      Reads (.pieces inner) prev ['*', '*'] (.cat .rest .nil) []
  | dirs {inner : Bool} {prev : Option Char} {cs r : List Char} {e : Expr (List Char)} :
      beginsSegment prev = true → Reads (.pieces inner) (some '/') cs e r →
      Reads (.pieces inner) prev ('*' :: '*' :: '/' :: cs) (.cat .dirs e) r
  | star {inner : Bool} {prev : Option Char} {cs r : List Char} {e : Expr (List Char)} :
      cs.head? ≠ some '*' → Reads (.pieces inner) (some '*') cs e r →
      Reads (.pieces inner) prev ('*' :: cs) (.cat .star e) r
  | one {inner : Bool} {prev : Option Char} {cs r : List Char} {e : Expr (List Char)} :
      Reads (.pieces inner) (some '?') cs e r →
      Reads (.pieces inner) prev ('?' :: cs) (.cat .one e) r
  | cls {inner : Bool} {prev : Option Char} {cs body cs' r : List Char} {e : Expr (List Char)} :
      splitClass cs = some (body, cs') → body.contains '/' = false →
      Reads (.pieces inner) (some ']') cs' e r →
      Reads (.pieces inner) prev ('[' :: cs) (.cat (.cls (classBody body)) e) r
  | brace {inner : Bool} {prev : Option Char} {cs cs' r : List Char} {body e : Expr (List Char)} :
      Reads .choices (some '\x7b') cs body cs' → Reads (.pieces inner) (some '\x7d') cs' e r →
      Reads (.pieces inner) prev ('\x7b' :: cs) (.cat (.brace body) e) r
  | lit {inner : Bool} {prev : Option Char} {c : Char} {cs r : List Char} {e : Expr (List Char)} :
      isLiteral c = true → (inner = true → c ≠ ',') → Reads (.pieces inner) (some c) cs e r →
      Reads (.pieces inner) prev (c :: cs) (.cat (.lit c) e) r
  | last {prev : Option Char} {cs r : List Char} {e : Expr (List Char)} :
      Reads (.pieces true) prev cs e ('\x7d' :: r) → Reads .choices prev cs e r
  | more {prev : Option Char} {cs r r' : List Char} {e es : Expr (List Char)} :
      Reads (.pieces true) prev cs e (',' :: r) → Reads .choices (some ',') r es r' →
      Reads .choices prev cs (.alt e es) r'

theorem length_of_splitClass {cs body r : List Char} (h : splitClass cs = some (body, r)) :
    r.length < cs.length := by
  fun_induction splitClass cs generalizing body with
  | case1 => cases h
  | case2 cs => simp_all
  | case3 c cs _ ih =>
      obtain ⟨⟨b, r'⟩, hb, he⟩ := Option.map_eq_some_iff.mp h
      cases he
      have := ih hb
      simp only [List.length_cons]
      omega

theorem bracket_not_mem_of_splitClass {cs body r : List Char}
    (h : splitClass cs = some (body, r)) : ']' ∉ body := by
  fun_induction splitClass cs generalizing body with
  | case1 => cases h
  | case2 cs =>
      cases h
      simp
  | case3 c cs hc ih =>
      obtain ⟨⟨b, r'⟩, hb, he⟩ := Option.map_eq_some_iff.mp h
      cases he
      simp [Ne.symm hc, ih hb]

/-- What is left is no longer than what there was; alternatives take the closing brace. -/
theorem Reads.length_le {part : Part} {prev : Option Char} {cs r : List Char}
    {e : Expr (List Char)} (h : Reads part prev cs e r) :
    r.length + (if part = .choices then 1 else 0) ≤ cs.length := by
  induction h with
  | done | stop | rest => simp
  | dirs _ _ ih | star _ _ ih | one _ ih | lit _ _ _ ih =>
      simp only [reduceCtorEq, if_false, List.length_cons] at ih ⊢
      omega
  | cls hs _ _ ih =>
      have := length_of_splitClass hs
      simp only [reduceCtorEq, if_false, List.length_cons] at ih ⊢
      omega
  | brace _ _ ih ih' | more _ _ ih ih' =>
      simp only [reduceCtorEq, if_false, if_true, List.length_cons] at ih ih' ⊢
      omega
  | last _ ih =>
      simp only [reduceCtorEq, if_false, if_true, List.length_cons] at ih ⊢
      omega

/-- Pieces end at the end of the text or, inside braces, before a comma or the closing brace. -/
theorem Reads.left {inner : Bool} {prev : Option Char} {cs r : List Char} {e : Expr (List Char)}
    (h : Reads (.pieces inner) prev cs e r) :
    r = [] ∨ inner = true ∧ ∃ c r', r = c :: r' ∧ (c = ',' ∨ c = '\x7d') := by
  generalize hp : Part.pieces inner = part at h
  induction h with
  | done | rest => exact .inl rfl
  | @stop _ c cs hc =>
      cases hp
      exact .inr ⟨rfl, c, cs, rfl, hc⟩
  | dirs _ _ ih | star _ _ ih | one _ ih | cls _ _ _ ih | lit _ _ _ ih => exact ih hp
  | brace _ _ _ ih => exact ih hp
  | last | more => cases hp

/-! ### The reader follows the grammar -/

def Part.read (fuel : Nat) : Part → Option Char → List Char →
    Except Fault (Expr (List Char) × List Char)
  | .pieces inner, prev, cs => Glob.pieces fuel inner prev cs
  | .choices, prev, cs => Glob.choices fuel prev cs

/-- A number of steps that is enough for a text of length `n`. -/
def Part.enough (n : Nat) : Part → Nat
  | .pieces _ => 2 * n + 1
  | .choices => 2 * n + 2

/-- With this many steps, what is read is read by the grammar, if the steps are enough. -/
def SoundWith (fuel : Nat) : Prop :=
  ∀ {part : Part} {prev : Option Char} {cs r : List Char} {e : Expr (List Char)},
    part.enough cs.length ≤ fuel → part.read fuel prev cs = .ok (e, r) → Reads part prev cs e r

theorem SoundWith.choices_succ {fuel : Nat} (ih : SoundWith fuel) {prev : Option Char}
    {cs r : List Char} {e : Expr (List Char)} (hfuel : 2 * cs.length + 2 ≤ fuel + 1)
    (h : choices (fuel + 1) prev cs = .ok (e, r)) : Reads .choices prev cs e r := by
  simp only [choices] at h
  split at h
  · cases h
  · cases h
  · rename_i e' r' hread
    cases h
    exact .last (ih (by simp only [Part.enough]; omega) hread)
  · rename_i e' c r' hbrace hread
    have hfirst : Reads (.pieces true) prev cs e' (c :: r') :=
      ih (by simp only [Part.enough]; omega) hread
    obtain ⟨⟨es, r''⟩, hmore, heq⟩ := map_eq_ok_iff.mp h
    cases heq
    have hlength := hfirst.length_le
    simp only [reduceCtorEq, if_false, List.length_cons] at hlength
    rcases hfirst.left with hnil | ⟨-, _, _, heq, rfl | rfl⟩
    · cases hnil
    · cases heq
      exact .more hfirst (ih (by simp only [Part.enough]; omega) hmore)
    · cases heq
      exact (hbrace rfl).elim

theorem SoundWith.next {fuel : Nat} (ih : SoundWith fuel) {inner : Bool} {prev : Option Char}
    {cs r : List Char} {e : Expr (List Char)} {f : Expr (List Char) → Expr (List Char)}
    (hfuel : 2 * cs.length + 1 ≤ fuel)
    (h : (pieces fuel inner prev cs).map (fun x => (f x.1, x.2)) = .ok (e, r)) :
    ∃ e', e = f e' ∧ Reads (.pieces inner) prev cs e' r := by
  obtain ⟨⟨e', r'⟩, hread, heq⟩ := map_eq_ok_iff.mp h
  cases heq
  exact ⟨e', rfl, ih hfuel hread⟩

theorem SoundWith.pieces_succ {fuel : Nat} (ih : SoundWith fuel) {inner : Bool}
    {prev : Option Char} {c : Char} {cs r : List Char} {e : Expr (List Char)}
    (hfuel : 2 * (cs.length + 1) + 1 ≤ fuel + 1)
    (h : pieces (fuel + 1) inner prev (c :: cs) = .ok (e, r)) :
    Reads (.pieces inner) prev (c :: cs) e r := by
  rw [pieces.eq_def] at h
  dsimp only at h
  split at h
  · rename_i hstop
    cases h
    simp only [Bool.and_eq_true, Bool.or_eq_true, beq_iff_eq] at hstop
    obtain ⟨rfl, hc⟩ := hstop
    exact .stop hc
  · rename_i hstop
    split at h
    · -- two stars, at the end or before a slash
      split at h
      · rename_i hbegins
        split at h
        · cases h
          exact .rest hbegins
        · simp only [List.length_cons] at hfuel
          obtain ⟨e', rfl, hread⟩ := ih.next (by omega) h
          exact .dirs hbegins hread
        · cases h
      · cases h
    · rename_i hstars
      obtain ⟨e', rfl, hread⟩ := ih.next (by omega) h
      refine .star ?_ hread
      intro hhead
      obtain ⟨cs', rfl⟩ := List.head?_eq_some_iff.mp hhead
      exact hstars _ rfl
    · obtain ⟨e', rfl, hread⟩ := ih.next (by omega) h
      exact .one hread
    · split at h
      · cases h
      · rename_i body cs' hsplit
        have hlength := length_of_splitClass hsplit
        split at h
        · cases h
        · rename_i hslash
          obtain ⟨e', rfl, hread⟩ := ih.next (by omega) h
          exact .cls hsplit (by simpa using hslash) hread
    · split at h
      · cases h
      · rename_i body cs' hchoices
        have hbody : Reads .choices (some '\x7b') cs body cs' :=
          ih (by simp only [Part.enough]; omega) hchoices
        have hlength := hbody.length_le
        simp only [if_true] at hlength
        obtain ⟨e', rfl, hread⟩ := ih.next (by omega) h
        exact .brace hbody hread
    · cases h
    · -- any other character stands for itself
      rename_i h₁ h₂ h₃ h₄ h₅ _
      obtain ⟨e', rfl, hread⟩ := ih.next (by omega) h
      refine .lit ?_ ?_ hread
      · simpa [isLiteral] using ⟨h₁, h₂, h₃, h₄, h₅⟩
      · rintro rfl rfl
        simp at hstop

/-- What is read with enough steps is read by the grammar. -/
theorem soundWith (fuel : Nat) : SoundWith fuel := by
  induction fuel with
  | zero =>
      intro part prev cs r e hfuel
      cases part <;> simp [Part.enough] at hfuel
  | succ fuel ih =>
      intro part prev cs r e hfuel h
      cases part with
      | choices => exact ih.choices_succ hfuel h
      | pieces inner =>
          cases cs with
          | nil =>
              simp only [Part.read, pieces] at h
              cases h
              exact .done
          | cons c cs => exact ih.pieces_succ hfuel h

theorem Part.exists_succ {part : Part} {n fuel : Nat} (h : part.enough n ≤ fuel) :
    ∃ k, fuel = k + 1 := by
  apply Nat.exists_eq_succ_of_ne_zero
  rintro rfl
  cases part <;> simp [enough] at h

/-- What the grammar allows is read with enough steps. -/
theorem Reads.read {part : Part} {prev : Option Char} {cs r : List Char} {e : Expr (List Char)}
    (h : Reads part prev cs e r) (fuel : Nat) (hfuel : part.enough cs.length ≤ fuel) :
    part.read fuel prev cs = .ok (e, r) := by
  induction h generalizing fuel with
  | done =>
      obtain ⟨fuel, rfl⟩ := Part.exists_succ hfuel
      rw [Part.read, pieces]
  | stop hc =>
      obtain ⟨fuel, rfl⟩ := Part.exists_succ hfuel
      rcases hc with rfl | rfl <;> simp [Part.read, pieces]
  | rest hbegins =>
      obtain ⟨fuel, rfl⟩ := Part.exists_succ hfuel
      simp [Part.read, pieces, hbegins]
  | dirs hbegins _ ih =>
      obtain ⟨fuel, rfl⟩ := Part.exists_succ hfuel
      simp only [Part.enough, List.length_cons] at hfuel ih
      have hrest := ih fuel (by omega)
      rw [Part.read] at hrest
      simp [Part.read, pieces, hbegins, hrest, Except.map]
  | @star inner prev cs r e hstars _ ih =>
      obtain ⟨fuel, rfl⟩ := Part.exists_succ hfuel
      simp only [Part.enough, List.length_cons] at hfuel ih
      have hrest := ih fuel (by omega)
      rw [Part.read] at hrest
      have hne : ∀ rest, cs = '*' :: rest → False := fun rest heq => hstars (by rw [heq]; rfl)
      rw [Part.read, pieces, hrest]
      · simp [Except.map]
      · exact hne
  | one _ ih =>
      obtain ⟨fuel, rfl⟩ := Part.exists_succ hfuel
      simp only [Part.enough, List.length_cons] at hfuel ih
      have hrest := ih fuel (by omega)
      rw [Part.read] at hrest
      simp [Part.read, pieces, hrest, Except.map]
  | cls hsplit hslash _ ih =>
      obtain ⟨fuel, rfl⟩ := Part.exists_succ hfuel
      have hlength := length_of_splitClass hsplit
      simp only [Part.enough, List.length_cons] at hfuel ih
      have hrest := ih fuel (by omega)
      rw [Part.read] at hrest
      simp only [Part.read, pieces, hsplit]
      rw [hslash, hrest]
      simp [Except.map]
  | brace hbody _ ih ih' =>
      obtain ⟨fuel, rfl⟩ := Part.exists_succ hfuel
      have hlength := hbody.length_le
      simp only [Part.enough, List.length_cons, if_true] at hfuel ih ih' hlength
      have hchoices := ih fuel (by omega)
      have hrest := ih' fuel (by omega)
      simp only [Part.read] at hrest hchoices
      simp only [Part.read, pieces, hchoices]
      simp [hrest, Except.map]
  | @lit inner prev c cs r e hc hcomma _ ih =>
      obtain ⟨fuel, rfl⟩ := Part.exists_succ hfuel
      simp only [Part.enough, List.length_cons] at hfuel ih
      have hrest := ih fuel (by omega)
      rw [Part.read] at hrest
      have hstop : ¬(inner && (c == ',' || c == '\x7d')) = true := by
        intro hstop
        simp only [Bool.and_eq_true, Bool.or_eq_true, beq_iff_eq] at hstop
        rcases hstop with ⟨hinner, rfl | rfl⟩
        · exact hcomma hinner rfl
        · exact absurd hc (by decide)
      rw [Part.read, pieces.eq_def]
      dsimp only
      rw [if_neg hstop]
      split
      all_goals first | exact absurd hc (by decide) | rw [hrest]; rfl
  | last _ ih =>
      obtain ⟨fuel, rfl⟩ := Part.exists_succ hfuel
      simp only [Part.enough] at hfuel ih
      have hrest := ih fuel (by omega)
      rw [Part.read] at hrest
      simp [Part.read, choices, hrest]
  | more hfirst _ ih ih' =>
      obtain ⟨fuel, rfl⟩ := Part.exists_succ hfuel
      have hlength := hfirst.length_le
      simp only [reduceCtorEq, Part.enough, List.length_cons, if_false] at hfuel ih ih' hlength
      have hpieces := ih fuel (by omega)
      have hrest := ih' fuel (by omega)
      simp only [Part.read] at hrest hpieces
      simp [Part.read, choices, hrest, hpieces, Except.map]

/-- A glob is read as what the grammar makes of all of its text. -/
theorem parse_eq_ok_iff {cs : List Char} {e : Expr (List Char)} :
    Expr.parse cs = .ok e ↔ Reads (.pieces false) none cs e [] := by
  rw [Expr.parse, map_eq_ok_iff]
  constructor
  · rintro ⟨⟨e, r⟩, hread, rfl⟩
    have hreads : Reads (.pieces false) none cs e r := soundWith _ (Nat.le_refl _) hread
    rcases hreads.left with rfl | ⟨hinner, -⟩
    · exact hreads
    · cases hinner
  · intro h
    exact ⟨(e, []), h.read _ (Nat.le_refl _), rfl⟩

end BoundaryLint.Glob
