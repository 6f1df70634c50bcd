import BoundaryLint.Proofs.SelectorLocality
import BoundaryLint.Selector.Match

/-!
# Selectors put together

Two texts that are selectors can be joined by a comma, by `>` or by white space, and the result is a
selector again. After a comma it has the alternatives of both. In the other cases the last chain of
the first text goes on with the first chain of the second one.

The readers of chains and alternatives carry a bound on their steps. They are first turned into
relations without one: `Links` reads compounds with a combinator before each, `Chain` a compound and
its links, `Alternatives` chains up to the end of the text.
-/
namespace BoundaryLint.Selector

namespace Complex

/-- Two chains as one, with a combinator between them. -/
def join (x : Complex) (m : Combinator) (y : Complex) : Complex where
  head := x.head
  tail := x.tail ++ (m, y.head) :: y.tail

theorem compounds_join (x : Complex) (m : Combinator) (y : Complex) :
    (x.join m y).compounds = x.compounds ++ y.compounds := by
  simp [compounds, join]

theorem combinators_join (x : Complex) (m : Combinator) (y : Complex) :
    (x.join m y).combinators = x.combinators ++ m :: y.combinators := by
  simp [combinators, join]

end Complex

section
variable {known : String → Bool} {cs rest u v w : List Char} {m : Combinator}

/-! ### White space and combinators -/

theorem skipBlank_append_of_ne_nil (h : skipBlank cs ≠ []) (u : List Char) :
    skipBlank (cs ++ u) = skipBlank cs ++ u := by
  unfold skipBlank at *
  rw [List.dropWhile_append, if_neg (by simpa using h)]

theorem skipBlank_append_of_nil (h : skipBlank cs = []) (u : List Char) :
    skipBlank (cs ++ u) = skipBlank u := by
  unfold skipBlank at *
  rw [List.dropWhile_append, if_pos (by simpa using h)]

theorem length_skipBlank_le (cs : List Char) : (skipBlank cs).length ≤ cs.length :=
  (List.dropWhile_suffix _).length_le

/-- A text that is no continuation of a compound, up to white space. -/
theorem stops_isCompoundChar_of_skipBlank (h : Stops isCompoundChar (skipBlank cs)) :
    Stops isCompoundChar cs := by
  cases cs with
  | nil => exact stops_nil
  | cons c cs =>
      apply stops_cons.mpr
      cases hblank : Text.isBlank c with
      | true => exact isCompoundChar_of_isBlank hblank
      | false =>
          rw [skipBlank, List.dropWhile_cons_of_neg (by simp [hblank])] at h
          exact stops_cons.mp h

theorem stops_append_of_nil (hv : skipBlank v = []) (hu : Stops isCompoundChar u) :
    Stops isCompoundChar (v ++ u) := by
  cases v with
  | nil => exact hu
  | cons c v =>
      have hblank : Text.isBlank c = true := by
        have hall := List.dropWhile_eq_nil_iff.mp hv
        exact hall c List.mem_cons_self
      exact stops_cons.mpr (isCompoundChar_of_isBlank hblank)

theorem combinator_eq_none (h : Stops (· != ',') (skipBlank cs)) : combinator cs = none := by
  obtain ⟨b, hb⟩ := exists_blanks cs
  rw [hb]
  exact combinator_blanks_append b h

theorem combinator_child (h : skipBlank cs = '>' :: rest) :
    combinator cs = some (.child, skipBlank rest) := by
  simp [combinator, h]

theorem combinator_descendant {c : Char} (h : skipBlank cs = c :: rest) (hchild : c ≠ '>')
    (hcomma : c ≠ ',') (hlength : (skipBlank cs).length < cs.length) :
    combinator cs = some (.descendant, c :: rest) := by
  unfold combinator
  split
  · rename_i hnil
    rw [h] at hnil
    cases hnil
  · rename_i hgt
    rw [h] at hgt
    exact absurd (List.cons.inj hgt).1 hchild
  · rename_i hsame
    rw [h] at hsame hlength
    cases hsame
    rw [h, if_pos (by simpa [hcomma] using hlength)]

/-- A combinator is a `>` with white space around it, or white space alone. -/
theorem combinator_eq_some_iff :
    combinator cs = some (m, rest) ↔
      (∃ after, skipBlank cs = '>' :: after ∧ m = .child ∧ rest = skipBlank after) ∨
      ∃ c f, skipBlank cs = c :: f ∧ c ≠ '>' ∧ c ≠ ',' ∧ (skipBlank cs).length < cs.length ∧
        m = .descendant ∧ rest = c :: f := by
  constructor
  · intro h
    unfold combinator at h
    split at h
    · cases h
    · rename_i after hskip
      cases h
      exact .inl ⟨after, hskip, rfl, rfl⟩
    · rename_i c f hchild hskip
      split at h
      · rename_i hcond
        cases h
        rw [Bool.and_eq_true, decide_eq_true_eq, bne_iff_ne] at hcond
        exact .inr ⟨c, f, hskip, hchild, hcond.2, hcond.1, rfl, rfl⟩
      · cases h
  · rintro (⟨after, hskip, rfl, rfl⟩ | ⟨c, f, hskip, hchild, hcomma, hlength, rfl, rfl⟩)
    · exact combinator_child hskip
    · exact combinator_descendant hskip hchild hcomma hlength

theorem stops_of_combinator (h : combinator cs = some (m, rest)) :
    cs ≠ [] ∧ Stops isCompoundChar cs ∧ rest.length ≤ cs.length := by
  have hle := length_skipBlank_le cs
  rcases combinator_eq_some_iff.mp h with
    ⟨after, hskip, -, rfl⟩ | ⟨c, f, hskip, -, -, hlength, -, rfl⟩
  · have hafter := length_skipBlank_le after
    rw [hskip, List.length_cons] at hle
    refine ⟨?_, stops_isCompoundChar_of_skipBlank ?_, by omega⟩
    · rintro rfl
      cases hskip
    · rw [hskip]
      exact stops_cons.mpr (by decide)
  · cases cs with
    | nil => cases hskip
    | cons d cs =>
        refine ⟨List.cons_ne_nil _ _, stops_cons.mpr ?_, hskip ▸ hle⟩
        -- without white space nothing would have been taken
        cases hblank : Text.isBlank d with
        | true => exact isCompoundChar_of_isBlank hblank
        | false =>
            rw [skipBlank, List.dropWhile_cons_of_neg (by simp [hblank])] at hlength
            exact absurd hlength (Nat.lt_irrefl _)

theorem combinator_extend (h : combinator cs = some (m, rest)) (hne : rest ≠ []) (u : List Char) :
    combinator (cs ++ u) = some (m, rest ++ u) := by
  rcases combinator_eq_some_iff.mp h with
    ⟨after, hskip, rfl, rfl⟩ | ⟨c, f, hskip, hchild, hcomma, hlength, rfl, rfl⟩
  · have hskip' : skipBlank (cs ++ u) = '>' :: (after ++ u) := by
      rw [skipBlank_append_of_ne_nil (by simp [hskip]), hskip, List.cons_append]
    rw [combinator_child hskip', skipBlank_append_of_ne_nil hne]
  · have hskip' : skipBlank (cs ++ u) = c :: (f ++ u) := by
      rw [skipBlank_append_of_ne_nil (by simp [hskip]), hskip, List.cons_append]
    apply combinator_descendant hskip' hchild hcomma
    rw [hskip] at hlength
    rw [hskip']
    simp only [List.length_cons, List.length_append] at hlength ⊢
    omega

theorem stops_sign_append (m : Combinator) (t : List Char) :
    Stops isCompoundChar (m.sign.toList ++ t) := by
  cases m with
  | child => exact stops_cons.mpr (by decide)
  | descendant => exact stops_cons.mpr (by decide)

theorem combinator_sign_append {t : List Char} (hv : skipBlank v = [])
    (ht : ∃ c f, skipBlank t = c :: f ∧ isCompoundChar c = true) (m : Combinator) :
    combinator (v ++ (m.sign.toList ++ t)) = some (m, skipBlank t) := by
  cases m with
  | child =>
      apply combinator_child
      rw [skipBlank_append_of_nil hv]
      exact List.dropWhile_cons_of_neg (by decide)
  | descendant =>
      obtain ⟨c, f, hskip, hc⟩ := ht
      have hskip' : skipBlank (v ++ (Combinator.descendant.sign.toList ++ t)) = c :: f := by
        rw [skipBlank_append_of_nil hv, ← hskip]
        exact List.dropWhile_cons_of_pos (by decide)
      have hchild : c ≠ '>' := by
        rintro rfl
        cases hc
      have hcomma : c ≠ ',' := by
        rintro rfl
        cases hc
      have hle := length_skipBlank_le t
      rw [hskip]
      apply combinator_descendant hskip' hchild hcomma
      rw [hskip', ← hskip]
      simp only [List.length_append]
      have hsign : Combinator.descendant.sign.toList.length = 1 := by decide
      omega

/-! ### Chains without a bound -/

/-- The text reads as links, each a combinator and a compound, and `v` is left. -/
inductive Links (known : String → Bool) :
    List Char → List (Combinator × Compound) → List Char → Prop
  | done {v : List Char} : Links known v [] v
  | link {cs rest u v : List Char} {m : Combinator} {c : Compound}
      {ls : List (Combinator × Compound)} : combinator cs = some (m, rest) →
      compoundAt known rest = .ok (c, u) → Links known u ls v → Links known cs ((m, c) :: ls) v

theorem compoundAt_extend {c : Compound} (h : compoundAt known cs = .ok (c, v))
    (hv : Stops isCompoundChar (v ++ u)) : compoundAt known (cs ++ u) = .ok (c, v ++ u) := by
  obtain ⟨d, f, rfl, -, hreads⟩ := compoundAt_local h
  have htext : d :: (f ++ v) ++ u = d :: f ++ (v ++ u) := by simp
  rw [htext]
  exact hreads _ hv

theorem ne_nil_of_compoundAt {c : Compound} (h : compoundAt known cs = .ok (c, v)) : cs ≠ [] := by
  obtain ⟨d, f, rfl, -⟩ := compoundAt_local h
  exact List.cons_ne_nil _ _

theorem length_lt_of_compoundAt {c : Compound} (h : compoundAt known cs = .ok (c, v)) :
    v.length < cs.length := by
  obtain ⟨d, f, rfl, -⟩ := compoundAt_local h
  simp only [List.length_cons, List.length_append]
  omega

namespace Links
variable {ls : List (Combinator × Compound)}

theorem append {ls' : List (Combinator × Compound)} (h : Links known cs ls v)
    (h' : Links known v ls' w) : Links known cs (ls ++ ls') w := by
  induction h with
  | done => exact h'
  | link hm hc _ ih => exact .link hm hc (ih h')

theorem length_le (h : Links known cs ls v) : v.length ≤ cs.length := by
  induction h with
  | done => exact Nat.le_refl _
  | link hm hc _ ih =>
      have hrest := (stops_of_combinator hm).2.2
      have hu := length_lt_of_compoundAt hc
      omega

theorem stops (h : Links known cs ls v) (hv : Stops isCompoundChar (v ++ u)) :
    Stops isCompoundChar (cs ++ u) := by
  cases h with
  | done => exact hv
  | link hm _ _ =>
      obtain ⟨hne, hstops, -⟩ := stops_of_combinator hm
      rw [← List.append_nil cs] at hstops
      exact hstops.of_append hne u

/-- Links are read in the same way if text is added behind what is left. -/
theorem extend (h : Links known cs ls v) (hv : Stops isCompoundChar (v ++ u)) :
    Links known (cs ++ u) ls (v ++ u) := by
  induction h with
  | done => exact .done
  | link hm hc hlinks ih =>
      have hm' := combinator_extend hm (ne_nil_of_compoundAt hc) u
      have hc' := compoundAt_extend hc (hlinks.stops hv)
      exact .link hm' hc' (ih hv)

/-- If no combinator is left, a combinator at the front belongs to the first link. -/
theorem eq_cons (h : Links known cs ls v) (hv : combinator v = none)
    (hm : combinator cs = some (m, rest)) :
    ∃ c u ls', ls = (m, c) :: ls' ∧ compoundAt known rest = .ok (c, u) ∧ Links known u ls' v := by
  cases h with
  | done =>
      rw [hm] at hv
      cases hv
  | link hm' hc hlinks =>
      rw [hm] at hm'
      cases hm'
      exact ⟨_, _, _, rfl, hc, hlinks⟩

end Links

/-- The bound on the number of links never ends a chain. -/
theorem links_eq_ok_iff {fuel : Nat} {ls : List (Combinator × Compound)} {r : List Char}
    (hfuel : cs.length < fuel) :
    links known fuel cs = .ok (ls, r) ↔
      ∃ v, Links known cs ls v ∧ combinator v = none ∧ skipBlank v = r := by
  induction fuel generalizing cs ls with
  | zero => exact absurd hfuel (Nat.not_lt_zero _)
  | succ fuel ih =>
      constructor
      · intro h
        rw [links] at h
        split at h
        · rename_i hm
          cases h
          exact ⟨cs, .done, hm, rfl⟩
        · rename_i m rest hm
          split at h
          · cases h
          · rename_i c u hc
            obtain ⟨⟨ls', r'⟩, hrest, heq⟩ := map_eq_ok_iff.mp h
            cases heq
            have hu := length_lt_of_compoundAt hc
            have hm' := (stops_of_combinator hm).2.2
            obtain ⟨v, hlinks, hv, hr⟩ := (ih (by omega)).mp hrest
            exact ⟨v, .link hm hc hlinks, hv, hr⟩
      · rintro ⟨v, hlinks, hv, rfl⟩
        cases hm : combinator cs with
        | none =>
            cases hlinks with
            | done => simp only [links, hm]
            | link hsome =>
                rw [hm] at hsome
                cases hsome
        | some pair =>
            obtain ⟨c, u, ls', rfl, hc, hrest⟩ := hlinks.eq_cons hv hm
            have hu := length_lt_of_compoundAt hc
            have hm' := (stops_of_combinator hm).2.2
            have hnext := (ih (by omega)).mpr ⟨v, hrest, hv, rfl⟩
            simp only [links, hm, hc, hnext, Except.map]

/-! ### Chains and alternatives -/

/-- The text reads as a chain, and `v` is left. -/
def Chain (known : String → Bool) (cs : List Char) (x : Complex) (v : List Char) : Prop :=
  ∃ u, compoundAt known cs = .ok (x.head, u) ∧ Links known u x.tail v

namespace Chain
variable {x y : Complex}

theorem eq_cons (h : Chain known cs x v) : ∃ c f, cs = c :: f ∧ isCompoundChar c = true := by
  obtain ⟨u, hc, -⟩ := h
  obtain ⟨c, f, rfl, hchar, -⟩ := compoundAt_local hc
  exact ⟨c, f ++ u, rfl, hchar⟩

theorem length_lt (h : Chain known cs x v) : v.length < cs.length := by
  obtain ⟨u, hc, hlinks⟩ := h
  exact Nat.lt_of_le_of_lt hlinks.length_le (length_lt_of_compoundAt hc)

theorem extend (h : Chain known cs x v) (hv : Stops isCompoundChar (v ++ u)) :
    Chain known (cs ++ u) x (v ++ u) := by
  obtain ⟨w, hc, hlinks⟩ := h
  exact ⟨w ++ u, compoundAt_extend hc (hlinks.stops hv), hlinks.extend hv⟩

/-- A chain goes on with a chain that stands behind a combinator. -/
theorem join (hx : Chain known cs x v) (hm : combinator v = some (m, rest))
    (hy : Chain known rest y w) : Chain known cs (x.join m y) w := by
  obtain ⟨u, hc, hlinks⟩ := hx
  obtain ⟨u', hc', hlinks'⟩ := hy
  exact ⟨u, hc, hlinks.append (.link hm hc' hlinks')⟩

end Chain

theorem complexAt_eq_ok_iff {x : Complex} {r : List Char} :
    complexAt known cs = .ok (x, r) ↔
      ∃ v, Chain known cs x v ∧ combinator v = none ∧ skipBlank v = r := by
  constructor
  · intro h
    rw [complexAt] at h
    split at h
    · cases h
    · rename_i c u hc
      obtain ⟨⟨ls, r'⟩, hlinks, heq⟩ := map_eq_ok_iff.mp h
      cases heq
      obtain ⟨v, hlinks, hv, hr⟩ := (links_eq_ok_iff (Nat.lt_succ_self _)).mp hlinks
      exact ⟨v, ⟨u, hc, hlinks⟩, hv, hr⟩
  · rintro ⟨v, ⟨u, hc, hlinks⟩, hv, hr⟩
    have hread := (links_eq_ok_iff (Nat.lt_succ_self _)).mpr ⟨v, hlinks, hv, hr⟩
    simp only [complexAt, hc, hread, Except.map]

/-- The text reads as chains with commas between them, up to its end. -/
inductive Alternatives (known : String → Bool) : List Char → List Complex → Prop
  | last {cs v : List Char} {x : Complex} : Chain known cs x v → skipBlank v = [] →
      Alternatives known cs [x]
  | comma {cs v rest : List Char} {x : Complex} {xs : List Complex} : Chain known cs x v →
      skipBlank v = ',' :: rest → Alternatives known (skipBlank rest) xs →
      Alternatives known cs (x :: xs)

theorem alternativesOf_eq_ok_iff {fuel : Nat} {xs : List Complex} (hfuel : cs.length < fuel) :
    alternativesOf known fuel cs = .ok xs ↔ Alternatives known cs xs := by
  induction fuel generalizing cs xs with
  | zero => exact absurd hfuel (Nat.not_lt_zero _)
  | succ fuel ih =>
      have hrest {x : Complex} {v rest : List Char} (hx : Chain known cs x v)
          (hv : skipBlank v = ',' :: rest) : (skipBlank rest).length < fuel := by
        have hlength := hx.length_lt
        have hle := length_skipBlank_le v
        have hle' := length_skipBlank_le rest
        rw [hv, List.length_cons] at hle
        omega
      constructor
      · intro h
        rw [alternativesOf] at h
        split at h
        · cases h
        · rename_i x hx
          obtain ⟨v, hx, -, hv⟩ := complexAt_eq_ok_iff.mp hx
          cases h
          exact .last hx hv
        · rename_i x rest hx
          obtain ⟨v, hx, -, hv⟩ := complexAt_eq_ok_iff.mp hx
          obtain ⟨xs', hxs, rfl⟩ := map_eq_ok_iff.mp h
          exact .comma hx hv ((ih (hrest hx hv)).mp hxs)
        · cases h
      · intro h
        cases h with
        | last hx hv =>
            have hnone : combinator _ = none := combinator_eq_none (hv ▸ stops_nil)
            have hread := complexAt_eq_ok_iff.mpr ⟨_, hx, hnone, hv⟩
            simp only [alternativesOf, hread]
        | comma hx hv hxs =>
            have hnone : combinator _ = none :=
              combinator_eq_none (hv ▸ stops_cons.mpr (by decide))
            have hread := complexAt_eq_ok_iff.mpr ⟨_, hx, hnone, hv⟩
            simp only [alternativesOf, hread, (ih (hrest hx hv)).mpr hxs, Except.map]

namespace Alternatives
variable {xs ys : List Complex} {x y : Complex}

theorem eq_cons (h : Alternatives known cs xs) : ∃ c f, cs = c :: f ∧ isCompoundChar c = true := by
  cases h with
  | last hx _ => exact hx.eq_cons
  | comma hx _ _ => exact hx.eq_cons

theorem ne_nil (h : Alternatives known cs xs) : cs ≠ [] := by
  obtain ⟨c, f, rfl, -⟩ := h.eq_cons
  exact List.cons_ne_nil c f

theorem exists_first (h : Alternatives known cs xs) : ∃ y ys, xs = y :: ys := by
  cases h with
  | last _ _ => exact ⟨_, _, rfl⟩
  | comma _ _ _ => exact ⟨_, _, rfl⟩

/-- The first chain can stand behind a combinator as well. -/
theorem join (h : Alternatives known rest (y :: ys)) (hx : Chain known cs x v)
    (hm : combinator v = some (m, rest)) : Alternatives known cs (x.join m y :: ys) := by
  cases h with
  | last hy hw => exact .last (hx.join hm hy) hw
  | comma hy hw hys => exact .comma (hx.join hm hy) hw hys

/-- The text ends in a chain `x`, with white space behind it. If the text goes on, the chains before
`x` stay, and the others are those that `x` and the new text give. -/
theorem exists_last (h : Alternatives known cs xs) :
    ∃ init x v, xs = init ++ [x] ∧ skipBlank v = [] ∧
      ∀ u ws, Stops isCompoundChar u →
        (∀ cs', Chain known cs' x (v ++ u) → Alternatives known cs' ws) →
        Alternatives known (cs ++ u) (init ++ ws) := by
  induction h with
  | @last cs v x hx hv =>
      refine ⟨[], x, v, rfl, hv, ?_⟩
      intro u ws hu hnext
      exact hnext _ (hx.extend (stops_append_of_nil hv hu))
  | @comma cs v rest x xs hx hv hxs ih =>
      obtain ⟨init, y, w, rfl, hw, hlast⟩ := ih
      refine ⟨x :: init, y, w, rfl, hw, ?_⟩
      intro u ws hu hnext
      have hskip : skipBlank (v ++ u) = ',' :: (rest ++ u) := by
        rw [skipBlank_append_of_ne_nil (by simp [hv]), hv, List.cons_append]
      have hstops : Stops isCompoundChar (v ++ u) := by
        apply stops_isCompoundChar_of_skipBlank
        rw [hskip]
        exact stops_cons.mpr (by decide)
      apply Alternatives.comma (hx.extend hstops) hskip
      rw [skipBlank_append_of_ne_nil hxs.ne_nil]
      exact hlast u ws hu hnext

theorem append_comma {t : List Char} (hxs : Alternatives known cs xs)
    (hys : Alternatives known (skipBlank t) ys) :
    Alternatives known (cs ++ ',' :: t) (xs ++ ys) := by
  obtain ⟨init, x, v, rfl, hv, hlast⟩ := hxs.exists_last
  rw [List.append_assoc]
  apply hlast _ _ (stops_cons.mpr (by decide))
  intro cs' hx
  apply Alternatives.comma hx _ hys
  rw [skipBlank_append_of_nil hv]
  exact List.dropWhile_cons_of_neg (by decide)

theorem append_sign {t : List Char} (hxs : Alternatives known cs (xs ++ [x]))
    (hys : Alternatives known (skipBlank t) (y :: ys)) (m : Combinator) :
    Alternatives known (cs ++ (m.sign.toList ++ t)) (xs ++ x.join m y :: ys) := by
  obtain ⟨init, x', v, heq, hv, hlast⟩ := hxs.exists_last
  obtain ⟨rfl, hx'⟩ := List.append_inj' heq rfl
  cases hx'
  apply hlast _ _ (stops_sign_append m t)
  intro cs' hx
  exact hys.join hx (combinator_sign_append hv hys.eq_cons m)

end Alternatives

theorem parseWith_eq_ok_iff {s : String} {x : Selector} :
    parseWith known s = .ok x ↔
      x.source = s ∧ Alternatives known (skipBlank s.toList) x.alternatives := by
  have hread (xs : List Complex) : alternativesOf known ((skipBlank s.toList).length + 1)
      (skipBlank s.toList) = .ok xs ↔ Alternatives known (skipBlank s.toList) xs :=
    alternativesOf_eq_ok_iff (Nat.lt_succ_self _)
  constructor
  · intro h
    unfold parseWith at h
    dsimp only at h
    split at h
    · cases h
    · split at h
      · rename_i xs hxs
        cases h
        exact ⟨rfl, (hread xs).mp hxs⟩
      · cases h
  · rintro ⟨rfl, h⟩
    obtain ⟨c, f, hcs, -⟩ := h.eq_cons
    have hxs := (hread _).mpr h
    rw [hcs] at hxs
    simp only [parseWith, hcs, hxs]

end

/-! ### Joined texts -/

/-- The text of a selector can be continued by a comma, `>` or white space and the text of another
selector. A comma puts their alternatives one after the other. The sign of a combinator makes one
chain of the last alternative of the first and the first alternative of the second. -/
theorem parseWith_joined {known : String → Bool} {s t : String} {x y : Selector}
    (hs : parseWith known s = .ok x) (ht : parseWith known t = .ok y) :
    (∃ z, parseWith known (s ++ "," ++ t) = .ok z ∧
      z.alternatives = x.alternatives ++ y.alternatives ∧
      ∀ source site, z.accepts source site = (x.accepts source site || y.accepts source site)) ∧
    ∃ xs a b ys, x.alternatives = xs ++ [a] ∧ y.alternatives = b :: ys ∧
      ∀ m : Combinator, ∃ z c, parseWith known (s ++ m.sign ++ t) = .ok z ∧
        z.alternatives = xs ++ c :: ys ∧
        c.compounds = a.compounds ++ b.compounds ∧
        c.combinators = a.combinators ++ m :: b.combinators := by
  obtain ⟨-, hx⟩ := parseWith_eq_ok_iff.mp hs
  obtain ⟨-, hy⟩ := parseWith_eq_ok_iff.mp ht
  have htext (u : String) :
      skipBlank (s ++ u ++ t).toList = skipBlank s.toList ++ (u.toList ++ t.toList) := by
    rw [String.toList_append, String.toList_append, List.append_assoc,
      skipBlank_append_of_ne_nil hx.ne_nil]
  constructor
  · refine ⟨⟨s ++ "," ++ t, x.alternatives ++ y.alternatives⟩, ?_, rfl, ?_⟩
    · apply parseWith_eq_ok_iff.mpr
      rw [htext]
      exact ⟨rfl, hx.append_comma hy⟩
    · intro source site
      exact List.any_append
  · obtain ⟨xs, a, -, hlast, -⟩ := hx.exists_last
    obtain ⟨b, ys, hfirst⟩ := hy.exists_first
    refine ⟨xs, a, b, ys, hlast, hfirst, ?_⟩
    intro m
    refine ⟨⟨s ++ m.sign ++ t, xs ++ a.join m b :: ys⟩, a.join m b, ?_, rfl,
      a.compounds_join m b, a.combinators_join m b⟩
    apply parseWith_eq_ok_iff.mpr
    rw [htext]
    rw [hlast] at hx
    rw [hfirst] at hy
    exact ⟨rfl, hx.append_sign hy m⟩

def signsInQuotes : Selector where
  source := "[a='>,'] , [b] [c=\"]\"] "
  alternatives :=
    [⟨⟨none, [⟨["a"], .equals (.text ">,")⟩]⟩, []⟩,
      ⟨⟨none, [⟨["b"], .present⟩]⟩, [(.descendant, ⟨none, [⟨["c"], .equals (.text "]")⟩]⟩)]⟩]

def paddedChild : Selector where
  source := " * > [d] ,[e]"
  alternatives :=
    [⟨⟨none, []⟩, [(.child, ⟨none, [⟨["d"], .present⟩]⟩)]⟩, ⟨⟨none, [⟨["e"], .present⟩]⟩, []⟩]

theorem parseWith_joined_signsInQuotes :
    parse signsInQuotes.source = .ok signsInQuotes ∧ parse paddedChild.source = .ok paddedChild ∧
      (∃ z, parse "[a='>,'] , [b] [c=\"]\"] , * > [d] ,[e]" = .ok z ∧
        z.alternatives = signsInQuotes.alternatives ++ paddedChild.alternatives) ∧
      ∃ z c, parse "[a='>,'] , [b] [c=\"]\"] > * > [d] ,[e]" = .ok z ∧
        z.alternatives = [⟨⟨none, [⟨["a"], .equals (.text ">,")⟩]⟩, []⟩, c,
          ⟨⟨none, [⟨["e"], .present⟩]⟩, []⟩] ∧
        c.compounds.length = 4 ∧ c.combinators = [.descendant, .child, .child] := by
  have hs : parse signsInQuotes.source = .ok signsInQuotes := by decide +kernel
  have ht : parse paddedChild.source = .ok paddedChild := by decide +kernel
  obtain ⟨⟨z, hz, halternatives, -⟩, xs, a, b, ys, hx, hy, hjoin⟩ := parseWith_joined hs ht
  refine ⟨hs, ht, ⟨z, hz, halternatives⟩, ?_⟩
  obtain ⟨z', c, hz', halternatives', hcompounds, hcombinators⟩ := hjoin .child
  have hlast : [_] ++ [_] = xs ++ [a] := hx
  obtain ⟨rfl, ha⟩ := List.append_inj' hlast rfl
  cases ha
  cases hy
  exact ⟨z', c, hz', halternatives', by rw [hcompounds]; rfl, hcombinators⟩

end BoundaryLint.Selector
