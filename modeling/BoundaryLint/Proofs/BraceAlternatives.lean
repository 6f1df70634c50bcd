import BoundaryLint.Proofs.GlobAcceptance

/-!
# Braces stand for alternatives

A glob with one pair of braces matches what the globs match that have one of the alternatives in the
place of the braces. It is refused more often than they are, however: whether two stars make up a
whole segment is decided by the characters around them in the text, and a brace or a comma is no
border of a segment. So two stars may stand inside of a part, but not at a border between the braces
and what is around them.
-/
namespace BoundaryLint.Glob

/-! ### Stars at a border -/

def stars : List Char := ['*', '*']

section
variable {u v : List Char} {c : Char} {prev : Option Char}

theorem stars_prefix_append_cons (hc : c ≠ '*') : stars <+: u ++ c :: v ↔ stars <+: u := by
  rcases u with - | ⟨d, - | ⟨e, u⟩⟩
  · simp [stars, List.cons_prefix_cons, Ne.symm hc]
  · simp [stars, List.cons_prefix_cons, Ne.symm hc]
  · simp [stars, List.cons_prefix_cons]

theorem stars_suffix_append_cons (hc : c ≠ '*') : stars <:+ u ++ c :: v ↔ stars <:+ v := by
  have hreverse : ∀ w, stars <:+ w ↔ stars <+: w.reverse := by
    intro w
    rw [← List.reverse_prefix, show stars.reverse = stars from rfl]
  rw [hreverse, hreverse, List.reverse_append, List.reverse_cons, List.append_assoc]
  exact stars_prefix_append_cons hc

/-- Stars are not broken up by a border between two texts. -/
def Apart (u v : List Char) : Prop :=
  ¬ (u.getLast? = some '*' ∧ v.head? = some '*')
deriving Decidable

theorem stars_prefix_append (h : Apart u v) :
    stars <+: u ++ v ↔ stars <+: u ∨ u = [] ∧ stars <+: v := by
  rcases u with - | ⟨d, - | ⟨e, u⟩⟩
  · simp [stars]
  · cases v with
    | nil => simp [stars]
    | cons c v => simp_all [stars, Apart, List.cons_prefix_cons, eq_comm]
  · simp [stars, List.cons_prefix_cons]

/-- What begins a segment behind some character begins one at the start of a text too. -/
theorem beginsSegment_or_none {last : Option Char}
    (h : beginsSegment (last.or prev) = true) : beginsSegment (last.or none) = true := by
  cases last with
  | none => rfl
  | some d => exact h

theorem getLast?_or_of_ne_nil (hu : u ≠ []) (p q : Option Char) :
    u.getLast?.or p = u.getLast?.or q := by
  rw [List.getLast?_eq_some_getLast hu, Option.some_or, Option.some_or]

theorem WholeStars.not_suffix (h : WholeStars prev (u ++ c :: v)) (hc : c ≠ '/') :
    ¬ stars <:+ u := by
  rintro ⟨front, rfl⟩
  obtain ⟨-, hback | hback⟩ := h front (c :: v) (by simp [stars])
  · cases hback
  · simp [hc] at hback

/-- Behind anything but a slash, two stars are no whole segment. Any others do not depend on it. -/
theorem wholeStars_some_iff (hc : c ≠ '/') :
    WholeStars (some c) v ↔ WholeStars none v ∧ ¬ stars <+: v := by
  constructor
  · intro h
    refine ⟨fun front back hv => ?_, ?_⟩
    · obtain ⟨hbegins, hback⟩ := h front back hv
      exact ⟨beginsSegment_or_none hbegins, hback⟩
    · rintro ⟨back, hback⟩
      have hbegins := (h [] back hback.symm).1
      simp [beginsSegment, hc] at hbegins
  · rintro ⟨h, hstart⟩ front back hv
    have hfront : front ≠ [] := by
      rintro rfl
      exact hstart ⟨back, hv.symm⟩
    rw [getLast?_or_of_ne_nil hfront _ none]
    exact h front back hv

/-- Where no stars stand at the border of two texts, each of them is judged alone. -/
theorem wholeStars_append (h : Apart u v) (hu : ¬ stars <:+ u) (hv : ¬ stars <+: v) :
    WholeStars none (u ++ v) ↔ WholeStars none u ∧ WholeStars none v := by
  constructor
  · intro hstars
    refine ⟨fun front back heq => ?_, fun front back heq => ?_⟩
    · obtain ⟨hbegins, hback⟩ := hstars front (back ++ v) (by simp [heq])
      refine ⟨hbegins, ?_⟩
      cases back with
      | nil => exact absurd ⟨front, heq.symm⟩ hu
      | cons d back => exact .inr (by simpa using hback)
    · obtain ⟨hbegins, hback⟩ := hstars (u ++ front) back (by simp [heq])
      rw [List.getLast?_append, Option.or_assoc] at hbegins
      exact ⟨beginsSegment_or_none hbegins, hback⟩
  · rintro ⟨hleft, hright⟩ front back heq
    rcases List.append_eq_append_iff.mp heq with ⟨mid, rfl, hmid⟩ | ⟨mid, rfl, hmid⟩
    · -- the stars are in the second text
      have hne : mid ≠ [] := by
        rintro rfl
        exact hv ⟨back, hmid.symm⟩
      rw [List.getLast?_append, Option.or_assoc, getLast?_or_of_ne_nil hne _ none]
      exact hright mid back hmid
    · -- the first star is in the first text
      rcases mid with - | ⟨d, - | ⟨d', mid⟩⟩
      · exact absurd ⟨back, hmid⟩ hv
      · obtain ⟨rfl, rfl⟩ : d = '*' ∧ v = '*' :: back := by simpa [eq_comm] using hmid
        simp [Apart] at h
      · obtain ⟨rfl, rfl, rfl⟩ : d = '*' ∧ d' = '*' ∧ back = mid ++ v := by
          simpa [eq_comm] using hmid
        obtain ⟨hbegins, hback⟩ := hleft front mid rfl
        refine ⟨hbegins, ?_⟩
        cases mid with
        | nil => exact absurd ⟨front, rfl⟩ hu
        | cons c mid => exact .inr (by simpa using hback)

/-- The stars of a text between braces and commas are whole, and none stand at its borders. -/
structure Inner (u : List Char) : Prop where
  whole : WholeStars none u
  notPrefix : ¬ stars <+: u
  notSuffix : ¬ stars <:+ u

theorem wholeStars_append_cons (hstar : c ≠ '*') (hslash : c ≠ '/') :
    WholeStars none (u ++ c :: v) ↔
      (WholeStars none u ∧ ¬ stars <:+ u) ∧ WholeStars none v ∧ ¬ stars <+: v := by
  have hapart : Apart u (c :: v) := by simp [Apart, hstar]
  have hstart : ¬ stars <+: c :: v := by simp [stars, List.cons_prefix_cons, Ne.symm hstar]
  have hbehind : WholeStars none (c :: v) ↔ WholeStars none v ∧ ¬ stars <+: v := by
    rw [wholeStars_cons_of_ne (.inl hstar), wholeStars_some_iff hslash]
  constructor
  · intro h
    have hsuffix := h.not_suffix hslash
    obtain ⟨hleft, hright⟩ := (wholeStars_append hapart hsuffix hstart).mp h
    exact ⟨⟨hleft, hsuffix⟩, hbehind.mp hright⟩
  · rintro ⟨⟨hleft, hsuffix⟩, hright⟩
    exact (wholeStars_append hapart hsuffix hstart).mpr ⟨hleft, hbehind.mpr hright⟩

theorem inner_append_cons (hstar : c ≠ '*') (hslash : c ≠ '/') :
    Inner (u ++ c :: v) ↔ Inner u ∧ Inner v := by
  constructor
  · rintro ⟨hwhole, hstart, hsuffix⟩
    rw [stars_prefix_append_cons hstar] at hstart
    rw [stars_suffix_append_cons hstar] at hsuffix
    obtain ⟨⟨hleft, hend⟩, hright, hbegin⟩ := (wholeStars_append_cons hstar hslash).mp hwhole
    exact ⟨⟨hleft, hstart, hend⟩, ⟨hright, hbegin, hsuffix⟩⟩
  · rintro ⟨hu, hv⟩
    refine ⟨?_, ?_, ?_⟩
    · exact (wholeStars_append_cons hstar hslash).mpr
        ⟨⟨hu.whole, hu.notSuffix⟩, hv.whole, hv.notPrefix⟩
    · rw [stars_prefix_append_cons hstar]
      exact hu.notPrefix
    · rw [stars_suffix_append_cons hstar]
      exact hv.notSuffix

end

def commaList (as : List (List Char)) : List Char :=
  [','].intercalate as

theorem commaList_singleton (a : List Char) : commaList [a] = a := by
  simp [commaList]

theorem commaList_cons (a b : List Char) (as : List (List Char)) :
    commaList (a :: b :: as) = a ++ ',' :: commaList (b :: as) := by
  simp [commaList]

theorem inner_commaList {as : List (List Char)} (has : as ≠ []) :
    Inner (commaList as) ↔ ∀ a ∈ as, Inner a := by
  induction as with
  | nil => exact absurd rfl has
  | cons a as ih =>
      cases as with
      | nil => simp [commaList_singleton]
      | cons b as =>
          rw [commaList_cons, inner_append_cons (by decide) (by decide), ih (by simp)]
          simp

def braced (x : List Char) (as : List (List Char)) (y : List Char) : List Char :=
  x ++ '\x7b' :: (commaList as ++ '\x7d' :: y)

/-- No two stars stand next to a brace or a comma. -/
@[mk_iff]
structure StarsClear (x : List Char) (as : List (List Char)) (y : List Char) : Prop where
  before : ¬ stars <:+ x
  inside : ∀ a ∈ as, ¬ stars <+: a ∧ ¬ stars <:+ a
  behind : ¬ stars <+: y

instance (x : List Char) (as : List (List Char)) (y : List Char) : Decidable (StarsClear x as y) :=
  decidable_of_iff _ (starsClear_iff x as y).symm

theorem wholeStars_braced {x y : List Char} {as : List (List Char)} (has : as ≠ []) :
    WholeStars none (braced x as y) ↔ StarsClear x as y ∧
      WholeStars none x ∧ (∀ a ∈ as, WholeStars none a) ∧ WholeStars none y := by
  rw [braced, wholeStars_append_cons (by decide) (by decide),
    wholeStars_append_cons (by decide) (by decide), stars_prefix_append_cons (by decide)]
  constructor
  · rintro ⟨⟨hx, hbefore⟩, ⟨⟨hlist, hsuffix⟩, hy, hbehind⟩, hstart⟩
    have hinner := (inner_commaList has).mp ⟨hlist, hstart, hsuffix⟩
    exact ⟨⟨hbefore, fun a ha => ⟨(hinner a ha).notPrefix, (hinner a ha).notSuffix⟩, hbehind⟩,
      hx, fun a ha => (hinner a ha).whole, hy⟩
  · rintro ⟨hclear, hx, hwhole, hy⟩
    have hinner : Inner (commaList as) := (inner_commaList has).mpr fun a ha =>
      ⟨hwhole a ha, (hclear.inside a ha).1, (hclear.inside a ha).2⟩
    exact ⟨⟨hx, hclear.before⟩, ⟨⟨hinner.whole, hinner.notSuffix⟩, hy, hclear.behind⟩,
      hinner.notPrefix⟩

/-- Stars that stand side by side come from the same one of three texts. -/
@[mk_iff]
structure AllApart (x a y : List Char) : Prop where
  front : Apart x (a ++ y)
  back : Apart (x ++ a) y

instance (x a y : List Char) : Decidable (AllApart x a y) :=
  decidable_of_iff _ (allApart_iff x a y).symm

theorem AllApart.middle {x a y : List Char} (h : AllApart x a y) : Apart a y := by
  rintro ⟨ha, hy⟩
  refine h.back ⟨?_, hy⟩
  simp [List.getLast?_append, ha]

theorem not_stars_prefix_append {a y : List Char} (h : Apart a y) (ha : ¬ stars <+: a)
    (hy : ¬ stars <+: y) : ¬ stars <+: a ++ y := by
  rw [stars_prefix_append h]
  rintro (hstart | ⟨-, hstart⟩)
  · exact ha hstart
  · exact hy hstart

theorem wholeStars_expanded {x a y : List Char} {as : List (List Char)} (hclear : StarsClear x as y)
    (ha : a ∈ as) (h : AllApart x a y) :
    WholeStars none (x ++ a ++ y) ↔ WholeStars none x ∧ WholeStars none a ∧ WholeStars none y := by
  obtain ⟨hstart, hsuffix⟩ := hclear.inside a ha
  have hrest := not_stars_prefix_append h.middle hstart hclear.behind
  rw [List.append_assoc, wholeStars_append h.front hclear.before hrest,
    wholeStars_append h.middle hsuffix hclear.behind]

/-! ### Reading a text part by part -/

/-- A text without brackets, braces and commas. -/
@[mk_iff]
structure Flat (u : List Char) : Prop where
  bracket : '[' ∉ u
  opening : '\x7b' ∉ u
  closing : '\x7d' ∉ u
  comma : ',' ∉ u

instance (u : List Char) : Decidable (Flat u) :=
  decidable_of_iff _ (flat_iff u).symm

theorem Flat.append {u v : List Char} (hu : Flat u) (hv : Flat v) : Flat (u ++ v) where
  bracket := by simp [hu.bracket, hv.bracket]
  opening := by simp [hu.opening, hv.opening]
  closing := by simp [hu.closing, hv.closing]
  comma := by simp [hu.comma, hv.comma]

theorem Flat.tail {u : List Char} {c : Char} (h : Flat (c :: u)) : Flat u where
  bracket hmem := h.bracket (List.mem_cons_of_mem c hmem)
  opening hmem := h.opening (List.mem_cons_of_mem c hmem)
  closing hmem := h.closing (List.mem_cons_of_mem c hmem)
  comma hmem := h.comma (List.mem_cons_of_mem c hmem)

/-- How a text without brackets, braces and commas is read does not depend on what follows it. -/
structure Joins (u v : List Char) : Prop where
  flat : Flat u
  notSuffix : ¬ stars <:+ u
  apart : Apart u v

theorem Joins.tail {u v : List Char} {c : Char} (h : Joins (c :: u) v) : Joins u v := by
  refine ⟨h.flat.tail, fun hsuffix => ?_, ?_⟩
  · exact h.notSuffix (hsuffix.trans (List.suffix_cons c u))
  · rintro ⟨hlast, hhead⟩
    exact h.apart ⟨by simp [List.getLast?_cons, hlast], hhead⟩

namespace Expr
variable {κ : Type}

def append : Expr κ → Expr κ → Expr κ
  | .nil, f => f
  | .cat a b, f => .cat a (b.append f)
  | e, f => .cat e f

theorem language_append (inside : κ → Set Char) (e f : Expr κ) :
    (e.append f).language inside = e.language inside * f.language inside := by
  fun_induction append e f with
  | case1 f => rw [language, one_mul]
  | case2 a b f ih => rw [language, ih, language, mul_assoc]
  | case3 e f => rw [language]

end Expr

namespace Reads
variable {inner : Bool} {prev q : Option Char} {u v r : List Char} {e f : Expr (List Char)}

theorem of_prev (h : Reads (.pieces inner) prev u e r) (hu : ¬ stars <+: u) :
    Reads (.pieces inner) q u e r := by
  cases h with
  | done => exact .done
  | stop hc => exact .stop hc
  | rest => exact absurd ⟨[], rfl⟩ hu
  | dirs => exact absurd ⟨_, rfl⟩ hu
  | star hstars h => exact .star hstars h
  | one h => exact .one h
  | cls hsplit hslash h => exact .cls hsplit hslash h
  | brace hbody h => exact .brace hbody h
  | lit hc hcomma h => exact .lit hc hcomma h

theorem append_pieces (h : Reads (.pieces false) prev u e []) (hjoins : Joins u v)
    (hv : Reads (.pieces inner) (u.getLast?.or prev) v f r) :
    Reads (.pieces inner) prev (u ++ v) (e.append f) r := by
  generalize hpart : Part.pieces false = part, hnil : ([] : List Char) = left at h
  induction h with
  | done => exact hv
  | stop | last | more => cases hpart
  | rest => exact absurd ⟨[], rfl⟩ hjoins.notSuffix
  | cls => exact absurd List.mem_cons_self hjoins.flat.bracket
  | brace => exact absurd List.mem_cons_self hjoins.flat.opening
  | dirs hbegins _ ih =>
      rw [getLast?_cons_or, getLast?_cons_or, getLast?_cons_or] at hv
      exact .dirs hbegins (ih hjoins.tail.tail.tail hv hpart hnil)
  | @star _ _ cs _ _ hstars _ ih =>
      have hhead : (cs ++ v).head? ≠ some '*' := by
        cases cs with
        | nil =>
            intro hhead
            exact hjoins.apart ⟨rfl, hhead⟩
        | cons c cs => exact hstars
      rw [getLast?_cons_or] at hv
      exact .star hhead (ih hjoins.tail hv hpart hnil)
  | one _ ih =>
      rw [getLast?_cons_or] at hv
      exact .one (ih hjoins.tail hv hpart hnil)
  | lit hc _ _ ih =>
      have hcomma : _ ≠ ',' := fun heq => hjoins.flat.comma (heq ▸ List.mem_cons_self)
      rw [getLast?_cons_or] at hv
      exact .lit hc (fun _ => hcomma) (ih hjoins.tail hv hpart hnil)

end Reads

theorem Flat.balanced {u : List Char} (h : Flat u) : Balanced u := by
  refine ⟨fun t ht => ?_, ?_⟩
  · have hnone : t.count '\x7d' = 0 := List.count_eq_zero.mpr fun hmem => h.closing (ht.subset hmem)
    omega
  · rw [List.count_eq_zero.mpr h.opening, List.count_eq_zero.mpr h.closing]

theorem Flat.exists_reads {u : List Char} (h : Flat u) (hstars : WholeStars none u) :
    ∃ e, Reads (.pieces false) none u e [] := by
  obtain ⟨e, he⟩ := (exists_parse_iff h.bracket).mpr ⟨h.balanced, hstars⟩
  exact ⟨e, parse_eq_ok_iff.mp he⟩

section
variable {x a y t : List Char} {as : List (List Char)} (inside : List Char → Set Char)

theorem Reads.alternative {e : Expr (List Char)} {c : Char} (h : Reads (.pieces false) none a e [])
    (hflat : Flat a) (hinner : Inner a) (hc : c = ',' ∨ c = '\x7d') (q : Option Char) :
    Reads (.pieces true) q (a ++ c :: t) (e.append .nil) (c :: t) := by
  have hapart : Apart a (c :: t) := by
    rcases hc with rfl | rfl <;> simp [Apart]
  exact (h.of_prev hinner.notPrefix).append_pieces ⟨hflat, hinner.notSuffix, hapart⟩ (.stop hc)

theorem Reads.unique {e e' : Expr (List Char)} (h : Reads (.pieces false) none a e [])
    (h' : Reads (.pieces false) none a e' []) : e = e' := by
  have hparse := parse_eq_ok_iff.mpr h
  rw [parse_eq_ok_iff.mpr h'] at hparse
  exact (Except.ok.inj hparse).symm

/-- Some reading of a text denotes a path. There is at most one reading. -/
def Denotes (u w : List Char) : Prop :=
  ∃ e, Reads (.pieces false) none u e [] ∧ w ∈ e.language inside

theorem denotes_iff {e : Expr (List Char)} (h : Reads (.pieces false) none a e []) {w : List Char} :
    Denotes inside a w ↔ w ∈ e.language inside := by
  constructor
  · rintro ⟨e', he', hw⟩
    rwa [h.unique he']
  · intro hw
    exact ⟨e, h, hw⟩

/-- Alternatives are read one by one, and denote what one of them denotes. -/
theorem exists_alternatives (has : as ≠ []) (hflat : ∀ a ∈ as, Flat a)
    (hinner : ∀ a ∈ as, Inner a) (q : Option Char) (t : List Char) :
    ∃ body, Reads .choices q (commaList as ++ '\x7d' :: t) body t ∧
      ∀ w, w ∈ body.language inside ↔ ∃ a ∈ as, Denotes inside a w := by
  induction as generalizing q with
  | nil => exact absurd rfl has
  | cons a as ih =>
      rw [List.forall_mem_cons] at hflat hinner
      obtain ⟨e, he⟩ := hflat.1.exists_reads hinner.1.whole
      have hfirst : ∀ w, w ∈ (e.append .nil).language inside ↔ Denotes inside a w := by
        intro w
        rw [Expr.language_append, Expr.language, mul_one, denotes_iff inside he]
      cases as with
      | nil =>
          refine ⟨e.append .nil, ?_, by simpa using hfirst⟩
          rw [commaList_singleton]
          exact .last (he.alternative hflat.1 hinner.1 (.inr rfl) q)
      | cons b as =>
          obtain ⟨body, hbody, hrest⟩ := ih (by simp) hflat.2 hinner.2 (some ',')
          refine ⟨.alt (e.append .nil) body, ?_, fun w => ?_⟩
          · rw [commaList_cons, List.append_assoc, List.cons_append]
            exact .more (he.alternative hflat.1 hinner.1 (.inl rfl) q) hbody
          · rw [List.exists_mem_cons_iff, ← hfirst, ← hrest]
            rfl

theorem reads_expanded (hclear : StarsClear x as y) (ha : a ∈ as) (hapart : AllApart x a y)
    (hx : Flat x) (hflat : Flat a) {ex ea ey : Expr (List Char)}
    (hex : Reads (.pieces false) none x ex []) (hea : Reads (.pieces false) none a ea [])
    (hey : Reads (.pieces false) none y ey []) :
    Reads (.pieces false) none (x ++ a ++ y) (ex.append (ea.append ey)) [] := by
  obtain ⟨hstart, hsuffix⟩ := hclear.inside a ha
  have hrest := not_stars_prefix_append hapart.middle hstart hclear.behind
  have hay : Reads (.pieces false) none (a ++ y) (ea.append ey) [] :=
    hea.append_pieces ⟨hflat, hsuffix, hapart.middle⟩ (hey.of_prev hclear.behind)
  rw [List.append_assoc]
  exact hex.append_pieces ⟨hx, hclear.before, hapart.front⟩ (hay.of_prev hrest)

/-- Braces with alternatives denote what some text denotes that has one alternative in their
place. -/
theorem exists_reads_braced (has : as ≠ []) (hx : Flat x) (hflat : ∀ a ∈ as, Flat a) (hy : Flat y)
    (hapart : ∀ a ∈ as, AllApart x a y) (hstars : WholeStars none (braced x as y)) :
    ∃ e, Reads (.pieces false) none (braced x as y) e [] ∧
      ∀ w, w ∈ e.language inside ↔ ∃ a ∈ as, Denotes inside (x ++ a ++ y) w := by
  obtain ⟨hclear, hwx, hwa, hwy⟩ := (wholeStars_braced has).mp hstars
  obtain ⟨ex, hex⟩ := hx.exists_reads hwx
  obtain ⟨ey, hey⟩ := hy.exists_reads hwy
  have hinner : ∀ a ∈ as, Inner a := fun a ha =>
    ⟨hwa a ha, (hclear.inside a ha).1, (hclear.inside a ha).2⟩
  obtain ⟨body, hbody, hlanguage⟩ :=
    exists_alternatives inside has hflat hinner (some '\x7b') y
  refine ⟨ex.append (.cat (.brace body) ey), ?_, fun w => ?_⟩
  · have hbrace : ∀ q, Reads (.pieces false) q ('\x7b' :: (commaList as ++ '\x7d' :: y))
        (.cat (.brace body) ey) [] := fun q => .brace hbody (hey.of_prev hclear.behind)
    exact hex.append_pieces ⟨hx, hclear.before, by simp [Apart]⟩ (hbrace _)
  · rw [Expr.language_append, Language.mem_mul]
    constructor
    · rintro ⟨u, hu, v, hv, rfl⟩
      obtain ⟨p, hp, s, hs, rfl⟩ := Language.mem_mul.mp hv
      obtain ⟨a, ha, ea, hea, hp⟩ := (hlanguage p).mp hp
      refine ⟨a, ha, _, reads_expanded hclear ha (hapart a ha) hx (hflat a ha) hex hea hey, ?_⟩
      rw [Expr.language_append, Expr.language_append]
      exact Language.append_mem_mul hu (Language.append_mem_mul hp hs)
    · rintro ⟨a, ha, hw⟩
      obtain ⟨ea, hea⟩ := (hflat a ha).exists_reads (hwa a ha)
      have hread := reads_expanded hclear ha (hapart a ha) hx (hflat a ha) hex hea hey
      rw [denotes_iff inside hread, Expr.language_append, Expr.language_append] at hw
      obtain ⟨u, hu, v, hv, rfl⟩ := Language.mem_mul.mp hw
      obtain ⟨p, hp, s, hs, rfl⟩ := Language.mem_mul.mp hv
      exact ⟨u, hu, p ++ s,
        Language.append_mem_mul ((hlanguage p).mpr ⟨a, ha, ea, hea, hp⟩) hs, rfl⟩

end

/-! ### Globs -/

theorem exists_ofText_iff {s : String} (hb : '[' ∉ s.toList)
    (hnormal : normalized s.toList = s.toList) :
    (∃ g, ofText s = .ok g) ↔ Text.isBlankText s = false ∧ s.toList.head? ≠ some '/' ∧
      Balanced s.toList ∧ WholeStars none s.toList := by
  constructor
  · rintro ⟨g, hg⟩
    obtain ⟨hblank, hroot, -, e, he, -⟩ := ofText_eq_ok_iff.mp hg
    rw [hnormal] at hroot he
    exact ⟨hblank, hroot, (exists_parse_iff hb).mp ⟨e, he⟩⟩
  · rintro ⟨hblank, hroot, hread⟩
    obtain ⟨e, he⟩ := (exists_parse_iff hb).mpr hread
    have hpattern := parse_wholeText_of_classFree he ((parse_eq_ok_iff.mp he).classFree hb)
    refine ⟨⟨s, e.pattern⟩, ofText_eq_ok_iff.mpr ⟨hblank, ?_, rfl, e, ?_, hpattern⟩⟩
    · rwa [hnormal]
    · rwa [hnormal]

theorem accepts_iff_denotes {s : String} {g : Glob} (hb : '[' ∉ s.toList)
    (hnormal : normalized s.toList = s.toList) (hg : ofText s = .ok g)
    (inside : List Char → Set Char) (path : String) :
    g.accepts path = true ↔ Denotes inside s.toList path.toList := by
  obtain ⟨-, e, he, hp⟩ := ofText_eq_ok hg
  rw [hnormal] at he
  have hread := parse_eq_ok_iff.mp he
  have hfree := hread.classFree hb
  rw [parse_wholeText_of_classFree he hfree] at hp
  have hpattern : e.pattern = g.pattern := Except.ok.inj hp
  rw [denotes_iff inside hread, accepts, ← hpattern, e.matchesStart_pattern,
    Expr.language_of_classFree hfree charsOf inside]

theorem normalized_eq_self {cs : List Char} (h : ¬ ['.', '/'] <+: cs) : normalized cs = cs := by
  rw [normalized]
  rintro rest rfl
  exact h ⟨rest, rfl⟩

/-- A text that is neither blank nor begins with `./` or `/`. -/
@[mk_iff]
structure Starts (s : String) : Prop where
  notBlank : Text.isBlankText s = false
  notDot : ¬ ['.', '/'] <+: s.toList
  notRoot : s.toList.head? ≠ some '/'

instance (s : String) : Decidable (Starts s) :=
  decidable_of_iff _ (starts_iff s).symm

def bracedText (x : String) (as : List String) (y : String) : String :=
  x ++ "\x7b" ++ ",".intercalate as ++ "\x7d" ++ y

theorem toList_bracedText (x : String) (as : List String) (y : String) :
    (bracedText x as y).toList = braced x.toList (as.map String.toList) y.toList := by
  simp [bracedText, braced, commaList, String.toList_intercalate]

theorem exists_ofText_of_flat {s : String} (hflat : Flat s.toList) (hs : Starts s) :
    (∃ g, ofText s = .ok g) ↔ WholeStars none s.toList := by
  rw [exists_ofText_iff hflat.bracket (normalized_eq_self hs.notDot)]
  constructor
  · rintro ⟨-, -, -, hstars⟩
    exact hstars
  · intro hstars
    exact ⟨hs.notBlank, hs.notRoot, hflat.balanced, hstars⟩

theorem bracket_not_mem_braced {x y : List Char} {as : List (List Char)} (hx : Flat x)
    (hflat : ∀ a ∈ as, Flat a) (hy : Flat y) : '[' ∉ braced x as y := by
  have hlist : '[' ∉ commaList as := by
    induction as with
    | nil => simp [commaList]
    | cons a as ih =>
        rw [List.forall_mem_cons] at hflat
        cases as with
        | nil => simp [commaList_singleton, hflat.1.bracket]
        | cons b as => simp [commaList_cons, hflat.1.bracket, ih hflat.2]
  simp [braced, hx.bracket, hy.bracket, hlist]

/-- Parts of a glob with braces. No part has brackets, braces or commas. With one alternative in the
place of the braces the text is not blank and does not begin with `./` or `/`, and stars that stand
side by side in it come from one part. -/
@[mk_iff]
structure Parts (x : String) (as : List String) (y : String) : Prop where
  nonempty : as ≠ []
  front : Flat x.toList
  inside : ∀ a ∈ as, Flat a.toList
  back : Flat y.toList
  starts : ∀ a ∈ as, Starts (x ++ a ++ y)
  apart : ∀ a ∈ as, AllApart x.toList a.toList y.toList

instance (x : String) (as : List String) (y : String) : Decidable (Parts x as y) :=
  decidable_of_iff _ (parts_iff x as y).symm

namespace Parts
variable {x y : String} {as : List String}

theorem starts_bracedText (h : Parts x as y) : Starts (bracedText x as y) := by
  obtain ⟨a, ha⟩ := List.exists_mem_of_ne_nil as h.nonempty
  obtain ⟨-, hdot, hroot⟩ := h.starts a ha
  simp only [String.toList_append] at hdot hroot
  refine ⟨?_, ?_, ?_⟩
  · have hbrace : Text.isBlank '\x7b' = false := by decide
    simp [Text.isBlankText, toList_bracedText, braced, hbrace]
  · rw [toList_bracedText, braced]
    rcases hx : x.toList with - | ⟨c, - | ⟨d, u⟩⟩
    · simp [List.cons_prefix_cons]
    · simp [List.cons_prefix_cons]
    · simpa [hx, List.cons_prefix_cons] using hdot
  · rw [toList_bracedText, braced]
    cases hx : x.toList with
    | nil => simp
    | cons c u => simpa [hx] using hroot

theorem bracket_not_mem (h : Parts x as y) : '[' ∉ (bracedText x as y).toList := by
  rw [toList_bracedText]
  exact bracket_not_mem_braced h.front (by simpa using h.inside) h.back

theorem flat_expanded (h : Parts x as y) {a : String} (ha : a ∈ as) :
    Flat (x ++ a ++ y).toList := by
  simpa using (h.front.append (h.inside a ha)).append h.back

theorem exists_expanded_iff (h : Parts x as y) {a : String} (ha : a ∈ as) :
    (∃ g, ofText (x ++ a ++ y) = .ok g) ↔
      WholeStars none (x.toList ++ a.toList ++ y.toList) := by
  rw [exists_ofText_of_flat (h.flat_expanded ha) (h.starts a ha), String.toList_append,
    String.toList_append]

/-- With whole stars, the braces are read, and denote what one of the expanded texts denotes. -/
theorem exists_reads (h : Parts x as y)
    (hstars : WholeStars none (braced x.toList (as.map String.toList) y.toList))
    (classes : List Char → Set Char) :
    ∃ e, Reads (.pieces false) none (bracedText x as y).toList e [] ∧
      ∀ w, w ∈ e.language classes ↔ ∃ a ∈ as, Denotes classes (x ++ a ++ y).toList w := by
  obtain ⟨e, he, hlanguage⟩ := exists_reads_braced classes (by simpa using h.nonempty) h.front
    (by simpa using h.inside) h.back (by simpa using h.apart) hstars
  rw [← toList_bracedText] at he
  exact ⟨e, he, by simpa using hlanguage⟩

theorem exists_braced_iff (h : Parts x as y) :
    (∃ g, ofText (bracedText x as y) = .ok g) ↔
      WholeStars none (braced x.toList (as.map String.toList) y.toList) := by
  have hs := h.starts_bracedText
  rw [exists_ofText_iff h.bracket_not_mem (normalized_eq_self hs.notDot)]
  constructor
  · rintro ⟨-, -, -, hstars⟩
    rwa [toList_bracedText] at hstars
  · intro hstars
    obtain ⟨e, he, -⟩ := h.exists_reads hstars fun _ => ∅
    exact ⟨hs.notBlank, hs.notRoot,
      (exists_parse_iff h.bracket_not_mem).mp ⟨e, parse_eq_ok_iff.mpr he⟩⟩

/-- The braces are read if every expanded text is and no stars stand at the borders. -/
theorem exists_braced_iff_forall (h : Parts x as y) :
    (∃ g, ofText (bracedText x as y) = .ok g) ↔
      (∀ a ∈ as, ∃ g, ofText (x ++ a ++ y) = .ok g) ∧
        StarsClear x.toList (as.map String.toList) y.toList := by
  rw [h.exists_braced_iff, wholeStars_braced (by simpa using h.nonempty)]
  constructor
  · rintro ⟨hclear, hx, hinside, hy⟩
    refine ⟨fun a ha => (h.exists_expanded_iff ha).mpr ?_, hclear⟩
    have hmem : a.toList ∈ as.map String.toList := List.mem_map_of_mem ha
    exact (wholeStars_expanded hclear hmem (h.apart a ha)).mpr ⟨hx, hinside _ hmem, hy⟩
  · rintro ⟨hall, hclear⟩
    have hparts : ∀ a ∈ as, WholeStars none x.toList ∧ WholeStars none a.toList ∧
        WholeStars none y.toList := by
      intro a ha
      have hstars := (h.exists_expanded_iff ha).mp (hall a ha)
      exact (wholeStars_expanded hclear (List.mem_map_of_mem ha) (h.apart a ha)).mp hstars
    obtain ⟨a, ha⟩ := List.exists_mem_of_ne_nil as h.nonempty
    refine ⟨hclear, (hparts a ha).1, ?_, (hparts a ha).2.2⟩
    simpa using fun b hb => (hparts b hb).2.1

/-- What the braces match, one of the expanded texts matches. -/
theorem accepts_iff (h : Parts x as y) {g : Glob} (hg : ofText (bracedText x as y) = .ok g)
    (path : String) :
    g.accepts path = true ↔
      ∃ a ∈ as, ∃ g', ofText (x ++ a ++ y) = .ok g' ∧ g'.accepts path = true := by
  obtain ⟨e, he, hlanguage⟩ := h.exists_reads (h.exists_braced_iff.mp ⟨g, hg⟩) fun _ => ∅
  rw [accepts_iff_denotes h.bracket_not_mem (normalized_eq_self h.starts_bracedText.notDot) hg
    (fun _ => ∅), denotes_iff _ he, hlanguage]
  have hone : ∀ a ∈ as, ∀ g', ofText (x ++ a ++ y) = .ok g' →
      (g'.accepts path = true ↔ Denotes (fun _ => ∅) (x ++ a ++ y).toList path.toList) := by
    intro a ha g' hg'
    exact accepts_iff_denotes (h.flat_expanded ha).bracket
      (normalized_eq_self (h.starts a ha).notDot) hg' _ path
  constructor
  · rintro ⟨a, ha, hdenotes⟩
    obtain ⟨g', hg'⟩ := (h.exists_braced_iff_forall.mp ⟨g, hg⟩).1 a ha
    exact ⟨a, ha, g', hg', (hone a ha g' hg').mpr hdenotes⟩
  · rintro ⟨a, ha, g', hg', haccepts⟩
    exact ⟨a, ha, (hone a ha g' hg').mp haccepts⟩

end Parts

/-- A glob with alternatives in braces is read exactly if every text is read that has one
alternative in their place, and no two stars stand next to the braces and commas. Then it matches
what one of them matches. -/
theorem braces_match_alternatives (x y : String) (as : List String) (h : Parts x as y) :
    ((∃ g, ofText (bracedText x as y) = .ok g) ↔
      (∀ a ∈ as, ∃ g, ofText (x ++ a ++ y) = .ok g) ∧
        StarsClear x.toList (as.map String.toList) y.toList) ∧
    ∀ g, ofText (bracedText x as y) = .ok g → ∀ path,
      g.accepts path = true ↔
        ∃ a ∈ as, ∃ g', ofText (x ++ a ++ y) = .ok g' ∧ g'.accepts path = true :=
  ⟨h.exists_braced_iff_forall, fun _ hg => h.accepts_iff hg⟩

/-- Stars inside of the parts are as good with braces as without them. -/
theorem braces_match_alternatives_directories :
    let x := "src/**/"
    let as := ["a", "b/**/c*"]
    let y := ".ts"
    Parts x as y ∧ StarsClear x.toList (as.map String.toList) y.toList ∧
      (∀ a ∈ as, ∃ g, ofText (x ++ a ++ y) = .ok g) ∧
      ∃ g, ofText (bracedText x as y) = .ok g ∧
        ∃ a ∈ as, ∃ g', ofText (x ++ a ++ y) = .ok g' ∧ g'.accepts "src/x/b/y/cd.ts" = true := by
  intro x as y
  have hparts : Parts x as y := by decide +kernel
  have hmatches : (ofText (bracedText x as y)).toOption.map (·.accepts "src/x/b/y/cd.ts") =
      some true := by decide +kernel
  obtain ⟨hread, hsame⟩ := braces_match_alternatives x y as hparts
  cases hg : ofText (bracedText x as y) with
  | error f => rw [hg] at hmatches; cases hmatches
  | ok g =>
      rw [hg] at hmatches
      obtain ⟨hall, hclear⟩ := hread.mp ⟨g, hg⟩
      exact ⟨hparts, hclear, hall, g, rfl, (hsame g hg _).mp (Option.some.inj hmatches)⟩

/-- Next to a brace or a comma two stars are refused, although each alternative is read alone. -/
theorem braces_refuse_bordering_stars :
    (Parts "" ["**"] "" ∧
      (∀ a ∈ ["**"], (ofText ("" ++ a ++ "")).toOption.isSome = true) ∧
      (ofText (bracedText "" ["**"] "")).toOption.isSome = false) ∧
    (Parts "" ["a/**", "b"] "" ∧
      (∀ a ∈ ["a/**", "b"], (ofText ("" ++ a ++ "")).toOption.isSome = true) ∧
      (ofText (bracedText "" ["a/**", "b"] "")).toOption.isSome = false) ∧
    (Parts "" ["**/a", "b"] "" ∧
      (∀ a ∈ ["**/a", "b"], (ofText ("" ++ a ++ "")).toOption.isSome = true) ∧
      (ofText (bracedText "" ["**/a", "b"] "")).toOption.isSome = false) := by
  refine ⟨?_, ?_, ?_⟩ <;> decide +kernel

end BoundaryLint.Glob
