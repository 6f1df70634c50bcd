import BoundaryLint.Proofs.GlobPatterns

/-!
# Which texts are globs

For texts without classes the grammar can be replaced by two conditions on the text itself: its braces
are balanced, and two stars in a row make up a whole segment. The reader keeps track of neither of
them as such. It descends into braces and looks at the characters around stars, so both conditions
are carried along the grammar in either direction: what is read fulfils them, and a text that fulfils
them can be read to its end.
-/
namespace BoundaryLint.Glob

/-! ### Balanced braces -/

/-- With `depth` braces open in front of it, a text closes every brace, and none that is not open. -/
def BalancedFrom (depth : Nat) (cs : List Char) : Prop :=
  (∀ t, t <+: cs → t.count '\x7d' ≤ depth + t.count '\x7b') ∧
    depth + cs.count '\x7b' = cs.count '\x7d'

/-- Every opening brace is closed, and every closing brace closes one. -/
def Balanced (cs : List Char) : Prop :=
  (∀ t, t <+: cs → t.count '\x7d' ≤ t.count '\x7b') ∧ cs.count '\x7b' = cs.count '\x7d'

theorem balanced_iff {cs : List Char} : Balanced cs ↔ BalancedFrom 0 cs := by
  simp [Balanced, BalancedFrom]

section
variable {d : Nat} {c : Char} {cs : List Char}

theorem forall_prefix_cons {p : List Char → Prop} :
    (∀ t, t <+: c :: cs → p t) ↔ p [] ∧ ∀ t, t <+: cs → p (c :: t) := by
  constructor
  · intro h
    exact ⟨h [] List.nil_prefix, fun t ht => h (c :: t) (List.cons_prefix_cons.mpr ⟨rfl, ht⟩)⟩
  · rintro ⟨hnil, hcons⟩ t ht
    rcases List.prefix_cons_iff.mp ht with rfl | ⟨u, rfl, hu⟩
    · exact hnil
    · exact hcons u hu

theorem balancedFrom_nil : BalancedFrom d [] ↔ d = 0 := by
  simp [BalancedFrom]

theorem balancedFrom_open : BalancedFrom d ('\x7b' :: cs) ↔ BalancedFrom (d + 1) cs := by
  simp [BalancedFrom, forall_prefix_cons, Nat.add_assoc, Nat.add_comm 1]

theorem balancedFrom_close : BalancedFrom (d + 1) ('\x7d' :: cs) ↔ BalancedFrom d cs := by
  simp [BalancedFrom, forall_prefix_cons, Nat.add_right_comm]

theorem not_balancedFrom_zero_close : ¬ BalancedFrom 0 ('\x7d' :: cs) := by
  intro h
  have := h.1 ['\x7d'] (List.cons_prefix_cons.mpr ⟨rfl, List.nil_prefix⟩)
  simp at this

theorem balancedFrom_other (ho : c ≠ '\x7b') (hc : c ≠ '\x7d') :
    BalancedFrom d (c :: cs) ↔ BalancedFrom d cs := by
  simp [BalancedFrom, forall_prefix_cons, ho, hc]

end

/-! ### Whole stars -/

/-- Two stars in a row begin a segment and end it. The character before the text is `prev`. -/
def WholeStars (prev : Option Char) (cs : List Char) : Prop :=
  ∀ front back, cs = front ++ '*' :: '*' :: back →
    beginsSegment (front.getLast?.or prev) = true ∧ (back = [] ∨ back.head? = some '/')

theorem getLast?_cons_or (c : Char) (front : List Char) (prev : Option Char) :
    (c :: front).getLast?.or prev = front.getLast?.or (some c) := by
  cases h : front.getLast? <;> simp [List.getLast?_cons, h]

section
variable {prev : Option Char} {c : Char} {cs : List Char}

theorem wholeStars_nil : WholeStars prev [] := by
  intro front back h
  simp at h

theorem wholeStars_cons :
    WholeStars prev (c :: cs) ↔
      (∀ back, c = '*' → cs = '*' :: back →
        beginsSegment prev = true ∧ (back = [] ∨ back.head? = some '/')) ∧
      WholeStars (some c) cs := by
  constructor
  · intro h
    refine ⟨?_, ?_⟩
    · rintro back rfl rfl
      exact h [] back rfl
    · rintro front back rfl
      rw [← getLast?_cons_or c front prev]
      exact h (c :: front) back rfl
  · rintro ⟨hpair, htail⟩ front back heq
    cases front with
    | nil =>
        obtain ⟨rfl, rfl⟩ : c = '*' ∧ cs = '*' :: back := by simpa using heq
        exact hpair back rfl rfl
    | cons d front =>
        obtain ⟨rfl, rfl⟩ : c = d ∧ cs = front ++ '*' :: '*' :: back := by simpa using heq
        rw [getLast?_cons_or]
        exact htail front back rfl

theorem wholeStars_cons_of_ne (h : c ≠ '*' ∨ cs.head? ≠ some '*') :
    WholeStars prev (c :: cs) ↔ WholeStars (some c) cs := by
  rw [wholeStars_cons, and_iff_right]
  rintro back rfl rfl
  simp at h

theorem wholeStars_rest : WholeStars prev ['*', '*'] ↔ beginsSegment prev = true := by
  simp [wholeStars_cons, wholeStars_nil]

theorem wholeStars_dirs :
    WholeStars prev ('*' :: '*' :: '/' :: cs) ↔
      beginsSegment prev = true ∧ WholeStars (some '/') cs := by
  simp [wholeStars_cons]

theorem WholeStars.right {front : List Char} (h : WholeStars prev (front ++ cs)) :
    WholeStars (front.getLast?.or prev) cs := by
  induction front generalizing prev with
  | nil => exact h
  | cons c front ih =>
      rw [getLast?_cons_or]
      exact ih (wholeStars_cons.mp h).2

end

/-! ### What is read fulfils the conditions -/

theorem eq_of_splitClass {cs body r : List Char} (h : splitClass cs = some (body, r)) :
    cs = body ++ ']' :: r := by
  fun_induction splitClass cs generalizing body with
  | case1 => cases h
  | case2 cs =>
      cases h
      rfl
  | case3 c cs _ ih =>
      obtain ⟨⟨b, r'⟩, hb, he⟩ := Option.map_eq_some_iff.mp h
      cases he
      rw [ih hb]
      rfl

theorem isLiteral_iff {c : Char} :
    isLiteral c = true ↔ c ≠ '*' ∧ c ≠ '?' ∧ c ≠ '[' ∧ c ≠ '\x7b' ∧ c ≠ '\x7d' := by
  simp [isLiteral]

namespace Reads
variable {part : Part} {prev : Option Char} {cs r : List Char} {e : Expr (List Char)}

/-- What is left is an end of the text, and alternatives end with the closing brace. -/
theorem exists_front (h : Reads part prev cs e r) :
    ∃ front, cs = front ++ r ∧ (part = .choices → front.getLast? = some '\x7d') := by
  induction h with
  | done | stop => exact ⟨[], rfl, by simp⟩
  | rest => exact ⟨['*', '*'], rfl, by simp⟩
  | dirs _ _ ih =>
      obtain ⟨front, rfl, -⟩ := ih
      exact ⟨'*' :: '*' :: '/' :: front, rfl, by simp⟩
  | star _ _ ih =>
      obtain ⟨front, rfl, -⟩ := ih
      exact ⟨'*' :: front, rfl, by simp⟩
  | one _ ih =>
      obtain ⟨front, rfl, -⟩ := ih
      exact ⟨'?' :: front, rfl, by simp⟩
  | @cls _ _ _ body _ _ _ hsplit _ _ ih =>
      obtain ⟨front, rfl, -⟩ := ih
      exact ⟨'[' :: body ++ ']' :: front, by rw [eq_of_splitClass hsplit]; simp, by simp⟩
  | brace _ _ ih ih' =>
      obtain ⟨front, rfl, -⟩ := ih
      obtain ⟨front', rfl, -⟩ := ih'
      exact ⟨'\x7b' :: front ++ front', by simp, by simp⟩
  | @lit _ _ c _ _ _ _ _ _ ih =>
      obtain ⟨front, rfl, -⟩ := ih
      exact ⟨c :: front, rfl, by simp⟩
  | last _ ih =>
      obtain ⟨front, rfl, -⟩ := ih
      exact ⟨front ++ ['\x7d'], by simp, by simp⟩
  | more _ _ ih ih' =>
      obtain ⟨front, rfl, -⟩ := ih
      obtain ⟨front', rfl, hlast⟩ := ih'
      refine ⟨front ++ ',' :: front', by simp, ?_⟩
      simp [List.getLast?_append, List.getLast?_cons, hlast rfl]

theorem bracket_not_mem (h : Reads part prev cs e r) (hb : '[' ∉ cs) : '[' ∉ r := by
  obtain ⟨front, rfl, -⟩ := h.exists_front
  exact fun hr => hb (List.mem_append_right front hr)

theorem classFree (h : Reads part prev cs e r) (hb : '[' ∉ cs) : e.classFree = true := by
  induction h with
  | cls => simp at hb
  | brace hbody _ ih ih' =>
      simp only [List.mem_cons, not_or] at hb
      simp [Expr.classFree, ih hb.2, ih' (hbody.bracket_not_mem hb.2)]
  | more hfirst _ ih ih' =>
      have hrest := hfirst.bracket_not_mem hb
      simp only [List.mem_cons, not_or] at hrest
      simp [Expr.classFree, ih hb, ih' hrest.2]
  | done | stop | rest => rfl
  | last _ ih => exact ih hb
  | _ => simp_all [Expr.classFree]

/-- Pieces close what they open, and alternatives close one brace more. -/
theorem balancedFrom_iff (h : Reads part prev cs e r) (hb : '[' ∉ cs) (d : Nat) :
    BalancedFrom (d + if part = .choices then 1 else 0) cs ↔ BalancedFrom d r := by
  induction h generalizing d with
  | done | stop => rfl
  | rest => simp [balancedFrom_other, balancedFrom_nil]
  | cls => simp at hb
  | dirs _ _ ih | star _ _ ih | one _ ih =>
      simp only [List.mem_cons, not_or] at hb
      simpa [balancedFrom_other] using ih (by tauto) d
  | lit hc _ _ ih =>
      simp only [List.mem_cons, not_or] at hb
      obtain ⟨-, -, -, ho, hc⟩ := isLiteral_iff.mp hc
      simpa [balancedFrom_other ho hc] using ih hb.2 d
  | brace hbody _ ih ih' =>
      simp only [List.mem_cons, not_or] at hb
      rw [if_neg (by simp), Nat.add_zero, balancedFrom_open]
      exact (ih hb.2 d).trans (by simpa using ih' (hbody.bracket_not_mem hb.2) d)
  | last _ ih =>
      have hrest := ih hb (d + 1)
      rw [balancedFrom_close] at hrest
      simpa using hrest
  | more hfirst _ ih ih' =>
      have hrest := hfirst.bracket_not_mem hb
      simp only [List.mem_cons, not_or] at hrest
      have hcomma := ih hb (d + 1)
      rw [balancedFrom_other (by decide) (by decide)] at hcomma
      exact (by simpa using hcomma : _ ↔ _).trans (by simpa using ih' hrest.2 d)

theorem wholeStars (h : Reads part prev cs e r) (hb : '[' ∉ cs) {q : Option Char}
    (hq : part = .choices → q = some '\x7d') (hr : WholeStars q r) : WholeStars prev cs := by
  induction h generalizing q with
  | done => exact wholeStars_nil
  | @stop _ c _ hc =>
      have hne : c ≠ '*' := by rcases hc with rfl | rfl <;> decide
      rw [wholeStars_cons_of_ne (.inl hne)] at hr ⊢
      exact hr
  | rest hbegins => exact wholeStars_rest.mpr hbegins
  | cls => simp at hb
  | dirs hbegins _ ih =>
      simp only [List.mem_cons, not_or] at hb
      exact wholeStars_dirs.mpr ⟨hbegins, ih hb.2.2.2 (by simp) hr⟩
  | star hstars _ ih =>
      simp only [List.mem_cons, not_or] at hb
      exact (wholeStars_cons_of_ne (.inr hstars)).mpr (ih hb.2 (by simp) hr)
  | one _ ih =>
      simp only [List.mem_cons, not_or] at hb
      exact (wholeStars_cons_of_ne (.inl (by decide))).mpr (ih hb.2 (by simp) hr)
  | brace hbody _ ih ih' =>
      simp only [List.mem_cons, not_or] at hb
      refine (wholeStars_cons_of_ne (.inl (by decide))).mpr (ih hb.2 (fun _ => rfl) ?_)
      exact ih' (hbody.bracket_not_mem hb.2) (by simp) hr
  | lit hc _ _ ih =>
      simp only [List.mem_cons, not_or] at hb
      exact (wholeStars_cons_of_ne (.inl (isLiteral_iff.mp hc).1)).mpr (ih hb.2 (by simp) hr)
  | last _ ih =>
      cases hq rfl
      exact ih hb (q := none) (by simp) ((wholeStars_cons_of_ne (.inl (by decide))).mpr hr)
  | more hfirst _ ih ih' =>
      have hrest := hfirst.bracket_not_mem hb
      simp only [List.mem_cons, not_or] at hrest
      refine ih hb (q := none) (by simp) ((wholeStars_cons_of_ne (.inl (by decide))).mpr ?_)
      exact ih' hrest.2 hq hr

end Reads

/-! ### A text that fulfils the conditions is read -/

/-- With whole stars, pieces are read where braces are balanced, inside of braces up to where they end,
and alternatives are read behind an open brace. -/
def Readable (cs : List Char) : Prop :=
  ∀ prev, WholeStars prev cs → ∀ d,
    (BalancedFrom d cs → ∃ e r, Reads (.pieces (decide (0 < d))) prev cs e r) ∧
    (BalancedFrom (d + 1) cs → ∃ e r, Reads .choices prev cs e r)

section
variable {cs : List Char} {prev : Option Char} {d : Nat}

theorem Reads.after_choices {e : Expr (List Char)} {r : List Char} (h : Reads .choices prev cs e r)
    (hb : '[' ∉ cs) (hstars : WholeStars prev cs) (hd : BalancedFrom (d + 1) cs) :
    WholeStars (some '\x7d') r ∧ BalancedFrom d r := by
  refine ⟨?_, (h.balancedFrom_iff hb d).mp hd⟩
  obtain ⟨front, rfl, hlast⟩ := h.exists_front
  simpa [hlast rfl] using hstars.right

theorem exists_pieces_of_star (hb : '[' ∉ cs) (hstars : WholeStars prev ('*' :: cs))
    (hd : BalancedFrom d cs) (ih : ∀ cs', cs'.length ≤ cs.length → '[' ∉ cs' → Readable cs') :
    ∃ e r, Reads (.pieces (decide (0 < d))) prev ('*' :: cs) e r := by
  obtain ⟨hpair, hrest⟩ := wholeStars_cons.mp hstars
  by_cases hhead : cs.head? = some '*'
  · obtain ⟨back, rfl⟩ := List.head?_eq_some_iff.mp hhead
    obtain ⟨hbegins, rfl | hslash⟩ := hpair back rfl rfl
    · exact ⟨_, _, .rest hbegins⟩
    · obtain ⟨back, rfl⟩ := List.head?_eq_some_iff.mp hslash
      simp only [List.mem_cons, not_or] at hb
      rw [balancedFrom_other (by decide) (by decide), balancedFrom_other (by decide) (by decide)]
        at hd
      obtain ⟨e, r, h⟩ :=
        (ih back (by simp only [List.length_cons]; omega) hb.2.2 _ (wholeStars_dirs.mp hstars).2 d).1
          hd
      exact ⟨_, _, .dirs hbegins h⟩
  · obtain ⟨e, r, h⟩ := (ih cs (Nat.le_refl _) hb _ hrest d).1 hd
    exact ⟨_, _, .star hhead h⟩

theorem exists_pieces_of_brace (hb : '[' ∉ cs) (hstars : WholeStars (some '\x7b') cs)
    (hd : BalancedFrom (d + 1) cs) (ih : ∀ cs', cs'.length ≤ cs.length → '[' ∉ cs' → Readable cs') :
    ∃ e r, Reads (.pieces (decide (0 < d))) prev ('\x7b' :: cs) e r := by
  obtain ⟨body, cs', hbody⟩ := (ih cs (Nat.le_refl _) hb _ hstars d).2 hd
  have hlength := hbody.length_le
  obtain ⟨hstars', hd'⟩ := hbody.after_choices hb hstars hd
  obtain ⟨e, r, h⟩ := (ih cs' (by omega) (hbody.bracket_not_mem hb) _ hstars' d).1 hd'
  exact ⟨_, _, .brace hbody h⟩

theorem exists_pieces (hb : '[' ∉ cs) (hstars : WholeStars prev cs) (hd : BalancedFrom d cs)
    (ih : ∀ cs', cs'.length < cs.length → '[' ∉ cs' → Readable cs') :
    ∃ e r, Reads (.pieces (decide (0 < d))) prev cs e r := by
  cases cs with
  | nil => exact ⟨_, _, .done⟩
  | cons c cs =>
      simp only [List.mem_cons, not_or] at hb
      have ih' : ∀ cs', cs'.length ≤ cs.length → '[' ∉ cs' → Readable cs' :=
        fun cs' hlength => ih cs' (by simpa using Nat.lt_succ_of_le hlength)
      by_cases hstop : 0 < d ∧ (c = ',' ∨ c = '\x7d')
      · rw [decide_eq_true hstop.1]
        exact ⟨_, _, .stop hstop.2⟩
      by_cases hstar : c = '*'
      · subst hstar
        rw [balancedFrom_other (by decide) (by decide)] at hd
        exact exists_pieces_of_star hb.2 hstars hd ih'
      rw [wholeStars_cons_of_ne (.inl hstar)] at hstars
      by_cases hopen : c = '\x7b'
      · subst hopen
        exact exists_pieces_of_brace hb.2 hstars (balancedFrom_open.mp hd) ih'
      by_cases hclose : c = '\x7d'
      · -- a closing brace is a stop unless nothing is open
        subst hclose
        obtain rfl : d = 0 := by simpa using hstop
        exact absurd hd not_balancedFrom_zero_close
      rw [balancedFrom_other hopen hclose] at hd
      obtain ⟨e, r, h⟩ := (ih' cs (Nat.le_refl _) hb.2 _ hstars d).1 hd
      by_cases hone : c = '?'
      · subst hone
        exact ⟨_, _, .one h⟩
      · refine ⟨_, _, .lit (isLiteral_iff.mpr ⟨hstar, hone, Ne.symm hb.1, hopen, hclose⟩) ?_ h⟩
        rintro hinner rfl
        exact hstop ⟨by simpa using hinner, .inl rfl⟩

theorem exists_choices (hb : '[' ∉ cs) (hstars : WholeStars prev cs) (hd : BalancedFrom (d + 1) cs)
    (ih : ∀ cs', cs'.length < cs.length → '[' ∉ cs' → Readable cs') :
    ∃ e r, Reads .choices prev cs e r := by
  obtain ⟨e, r, h⟩ := exists_pieces hb hstars hd ih
  rw [decide_eq_true (Nat.succ_pos d)] at h
  have hr := (h.balancedFrom_iff hb (d + 1)).mp hd
  obtain ⟨front, rfl, -⟩ := h.exists_front
  rcases h.left with rfl | ⟨-, c, r, rfl, rfl | rfl⟩
  · -- the text cannot end inside of braces
    rw [balancedFrom_nil] at hr
    cases hr
  · rw [balancedFrom_other (by decide) (by decide)] at hr
    have hstars' := (wholeStars_cons_of_ne (.inl (by decide))).mp hstars.right
    obtain ⟨es, r', h'⟩ := (ih r (by simp; omega) (by simp_all) _ hstars' d).2 hr
    exact ⟨_, _, .more h h'⟩
  · exact ⟨_, _, .last h⟩

end

theorem readable (cs : List Char) (hb : '[' ∉ cs) : Readable cs := by
  induction hn : cs.length using Nat.strong_induction_on generalizing cs with
  | _ n ih =>
      subst hn
      have hshorter : ∀ cs', cs'.length < cs.length → '[' ∉ cs' → Readable cs' :=
        fun cs' hlength hb' => ih _ hlength cs' hb' rfl
      intro prev hstars d
      exact ⟨fun hd => exists_pieces hb hstars hd hshorter,
        fun hd => exists_choices hb hstars hd hshorter⟩

/-- Without classes, a text can be read exactly if its braces are balanced and its stars whole. -/
theorem exists_parse_iff {cs : List Char} (hb : '[' ∉ cs) :
    (∃ e, Expr.parse cs = .ok e) ↔ Balanced cs ∧ WholeStars none cs := by
  simp only [parse_eq_ok_iff, balanced_iff]
  constructor
  · rintro ⟨e, h⟩
    exact ⟨(h.balancedFrom_iff hb 0).mpr (balancedFrom_nil.mpr rfl),
      h.wholeStars hb (q := none) (by simp) wholeStars_nil⟩
  · rintro ⟨hd, hstars⟩
    obtain ⟨e, r, h⟩ := (readable cs hb none hstars 0).1 hd
    rcases h.left with rfl | ⟨hinner, -⟩
    · exact ⟨e, h⟩
    · cases hinner

/-! ### Globs -/

/-- A text that is not blank, does not begin at the root, and has balanced braces and whole stars. A
third star in a row is refused with the first two, so it does not matter that pairs overlap. -/
structure WellFormed (s : String) : Prop where
  notBlank : ∃ c ∈ s.toList, Text.isBlank c = false
  relative : (normalized s.toList).head? ≠ some '/'
  balanced : Balanced (normalized s.toList)
  wholeStars : ∀ front back, normalized s.toList = front ++ '*' :: '*' :: back →
    (front = [] ∨ front.getLast? = some '/') ∧ (back = [] ∨ back.head? = some '/')

theorem beginsSegment_getLast? (front : List Char) :
    beginsSegment (front.getLast?.or none) = true ↔ front = [] ∨ front.getLast? = some '/' := by
  cases h : front.getLast? with
  | none => simp_all [beginsSegment]
  | some c =>
      have hne : front ≠ [] := by
        rintro rfl
        cases h
      simp [beginsSegment, hne]

theorem wholeStars_none_iff {cs : List Char} :
    WholeStars none cs ↔ ∀ front back, cs = front ++ '*' :: '*' :: back →
      (front = [] ∨ front.getLast? = some '/') ∧ (back = [] ∨ back.head? = some '/') := by
  simp only [WholeStars, beginsSegment_getLast?]

theorem bracket_not_mem_normalized {cs : List Char} (h : '[' ∉ cs) : '[' ∉ normalized cs := by
  unfold normalized
  split
  · simp_all
  · exact h

/-- A text without classes is read as a glob exactly if it is well formed. The pattern of the glob
is what the text of its pieces is read as, and matches exactly the paths that the pieces denote. No
class is there, so it makes no difference what classes hold. -/
theorem ofText_iff_wellFormed (s : String) (hs : '[' ∉ s.toList) :
    ((∃ g, ofText s = .ok g) ↔ WellFormed s) ∧
      ∀ g, ofText s = .ok g →
        (∃ e, Reads (.pieces false) none (normalized s.toList) e []) ∧
        ∀ e, Reads (.pieces false) none (normalized s.toList) e [] →
          Regex.Pattern.parse e.wholeText .none = .ok g.pattern ∧
          ∀ inside path, g.accepts path = g.pattern.matchesStart path.toList ∧
            (g.pattern.matchesStart path.toList = true ↔ path.toList ∈ e.language inside) := by
  have hb := bracket_not_mem_normalized hs
  have hread := exists_parse_iff hb
  have hblank : Text.isBlankText s = false ↔ ∃ c ∈ s.toList, Text.isBlank c = false := by
    simp [Text.isBlankText]
  refine ⟨⟨?_, ?_⟩, ?_⟩
  · intro hex
    obtain ⟨g, hg⟩ := hex
    obtain ⟨hnot, hroot, -, e, he, -⟩ := ofText_eq_ok_iff.mp hg
    obtain ⟨hbalanced, hstars⟩ := hread.mp ⟨e, he⟩
    exact ⟨hblank.mp hnot, hroot, hbalanced, wholeStars_none_iff.mp hstars⟩
  · intro h
    obtain ⟨e, he⟩ := hread.mpr ⟨h.balanced, wholeStars_none_iff.mpr h.wholeStars⟩
    have hpattern := parse_wholeText_of_classFree he ((parse_eq_ok_iff.mp he).classFree hb)
    exact ⟨⟨s, e.pattern⟩,
      ofText_eq_ok_iff.mpr ⟨hblank.mpr h.notBlank, h.relative, rfl, e, he, hpattern⟩⟩
  · intro g hg
    obtain ⟨-, e, he, hp⟩ := ofText_eq_ok hg
    refine ⟨⟨e, parse_eq_ok_iff.mp he⟩, fun e' he' => ?_⟩
    rw [parse_eq_ok_iff.mpr he'] at he
    cases he
    have hfree := he'.classFree hb
    have hpattern := parse_wholeText_of_classFree (parse_eq_ok_iff.mpr he') hfree
    rw [hpattern] at hp
    have hg' : e.pattern = g.pattern := Except.ok.inj hp
    refine ⟨by rw [hpattern, hg'], fun inside path => ⟨rfl, ?_⟩⟩
    rw [← hg', e.matchesStart_pattern, Expr.language_of_classFree hfree charsOf inside]

/-- Directories, alternatives and a single character, behind a leading `./`. -/
theorem ofText_iff_wellFormed_nested :
    '[' ∉ "./src/**/\x7ba,b?/\x7bc,\x7d\x7d.ts".toList ∧
      WellFormed "./src/**/\x7ba,b?/\x7bc,\x7d\x7d.ts" ∧
      ∃ g e, ofText "./src/**/\x7ba,b?/\x7bc,\x7d\x7d.ts" = .ok g ∧
        Reads (.pieces false) none "src/**/\x7ba,b?/\x7bc,\x7d\x7d.ts".toList e [] ∧
        Regex.Pattern.parse e.wholeText .none = .ok g.pattern ∧
        "src/x/y/b1/c.ts".toList ∈ e.language (fun _ => ∅) ∧
        "src/a/b.ts".toList ∉ e.language (fun _ => ∅) := by
  have hs : '[' ∉ "./src/**/\x7ba,b?/\x7bc,\x7d\x7d.ts".toList := by decide +kernel
  have hmatches : (ofText "./src/**/\x7ba,b?/\x7bc,\x7d\x7d.ts").toOption.map (fun g =>
      (g.accepts "src/x/y/b1/c.ts", g.accepts "src/a/b.ts")) = some (true, false) := by
    decide +kernel
  obtain ⟨hiff, hlanguage⟩ := ofText_iff_wellFormed "./src/**/\x7ba,b?/\x7bc,\x7d\x7d.ts" hs
  cases hg : ofText "./src/**/\x7ba,b?/\x7bc,\x7d\x7d.ts" with
  | error f => rw [hg] at hmatches; cases hmatches
  | ok g =>
      rw [hg] at hmatches
      obtain ⟨hyes, hno⟩ := Prod.mk.inj (Option.some.inj hmatches)
      obtain ⟨⟨e, he⟩, hread⟩ := hlanguage g hg
      obtain ⟨hpattern, hmem⟩ := hread e he
      refine ⟨hs, hiff.mp ⟨g, hg⟩, g, e, rfl, he, hpattern, ?_, fun h => ?_⟩
      · rw [(hmem (fun _ => ∅) _).1] at hyes
        exact (hmem _ _).2.mp hyes
      · rw [(hmem (fun _ => ∅) _).1, (hmem _ _).2.mpr h] at hno
        cases hno

end BoundaryLint.Glob
