import BoundaryLint.Proofs.GlobAcceptance
import BoundaryLint.Proofs.GlobClasses

/-!
# How many slashes a matched path has

A glob without `**` and without braces is a row of pieces of which each takes one character or a run
within one segment. Literal slashes are matched by slashes, `?` and `*` never by one. A class may
not have a slash in its body, but it holds one all the same if it is negated and leaves the slash
out, or if the slash lies inside one of its intervals. These classes are the only places where a
path can have more slashes than the glob.
-/
namespace BoundaryLint.Glob

namespace Expr
variable {κ : Type}

/-- A row of pieces that stay inside one segment. -/
def isLevel : Expr κ → Bool
  | .dirs | .rest | .alt _ _ | .brace _ => false
  | .cat a b => a.isLevel && b.isLevel
  | _ => true

def slashes : Expr κ → Nat
  | .lit c => if c = '/' then 1 else 0
  | .cat a b => a.slashes + b.slashes
  | _ => 0

/-- The number of classes that hold a slash. -/
def slashClasses (e : Expr (List Char)) : Nat :=
  e.classes.countP fun body => (charsetOf body).holds .exact '/'

/-- A path of a row of pieces has its literal slashes, and no others but those that classes take. -/
theorem count_of_mem_language {e : Expr (List Char)} (he : e.isLevel = true) {w : List Char}
    (hw : w ∈ e.language charsOf) :
    e.slashes ≤ w.count '/' ∧ w.count '/' ≤ e.slashes + e.slashClasses := by
  induction e generalizing w with
  | nil =>
      obtain rfl := (Language.mem_one w).mp hw
      simp [slashes]
  | lit c =>
      obtain rfl : w = [c] := hw
      simp [slashes, List.count_singleton]
  | one =>
      obtain ⟨c, hc, rfl⟩ := hw
      simp [slashes, hc]
  | star =>
      have hnone : w.count '/' = 0 := List.count_eq_zero.mpr hw
      simp [slashes, hnone]
  | cls body =>
      obtain ⟨c, hc, rfl⟩ := hw
      refine ⟨Nat.zero_le _, ?_⟩
      by_cases hslash : c = '/'
      · subst hslash
        have hset : (charsetOf body).holds .exact '/' = true := hc
        simp [slashClasses, classes, hset]
      · simp [hslash]
  | dirs | rest | alt | brace => cases he
  | cat a b iha ihb =>
      obtain ⟨ha, hb⟩ := Bool.and_eq_true_iff.mp he
      obtain ⟨u, hu, v, hv, rfl⟩ := Language.mem_mul.mp hw
      have hleft := iha ha hu
      have hright := ihb hb hv
      simp only [slashes, slashClasses, classes, List.countP_append, List.count_append]
        at hleft hright ⊢
      omega

/-- If a row of pieces has a path at all, it has one in which every class that holds a slash takes
one. -/
theorem exists_mem_language_count {e : Expr (List Char)} (he : e.isLevel = true) {w : List Char}
    (hw : w ∈ e.language charsOf) :
    ∃ w' ∈ e.language charsOf, w'.count '/' = e.slashes + e.slashClasses := by
  induction e generalizing w with
  | nil | lit | one | star =>
      -- without classes every path has this many
      have hcount := count_of_mem_language he hw
      refine ⟨w, hw, ?_⟩
      simp only [slashClasses, classes, List.countP_nil] at hcount ⊢
      omega
  | cls body =>
      by_cases hset : (charsetOf body).holds .exact '/' = true
      · exact ⟨['/'], ⟨'/', hset, rfl⟩, by simp [slashes, slashClasses, classes, hset]⟩
      · have hcount := count_of_mem_language he hw
        have hnone : slashClasses (.cls body) = 0 := by simp [slashClasses, classes, hset]
        refine ⟨w, hw, ?_⟩
        omega
  | dirs | rest | alt | brace => cases he
  | cat a b iha ihb =>
      obtain ⟨ha, hb⟩ := Bool.and_eq_true_iff.mp he
      obtain ⟨u, hu, v, hv, rfl⟩ := Language.mem_mul.mp hw
      obtain ⟨u', hu', hleft⟩ := iha ha hu
      obtain ⟨v', hv', hright⟩ := ihb hb hv
      refine ⟨u' ++ v', Language.append_mem_mul hu' hv', ?_⟩
      simp only [slashes, slashClasses, classes, List.countP_append, List.count_append]
        at hleft hright ⊢
      omega

end Expr

theorem Reads.level {part : Part} {prev : Option Char} {cs r : List Char} {e : Expr (List Char)}
    (h : Reads part prev cs e r) (hstars : ¬ ['*', '*'] <:+: cs) (hbrace : '\x7b' ∉ cs)
    (hpart : part = .pieces false) :
    e.isLevel = true ∧ e.slashes + r.count '/' = cs.count '/' := by
  induction h with
  | done => simp [Expr.isLevel, Expr.slashes]
  | stop | last | more => cases hpart
  | rest | dirs => exact absurd (List.prefix_append ['*', '*'] _).isInfix hstars
  | brace => simp at hbrace
  | star _ _ ih | one _ ih =>
      simp only [List.mem_cons, not_or] at hbrace
      have hrest := ih (fun h => hstars (List.infix_cons h)) hbrace.2 hpart
      simpa [Expr.isLevel, Expr.slashes] using hrest
  | @lit _ _ c cs r e _ _ _ ih =>
      simp only [List.mem_cons, not_or] at hbrace
      obtain ⟨hlevel, hcount⟩ := ih (fun h => hstars (List.infix_cons h)) hbrace.2 hpart
      refine ⟨by simp [Expr.isLevel, hlevel], ?_⟩
      simp only [Expr.slashes, List.count_cons, beq_iff_eq, ← hcount]
      omega
  | @cls _ _ cs body cs' r e hsplit hslash _ ih =>
      have hcs := eq_of_splitClass hsplit
      subst hcs
      have hsuffix : cs' <:+ '[' :: (body ++ ']' :: cs') := ⟨'[' :: (body ++ [']']), by simp⟩
      have hbody : body.count '/' = 0 := List.count_eq_zero.mpr (by simpa using hslash)
      obtain ⟨hlevel, hcount⟩ := ih (fun h => hstars (h.trans hsuffix.isInfix))
        (fun h => hbrace (hsuffix.subset h)) hpart
      refine ⟨by simp [Expr.isLevel, hlevel], ?_⟩
      simp [Expr.slashes, hbody, hcount]

/-! ### Globs -/

theorem normalized_suffix (cs : List Char) : normalized cs <:+ cs := by
  fun_cases normalized cs with
  | case1 cs => exact ⟨['.', '/'], rfl⟩
  | case2 => exact List.suffix_refl _

/-- A glob with plain classes, without `**` and without braces, matches the paths of a row of pieces
that has the literal slashes of the text and its classes. -/
theorem exists_level_of_ofText {s : String} {g : Glob} (hg : ofText s = .ok g)
    (hstars : ¬ ['*', '*'] <:+: s.toList) (hbrace : '\x7b' ∉ s.toList)
    (hplain : ∀ body ∈ classBodies none s.toList, PlainBody body) :
    ∃ e : Expr (List Char), e.isLevel = true ∧ e.slashes = (normalized s.toList).count '/' ∧
      e.slashClasses = (classBodies none s.toList).countP (admits · '/') ∧
      ∀ path, g.accepts path = true ↔ path.toList ∈ e.language charsOf := by
  obtain ⟨e, he, haccepts⟩ := accepts_iff_of_plain hg (isPlain_of_classBodies hplain)
  have hsuffix := normalized_suffix s.toList
  obtain ⟨hlevel, hown⟩ := (parse_eq_ok_iff.mp he).level
    (fun h => hstars (h.trans hsuffix.isInfix)) (fun h => hbrace (hsuffix.subset h)) rfl
  have hholds := congrArg (List.countP id) (map_holds_classes he '/')
  rw [List.countP_map, List.countP_map, classBodies_normalized] at hholds
  exact ⟨e, hlevel, by simpa using hown, hholds, haccepts⟩

/-- A path that is matched by a glob with plain classes, without `**` and without braces, has at
least as many slashes as the glob and at most one more for each class that admits a slash. The most
is reached if a path is matched at all. So the numbers are always the same exactly if no class
admits a slash, or nothing is matched. -/
theorem count_slash_of_accepts {s : String} {g : Glob} (hg : ofText s = .ok g)
    (hstars : ¬ ['*', '*'] <:+: s.toList) (hbrace : '\x7b' ∉ s.toList)
    (hplain : ∀ body ∈ classBodies none s.toList, PlainBody body) :
    let own := (normalized s.toList).count '/'
    let more := (classBodies none s.toList).countP (admits · '/')
    (∀ path, g.accepts path = true →
      own ≤ path.toList.count '/' ∧ path.toList.count '/' ≤ own + more) ∧
    ((∃ path, g.accepts path = true) →
      ∃ path, g.accepts path = true ∧ path.toList.count '/' = own + more) ∧
    ((∀ path, g.accepts path = true → path.toList.count '/' = own) ↔
      (∀ body ∈ classBodies none s.toList, admits body '/' = false) ∨
        ∀ path, g.accepts path = false) := by
  intro own more
  obtain ⟨e, hlevel, hown, hmore, haccepts⟩ := exists_level_of_ofText hg hstars hbrace hplain
  have hbounds : ∀ path, g.accepts path = true →
      own ≤ path.toList.count '/' ∧ path.toList.count '/' ≤ own + more := by
    intro path hpath
    have hcount := Expr.count_of_mem_language hlevel ((haccepts path).mp hpath)
    rwa [hown, hmore] at hcount
  have hreached : (∃ path, g.accepts path = true) →
      ∃ path, g.accepts path = true ∧ path.toList.count '/' = own + more := by
    rintro ⟨path, hpath⟩
    obtain ⟨w, hw, hcount⟩ :=
      Expr.exists_mem_language_count hlevel ((haccepts path).mp hpath)
    rw [hown, hmore] at hcount
    exact ⟨String.ofList w, by rw [haccepts, String.toList_ofList]; exact hw,
      by rw [String.toList_ofList]; exact hcount⟩
  have hnone : (∀ body ∈ classBodies none s.toList, admits body '/' = false) ↔ more = 0 := by
    simp [more, List.countP_eq_zero]
  refine ⟨hbounds, hreached, ?_⟩
  rw [hnone]
  constructor
  · intro hsame
    by_cases hsome : ∃ path, g.accepts path = true
    · obtain ⟨path, hpath, hcount⟩ := hreached hsome
      have hown' := hsame path hpath
      exact .inl (by omega)
    · exact .inr (by simpa using hsome)
  · rintro (hzero | hnever) path hpath
    · have := hbounds path hpath
      omega
    · rw [hnever path] at hpath
      cases hpath

/-- The first class is negated and admits a slash, the second one does not. -/
theorem count_slash_of_accepts_negated :
    let s := "./a[!b]/[x-z]*"
    ∃ g, ofText s = .ok g ∧ ¬ ['*', '*'] <:+: s.toList ∧ '\x7b' ∉ s.toList ∧
      (∀ body ∈ classBodies none s.toList, PlainBody body) ∧ g.accepts "a//y" = true ∧
      (∀ path, g.accepts path = true →
        1 ≤ path.toList.count '/' ∧ path.toList.count '/' ≤ 1 + 1) ∧
      ∃ path, g.accepts path = true ∧ path.toList.count '/' = 1 + 1 := by
  intro s
  have hstars : ¬ ['*', '*'] <:+: s.toList := by decide +kernel
  have hbrace : '\x7b' ∉ s.toList := by decide +kernel
  have hplain : ∀ body ∈ classBodies none s.toList, PlainBody body := by decide +kernel
  have hown : (normalized s.toList).count '/' = 1 := by decide +kernel
  have hmore : (classBodies none s.toList).countP (admits · '/') = 1 := by decide +kernel
  have hmatches : (ofText s).toOption.map (·.accepts "a//y") = some true := by decide +kernel
  cases hg : ofText s with
  | error f => rw [hg] at hmatches; cases hmatches
  | ok g =>
      rw [hg] at hmatches
      have hpath : g.accepts "a//y" = true := Option.some.inj hmatches
      obtain ⟨hbounds, hreached, -⟩ := count_slash_of_accepts hg hstars hbrace hplain
      rw [hown, hmore] at hreached
      simp only [hown, hmore] at hbounds
      exact ⟨g, rfl, hstars, hbrace, hplain, hpath, hbounds, hreached ⟨_, hpath⟩⟩

/-- A negated class takes a slash that the glob does not have, and so does an interval around the
slash. A class without a body draws the slash of the glob into a set that ends at a later bracket,
and then a path without a slash is matched. -/
theorem classes_change_slash_count :
    ((ofText "a[!b]c").toOption.map (·.accepts "a/c") = some true ∧
      ¬ ['*', '*'] <:+: "a[!b]c".toList ∧ '\x7b' ∉ "a[!b]c".toList ∧
      (normalized "a[!b]c".toList).count '/' = 0 ∧ "a/c".toList.count '/' = 1) ∧
    ((ofText "a[+-9]c").toOption.map (·.accepts "a/c") = some true ∧
      ¬ ['*', '*'] <:+: "a[+-9]c".toList ∧ '\x7b' ∉ "a[+-9]c".toList ∧
      (normalized "a[+-9]c".toList).count '/' = 0 ∧ "a/c".toList.count '/' = 1) ∧
    ((ofText "[]/[a]").toOption.map (·.accepts "a") = some true ∧
      ¬ ['*', '*'] <:+: "[]/[a]".toList ∧ '\x7b' ∉ "[]/[a]".toList ∧
      (normalized "[]/[a]".toList).count '/' = 1 ∧ "a".toList.count '/' = 0) := by
  refine ⟨?_, ?_, ?_⟩ <;> decide +kernel

end BoundaryLint.Glob
