import BoundaryLint.Proofs.ClassIntervals
import BoundaryLint.Proofs.CoveredDirectories

/-!
# The classes of a glob

The classes of a glob can be seen in its text: a class reaches from an opening bracket to the next
closing one. The reader of globs finds these classes, in this order, and each of them holds what its
body in the text says, if all are plain. For sets of such globs it is safe to leave out covered
directories.
-/
namespace BoundaryLint

namespace Glob

/-! ### Classes in the text -/

/-- The bodies of the classes of a text from left to right. If a class is open in front of the text,
`some body` is what it has so far. -/
def classBodies : Option (List Char) → List Char → List (List Char)
  | _, [] => []
  | none, c :: cs => classBodies (if c = '[' then some [] else none) cs
  | some body, c :: cs =>
    if c = ']' then body :: classBodies none cs else classBodies (some (body ++ [c])) cs

theorem classBodies_of_splitClass {cs body r : List Char} (h : splitClass cs = some (body, r))
    (front : List Char) : classBodies (some front) cs = (front ++ body) :: classBodies none r := by
  fun_induction splitClass cs generalizing body front with
  | case1 => cases h
  | case2 cs =>
      cases h
      simp [classBodies]
  | case3 c cs hc ih =>
      obtain ⟨⟨b, r'⟩, hb, he⟩ := Option.map_eq_some_iff.mp h
      cases he
      rw [classBodies, if_neg hc, ih hb]
      simp

theorem classBodies_cons {c : Char} (hc : c ≠ '[') (cs : List Char) :
    classBodies none (c :: cs) = classBodies none cs := by
  rw [classBodies, if_neg hc]

theorem classBodies_normalized (cs : List Char) :
    classBodies none (normalized cs) = classBodies none cs := by
  fun_cases normalized cs with
  | case1 cs => rw [classBodies_cons (by decide), classBodies_cons (by decide)]
  | case2 => rfl

/-! ### Classes of what is read -/

namespace Expr
variable {κ : Type}

def classes : Expr κ → List κ
  | .cls k => [k]
  | .cat a b => a.classes ++ b.classes
  | .alt a b => a.classes ++ b.classes
  | .brace body => body.classes
  | _ => []

theorem plain_eq_all_classes (e : Expr (List Char)) : e.plain = e.classes.all isPlain := by
  induction e with
  | cls body => simp [plain, classes]
  | cat a b iha ihb | alt a b iha ihb => simp [plain, classes, iha, ihb]
  | brace body ih => exact ih
  | _ => rfl

end Expr

/-- The classes of the text are those of what is read and those of what is left. -/
theorem Reads.map_classBody {part : Part} {prev : Option Char} {cs r : List Char}
    {e : Expr (List Char)} (h : Reads part prev cs e r) :
    (classBodies none cs).map classBody = e.classes ++ (classBodies none r).map classBody := by
  induction h with
  | done | stop | rest => simp [Expr.classes, classBodies]
  | dirs _ _ ih | star _ _ ih | one _ ih => simpa [Expr.classes, classBodies] using ih
  | cls hsplit _ _ ih =>
      rw [classBodies, if_pos rfl, classBodies_of_splitClass hsplit]
      simp [Expr.classes, ih]
  | brace _ _ ih ih' =>
      rw [classBodies_cons (by decide), ih, ih']
      simp [Expr.classes]
  | @lit _ _ c _ _ _ hc _ _ ih =>
      have hne : c ≠ '[' := by
        rintro rfl
        cases hc
      simpa [Expr.classes, classBodies_cons hne] using ih
  | last _ ih => rw [ih, classBodies_cons (by decide)]
  | more _ _ ih ih' =>
      rw [ih, classBodies_cons (by decide), ih']
      simp [Expr.classes]

theorem map_classBody_of_parse {cs : List Char} {e : Expr (List Char)}
    (h : Expr.parse cs = .ok e) : e.classes = (classBodies none cs).map classBody := by
  rw [(parse_eq_ok_iff.mp h).map_classBody]
  simp [classBodies]

theorem plain_iff_of_parse {cs : List Char} {e : Expr (List Char)} (h : Expr.parse cs = .ok e) :
    e.plain = true ↔ ∀ body ∈ classBodies none cs, PlainBody body := by
  rw [Expr.plain_eq_all_classes, map_classBody_of_parse h]
  simp [isPlain_classBody]

theorem isPlain_of_classBodies {s : String}
    (h : ∀ body ∈ classBodies none s.toList, PlainBody body) : IsPlain s := by
  intro e he
  rw [plain_iff_of_parse he, classBodies_normalized]
  exact h

theorem map_holds_classes {cs : List Char} {e : Expr (List Char)} (h : Expr.parse cs = .ok e)
    (x : Char) :
    e.classes.map (fun body => (charsetOf body).holds .exact x) =
      (classBodies none cs).map (admits · x) := by
  rw [map_classBody_of_parse h, List.map_map]
  exact List.map_congr_left fun body _ => holds_charsetOf body x

end Glob

/-! ### Covered directories -/

namespace GlobSet

theorem directoryPart?_eq_some_iff {s t : String} :
    directoryPart? s = some t ↔ t ≠ "" ∧ s = t ++ "/**" := by
  have hunder : "/**".toList = Glob.underText := rfl
  constructor
  · intro h
    refine ⟨?_, ?_⟩
    · rintro rfl
      unfold directoryPart? at h
      split at h
      · simp at h
      · cases h
    · rw [← String.toList_inj, String.toList_append, hunder]
      exact directoryPart?_eq_some h
  · rintro ⟨hne, rfl⟩
    have hlist : t.toList.reverse ≠ [] := by simpa using hne
    obtain ⟨c, cs, hcs⟩ := List.exists_cons_of_ne_nil hlist
    have hreverse : (t ++ "/**").toList.reverse = '*' :: '*' :: '/' :: c :: cs := by
      rw [String.toList_append, hunder, List.reverse_append, hcs]
      rfl
    have htext : t = String.ofList (c :: cs).reverse := by
      rw [← hcs, List.reverse_reverse, String.ofList_toList]
    simp only [directoryPart?, hreverse]
    rw [htext]

/-- A directory is covered if some glob with the ending `/**` matches it without this ending. -/
theorem covers_iff {patterns : List String} {s : GlobSet} (hread : ofTexts patterns = .ok s)
    (d : String) :
    s.covers d = true ↔
      ∃ t g, t ≠ "" ∧ t ++ "/**" ∈ patterns ∧ Glob.ofText t = .ok g ∧ g.accepts d = true := by
  obtain ⟨-, -, hdirectories⟩ := ofTexts_eq_ok hread
  rw [covers, List.any_eq_true]
  constructor
  · rintro ⟨g, hg, hd⟩
    obtain ⟨t, ht, hgt⟩ := exists_of_mapM_eq_ok hdirectories hg
    obtain ⟨pattern, hpattern, hpart⟩ := List.mem_filterMap.mp ht
    obtain ⟨hne, rfl⟩ := directoryPart?_eq_some_iff.mp hpart
    exact ⟨t, g, hne, hpattern, hgt, hd⟩
  · rintro ⟨t, g, hne, hpattern, hgt, hd⟩
    have hmem : t ∈ patterns.filterMap directoryPart? :=
      List.mem_filterMap.mpr ⟨_, hpattern, directoryPart?_eq_some_iff.mpr ⟨hne, rfl⟩⟩
    obtain ⟨g', hg', hgt'⟩ := exists_mem_of_mapM_eq_ok hdirectories hmem
    cases hgt.symm.trans hgt'
    exact ⟨g, hg', hd⟩

/-- In a set of globs whose classes are all plain, the covered directories are those that a glob
with the ending `/**` matches without this ending, and every path below one of them matches. -/
theorem accepts_below_covered {patterns : List String} {s : GlobSet}
    (hread : ofTexts patterns = .ok s)
    (hplain : ∀ p ∈ patterns, ∀ body ∈ Glob.classBodies none p.toList, Glob.PlainBody body)
    (d : String) :
    (s.covers d = true ↔
      ∃ t g, t ≠ "" ∧ t ++ "/**" ∈ patterns ∧ Glob.ofText t = .ok g ∧ g.accepts d = true) ∧
    (s.covers d = true → ∀ rest, s.accepts (d ++ "/" ++ rest) = true) := by
  have hpatterns := (ofTexts_eq_ok hread).1
  have hs : s.IsPlain := by
    refine ⟨by rw [hpatterns, hread], ?_⟩
    intro p hp
    rw [hpatterns] at hp
    exact Glob.isPlain_of_classBodies (hplain p hp)
  exact ⟨covers_iff hread d, accepts_of_covers hs⟩

/-- Two double stars at the end of a glob, a negated class and a leading `./`. The double star that
comes last in the glob of the directories leads through directories in the glob itself. -/
theorem accepts_below_covered_doubleStars :
    let patterns := ["dist", "./src/[!a]*/**/**"]
    ∃ s, ofTexts patterns = .ok s ∧
      (∀ p ∈ patterns, ∀ body ∈ Glob.classBodies none p.toList, Glob.PlainBody body) ∧
      s.covers "src/main/x" = true ∧ s.accepts "src/main/x/y/z.ts" = true ∧
      s.covers "src/app/x" = false := by
  intro patterns
  have hcovers : (ofTexts patterns).toOption.map (fun s =>
      (s.covers "src/main/x", s.covers "src/app/x")) = some (true, false) := by decide +kernel
  have hplain : ∀ p ∈ patterns, ∀ body ∈ Glob.classBodies none p.toList, Glob.PlainBody body := by
    decide +kernel
  cases hread : ofTexts patterns with
  | error f => rw [hread] at hcovers; cases hcovers
  | ok s =>
      rw [hread] at hcovers
      obtain ⟨hyes, hno⟩ := Prod.mk.inj (Option.some.inj hcovers)
      have hbelow := (accepts_below_covered hread hplain "src/main/x").2 hyes "y/z.ts"
      exact ⟨s, rfl, hplain, hyes, hbelow, hno⟩

end GlobSet

end BoundaryLint
