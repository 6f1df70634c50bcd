import BoundaryLint.Proofs.GlobPatterns

/-!
# Covered directories

A glob that ends in `/**` covers the directories that it matches without this ending, and matches
all that lies below them. The two globs are read from different texts, so this is an inclusion
between two languages: the longer text is read as the shorter one and something behind it, and what
the shorter one denotes begins what the longer one denotes.
-/
namespace BoundaryLint

namespace Glob

/-! ### Reading a longer text -/

theorem splitClass_append {cs body r : List Char} (h : splitClass cs = some (body, r))
    (t : List Char) : splitClass (cs ++ t) = some (body, r ++ t) := by
  fun_induction splitClass cs generalizing body with
  | case1 => cases h
  | case2 cs =>
      cases h
      rfl
  | case3 c cs hc ih =>
      obtain ⟨⟨b, r'⟩, hb, he⟩ := Option.map_eq_some_iff.mp h
      cases he
      rw [List.cons_append, splitClass, ih hb]
      · rfl
      · exact hc

theorem Reads.append {part : Part} {prev : Option Char} {cs r : List Char} {e : Expr (List Char)}
    (h : Reads part prev cs e r) (t : List Char) (hr : part = .choices ∨ r ≠ []) :
    Reads part prev (cs ++ t) e (r ++ t) := by
  induction h with
  | done | rest => simp at hr
  | stop hc => exact .stop hc
  | dirs hbegins _ ih => exact .dirs hbegins (ih hr)
  | @star inner prev cs r e hstars hrest ih =>
      refine .star ?_ (ih hr)
      have hlength := hrest.length_le
      simp only [reduceCtorEq, if_false, false_or, Nat.add_zero] at hlength hr
      cases cs with
      | nil => simp [List.length_eq_zero_iff, hr] at hlength
      | cons c cs => exact hstars
  | one _ ih => exact .one (ih hr)
  | cls hsplit hslash _ ih => exact .cls (splitClass_append hsplit t) hslash (ih hr)
  | brace _ _ ih ih' => exact .brace (ih (.inl rfl)) (ih' hr)
  | lit hc hcomma _ ih => exact .lit hc hcomma (ih hr)
  | last _ ih => exact .last (ih (.inr (by simp)))
  | more _ _ ih ih' => exact .more (ih (.inr (by simp))) (ih' (.inl rfl))

namespace Expr
variable {κ : Type}

/-- The expression of all that lies below the directories of an expression. A final `**` becomes one
that leads through directories. -/
def under : Expr κ → Expr κ
  | .nil => .cat (.lit '/') (.cat .rest .nil)
  | .cat .rest .nil => .cat .dirs (.cat .rest .nil)
  | .cat a b => .cat a b.under
  | e => .cat e (.cat (.lit '/') (.cat .rest .nil))

end Expr

def underText : List Char := ['/', '*', '*']

/-- With the ending behind it, a glob is read as all that lies below its directories. -/
theorem Reads.under {prev : Option Char} {cs r : List Char} {e : Expr (List Char)}
    (h : Reads (.pieces false) prev cs e r) :
    Reads (.pieces false) prev (cs ++ underText) e.under [] := by
  generalize hp : Part.pieces false = part at h
  induction h with
  | done => exact .lit (by decide) (by simp) (.rest rfl)
  | stop | last | more => cases hp
  | rest hbegins =>
      cases hp
      exact .dirs hbegins (.rest rfl)
  | dirs hbegins _ ih =>
      cases hp
      exact .dirs hbegins (ih rfl)
  | @star inner prev cs r e hstars _ ih =>
      cases hp
      refine .star ?_ (ih rfl)
      cases cs with
      | nil => simp [underText]
      | cons c cs => exact hstars
  | one _ ih =>
      cases hp
      exact .one (ih rfl)
  | cls hsplit hslash _ ih =>
      cases hp
      exact .cls (splitClass_append hsplit underText) hslash (ih rfl)
  | brace hbody _ _ ih =>
      cases hp
      exact .brace (hbody.append underText (.inl rfl)) (ih rfl)
  | lit hc hcomma _ ih =>
      cases hp
      exact .lit hc hcomma (ih rfl)

theorem parse_under {cs : List Char} {e : Expr (List Char)} (h : Expr.parse cs = .ok e) :
    Expr.parse (cs ++ underText) = .ok e.under :=
  parse_eq_ok_iff.mpr (parse_eq_ok_iff.mp h).under

namespace Expr
variable {κ : Type}

theorem plain_under (e : Expr (List Char)) : e.under.plain = e.plain := by
  fun_induction under e with
  | case1 => rfl
  | case2 => rfl
  | case3 a b _ ih => simp [plain, ih]
  | case4 => simp [plain]

theorem mem_language_rest (inside : κ → Set Char) (w : List Char) :
    w ∈ (cat rest nil : Expr κ).language inside :=
  Language.mem_mul.mpr ⟨w, Set.mem_univ w, [], (Language.mem_one []).mpr rfl, List.append_nil w⟩

/-- All that lies below a directory of an expression. -/
theorem append_mem_language_under {inside : κ → Set Char} {e : Expr κ} {d : List Char}
    (h : d ∈ e.language inside) (r : List Char) : d ++ '/' :: r ∈ e.under.language inside := by
  have hslash : '/' :: r ∈ (cat (lit '/') (cat rest nil) : Expr κ).language inside :=
    Language.append_mem_mul (Set.mem_singleton ['/']) (mem_language_rest inside r)
  fun_induction under e generalizing d with
  | case1 =>
      obtain rfl := (Language.mem_one d).mp h
      exact hslash
  | case2 =>
      exact Language.mem_mul.mpr ⟨[], Language.nil_mem_kstar _, _, mem_language_rest inside _, rfl⟩
  | case3 a b _ ih =>
      obtain ⟨u, hu, v, hv, rfl⟩ := Language.mem_mul.mp h
      rw [List.append_assoc]
      exact Language.append_mem_mul hu (ih hv)
  | case4 e => exact Language.append_mem_mul h hslash

end Expr

/-! ### Globs and sets of globs -/

/-- The one directory whose text loses its meaning when the ending is put behind it is the dot. -/
theorem normalized_append {cs : List Char} (h : cs ≠ ['.']) :
    normalized (cs ++ underText) = normalized cs ++ underText := by
  fun_cases normalized cs with
  | case1 cs => rfl
  | case2 cs hne =>
      rw [normalized]
      intro cs' heq
      match cs with
      | [] => cases heq
      | [c] => simp_all [underText]
      | c :: d :: cs => simp_all

end Glob

namespace GlobSet

theorem directoryPart?_eq_some {s t : String} (h : directoryPart? s = some t) :
    s.toList = t.toList ++ Glob.underText := by
  unfold directoryPart? at h
  split at h
  · rename_i c cs hs
    cases h
    rw [← List.reverse_reverse s.toList, hs]
    simp [Glob.underText]
  · cases h

/-- All that lies below a directory that the directory part of a glob matches is matched by the glob
itself. -/
theorem accepts_of_directoryPart? {s t : String} {g g' : Glob} (ht : directoryPart? s = some t)
    (hs : Glob.ofText s = .ok g) (hd : Glob.ofText t = .ok g') (hplain : Glob.IsPlain s)
    {d : String} (h : g'.accepts d = true) (r : String) : g.accepts (d ++ "/" ++ r) = true := by
  have htext := directoryPart?_eq_some ht
  obtain ⟨e, he, haccepts⟩ := Glob.accepts_iff_of_plain hs hplain
  rw [haccepts]
  by_cases hdot : t.toList = ['.']
  · -- the glob is `./**`, which matches everything
    rw [htext, hdot] at he
    cases he
    exact Glob.Expr.mem_language_rest _ _
  · obtain ⟨-, a, ha, -⟩ := Glob.ofText_eq_ok hd
    rw [htext, Glob.normalized_append hdot, Glob.parse_under ha] at he
    obtain rfl := Except.ok.inj he
    have hplain' : Glob.IsPlain t := by
      intro b hb
      rw [ha] at hb
      cases hb
      rw [← Glob.Expr.plain_under]
      apply hplain
      rw [htext, Glob.normalized_append hdot, Glob.parse_under ha]
    obtain ⟨b, hb, haccepts'⟩ := Glob.accepts_iff_of_plain hd hplain'
    rw [ha] at hb
    cases hb
    simpa using Glob.Expr.append_mem_language_under ((haccepts' d).mp h) r.toList

theorem map_source_of_mapM {patterns : List String} {globs : List Glob}
    (h : patterns.mapM Glob.ofText = .ok globs) : globs.map (·.source) = patterns := by
  rw [mapM_eq_ok_iff] at h
  induction h with
  | nil => rfl
  | cons hg _ ih => rw [List.map_cons, ih, (Glob.ofText_eq_ok hg).1]

theorem ofTexts_eq_ok {patterns : List String} {s : GlobSet} (h : ofTexts patterns = .ok s) :
    s.patterns = patterns ∧ patterns.mapM Glob.ofText = .ok s.globs ∧
      (patterns.filterMap directoryPart?).mapM Glob.ofText = .ok s.directories := by
  obtain ⟨globs, hglobs, h⟩ := bind_eq_ok_iff.mp h
  obtain ⟨directories, hdirectories, h⟩ := bind_eq_ok_iff.mp h
  rw [map_source_of_mapM hglobs] at hdirectories h
  cases h
  exact ⟨rfl, hglobs, hdirectories⟩

/-- A set that was read from texts, all with plain classes. -/
structure IsPlain (s : GlobSet) : Prop where
  read : ofTexts s.patterns = .ok s
  plain : ∀ t ∈ s.patterns, Glob.IsPlain t

theorem accepts_of_covers {s : GlobSet} (hs : s.IsPlain) {d : String} (h : s.covers d = true)
    (r : String) : s.accepts (d ++ "/" ++ r) = true := by
  obtain ⟨-, hglobs, hdirectories⟩ := ofTexts_eq_ok hs.read
  obtain ⟨g', hg', hd⟩ := List.any_eq_true.mp h
  obtain ⟨t, ht, hread⟩ := exists_of_mapM_eq_ok hdirectories hg'
  obtain ⟨pattern, hpattern, hpart⟩ := List.mem_filterMap.mp ht
  obtain ⟨g, hg, hread'⟩ := exists_mem_of_mapM_eq_ok hglobs hpattern
  refine List.any_eq_true.mpr ⟨g, hg, ?_⟩
  exact accepts_of_directoryPart? hpart hread' hread (hs.plain pattern hpattern) hd r

end GlobSet

end BoundaryLint
