import BoundaryLint.Project.Lint
import BoundaryLint.Proofs.CollectedFiles
import BoundaryLint.Proofs.CoveredDirectories
import BoundaryLint.Proofs.RunResult
import Mathlib.Data.List.Infix

/-!
# Pruning

A walk does not enter directories that the ignores cover. All that lies below such a directory is
ignored, so nothing is lost that would be analyzed, with one exception. Places below the root of the
project are shown without the way to the root. If a walk begins above the root, it comes through the
directories on that way, and if the ignores cover one of them by its whole text, or the root as `.`,
the walk stops there, although the texts of the files below the root say nothing of it.

So a file is lost exactly if it lies below the root and every target that finds it has a covered
directory on its way down.
-/
namespace BoundaryLint

namespace Project
variable (p : Project) (ignores : GlobSet)

def isUnmatched (f : List String) : Bool :=
  !ignores.accepts (p.shown f)

/-- Whether a covered directory on the way to the root stands between a place and a file below the
root. -/
def bars (start f : List String) : Bool :=
  p.place.isPrefixOf f && p.place.inits.any fun c =>
    decide (start.length < c.length) && decide (c.length < f.length) && ignores.covers (p.shown c)

variable {p ignores}

theorem bars_eq_true_iff {start f : List String} :
    p.bars ignores start f = true ↔ p.place <+: f ∧ ∃ c, c <+: p.place ∧
      start.length < c.length ∧ c.length < f.length ∧ ignores.covers (p.shown c) = true := by
  simp [bars, and_assoc]

/-! ### The texts of places below a directory -/

/-- Except on the way to the root, the text of a place begins with the text of its directory. -/
theorem shown_append {d m : List String} (hd : d ≠ []) (hm : m ≠ [])
    (h : ¬(d <+: p.place ∧ p.place <+: d ++ m)) :
    p.shown (d ++ m) = p.shown d ++ "/" ++ "/".intercalate m := by
  unfold shown relativeText
  by_cases hroot : p.place <+: d
  · have hroot' : p.place <+: d ++ m := hroot.trans (List.prefix_append d m)
    rw [if_pos (List.isPrefixOf_iff_prefix.mpr hroot),
      if_pos (List.isPrefixOf_iff_prefix.mpr hroot')]
    obtain ⟨b, rfl⟩ := hroot
    have hb : b ≠ [] := by
      rintro rfl
      exact h ⟨by simp, hroot'⟩
    simp [hb, String.intercalate_append_of_ne_nil hb hm]
  · have hroot' : ¬p.place <+: d ++ m := by
      intro hroot'
      rcases List.prefix_or_prefix_of_prefix hroot' (List.prefix_append d m) with hle | hle
      · exact hroot hle
      · exact h ⟨hle, hroot'⟩
    rw [if_neg (by simpa using hroot'), if_neg (by simpa using hroot), placeText, placeText,
      String.intercalate_append_of_ne_nil hd hm]
    simp only [String.append_assoc]

theorem isUnmatched_eq_false {d m : List String} (hignores : ignores.IsPlain) (hd : d ≠ [])
    (hm : m ≠ []) (hcovers : ignores.covers (p.shown d) = true)
    (h : ¬(d <+: p.place ∧ p.place <+: d ++ m)) :
    p.isUnmatched ignores (d ++ m) = false := by
  rw [isUnmatched, shown_append hd hm h, GlobSet.accepts_of_covers hignores hcovers]
  rfl

/-! ### Walks -/

theorem enters_eq_true_iff {place : List String} {name : String} :
    p.enters ignores place name = true ↔
      (name.toList.head? != some '.') = true ∧
        ignores.covers (p.shown (place ++ [name])) = false := by
  simp [enters]

theorem enters_nothing {place : List String} {name : String} :
    p.enters .nothing place name = (name.toList.head? != some '.') := by
  simp [enters, GlobSet.covers, GlobSet.nothing]

theorem exists_of_mem_walkEntries {place : List String} {entries : List (String × FileTree)}
    {f : List String} (hf : f ∈ p.walkEntries ignores place entries) :
    ∃ m, m ≠ [] ∧ f = place ++ m := by
  fun_induction p.walkEntries ignores place entries with
  | case1 => cases hf
  | case2 place name _ rest more _ ih =>
      rcases List.mem_cons.mp hf with rfl | hf
      · exact ⟨[name], by simp, rfl⟩
      · exact ih hf
  | case3 place name _ rest more _ ih => exact ih hf
  | case4 place name entries rest more _ ih ih' =>
      rcases List.mem_append.mp hf with hf | hf
      · obtain ⟨m, -, rfl⟩ := ih' hf
        exact ⟨name :: m, by simp, by simp⟩
      · exact ih hf
  | case5 place name entries rest more _ ih => exact ih hf

theorem bars_eq_false_of_entry (place : List String) (name : String) :
    p.bars ignores place (place ++ [name]) = false := by
  by_contra hbars
  obtain ⟨-, c, -, hlt, hlt', -⟩ := bars_eq_true_iff.mp (by simpa using hbars)
  simp only [List.length_append, List.length_singleton] at hlt'
  omega

theorem bars_of_not_covered {place m : List String} {name : String}
    (h : ignores.covers (p.shown (place ++ [name])) = false) :
    p.bars ignores (place ++ [name]) (place ++ [name] ++ m) =
      p.bars ignores place (place ++ [name] ++ m) := by
  rw [Bool.eq_iff_iff, bars_eq_true_iff, bars_eq_true_iff]
  refine and_congr_right fun hroot => exists_congr fun c => and_congr_right fun hc => ?_
  simp only [List.length_append, List.length_singleton]
  constructor
  · rintro ⟨hlt, hlt', hcovers⟩
    exact ⟨by omega, hlt', hcovers⟩
  · rintro ⟨hlt, hlt', hcovers⟩
    refine ⟨?_, hlt', hcovers⟩
    -- a directory of the same length on the same way would be the one that is not covered
    by_contra hle
    have heq : c = place ++ [name] := by
      have hprefix : c <+: place ++ [name] := by
        refine List.prefix_of_prefix_length_le (hc.trans hroot) (List.prefix_append _ m) ?_
        simp only [List.length_append, List.length_singleton]
        omega
      apply hprefix.eq_of_length
      simp only [List.length_append, List.length_singleton]
      omega
    rw [heq, h] at hcovers
    cases hcovers

/-- A walk loses what the ignores match, and what a covered directory bars. -/
theorem filter_walkEntries (hignores : ignores.IsPlain) (place : List String)
    (entries : List (String × FileTree)) :
    (p.walkEntries ignores place entries).filter (p.isUnmatched ignores) =
      (p.walkEntries .nothing place entries).filter fun f =>
        p.isUnmatched ignores f && !p.bars ignores place f := by
  fun_induction p.walkEntries ignores place entries with
  | case1 => simp [walkEntries]
  | case2 place name _ rest more hsupported ih =>
      rw [walkEntries, if_pos hsupported, List.filter_cons, List.filter_cons, ih,
        bars_eq_false_of_entry]
      simp
  | case3 place name _ rest more hsupported ih => rw [walkEntries, if_neg hsupported, ih]
  | case4 place name entries rest more henters ih ih' =>
      obtain ⟨hhidden, hcovers⟩ := enters_eq_true_iff.mp henters
      rw [walkEntries, if_pos (enters_nothing.trans hhidden), List.filter_append,
        List.filter_append, ih, ih']
      congr 1
      apply List.filter_congr
      intro f hf
      obtain ⟨m, -, rfl⟩ := exists_of_mem_walkEntries hf
      rw [bars_of_not_covered hcovers]
  | case5 place name entries rest more henters ih =>
      rw [ih, walkEntries]
      split
      · -- the directory is pruned, and nothing in it is missed
        rename_i henters'
        have hcovers : ignores.covers (p.shown (place ++ [name])) = true := by
          by_contra hcovers
          exact henters (enters_eq_true_iff.mpr
            ⟨enters_nothing.symm.trans henters', by simpa using hcovers⟩)
        rw [List.filter_append, List.self_eq_append_left, List.filter_eq_nil_iff]
        intro f hf
        obtain ⟨m, hm, rfl⟩ := exists_of_mem_walkEntries hf
        by_cases hway : place ++ [name] <+: p.place ∧ p.place <+: place ++ [name] ++ m
        · have hbars : p.bars ignores place (place ++ [name] ++ m) = true := by
            refine bars_eq_true_iff.mpr ⟨hway.2, place ++ [name], hway.1, by simp, ?_, hcovers⟩
            simpa using List.length_pos_iff.mpr hm
          rw [hbars]
          simp
        · rw [isUnmatched_eq_false hignores (by simp) hm hcovers hway]
          simp
      · rfl

theorem filter_walk (hignores : ignores.IsPlain) (place : List String) (t : FileTree) :
    (p.walk ignores place t).filter (p.isUnmatched ignores) =
      (p.walk .nothing place t).filter fun f =>
        p.isUnmatched ignores f && !p.bars ignores place f := by
  cases t with
  | file f => rfl
  | dir entries => exact filter_walkEntries hignores place entries

/-! ### Targets -/

variable (p) in
/-- The place where a walk of the project begins. -/
def walkStart : List String :=
  match p.top.directory? p.cwd p.root with
  | some d => d.names
  | none => p.place

variable (p) in
/-- Where the files of a target are looked for: at its place, or in the project if it is a glob. -/
def start (target : String) : List String :=
  match p.top.locate p.cwd (p.root.join (.ofText target)) with
  | .ok place => place.names
  | .error _ => p.walkStart

theorem prefix_of_mem_walk {place f : List String} {t : FileTree}
    (hf : f ∈ p.walk ignores place t) : place <+: f := by
  cases t with
  | file _ => cases hf
  | dir entries =>
      obtain ⟨m, -, rfl⟩ := exists_of_mem_walkEntries hf
      exact List.prefix_append place m

theorem prefix_of_mem_walkFrom {f : List String} (hf : f ∈ p.walkFrom ignores p.root) :
    p.walkStart <+: f := by
  unfold walkFrom at hf
  unfold walkStart
  cases hd : p.top.directory? p.cwd p.root with
  | some d =>
      rw [hd] at hf
      exact prefix_of_mem_walk hf
  | none =>
      rw [hd] at hf
      cases hf

theorem filter_walkFrom (hignores : ignores.IsPlain) :
    (p.walkFrom ignores p.root).filter (p.isUnmatched ignores) =
      (p.walkFrom .nothing p.root).filter fun f =>
        p.isUnmatched ignores f && !p.bars ignores p.walkStart f := by
  unfold walkFrom walkStart
  cases p.top.directory? p.cwd p.root with
  | some d => exact filter_walk hignores d.names d.tree
  | none => rfl

/-- The files of a target lie where they are looked for. -/
theorem start_prefix_of_mem_targetFiles {target : String} {files : List (List String)}
    (h : p.targetFiles ignores target = .ok files) {f : List String} (hf : f ∈ files) :
    p.start target <+: f := by
  unfold targetFiles at h
  unfold start
  dsimp only at h
  split at h
  · rename_i place hplace
    rw [hplace]
    split at h
    · cases h
      obtain rfl := List.mem_singleton.mp hf
      exact List.prefix_refl _
    · cases h
      exact prefix_of_mem_walk hf
  · cases h
  · rename_i hplace
    obtain ⟨glob, -, h⟩ := bind_eq_ok_iff.mp h
    cases h
    rw [hplace]
    exact prefix_of_mem_walkFrom (List.mem_of_mem_filter hf)

theorem bars_self (f : List String) : p.bars ignores f f = false := by
  by_contra hbars
  obtain ⟨-, c, -, hlt, hlt', -⟩ := bars_eq_true_iff.mp (by simpa using hbars)
  omega

/-- Whether a target is found does not depend on the ignores. The files that it loses are those that
a walk loses. -/
theorem filter_targetFiles (hignores : ignores.IsPlain) (target : String) :
    (p.targetFiles ignores target).map (List.filter (p.isUnmatched ignores)) =
      (p.targetFiles .nothing target).map (List.filter fun f =>
        p.isUnmatched ignores f && !p.bars ignores (p.start target) f) := by
  unfold targetFiles start
  dsimp only
  cases hplace : p.top.locate p.cwd (p.root.join (.ofText target)) with
  | ok place =>
      dsimp only
      cases place.tree with
      | file _ =>
          simp only [Except.map, List.filter_singleton, bars_self, Bool.not_false, Bool.and_true]
      | dir entries => simp only [Except.map, filter_walk hignores]
  | error fault =>
      cases fault with
      | nameTooLong => rfl
      | _ =>
          cases (Glob.ofText target).mapError CollectError.glob with
          | error e => rfl
          | ok glob =>
              simp only [bind, Except.bind, Except.map]
              rw [List.filter_comm, filter_walkFrom hignores, List.filter_comm]

/-! ### Collected files -/

variable (p ignores) in
/-- Whether a target leads to a file past no covered directory on the way to the root. -/
def reaches (target : String) (f : List String) : Bool :=
  match p.targetFiles .nothing target with
  | .ok files => files.contains f && !p.bars ignores (p.start target) f
  | .error _ => false

theorem reaches_eq_true_iff {target : String} {f : List String} :
    p.reaches ignores target f = true ↔ ∃ files, p.targetFiles .nothing target = .ok files ∧
      f ∈ files ∧ p.bars ignores (p.start target) f = false := by
  unfold reaches
  cases p.targetFiles .nothing target with
  | ok files => simp
  | error e => simp

variable (p ignores) in
def reached (targets : List String) (f : List String) : Bool :=
  (orRoot targets).any fun t => p.reaches ignores t f

/-- The files that a target loses are those that it does not reach. -/
theorem exists_targetFiles_iff (hignores : ignores.IsPlain) {target : String} {f : List String} :
    (∃ files, p.targetFiles ignores target = .ok files ∧ f ∈ files ∧
        p.isUnmatched ignores f = true) ↔
      p.reaches ignores target f = true ∧ p.isUnmatched ignores f = true := by
  have hfilter := filter_targetFiles (p := p) hignores target
  rw [reaches_eq_true_iff]
  cases hall : p.targetFiles .nothing target with
  | error e =>
      rw [hall] at hfilter
      cases hpruned : p.targetFiles ignores target with
      | error e' => simp
      | ok files => rw [hpruned] at hfilter; cases hfilter
  | ok all =>
      rw [hall] at hfilter
      obtain ⟨files, hpruned, heq⟩ := map_eq_ok_iff.mp hfilter
      have hmem : f ∈ files.filter (p.isUnmatched ignores) ↔ f ∈ all.filter fun f =>
          p.isUnmatched ignores f && !p.bars ignores (p.start target) f := by rw [heq]
      simp only [List.mem_filter, Bool.and_eq_true, Bool.not_eq_true'] at hmem
      simp only [hpruned, Except.ok.injEq, exists_eq_left']
      tauto

theorem mapM_targetFiles_cases (hignores : ignores.IsPlain) (targets : List String) :
    (∃ e, targets.mapM (p.targetFiles ignores) = .error e ∧
        targets.mapM (p.targetFiles .nothing) = .error e) ∨
      ∃ found all, targets.mapM (p.targetFiles ignores) = .ok found ∧
        targets.mapM (p.targetFiles .nothing) = .ok all := by
  induction targets with
  | nil => exact .inr ⟨[], [], rfl, rfl⟩
  | cons t targets ih =>
      have hfilter := filter_targetFiles (p := p) hignores t
      simp only [List.mapM_cons]
      cases hpruned : p.targetFiles ignores t with
      | error e =>
          rw [hpruned] at hfilter
          cases hall : p.targetFiles .nothing t with
          | error e' =>
              rw [hall] at hfilter
              cases hfilter
              exact .inl ⟨e, rfl, rfl⟩
          | ok files => rw [hall] at hfilter; cases hfilter
      | ok files =>
          rw [hpruned] at hfilter
          obtain ⟨files', hall, -⟩ := map_eq_ok_iff.mp hfilter.symm
          rw [hall]
          rcases ih with ⟨e, he, he'⟩ | ⟨found, all, hfound, hall'⟩
          · exact .inl ⟨e, by rw [he]; rfl, by rw [he']; rfl⟩
          · exact .inr ⟨_, _, by rw [hfound]; rfl, by rw [hall']; rfl⟩

/-- The files that are lost by pruning and not ignored are those that no target reaches. -/
theorem filter_collect (htop : p.top.Named) (hignores : ignores.IsPlain) (targets : List String) :
    (p.collect ignores targets).map (List.filter (p.isUnmatched ignores)) =
      (p.collect .nothing targets).map (List.filter fun f =>
        p.isUnmatched ignores f && p.reached ignores targets f) := by
  unfold collect
  rcases mapM_targetFiles_cases (p := p) hignores (orRoot targets) with
    ⟨e, he, he'⟩ | ⟨found, all, hfound, hall⟩
  · rw [he, he']
    rfl
  · rw [hfound, hall]
    simp only [bind, Except.bind, Except.map, filter_inOrder]
    congr 1
    apply inOrder_congr
    · intro f hf
      obtain ⟨t, -, files, hfiles, hf⟩ :=
        (mem_flatten_of_mapM hfound).mp (List.mem_of_mem_filter hf)
      exact names_of_mem_targetFiles htop hfiles hf
    · intro f
      simp only [List.mem_filter, Bool.and_eq_true]
      constructor
      · rintro ⟨hf, hunmatched⟩
        obtain ⟨t, ht, files, hfiles, hf⟩ := (mem_flatten_of_mapM hfound).mp hf
        have hreaches := ((exists_targetFiles_iff hignores).mp ⟨files, hfiles, hf, hunmatched⟩).1
        obtain ⟨files', hfiles', hf', -⟩ := reaches_eq_true_iff.mp hreaches
        exact ⟨(mem_flatten_of_mapM hall).mpr ⟨t, ht, files', hfiles', hf'⟩, hunmatched,
          List.any_eq_true.mpr ⟨t, ht, hreaches⟩⟩
      · rintro ⟨-, hunmatched, hreached⟩
        obtain ⟨t, ht, hreaches⟩ := List.any_eq_true.mp hreached
        obtain ⟨files, hfiles, hf, -⟩ :=
          (exists_targetFiles_iff hignores).mpr ⟨hreaches, hunmatched⟩
        exact ⟨(mem_flatten_of_mapM hfound).mpr ⟨t, ht, files, hfiles, hf⟩, hunmatched⟩

/-- No directory between the start of a target and the root is covered, the start itself apart. -/
def IsClear (p : Project) (ignores : GlobSet) (target : String) : Prop :=
  ∀ c, p.start target <+: c → c <+: p.place → ignores.covers (p.shown c) = true →
    c = p.start target

theorem reaches_of_isClear {target : String} (h : p.IsClear ignores target)
    {files : List (List String)} (hfiles : p.targetFiles .nothing target = .ok files)
    {f : List String} (hf : f ∈ files) : p.reaches ignores target f = true := by
  refine reaches_eq_true_iff.mpr ⟨files, hfiles, hf, ?_⟩
  by_contra hbars
  obtain ⟨hroot, c, hc, hlt, -, hcovers⟩ := bars_eq_true_iff.mp (by simpa using hbars)
  have hstart : p.start target <+: c :=
    List.prefix_of_prefix_length_le (start_prefix_of_mem_targetFiles hfiles hf) (hc.trans hroot)
      (by omega)
  rw [h c hstart hc hcovers] at hlt
  omega

/-- Every file that is found without pruning and is not ignored is reached by some target. -/
def AllReached (p : Project) (ignores : GlobSet) (targets : List String) : Prop :=
  ∀ files, p.collect .nothing targets = .ok files → ∀ f ∈ files,
    p.isUnmatched ignores f = true → p.reached ignores targets f = true

/-- If no target is barred, every file is reached. -/
theorem allReached_of_isClear {targets : List String}
    (h : ∀ t ∈ orRoot targets, p.IsClear ignores t) : p.AllReached ignores targets := by
  intro files hfiles f hf _
  obtain ⟨all, hall, hfiles⟩ := bind_eq_ok_iff.mp hfiles
  cases hfiles
  obtain ⟨t, ht, found, hfound, hf⟩ := (mem_flatten_of_mapM hall).mp (mem_inOrder.mp hf)
  exact List.any_eq_true.mpr ⟨t, ht, reaches_of_isClear (h t ht) hfound hf⟩

/-- Nothing is lost exactly if every file is reached. -/
theorem filter_collect_eq_iff (htop : p.top.Named) (hignores : ignores.IsPlain)
    (targets : List String) :
    (p.collect ignores targets).map (List.filter (p.isUnmatched ignores)) =
        (p.collect .nothing targets).map (List.filter (p.isUnmatched ignores)) ↔
      p.AllReached ignores targets := by
  rw [filter_collect htop hignores]
  unfold AllReached
  cases p.collect .nothing targets with
  | error e => simp [Except.map]
  | ok files =>
      simp only [Except.map, Except.ok.injEq, forall_eq']
      constructor
      · intro heq f hf hunmatched
        have hmem : f ∈ files.filter fun f =>
            p.isUnmatched ignores f && p.reached ignores targets f := by
          rw [heq]
          exact List.mem_filter.mpr ⟨hf, hunmatched⟩
        exact (Bool.and_eq_true _ _ ▸ (List.mem_filter.mp hmem).2).2
      · intro hreached
        apply List.filter_congr
        intro f hf
        cases hunmatched : p.isUnmatched ignores f with
        | false => rfl
        | true => rw [hreached f hf hunmatched]; rfl

/-! ### Linting -/

/-- Linting where the files are collected under ignores of their own. -/
def lintCollecting (p : Project) (pruned : GlobSet → GlobSet) (registry : Registry)
    (config : Option Path) (targets : List String) (r : Run) : Except LintError Result := do
  let c ← p.configPath config
  let s := p.setup registry
  match r.load s (p.configOrigin c) with
  | (.error e, _) => .error (.run e)
  | (.ok config, r) =>
    let files ← (p.collect (pruned config.ignores) targets).mapError .collect
    ((r.analyze s config (files.map p.shown)).1).mapError .run

theorem lint_eq_lintCollecting (p : Project) : p.lint = p.lintCollecting id := rfl

theorem worklist_of_filter {config : Config} {files files' : List (List String)}
    (h : files.filter (p.isUnmatched config.ignores) =
      files'.filter (p.isUnmatched config.ignores)) :
    Run.worklist config.resolver (files.map p.shown) =
      Run.worklist config.resolver (files'.map p.shown) := by
  have hshown : ∀ l : List (List String),
      (l.map p.shown).filter (fun path => !config.resolver.isIgnored path) =
        (l.filter (p.isUnmatched config.ignores)).map p.shown := by
    intro l
    rw [List.filter_map]
    rfl
  rw [Run.worklist, Run.worklist, hshown, hshown, h]

theorem lintCollecting_congr {pruned pruned' : GlobSet → GlobSet} {registry : Registry}
    {given : Option Path} {targets : List String} {r : Run}
    (h : ∀ c config r', p.configPath given = .ok c →
      r.load (p.setup registry) (p.configOrigin c) = (.ok config, r') →
      (p.collect (pruned config.ignores) targets).map
          (List.filter (p.isUnmatched config.ignores)) =
        (p.collect (pruned' config.ignores) targets).map
          (List.filter (p.isUnmatched config.ignores))) :
    p.lintCollecting pruned registry given targets r =
      p.lintCollecting pruned' registry given targets r := by
  unfold lintCollecting
  cases hc : p.configPath given with
  | error e => rfl
  | ok c =>
      simp only [bind, Except.bind]
      rcases hload : r.load (p.setup registry) (p.configOrigin c) with ⟨e | config, r'⟩
      · rfl
      · have hfilter := h c config r' hc hload
        dsimp only
        cases hpruned : p.collect (pruned config.ignores) targets with
        | error e =>
            rw [hpruned] at hfilter
            cases hall : p.collect (pruned' config.ignores) targets with
            | error e' =>
                rw [hall] at hfilter
                cases hfilter
                rfl
            | ok files => rw [hall] at hfilter; cases hfilter
        | ok files =>
            rw [hpruned] at hfilter
            obtain ⟨files', hall, heq⟩ := map_eq_ok_iff.mp hfilter.symm
            rw [hall]
            simp only [Except.mapError]
            rw [Run.analyze_congr _ config r' (worklist_of_filter heq.symm)]

theorem ofTexts_of_load {registry : Registry} {c : Path} {config : Config} {r r' : Run}
    (h : r.load (p.setup registry) (p.configOrigin c) = (.ok config, r')) :
    GlobSet.ofTexts config.ignores.patterns = .ok config.ignores := by
  have hload : (p.configOrigin c).load (p.setup registry).registry p.loader = .ok config := by
    unfold Run.load at h
    split at h
    · cases h
    · dsimp only at h
      split at h
      · cases h
        assumption
      · cases h
  have hread : (p.configOrigin c).IsRead := trivial
  obtain ⟨data, hdata⟩ := Config.exists_data_of_load hread hload
  obtain ⟨texts, htexts⟩ := Config.exists_texts_of_ofValue hdata
  rw [(GlobSet.ofTexts_eq_ok htexts).1]
  exact htexts

/-- Pruning loses just those files that are not ignored and that no target reaches. So it cannot be
seen exactly if every file is reached, for instance if no target is barred, and then linting comes
to the same as without pruning. -/
theorem pruning_invisible_iff_all_reached (htop : p.top.Named) (targets : List String) :
    (∀ patterns ignores, GlobSet.ofTexts patterns = .ok ignores →
      (∀ s ∈ patterns, Glob.IsPlain s) →
      (p.collect ignores targets).map (List.filter (p.isUnmatched ignores)) =
        (p.collect .nothing targets).map (List.filter fun f =>
          p.isUnmatched ignores f && p.reached ignores targets f) ∧
      ((p.collect ignores targets).map (List.filter (p.isUnmatched ignores)) =
          (p.collect .nothing targets).map (List.filter (p.isUnmatched ignores)) ↔
        p.AllReached ignores targets) ∧
      ((∀ t ∈ orRoot targets, p.IsClear ignores t) → p.AllReached ignores targets)) ∧
    ∀ registry given r,
      (∀ c config r', p.configPath given = .ok c →
        r.load (p.setup registry) (p.configOrigin c) = (.ok config, r') →
        (∀ s ∈ config.ignores.patterns, Glob.IsPlain s) ∧ p.AllReached config.ignores targets) →
      p.lint registry given targets r =
        p.lintCollecting (fun _ => .nothing) registry given targets r := by
  constructor
  · intro patterns ignores hread hplain
    have hpatterns := (GlobSet.ofTexts_eq_ok hread).1
    have hignores : ignores.IsPlain := ⟨hpatterns.symm ▸ hread, hpatterns.symm ▸ hplain⟩
    exact ⟨filter_collect htop hignores targets, filter_collect_eq_iff htop hignores targets,
      allReached_of_isClear⟩
  · intro registry given r h
    rw [lint_eq_lintCollecting]
    apply lintCollecting_congr
    intro c config r' hc hload
    obtain ⟨hplain, hreached⟩ := h c config r' hc hload
    exact (filter_collect_eq_iff htop ⟨ofTexts_of_load hload, hplain⟩ targets).mpr hreached

/-! ### A project with a dependency in it -/

def blankFile : FileTree := .file { content := [], tree := { root := default } }

def sampleProject : Project where
  top := .dir [("p", .dir [("a.ts", blankFile),
    ("node_modules", .dir [("b.ts", blankFile)])])]
  cwd := []
  root := .ofText "p"

theorem named_sampleProject : sampleProject.top.Named :=
  .dir (by decide) (.file (by decide) (.dir (by decide) (.file (by decide) .nil) .nil)) .nil

/-- In a sample with a dependency, a walk of the whole project loses nothing that is not ignored. -/
theorem pruning_invisible_for_dependency :
    ∃ ignores, GlobSet.ofTexts ["**/node_modules/**"] = .ok ignores ∧
      (∀ s ∈ ["**/node_modules/**"], Glob.IsPlain s) ∧ sampleProject.top.Named ∧
      sampleProject.AllReached ignores ["."] ∧
      (sampleProject.collect ignores ["."]).map
          (List.filter (sampleProject.isUnmatched ignores)) =
        (sampleProject.collect .nothing ["."]).map
          (List.filter (sampleProject.isUnmatched ignores)) := by
  have hok : (GlobSet.ofTexts ["**/node_modules/**"]).isOk = true := by decide +kernel
  have hplain : ∀ s ∈ ["**/node_modules/**"], Glob.IsPlain s := by decide +kernel
  cases hread : GlobSet.ofTexts ["**/node_modules/**"] with
  | error e => rw [hread] at hok; cases hok
  | ok ignores =>
      have hclear : ∀ t ∈ orRoot ["."], sampleProject.IsClear ignores t := by
        intro t ht c hstart hplace _
        obtain rfl : t = "." := by simpa [orRoot] using ht
        have heq : sampleProject.place = sampleProject.start "." := by decide +kernel
        rw [heq] at hplace
        exact hplace.eq_of_length (hplace.length_le.antisymm hstart.length_le)
      obtain ⟨-, hiff, hreached⟩ :=
        (pruning_invisible_iff_all_reached named_sampleProject ["."]).1 _ ignores hread hplain
      exact ⟨ignores, rfl, hplain, named_sampleProject, hreached hclear,
        hiff.mpr (hreached hclear)⟩

theorem targetFiles_sampleProject (ignores : GlobSet) :
    sampleProject.targetFiles ignores ".." = .ok (if ignores.covers "." then [] else
      ["p", "a.ts"] :: if ignores.covers "node_modules" then []
        else [["p", "node_modules", "b.ts"]]) := by
  have hplace : sampleProject.top.locate sampleProject.cwd
      (sampleProject.root.join (.ofText "..")) = .ok { top := sampleProject.top } := by rfl
  have hroot : sampleProject.shown ["p"] = "." := by decide +kernel
  have hmodules : sampleProject.shown ["p", "node_modules"] = "node_modules" := by decide +kernel
  rw [targetFiles, hplace]
  simp only [sampleProject, blankFile, FileTree.Place.tree, FileTree.Place.names, walk, walkEntries,
    enters] at hroot hmodules ⊢
  have hts : ∀ name ∈ ["a.ts", "b.ts"], Dialect.isSupported (fileExtension name) = true := by
    decide +kernel
  cases h : ignores.covers "." <;> cases h' : ignores.covers "node_modules" <;>
    simp [hroot, hmodules, hts, h, h']

/-- From above the root, a covered root hides the files in it, although they are not ignored. -/
theorem covered_root_hides_files :
    ∃ ignores, GlobSet.ofTexts ["*/**"] = .ok ignores ∧ (∀ s ∈ ["*/**"], Glob.IsPlain s) ∧
      sampleProject.top.Named ∧
      (sampleProject.collect ignores [".."]).map
        (List.filter (sampleProject.isUnmatched ignores)) = .ok [] ∧
      (sampleProject.collect .nothing [".."]).map
        (List.filter (sampleProject.isUnmatched ignores)) = .ok [["p", "a.ts"]] := by
  have hplain : ∀ s ∈ ["*/**"], Glob.IsPlain s := by decide +kernel
  have hmatches : (GlobSet.ofTexts ["*/**"]).toOption.map (fun s =>
      (s.covers ".", sampleProject.isUnmatched s ["p", "a.ts"],
        sampleProject.isUnmatched s ["p", "node_modules", "b.ts"])) =
      some (true, true, false) := by
    decide +kernel
  cases hread : GlobSet.ofTexts ["*/**"] with
  | error e => rw [hread] at hmatches; cases hmatches
  | ok ignores =>
      rw [hread] at hmatches
      simp only [Except.toOption, Option.map_some, Option.some.injEq, Prod.mk.injEq] at hmatches
      obtain ⟨hcovers, hunmatched, hmatched⟩ := hmatches
      have hnothing : ∀ d, GlobSet.nothing.covers d = false := fun _ => rfl
      refine ⟨ignores, rfl, hplain, named_sampleProject, ?_, ?_⟩
      · simp [collect, orRoot, targetFiles_sampleProject, hcovers, bind, Except.bind, pure,
          Except.pure, Except.map, inOrder]
      · simp [collect, orRoot, targetFiles_sampleProject, hnothing, bind, Except.bind, pure,
          Except.pure, Except.map, filter_inOrder, hunmatched, hmatched]
        simp [inOrder, List.eraseDups_cons]

end Project

end BoundaryLint
