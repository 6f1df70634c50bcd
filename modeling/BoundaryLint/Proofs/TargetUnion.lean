import BoundaryLint.Proofs.CollectedFiles

/-!
# The union of targets

Targets are files, directories and globs, each found in its own way. What is collected for several
of them is what they give one by one: it does not matter in which order they are named, or how
often. A target is refused in two cases. It may be no place in the tree and no glob either. Or it is
too long for the file system, which is asked first; then it is refused even if it is a good glob.
-/
namespace BoundaryLint.Project

/-! ### One target -/

section
variable (p : Project) (target : String)

/-- The path of a target leads to a file or a directory. -/
def IsPlace : Prop := ∃ place, p.top.locate p.cwd (p.root.join (.ofText target)) = .ok place

/-- A target that is no place, and no glob either. -/
def IsMalformed : Prop := ¬p.IsPlace target ∧ ∃ e, Glob.ofText target = .error e

/-- A target with a path or a name in it that the file system does not take. -/
def IsTooLong : Prop :=
  p.top.locate p.cwd (p.root.join (.ofText target)) = .error .nameTooLong

end

variable {p : Project} (ignores : GlobSet) {target : String} {targets : List String}

/-- A place is tried before a glob, and the length of the path is found out on the way. -/
theorem targetFiles_of_not_isPlace (h : ¬p.IsPlace target) (hlong : ¬p.IsTooLong target) :
    p.targetFiles ignores target = (Glob.ofText target).mapError .glob >>= fun glob =>
      .ok ((p.walkFrom ignores p.root).filter fun f => glob.accepts (p.shown f)) := by
  unfold targetFiles
  dsimp only
  cases hplace : p.top.locate p.cwd (p.root.join (.ofText target)) with
  | ok place => exact absurd ⟨place, hplace⟩ h
  | error fault =>
      cases fault with
      | nameTooLong => exact absurd hplace hlong
      | _ => rfl

theorem targetFiles_of_isTooLong (h : p.IsTooLong target) :
    p.targetFiles ignores target = .error (.nameTooLong (p.root.join (.ofText target)).text) := by
  unfold targetFiles
  dsimp only
  rw [show p.top.locate p.cwd (p.root.join (.ofText target)) = .error .nameTooLong from h]

theorem exists_files_of_isPlace (h : p.IsPlace target) :
    ∃ files, p.targetFiles ignores target = .ok files := by
  obtain ⟨place, hplace⟩ := h
  unfold targetFiles
  dsimp only
  rw [hplace]
  dsimp only
  cases place.tree with
  | file f => exact ⟨_, rfl⟩
  | dir entries => exact ⟨_, rfl⟩

theorem exists_globError_iff (hlong : ¬p.IsTooLong target) :
    (∃ e, p.targetFiles ignores target = .error (.glob e)) ↔ p.IsMalformed target := by
  by_cases hplace : p.IsPlace target
  · obtain ⟨files, hfiles⟩ := exists_files_of_isPlace ignores hplace
    rw [hfiles]
    simp [IsMalformed, hplace]
  · rw [targetFiles_of_not_isPlace ignores hplace hlong, IsMalformed, and_iff_right hplace]
    cases Glob.ofText target with
    | error e => simp [Except.mapError, bind, Except.bind]
    | ok glob => simp [Except.mapError, bind, Except.bind]

theorem exists_files_iff :
    (∃ files, p.targetFiles ignores target = .ok files) ↔
      ¬p.IsTooLong target ∧ ¬p.IsMalformed target := by
  by_cases hlong : p.IsTooLong target
  · rw [targetFiles_of_isTooLong ignores hlong]
    simp [hlong]
  · rw [and_iff_right hlong, ← exists_globError_iff ignores hlong]
    by_cases hplace : p.IsPlace target
    · obtain ⟨files, hfiles⟩ := exists_files_of_isPlace ignores hplace
      rw [hfiles]
      simp
    · rw [targetFiles_of_not_isPlace ignores hplace hlong]
      cases Glob.ofText target with
      | error e => simp [Except.mapError, bind, Except.bind]
      | ok glob => simp [Except.mapError, bind, Except.bind]

/-! ### All targets -/

variable {ignores}

theorem collect_eq_ok_iff {files : List (List String)} :
    p.collect ignores targets = .ok files ↔
      ∃ found, (orRoot targets).mapM (p.targetFiles ignores) = .ok found ∧
        inOrder found.flatten = files := by
  rw [collect, bind_eq_ok_iff]
  simp only [Except.ok.injEq]

theorem collect_eq_error_iff {e : CollectError} :
    p.collect ignores targets = .error e ↔ ∃ front t back, orRoot targets = front ++ t :: back ∧
      (∀ u ∈ front, ∃ files, p.targetFiles ignores u = .ok files) ∧
      p.targetFiles ignores t = .error e := by
  rw [← mapM_eq_error_iff, collect]
  cases (orRoot targets).mapM (p.targetFiles ignores) with
  | error e' => simp [bind, Except.bind]
  | ok found => simp [bind, Except.bind]

theorem collect_singleton (ignores : GlobSet) (target : String) :
    p.collect ignores [target] = (p.targetFiles ignores target).map inOrder := by
  have htargets : orRoot [target] = [target] := rfl
  rw [collect, htargets, List.mapM_cons, List.mapM_nil]
  cases p.targetFiles ignores target with
  | error e => rfl
  | ok files =>
      change Except.ok (inOrder [files].flatten) = _
      rw [List.flatten_singleton]
      rfl

theorem mem_collect_singleton_iff {f : List String} :
    (∃ files, p.collect ignores [target] = .ok files ∧ f ∈ files) ↔
      ∃ files, p.targetFiles ignores target = .ok files ∧ f ∈ files := by
  rw [collect_singleton]
  cases p.targetFiles ignores target with
  | error e => simp [Except.map]
  | ok files => simp [Except.map, mem_inOrder]

/-- A file is collected if one of the targets alone would do. -/
theorem mem_collect_iff {files : List (List String)} (h : p.collect ignores targets = .ok files)
    {f : List String} :
    f ∈ files ↔ ∃ t ∈ orRoot targets, ∃ alone, p.collect ignores [t] = .ok alone ∧ f ∈ alone := by
  obtain ⟨found, hfound, rfl⟩ := collect_eq_ok_iff.mp h
  rw [mem_inOrder, mem_flatten_of_mapM hfound]
  simp only [mem_collect_singleton_iff]

theorem names_of_mem_collect (htop : p.top.Named) {found : List (List (List String))}
    (h : (orRoot targets).mapM (p.targetFiles ignores) = .ok found) :
    ∀ f ∈ found.flatten, ∀ n ∈ f, IsName n := by
  intro f hf
  obtain ⟨t, -, files, hfiles, hf⟩ := (mem_flatten_of_mapM h).mp hf
  exact names_of_mem_targetFiles htop hfiles hf

theorem collect_ascending (htop : p.top.Named) {files : List (List String)}
    (h : p.collect ignores targets = .ok files) :
    files.Pairwise (placeText · < placeText ·) := by
  obtain ⟨found, hfound, rfl⟩ := collect_eq_ok_iff.mp h
  exact inOrder_ascending (names_of_mem_collect htop hfound)

theorem exists_collect_iff :
    (∃ files, p.collect ignores targets = .ok files) ↔
      ∀ t ∈ orRoot targets, ¬p.IsTooLong t ∧ ¬p.IsMalformed t := by
  constructor
  · rintro ⟨files, h⟩ t ht
    obtain ⟨found, hfound, -⟩ := collect_eq_ok_iff.mp h
    obtain ⟨alone, -, halone⟩ := exists_mem_of_mapM_eq_ok hfound ht
    exact (exists_files_iff ignores).mp ⟨alone, halone⟩
  · intro h
    cases hcollect : p.collect ignores targets with
    | ok files => exact ⟨files, rfl⟩
    | error e =>
        obtain ⟨front, t, back, htargets, -, ht⟩ := collect_eq_error_iff.mp hcollect
        obtain ⟨files, hfiles⟩ := (exists_files_iff ignores).mpr (h t (by simp [htargets]))
        rw [ht] at hfiles
        cases hfiles

theorem mem_front_or_mem_front {α : Type} {front front' back back' : List α} {a a' : α}
    (h : front ++ a :: back = front' ++ a' :: back') : a' ∈ front ++ [a] ∨ a ∈ front' := by
  rcases List.append_eq_append_iff.mp h with ⟨c, rfl, hc⟩ | ⟨c, rfl, hc⟩
  · cases c with
    | nil => simp_all
    | cons x c => simp_all
  · cases c with
    | nil => simp_all
    | cons x c => simp_all

/-- A malformed target is reported unless a target that is too long comes before it. -/
theorem exists_collect_globError_iff :
    (∃ e, p.collect ignores targets = .error (.glob e)) ↔
      ∃ front t back, orRoot targets = front ++ t :: back ∧
        (∀ u ∈ front ++ [t], ¬p.IsTooLong u) ∧ p.IsMalformed t := by
  constructor
  · rintro ⟨e, h⟩
    obtain ⟨front, t, back, htargets, hfront, ht⟩ := collect_eq_error_iff.mp h
    have hshort : ¬p.IsTooLong t := by
      intro hlong
      rw [targetFiles_of_isTooLong ignores hlong] at ht
      cases ht
    refine ⟨front, t, back, htargets, ?_, (exists_globError_iff ignores hshort).mp ⟨e, ht⟩⟩
    intro u hu
    rcases List.mem_append.mp hu with hu | hu
    · exact ((exists_files_iff ignores).mp (hfront u hu)).1
    · rw [List.mem_singleton.mp hu]
      exact hshort
  · rintro ⟨front, t, back, htargets, hshort, hmalformed⟩
    cases hcollect : p.collect ignores targets with
    | ok files =>
        exact absurd hmalformed (exists_collect_iff.mp ⟨files, hcollect⟩ t (by simp [htargets])).2
    | error e =>
        obtain ⟨front', t', back', htargets', hfront', ht'⟩ := collect_eq_error_iff.mp hcollect
        -- the target that fails is `t` or stands before it, because `t` is refused
        rcases mem_front_or_mem_front (htargets.symm.trans htargets') with hmem | hmem
        · have hshort' := hshort t' hmem
          have hrefused : p.IsMalformed t' := by
            by_contra hgood
            obtain ⟨files, hfiles⟩ := (exists_files_iff ignores).mpr ⟨hshort', hgood⟩
            rw [ht'] at hfiles
            cases hfiles
          obtain ⟨g, hg⟩ := (exists_globError_iff ignores hshort').mpr hrefused
          rw [ht'] at hg
          cases hg
          exact ⟨g, rfl⟩
        · exact absurd hmalformed ((exists_files_iff ignores).mp (hfront' t hmem)).2

theorem collect_congr (htop : p.top.Named) {files : List (List String)} {targets' : List String}
    (hmem : ∀ t, t ∈ orRoot targets ↔ t ∈ orRoot targets')
    (h : p.collect ignores targets = .ok files) : p.collect ignores targets' = .ok files := by
  have hall := exists_collect_iff.mp ⟨files, h⟩
  have hall' : ∀ t ∈ orRoot targets', ¬p.IsTooLong t ∧ ¬p.IsMalformed t :=
    fun t ht => hall t ((hmem t).mpr ht)
  obtain ⟨files', h'⟩ : ∃ files', p.collect ignores targets' = .ok files' :=
    exists_collect_iff.mpr hall'
  obtain ⟨found, hfound, rfl⟩ := collect_eq_ok_iff.mp h
  obtain ⟨found', hfound', rfl⟩ := collect_eq_ok_iff.mp h'
  rw [h', Except.ok.injEq]
  apply inOrder_congr (names_of_mem_collect htop hfound')
  intro f
  simp only [mem_flatten_of_mapM hfound, mem_flatten_of_mapM hfound', hmem]

theorem collect_root {d : FileTree.Place} (h : p.top.directory? p.cwd p.root = some d) :
    p.collect ignores ["."] = .ok (inOrder (p.walk ignores d.names d.tree)) := by
  have hpath : p.root.join (.ofText ".") = p.root := by
    have hnames : (Path.ofText ".").names = [] := by decide +kernel
    have habsolute : (Path.ofText ".").absolute = false := by decide +kernel
    rw [Path.join, habsolute, hnames, List.append_nil]
    rfl
  have hplace := FileTree.locate_of_directory? h
  rw [collect_singleton, targetFiles, hpath, hplace]
  dsimp only
  unfold FileTree.directory? at h
  rw [hplace] at h
  cases htree : d.tree with
  | file f => simp [htree] at h
  | dir entries => rfl

/-- Collecting is a union of targets. If none of them is refused, the files are in strictly
ascending order, each is found by some target alone, and only the set of targets matters. A
malformed target is reported unless a target that is too long comes first, and a target that is too
long is always refused. No targets stand for the whole project. -/
theorem collect_is_union_of_targets (htop : p.top.Named) (ignores : GlobSet)
    (targets : List String) :
    ((∃ files, p.collect ignores targets = .ok files) ↔
      ∀ t ∈ orRoot targets, ¬p.IsTooLong t ∧ ¬p.IsMalformed t) ∧
    (∀ files, p.collect ignores targets = .ok files →
      files.Pairwise (placeText · < placeText ·) ∧
      (∀ f, f ∈ files ↔
        ∃ t ∈ orRoot targets, ∃ alone, p.collect ignores [t] = .ok alone ∧ f ∈ alone) ∧
      ∀ targets', (∀ t, t ∈ orRoot targets ↔ t ∈ orRoot targets') →
        p.collect ignores targets' = .ok files) ∧
    ((∃ e, p.collect ignores targets = .error (.glob e)) ↔
      ∃ front t back, orRoot targets = front ++ t :: back ∧
        (∀ u ∈ front ++ [t], ¬p.IsTooLong u) ∧ p.IsMalformed t) ∧
    ((∀ t ∈ orRoot targets, ¬p.IsTooLong t) →
      ((∃ e, p.collect ignores targets = .error (.glob e)) ↔
        ∃ t ∈ orRoot targets, p.IsMalformed t)) ∧
    p.collect ignores [] = p.collect ignores ["."] ∧
    ∀ d, p.top.directory? p.cwd p.root = some d →
      p.collect ignores [] = .ok (inOrder (p.walk ignores d.names d.tree)) := by
  refine ⟨exists_collect_iff, ?_, exists_collect_globError_iff, ?_, rfl, fun d => collect_root⟩
  · intro files h
    exact ⟨collect_ascending htop h, fun f => mem_collect_iff h,
      fun targets' hmem => collect_congr htop hmem h⟩
  · intro hshort
    rw [exists_collect_globError_iff]
    constructor
    · rintro ⟨front, t, back, htargets, -, hmalformed⟩
      exact ⟨t, by simp [htargets], hmalformed⟩
    · rintro ⟨t, ht, hmalformed⟩
      obtain ⟨front, back, htargets⟩ := List.append_of_mem ht
      refine ⟨front, t, back, htargets, ?_, hmalformed⟩
      intro u hu
      apply hshort
      rw [htargets, List.append_cons]
      exact List.mem_append_left _ hu

/-! ### A project with one directory -/

def sourceDirectory : FileTree :=
  .dir [("a.ts", .file { content := [], tree := { root := default } }),
    ("b.md", .file { content := [], tree := { root := default } })]

def oneDirectory : Project where
  top := .dir [("src", sourceDirectory)]
  cwd := []
  root := .ofText "."

theorem named_oneDirectory : oneDirectory.top.Named :=
  .dir (by decide) (.file (by decide) (.file (by decide) .nil)) .nil

def noIgnores : GlobSet := ⟨[], [], []⟩

def overlapping : List String := ["src/b.md", "src", "**/*.ts"]

theorem overlapping_not_refused :
    ∀ t ∈ orRoot overlapping, ¬oneDirectory.IsTooLong t ∧ ¬oneDirectory.IsMalformed t := by
  have hglob : (Glob.ofText "**/*.ts").isOk = true := by decide +kernel
  change ∀ t ∈ ["src/b.md", "src", "**/*.ts"], _
  simp only [List.forall_mem_cons, List.not_mem_nil, false_implies, implies_true, and_true]
  refine ⟨⟨?_, ?_⟩, ⟨?_, ?_⟩, ?_, ?_⟩
  · intro h
    cases h
  · exact fun h => h.1 ⟨_, rfl⟩
  · intro h
    cases h
  · exact fun h => h.1 ⟨_, rfl⟩
  · intro h
    cases h
  · rintro ⟨-, e, he⟩
    rw [he] at hglob
    cases hglob

theorem targetFiles_oneDirectory :
    oneDirectory.targetFiles noIgnores "src" = .ok [["src", "a.ts"]] ∧
      oneDirectory.targetFiles noIgnores "src/b.md" = .ok [["src", "b.md"]] := by
  have hplace : oneDirectory.top.locate oneDirectory.cwd (oneDirectory.root.join (.ofText "src")) =
      .ok { top := oneDirectory.top, below := [("src", sourceDirectory)] } := by rfl
  have hts : Dialect.isSupported (fileExtension "a.ts") = true := by decide +kernel
  have hmd : Dialect.isSupported (fileExtension "b.md") = false := by decide +kernel
  refine ⟨?_, rfl⟩
  rw [targetFiles, hplace]
  simp [FileTree.Place.tree, FileTree.Place.names, sourceDirectory, walk, walkEntries, hts, hmd]

/-- The same files are found in another order of the targets, one of them twice. -/
theorem collect_is_union_of_targets_overlapping :
    oneDirectory.top.Named ∧ ∃ files, oneDirectory.collect noIgnores overlapping = .ok files ∧
      files.Pairwise (placeText · < placeText ·) ∧ ["src", "a.ts"] ∈ files ∧
      ["src", "b.md"] ∈ files ∧
      oneDirectory.collect noIgnores ["**/*.ts", "src/b.md", "**/*.ts", "src"] = .ok files := by
  have hmem : ∀ t, t ∈ orRoot overlapping ↔
      t ∈ orRoot ["**/*.ts", "src/b.md", "**/*.ts", "src"] := by
    intro t
    simp only [orRoot, overlapping, List.isEmpty_cons, Bool.false_eq_true, if_false, List.mem_cons,
      List.not_mem_nil, or_false]
    tauto
  obtain ⟨hok, hfiles, -⟩ :=
    collect_is_union_of_targets named_oneDirectory noIgnores overlapping
  obtain ⟨files, h⟩ := hok.mpr overlapping_not_refused
  obtain ⟨hascending, hunion, hsame⟩ := hfiles files h
  have hfound : ∀ {t f}, t ∈ orRoot overlapping → oneDirectory.targetFiles noIgnores t = .ok [f] →
      f ∈ files := fun ht hread => (hunion _).mpr
    ⟨_, ht, mem_collect_singleton_iff.mpr ⟨_, hread, List.mem_singleton_self _⟩⟩
  obtain ⟨hsource, hnote⟩ := targetFiles_oneDirectory
  refine ⟨named_oneDirectory, files, h, hascending, hfound ?_ hsource, hfound ?_ hnote,
    hsame _ hmem⟩
  · simp [orRoot, overlapping]
  · simp [orRoot, overlapping]

/-- A glob without a slash: a star and some letters. -/
def starGlob (letters : Nat) : String :=
  String.ofList ('*' :: List.replicate letters 'a')

section
variable {k : Nat}

theorem toList_starGlob : (starGlob k).toList = '*' :: List.replicate k 'a' :=
  String.toList_ofList

theorem utf8ByteSize_starGlob : (starGlob k).utf8ByteSize = k + 1 := by
  have hletters : ∀ k, (String.ofList (List.replicate k 'a')).utf8ByteSize = k := by
    intro k
    induction k with
    | zero => rfl
    | succ k ih =>
        rw [List.replicate_succ, String.ofList_cons, String.utf8ByteSize_append, ih, Nat.add_comm]
        rfl
  rw [starGlob, String.ofList_cons, String.utf8ByteSize_append, hletters, Nat.add_comm]
  rfl

theorem starGlob_ne {s : String} (h : s.toList.head? ≠ some '*') : starGlob k ≠ s := by
  rintro rfl
  simp [toList_starGlob] at h

theorem ofText_starGlob :
    Path.ofText (starGlob k) = { absolute := false, names := [starGlob k] } := by
  have hslash : '/' ∉ (starGlob k).toList := by simp [toList_starGlob]
  have hkept : (starGlob k != "" && starGlob k != ".") = true := by
    rw [Bool.and_eq_true, bne_iff_ne, bne_iff_ne]
    exact ⟨starGlob_ne (by decide), starGlob_ne (by decide)⟩
  rw [Path.ofText, List.splitOn_eq_singleton hslash, List.map_singleton, String.ofList_toList,
    List.filter_singleton, hkept]
  simp [toList_starGlob]

theorem isTooLong_starGlob (hname : 255 ≤ k) (hpath : k + 1 < 4096) :
    oneDirectory.IsTooLong (starGlob k) := by
  have hjoin : oneDirectory.root.join (.ofText (starGlob k)) =
      { absolute := false, names := [starGlob k] } := by
    rw [ofText_starGlob]
    rfl
  have hup : starGlob k ≠ ".." := starGlob_ne (by decide)
  rw [IsTooLong, hjoin, FileTree.locate, if_neg]
  · change FileTree.Place.step { top := oneDirectory.top } (starGlob k) >>= _ = _
    have hlimit : FileTree.nameLimit < k + 1 := Nat.lt_succ_of_le hname
    simp [FileTree.Place.step, FileTree.Place.tree, oneDirectory, hup, utf8ByteSize_starGlob,
      hlimit, bind, Except.bind]
  · have htext : ({ absolute := false, names := [starGlob k] } : Path).text = starGlob k := by
      simp [Path.text]
    rw [htext, utf8ByteSize_starGlob]
    exact Nat.not_le_of_lt hpath

end

/-- A long glob is refused although it is well formed, and hides that another target is not. -/
theorem long_glob_is_refused :
    (Glob.ofText (starGlob 255)).isOk = true ∧ (Glob.ofText "\x7b").isOk = false ∧
      (∃ path, oneDirectory.collect noIgnores [starGlob 255] = .error (.nameTooLong path)) ∧
      ∃ path,
        oneDirectory.collect noIgnores [starGlob 255, "\x7b"] = .error (.nameTooLong path) := by
  have hglob : (Glob.ofText (starGlob 255)).isOk = true := by
    rw [Glob.ofText, Text.isBlankText, toList_starGlob]
    decide +kernel
  have hread := targetFiles_of_isTooLong noIgnores
    (isTooLong_starGlob (Nat.le_refl 255) (by decide))
  have hrefused : ∀ back, ∃ path,
      oneDirectory.collect noIgnores (starGlob 255 :: back) = .error (.nameTooLong path) :=
    fun back => ⟨_, collect_eq_error_iff.mpr ⟨[], _, back, rfl, List.forall_mem_nil _, hread⟩⟩
  exact ⟨hglob, by decide +kernel, hrefused [], hrefused ["\x7b"]⟩

end BoundaryLint.Project
