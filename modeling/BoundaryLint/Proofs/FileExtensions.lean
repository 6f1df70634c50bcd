import BoundaryLint.Proofs.Positions
import BoundaryLint.Proofs.TargetUnion

/-!
# The extensions of files that are found

A walk takes files by the extension of their names, which begins at the last dot unless only dots
stand before it. A parser goes by the path as it is shown: it takes the last part of the path and
looks for the last dot again, which must not come first. The second condition is weaker. So wherever
a walk sees an extension, the parser sees the same one, and no file that was walked is of an
unsupported type.
-/
namespace BoundaryLint

/-! ### Extensions of names and of paths -/

theorem afterLast_append_of_ends {x : Char} {front m : List Char}
    (h : front = [] ∨ front.getLast? = some x) (hm : x ∉ m) : afterLast x (front ++ m) = m := by
  rw [afterLast_append_of_not_mem hm]
  rcases h with rfl | h
  · rfl
  · obtain ⟨init, rfl⟩ := List.getLast?_eq_some_iff.mp h
    rw [afterLast_append_self, List.nil_append]

/-- Leading dots stay out of an extension, so something else is in front of it. -/
theorem exists_split_of_fileExtension {name : String} (h : fileExtension name ≠ "") :
    ∃ front tail : List Char, front ≠ [] ∧ name.toList = front ++ '.' :: tail ∧ '.' ∉ tail ∧
      fileExtension name = String.ofList ('.' :: tail) := by
  let bare := name.toList.dropWhile (· == '.')
  have hext : fileExtension name = if (afterLast '.' bare).length < bare.length then
      String.ofList ('.' :: afterLast '.' bare) else "" := rfl
  by_cases hlength : (afterLast '.' bare).length < bare.length
  · rw [if_pos hlength] at hext
    obtain ⟨front, hbare, hfront⟩ := exists_append_afterLast (x := '.') bare
    have hne : front ≠ [] := by
      intro hnil
      rw [hnil, List.nil_append] at hbare
      rw [← hbare] at hlength
      exact Nat.lt_irrefl _ hlength
    obtain ⟨init, rfl⟩ := List.getLast?_eq_some_iff.mp (hfront.resolve_left hne)
    rw [List.append_assoc, List.singleton_append] at hbare
    have hinit : init ≠ [] := by
      intro hnil
      have hhead := List.head?_dropWhile_not (· == '.') name.toList
      rw [show name.toList.dropWhile (· == '.') = bare from rfl, hbare, hnil] at hhead
      simp at hhead
    refine ⟨name.toList.takeWhile (· == '.') ++ init, afterLast '.' bare, ?_, ?_, not_mem_afterLast,
      hext⟩
    · simp [hinit]
    · rw [List.append_assoc, ← hbare, List.takeWhile_append_dropWhile]
  · rw [if_neg hlength] at hext
    exact absurd hext h

/-- A path with this name at its end has the extension of the name. -/
theorem extensionOf_eq_fileExtension {path name : String}
    (hlast : afterLast '/' path.toList = name.toList) (h : fileExtension name ≠ "") :
    extensionOf path = fileExtension name := by
  obtain ⟨front, tail, hfront, hname, htail, hext⟩ := exists_split_of_fileExtension h
  have hdot : afterLast '.' name.toList = tail := by
    rw [hname, ← List.singleton_append, ← List.append_assoc]
    exact afterLast_append_of_ends (.inr (by simp)) htail
  have hpath : extensionOf path =
      if (afterLast '.' (afterLast '/' path.toList)).length + 1 < (afterLast '/' path.toList).length
      then String.ofList ('.' :: afterLast '.' (afterLast '/' path.toList)) else "" := rfl
  have hpos := List.length_pos_iff.mpr hfront
  rw [hpath, hlast, hdot, hext, if_pos]
  rw [hname, List.length_append, List.length_cons]
  omega

/-! ### The last name of a place -/

theorem exists_front_of_intercalate (names : List String) (name : String) :
    ∃ front, ("/".intercalate (names ++ [name])).toList = front ++ name.toList ∧
      (front = [] ∨ front.getLast? = some '/') := by
  by_cases h : names = []
  · exact ⟨[], by simp [h], .inl rfl⟩
  · refine ⟨("/".intercalate names).toList ++ ['/'], ?_, .inr (by simp)⟩
    rw [String.intercalate_append_of_ne_nil h (List.cons_ne_nil name [])]
    simp

theorem afterLast_relativeText {root names : List String} {name : String}
    (hname : '/' ∉ name.toList) (hne : names ++ [name] ≠ root) :
    afterLast '/' (relativeText root (names ++ [name])).toList = name.toList := by
  unfold relativeText
  by_cases hroot : root <+: names ++ [name]
  · obtain ⟨below, hbelow⟩ := hroot
    have hnonempty : below ≠ [] := by
      intro hnil
      rw [hnil, List.append_nil] at hbelow
      exact hne hbelow.symm
    obtain ⟨init, last, rfl⟩ := (List.eq_nil_or_concat' below).resolve_left hnonempty
    rw [← hbelow]
    rw [← List.append_assoc] at hbelow
    obtain ⟨-, rfl⟩ := List.append_singleton_inj.mp hbelow
    obtain ⟨front, htext, hfront⟩ := exists_front_of_intercalate init last
    rw [if_pos (List.isPrefixOf_iff_prefix.mpr (List.prefix_append _ _))]
    dsimp only
    rw [List.drop_left, if_neg (by simp), htext, afterLast_append_of_ends hfront hname]
  · obtain ⟨front, htext, hfront⟩ := exists_front_of_intercalate names name
    have hslash : ('/' :: front).getLast? = some '/' := by
      rcases hfront with rfl | hfront
      · rfl
      · rw [List.getLast?_cons, hfront]
        rfl
    rw [if_neg (by simpa using hroot), placeText, String.toList_append, htext]
    exact afterLast_append_of_ends (.inr hslash) hname

/-! ### What a tree holds -/

namespace FileTree

/-- The second tree is the file or directory at a place of the first one. -/
inductive Holds : FileTree → List String → FileTree → Prop
  | here (t : FileTree) : Holds t [] t
  | inside {entries : List (String × FileTree)} {name : String} {t u : FileTree}
      {names : List String} : (name, t) ∈ entries → Holds t names u →
      Holds (.dir entries) (name :: names) u

theorem Holds.trans {t u v : FileTree} {names more : List String} (h : Holds t names u)
    (h' : Holds u more v) : Holds t (names ++ more) v := by
  induction h with
  | here => exact h'
  | inside hmem _ ih => exact .inside hmem (ih h')

theorem Holds.entry {entries : List (String × FileTree)} {name : String} {t : FileTree}
    (h : (name, t) ∈ entries) : Holds (.dir entries) [name] t :=
  .inside h (.here t)

theorem Holds.mono {entries entries' : List (String × FileTree)} {names : List String}
    {f : SourceFile} (h : Holds (.dir entries) names (.file f)) (hsub : entries ⊆ entries') :
    Holds (.dir entries') names (.file f) := by
  cases h with
  | inside hmem h => exact .inside (hsub hmem) h

/-- Each name on the way to a place is that of an entry of the directory before it. -/
inductive Place.Found (top : FileTree) : List (String × FileTree) → Prop
  | top : Found top []
  | step {way entries : List (String × FileTree)} {name : String} {t : FileTree} :
      Place.tree ⟨top, way⟩ = .dir entries → (name, t) ∈ entries → Found top way →
      Found top ((name, t) :: way)

theorem Place.Found.holds {top : FileTree} {way : List (String × FileTree)} (h : Found top way) :
    top.Holds (Place.names ⟨top, way⟩) (Place.tree ⟨top, way⟩) := by
  induction h with
  | top => exact .here top
  | step hentries hmem _ ih =>
      rw [hentries] at ih
      have hholds := ih.trans (.entry hmem)
      simpa [Place.names, Place.tree] using hholds

theorem Place.Found.tail {top : FileTree} {way : List (String × FileTree)} (h : Found top way) :
    Found top way.tail := by
  cases h with
  | top => exact .top
  | step _ _ h => exact h

theorem holds_of_locate {top : FileTree} {cwd : List String} {path : Path} {p : Place}
    (h : top.locate cwd path = .ok p) : top.Holds p.names p.tree := by
  have hfound : p.top = top ∧ Place.Found p.top p.below := by
    refine locate_induction (fun q => q.top = top ∧ Place.Found q.top q.below) ⟨rfl, .top⟩ ?_ h
    intro q r name hq hstep
    obtain ⟨rfl, hq⟩ := hq
    rcases Place.step_cases hstep with rfl | ⟨entries, t, hentries, hmem, rfl⟩
    · exact ⟨rfl, hq.tail⟩
    · exact ⟨rfl, .step hentries hmem hq⟩
  rw [← hfound.1]
  exact hfound.2.holds

end FileTree

theorem Source.fault_ne_unsupported {missing : List String} {path : String}
    {content : Text.Utf8.Bytes} {tree : Tree} {e : ParseError}
    (hext : Dialect.isSupported (extensionOf path) = true)
    (h : Source.parseWithout missing path content tree = .error e) (what : String) :
    e.fault ≠ .unsupported what := by
  unfold Source.parseWithout at h
  dsimp only at h
  rw [hext, Bool.not_true, if_neg Bool.false_ne_true] at h
  split at h
  · cases h
    simp
  · split at h
    · cases h
      simp
    · cases h

/-! ### Files that are walked -/

namespace Project
variable {p : Project} {ignores : GlobSet} {targets : List String} {f : List String}

/-- The place is that of a file below the entries, with a supported extension. -/
def Offers (place : List String) (entries : List (String × FileTree)) (f : List String) : Prop :=
  ∃ names name source, f = place ++ names ++ [name] ∧
    Dialect.isSupported (fileExtension name) = true ∧
    FileTree.Holds (.dir entries) (names ++ [name]) (.file source)

theorem Offers.cons {place : List String} {entries : List (String × FileTree)}
    (h : Offers place entries f) (entry : String × FileTree) :
    Offers place (entry :: entries) f := by
  obtain ⟨names, name, source, hf, hsupported, hholds⟩ := h
  exact ⟨names, name, source, hf, hsupported, hholds.mono (List.subset_cons_self _ _)⟩

theorem Offers.enter {place : List String} {name : String} {entries : List (String × FileTree)}
    (h : Offers (place ++ [name]) entries f) (rest : List (String × FileTree)) :
    Offers place ((name, .dir entries) :: rest) f := by
  obtain ⟨names, last, source, hf, hsupported, hholds⟩ := h
  exact ⟨name :: names, last, source, by simp [hf], hsupported, .inside List.mem_cons_self hholds⟩

theorem offers_of_mem_walkEntries {place : List String} {entries : List (String × FileTree)}
    (h : f ∈ p.walkEntries ignores place entries) : Offers place entries f := by
  fun_induction p.walkEntries ignores place entries with
  | case1 => cases h
  | case2 place name source rest more hsupported ih =>
      rcases List.mem_cons.mp h with rfl | h
      · exact ⟨[], name, source, by simp, hsupported, .entry List.mem_cons_self⟩
      · exact (ih h).cons _
  | case3 place name source rest more _ ih => exact (ih h).cons _
  | case4 place name entries rest more _ ih ih' =>
      rcases List.mem_append.mp h with h | h
      · exact (ih' h).enter rest
      · exact (ih h).cons _
  | case5 place name entries rest more _ ih => exact (ih h).cons _

theorem exists_file_of_mem_walk {path : Path} {place : FileTree.Place}
    (hplace : p.top.locate p.cwd path = .ok place)
    (h : f ∈ p.walk ignores place.names place.tree) :
    ∃ names name source, f = names ++ [name] ∧ Dialect.isSupported (fileExtension name) = true ∧
      p.top.Holds f (.file source) := by
  have hholds := FileTree.holds_of_locate hplace
  unfold walk at h
  split at h
  · cases h
  · rename_i entries hentries
    rw [hentries] at hholds
    obtain ⟨names, name, source, rfl, hsupported, hbelow⟩ := offers_of_mem_walkEntries h
    refine ⟨place.names ++ names, name, source, rfl, hsupported, ?_⟩
    rw [List.append_assoc]
    exact hholds.trans hbelow

variable (p ignores targets) in
/-- A file that is found by a target other than a file: in the walk of a directory, or by a glob. -/
def IsWalked (f : List String) : Prop :=
  ∃ t ∈ orRoot targets, p.top.isFile p.cwd (p.root.join (.ofText t)) = false ∧
    ∃ found, p.targetFiles ignores t = .ok found ∧ f ∈ found

theorem IsWalked.exists_walk (h : p.IsWalked ignores targets f) :
    ∃ path place, p.top.locate p.cwd path = .ok place ∧
      f ∈ p.walk ignores place.names place.tree := by
  obtain ⟨t, -, hfile, found, hfound, hf⟩ := h
  unfold targetFiles at hfound
  unfold FileTree.isFile FileTree.file? at hfile
  dsimp only at hfound
  split at hfound
  · rename_i place hplace
    rw [hplace] at hfile
    split at hfound
    · rename_i hsource
      simp [hsource] at hfile
    · cases hfound
      exact ⟨_, place, hplace, hf⟩
  · cases hfound
  · obtain ⟨glob, -, hfound⟩ := bind_eq_ok_iff.mp hfound
    cases hfound
    have hwalk := List.mem_of_mem_filter hf
    unfold walkFrom at hwalk
    split at hwalk
    · rename_i place hplace
      exact ⟨_, place, FileTree.locate_of_directory? hplace, hwalk⟩
    · cases hwalk

/-- A file in the tree, other than the root, is shown with its own name at the end. -/
theorem extensionOf_shown {names : List String} {name : String} (hname : IsName name)
    (hsupported : Dialect.isSupported (fileExtension name) = true)
    (hroot : names ++ [name] ≠ p.place) :
    extensionOf (p.shown (names ++ [name])) = fileExtension name := by
  apply extensionOf_eq_fileExtension
  · exact afterLast_relativeText hname.2 hroot
  · intro hempty
    rw [hempty] at hsupported
    exact absurd hsupported (by decide)

/-- In a tree with a root that is no file, what a walk or a glob finds is collected, and each of
these files has a supported extension by its name, the same by the path that is shown. Hence parsing
it never fails for an unsupported type. -/
theorem walked_files_parse_by_extension (htop : p.top.Named)
    (hroot : ∀ source, ¬p.top.Holds p.place (.file source)) {files : List (List String)}
    (h : p.collect ignores targets = .ok files) (hf : p.IsWalked ignores targets f) :
    f ∈ files ∧ ∃ names name, f = names ++ [name] ∧
      Dialect.isSupported (fileExtension name) = true ∧
      extensionOf (p.shown f) = fileExtension name ∧
      ∀ missing content tree e, Source.parseWithout missing (p.shown f) content tree = .error e →
        ∀ what, e.fault ≠ .unsupported what := by
  obtain ⟨path, place, hplace, hwalk⟩ := hf.exists_walk
  obtain ⟨names, name, source, rfl, hsupported, hholds⟩ := exists_file_of_mem_walk hplace hwalk
  have hname : IsName name :=
    names_of_mem_walk (FileTree.named_of_locate htop hplace) hwalk name (by simp)
  have hne : names ++ [name] ≠ p.place := by
    intro heq
    rw [heq] at hholds
    exact hroot source hholds
  have hext := extensionOf_shown hname hsupported hne
  refine ⟨?_, names, name, rfl, hsupported, hext, ?_⟩
  · obtain ⟨t, ht, -, found, hfound, hmem⟩ := hf
    exact (mem_collect_iff h).mpr ⟨t, ht, mem_collect_singleton_iff.mpr ⟨found, hfound, hmem⟩⟩
  · intro missing content tree e he what
    exact Source.fault_ne_unsupported (by rw [hext, hsupported]) he what

/-! ### A project with many dots -/

def dottedDirectory : FileTree :=
  let empty := FileTree.file { content := [], tree := { root := default } }
  .dir [("v1.2", .dir [("..a.test.ts", empty), (".ts", empty)])]

def dottedProject : Project where
  top := .dir [("app.d", dottedDirectory)]
  cwd := []
  root := .ofText "app.d"

theorem targetFiles_dottedProject :
    dottedProject.targetFiles noIgnores "." = .ok [["app.d", "v1.2", "..a.test.ts"]] := by
  have hplace : dottedProject.top.locate dottedProject.cwd
      (dottedProject.root.join (.ofText ".")) =
        .ok { top := dottedProject.top, below := [("app.d", dottedDirectory)] } := by rfl
  have hts : Dialect.isSupported (fileExtension "..a.test.ts") = true := by decide +kernel
  have hnone : Dialect.isSupported (fileExtension ".ts") = false := by decide +kernel
  have henters : dottedProject.enters noIgnores ["app.d"] "v1.2" = true := by decide +kernel
  rw [targetFiles, hplace]
  simp [FileTree.Place.tree, FileTree.Place.names, dottedDirectory, walk, walkEntries, hts, hnone,
    henters]

/-- Dots at the front of a name and in directories do not keep the two extensions apart. -/
theorem walked_files_parse_by_extension_dotted :
    dottedProject.top.Named ∧
      (∀ source, ¬dottedProject.top.Holds dottedProject.place (.file source)) ∧
      dottedProject.IsWalked noIgnores [] ["app.d", "v1.2", "..a.test.ts"] ∧
      ∃ files, dottedProject.collect noIgnores [] = .ok files ∧
        ["app.d", "v1.2", "..a.test.ts"] ∈ files ∧
        extensionOf (dottedProject.shown ["app.d", "v1.2", "..a.test.ts"]) = ".ts" ∧
        ∀ missing content tree e,
          Source.parseWithout missing (dottedProject.shown ["app.d", "v1.2", "..a.test.ts"]) content
            tree = .error e → ∀ what, e.fault ≠ .unsupported what := by
  have htop : dottedProject.top.Named :=
    .dir (by decide) (.dir (by decide) (.file (by decide) (.file (by decide) .nil)) .nil) .nil
  have hroot : ∀ source, ¬dottedProject.top.Holds dottedProject.place (.file source) := by
    intro source hholds
    have hplace : dottedProject.place = ["app.d"] := by decide +kernel
    rw [hplace] at hholds
    cases hholds with
    | inside hmem hrest =>
        obtain rfl : _ = dottedDirectory := by simpa using hmem
        cases hrest
  have hwalked : dottedProject.IsWalked noIgnores [] ["app.d", "v1.2", "..a.test.ts"] :=
    ⟨".", List.mem_singleton_self ".", rfl, _, targetFiles_dottedProject, List.mem_singleton_self _⟩
  have hcollect : dottedProject.collect noIgnores [] =
      .ok (inOrder [["app.d", "v1.2", "..a.test.ts"]]) := by
    have hsingle := collect_singleton (p := dottedProject) noIgnores "."
    rw [targetFiles_dottedProject] at hsingle
    exact hsingle
  obtain ⟨hmem, names, name, hnames, -, hext, hparse⟩ :=
    walked_files_parse_by_extension htop hroot hcollect hwalked
  have hlast : "..a.test.ts" = name :=
    (List.append_singleton_inj.mp (show ["app.d", "v1.2"] ++ ["..a.test.ts"] = _ from hnames)).2
  refine ⟨htop, hroot, hwalked, _, hcollect, hmem, ?_, hparse⟩
  rw [hext, ← hlast]
  decide +kernel

end Project

end BoundaryLint
