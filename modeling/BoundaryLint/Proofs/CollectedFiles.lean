import BoundaryLint.Project.Collect
import BoundaryLint.Proofs.Checked
import BoundaryLint.Proofs.StableSort

/-!
# The order of collected files

The names in a directory tree are not empty and have no slash, so no two places have the same text.
Hence the files that are collected are in strictly ascending order, and the list is known once its
members are.
-/
namespace BoundaryLint

/-! ### Names and the texts of places -/

/-- A name that a directory can hold. -/
def IsName (s : String) : Prop := s ≠ "" ∧ '/' ∉ s.toList

instance (s : String) : Decidable (IsName s) := inferInstanceAs (Decidable (_ ∧ _))

theorem splitOn_placeText {place : List String} (h : ∀ n ∈ place, IsName n) (hne : place ≠ []) :
    (placeText place).toList.tail.splitOn '/' = place.map String.toList := by
  have htail : (placeText place).toList.tail = ['/'].intercalate (place.map String.toList) := by
    rw [placeText, String.toList_append, String.toList_intercalate]
    rfl
  rw [htail]
  apply List.splitOn_intercalate
  · intro l hl
    obtain ⟨n, hn, rfl⟩ := List.mem_map.mp hl
    exact (h n hn).2
  · simpa using hne

def placeNames (text : String) : List String :=
  if text.toList.tail.isEmpty then [] else (text.toList.tail.splitOn '/').map String.ofList

theorem placeNames_placeText {place : List String} (h : ∀ n ∈ place, IsName n) :
    placeNames (placeText place) = place := by
  cases place with
  | nil => simp [placeNames, placeText]
  | cons n l =>
      have hsplit := splitOn_placeText h (List.cons_ne_nil n l)
      have htail : (placeText (n :: l)).toList.tail.isEmpty = false := by
        rw [List.isEmpty_eq_false_iff]
        intro htail
        rw [htail] at hsplit
        have hempty : [] = n.toList := (List.cons.inj hsplit).1
        exact (h n (by simp)).1 (String.toList_eq_nil_iff.mp hempty.symm)
      rw [placeNames, htail, if_neg (by simp), hsplit, List.map_map]
      simp [Function.comp_def]

theorem placeText_injective {a b : List String} (ha : ∀ n ∈ a, IsName n) (hb : ∀ n ∈ b, IsName n)
    (h : placeText a = placeText b) : a = b := by
  rw [← placeNames_placeText ha, h, placeNames_placeText hb]

namespace FileTree

inductive NamedEntries : List (String × FileTree) → Prop
  | nil : NamedEntries []
  | file {name : String} {f : SourceFile} {rest : List (String × FileTree)} :
      IsName name → NamedEntries rest → NamedEntries ((name, .file f) :: rest)
  | dir {name : String} {entries rest : List (String × FileTree)} :
      IsName name → NamedEntries entries → NamedEntries rest →
      NamedEntries ((name, .dir entries) :: rest)

/-- A tree whose files and directories all have names. -/
def Named : FileTree → Prop
  | .file _ => True
  | .dir entries => NamedEntries entries

theorem named_of_mem {entries : List (String × FileTree)} (h : NamedEntries entries)
    {e : String × FileTree} (he : e ∈ entries) : IsName e.1 ∧ e.2.Named := by
  induction h with
  | nil => cases he
  | file hname _ ih =>
      rcases List.mem_cons.mp he with rfl | he
      · exact ⟨hname, trivial⟩
      · exact ih he
  | dir hname hentries _ _ ih =>
      rcases List.mem_cons.mp he with rfl | he
      · exact ⟨hname, hentries⟩
      · exact ih he

namespace Place

/-- One name on is the place before, or an entry of the directory. -/
theorem step_cases {p q : Place} {name : String} (h : p.step name = .ok q) :
    q = { p with below := p.below.tail } ∨
      ∃ entries t, p.tree = .dir entries ∧ (name, t) ∈ entries ∧
        q = { p with below := (name, t) :: p.below } := by
  unfold Place.step at h
  split at h
  · cases h
  · rename_i entries hentries
    split at h
    · cases h
      exact .inl rfl
    · split at h
      · cases h
      · split at h
        · cases h
        · rename_i t hchild
          cases h
          obtain ⟨e, hfind, rfl⟩ := Option.map_eq_some_iff.mp hchild
          have hname : e.1 = name := by simpa using List.find?_some hfind
          rw [← hname]
          exact .inr ⟨entries, e.2, hentries, List.mem_of_find?_eq_some hfind, rfl⟩

/-- A place in a tree with names, reached by names. -/
structure Named (p : Place) : Prop where
  top : p.top.Named
  below : ∀ e ∈ p.below, IsName e.1 ∧ e.2.Named

theorem Named.tree {p : Place} (h : p.Named) : p.tree.Named := by
  unfold Place.tree
  split
  · exact h.top
  · rename_i hbelow
    exact (h.below _ (by rw [hbelow]; exact List.mem_cons_self)).2

theorem Named.names {p : Place} (h : p.Named) : ∀ n ∈ p.names, IsName n := by
  intro n hn
  obtain ⟨e, he, rfl⟩ := List.mem_map.mp (List.mem_reverse.mp hn)
  exact (h.below e he).1

theorem Named.step {p q : Place} {name : String} (h : p.Named) (hstep : p.step name = .ok q) :
    q.Named := by
  rcases step_cases hstep with rfl | ⟨entries, t, hentries, hmem, rfl⟩
  · exact ⟨h.top, fun e he => h.below e (List.mem_of_mem_tail he)⟩
  · have htree := h.tree
    rw [hentries] at htree
    refine ⟨h.top, fun e he => ?_⟩
    rcases List.mem_cons.mp he with rfl | he
    · exact named_of_mem htree hmem
    · exact h.below e he

end Place

/-- What holds at the top and is kept by every step holds wherever a path leads. -/
theorem locate_induction (inv : Place → Prop) {top : FileTree} {cwd : List String} {path : Path}
    {p : Place} (hstart : inv { top })
    (hstep : ∀ q r : Place, ∀ name, inv q → q.step name = .ok r → inv r)
    (h : top.locate cwd path = .ok p) : inv p := by
  unfold locate at h
  split at h
  · cases h
  · generalize (if path.absolute then [] else cwd) ++ path.names = names at h
    generalize ({ top } : Place) = start at h hstart
    induction names generalizing start with
    | nil =>
        cases h
        exact hstart
    | cons name names ih =>
        rw [List.foldlM_cons] at h
        obtain ⟨q, hq, h⟩ := bind_eq_ok_iff.mp h
        exact ih q h (hstep start q name hstart hq)

theorem named_of_locate {top : FileTree} {cwd : List String} {path : Path} {p : Place}
    (htop : top.Named) (h : top.locate cwd path = .ok p) : p.Named :=
  locate_induction Place.Named ⟨htop, by simp⟩ (fun _ _ _ hq hstep => hq.step hstep) h

theorem locate_of_directory? {top : FileTree} {cwd : List String} {path : Path} {p : Place}
    (h : top.directory? cwd path = some p) : top.locate cwd path = .ok p := by
  unfold directory? at h
  split at h
  · rename_i hlocate
    split at h
    · cases h
      exact hlocate
    · cases h
  · cases h

end FileTree

/-! ### The files of targets -/

namespace Project
variable {p : Project} {ignores : GlobSet}

theorem names_of_mem_walkEntries {place : List String} {entries : List (String × FileTree)}
    (hplace : ∀ n ∈ place, IsName n) (h : FileTree.NamedEntries entries) {f : List String}
    (hf : f ∈ p.walkEntries ignores place entries) : ∀ n ∈ f, IsName n := by
  induction h generalizing place with
  | nil => simp [walkEntries] at hf
  | @file name _ rest hname _ ih =>
      simp only [walkEntries] at hf
      split at hf
      · rcases List.mem_cons.mp hf with rfl | hf
        · simpa [or_imp, forall_and, hname] using hplace
        · exact ih hplace hf
      · exact ih hplace hf
  | @dir name entries rest hname _ _ ih ih' =>
      have hbelow : ∀ n ∈ place ++ [name], IsName n := by
        simpa [or_imp, forall_and, hname] using hplace
      simp only [walkEntries] at hf
      split at hf
      · rcases List.mem_append.mp hf with hf | hf
        · exact ih hbelow hf
        · exact ih' hplace hf
      · exact ih' hplace hf

theorem names_of_mem_walk {place : FileTree.Place} (h : place.Named) {f : List String}
    (hf : f ∈ p.walk ignores place.names place.tree) : ∀ n ∈ f, IsName n := by
  have htree := h.tree
  unfold walk at hf
  split at hf
  · cases hf
  · rename_i entries hentries
    rw [hentries] at htree
    exact names_of_mem_walkEntries h.names htree hf

theorem names_of_mem_walkFrom (htop : p.top.Named) {path : Path} {f : List String}
    (hf : f ∈ p.walkFrom ignores path) : ∀ n ∈ f, IsName n := by
  unfold walkFrom at hf
  split at hf
  · rename_i hplace
    have hlocate := FileTree.locate_of_directory? hplace
    exact names_of_mem_walk (FileTree.named_of_locate htop hlocate) hf
  · cases hf

theorem names_of_mem_targetFiles (htop : p.top.Named) {target : String} {files : List (List String)}
    (h : p.targetFiles ignores target = .ok files) {f : List String} (hf : f ∈ files) :
    ∀ n ∈ f, IsName n := by
  unfold targetFiles at h
  dsimp only at h
  split at h
  · rename_i place hplace
    have hnamed := FileTree.named_of_locate htop hplace
    split at h
    · cases h
      obtain rfl := List.mem_singleton.mp hf
      exact hnamed.names
    · cases h
      exact names_of_mem_walk hnamed hf
  · cases h
  · obtain ⟨glob, -, h⟩ := bind_eq_ok_iff.mp h
    cases h
    exact names_of_mem_walkFrom htop (List.mem_of_mem_filter hf)

theorem mem_flatten_of_mapM {targets : List String} {found : List (List (List String))}
    (h : targets.mapM (p.targetFiles ignores) = .ok found) {f : List String} :
    f ∈ found.flatten ↔
      ∃ t ∈ targets, ∃ files, p.targetFiles ignores t = .ok files ∧ f ∈ files := by
  rw [List.mem_flatten]
  constructor
  · rintro ⟨files, hfiles, hf⟩
    obtain ⟨t, ht, hread⟩ := exists_of_mapM_eq_ok h hfiles
    exact ⟨t, ht, files, hread, hf⟩
  · rintro ⟨t, ht, files, hread, hf⟩
    obtain ⟨files', hfiles', hread'⟩ := exists_mem_of_mapM_eq_ok h ht
    rw [hread] at hread'
    cases hread'
    exact ⟨files, hfiles', hf⟩

/-! ### Places in order -/

theorem mem_inOrder {places : List (List String)} {f : List String} :
    f ∈ inOrder places ↔ f ∈ places := by
  simp [inOrder]

theorem le_placeText_eq_decide (a b : List String) :
    (!decide (placeText b < placeText a)) = decide (placeText a ≤ placeText b) := by
  simp [← decide_not]

theorem filter_inOrder (places : List (List String)) (keep : List String → Bool) :
    (inOrder places).filter keep = inOrder (places.filter keep) := by
  rw [inOrder, filter_eraseDups, filter_mergeSort placeText _ le_placeText_eq_decide, inOrder]

theorem inOrder_ascending {places : List (List String)}
    (h : ∀ f ∈ places, ∀ n ∈ f, IsName n) :
    (inOrder places).Pairwise (placeText · < placeText ·) := by
  have hle : (inOrder places).Pairwise (placeText · ≤ placeText ·) :=
    (mergeSort_stablySorted placeText _ le_placeText_eq_decide places).ordered.sublist
      (eraseDups_sublist _)
  have hne : (inOrder places).Nodup := nodup_eraseDups _
  refine (hle.and hne).imp_of_mem ?_
  intro a b ha hb hab
  refine lt_of_le_of_ne hab.1 fun heq => hab.2 ?_
  exact placeText_injective (h a (mem_inOrder.mp ha)) (h b (mem_inOrder.mp hb)) heq

theorem inOrder_congr {places places' : List (List String)}
    (h : ∀ f ∈ places, ∀ n ∈ f, IsName n) (hmem : ∀ f, f ∈ places ↔ f ∈ places') :
    inOrder places = inOrder places' := by
  have hascending := inOrder_ascending h
  have hascending' := inOrder_ascending fun f hf => h f ((hmem f).mpr hf)
  refine List.Perm.eq_of_pairwise (fun a b _ _ hab hba => absurd hab hba.asymm) hascending
    hascending' ?_
  apply (List.perm_ext_iff_of_nodup (nodup_eraseDups _) (nodup_eraseDups _)).mpr
  intro f
  exact mem_inOrder.trans ((hmem f).trans mem_inOrder.symm)

end Project

end BoundaryLint
