import BoundaryLint.Proofs.Ancestry
import BoundaryLint.Proofs.StateWrites
import BoundaryLint.Rule.PathSeparator

/-!
# Chains of `+`

A chain of `+` has operands, however it is grouped: a `+` may be an operand of another, with or
without parentheses. A string in a chain has an operand or a whole part of the chain beside it at
every `+` on the way up. The search for a path looks at the nearest of these parts only, and not at
all from inside of parentheses. So a report means that some other operand looks like a path, but such
an operand further up goes unseen.
-/
namespace BoundaryLint

/-! ### Parts of texts -/

namespace Text
variable {α : Type} [BEq α] [LawfulBEq α]

theorem leadsBy_iff (front l : List α) : leadsBy (· == ·) front l = true ↔ front <+: l := by
  induction front generalizing l with
  | nil => simp [leadsBy]
  | cons a front ih =>
      cases l with
      | nil => simp [leadsBy]
      | cons b l => rw [leadsBy, Bool.and_eq_true, beq_iff_eq, ih, List.cons_prefix_cons]

theorem holdsBy_iff (part l : List α) : holdsBy (· == ·) part l = true ↔ part <:+: l := by
  induction l with
  | nil => rw [holdsBy, leadsBy_iff, List.prefix_nil, List.infix_nil]
  | cons b l ih => rw [holdsBy, Bool.or_eq_true, leadsBy_iff, ih, List.infix_cons_iff]

theorem holds_iff (part s : String) : holds part s = true ↔ part.toList <:+: s.toList :=
  holdsBy_iff part.toList s.toList

end Text

theorem Node.unwrapped_unwrapped (n : Node) : n.unwrapped.unwrapped = n.unwrapped := by
  fun_induction unwrapped n with
  | case1 n _ c _ _ ih => exact ih
  | case2 n hkind hother =>
      rw [unwrapped, if_pos hkind]
      split
      · rename_i c hc
        exact absurd hc (hother c)
      · rfl
  | case3 n hkind => exact unwrapped_of_ne (by simpa using hkind)

theorem Source.isPathLike_unwrapped (s : Source) (n : Node) :
    s.isPathLike n.unwrapped = s.isPathLike n := by
  rw [isPathLike, isPathLike, n.unwrapped_unwrapped]

namespace PathSeparator

theorem hasSeparator_iff (text : String) :
    hasSeparator text = true ↔
      (∀ marker ∈ urlMarkers, ¬ marker.toList <:+: text.toList) ∧
        ('/' ∈ text.toList ∨ '\\' ∈ text.toList) := by
  rw [hasSeparator, Bool.and_eq_true, Bool.not_eq_true', List.any_eq_false, List.any_eq_true]
  constructor
  · intro h
    refine ⟨fun marker hmarker => (not_congr (Text.holds_iff marker text)).mp (h.1 marker hmarker), ?_⟩
    obtain ⟨c, hc, hsep⟩ := h.2
    rw [Bool.or_eq_true, beq_iff_eq, beq_iff_eq] at hsep
    rcases hsep with rfl | rfl
    · exact .inl hc
    · exact .inr hc
  · intro h
    refine ⟨fun marker hmarker => (not_congr (Text.holds_iff marker text)).mpr (h.1 marker hmarker), ?_⟩
    rcases h.2 with hc | hc
    · exact ⟨_, hc, rfl⟩
    · exact ⟨_, hc, rfl⟩

/-! ### Operands -/

/-- The second node is an operand of the chain that the first one is; what is no `+` is its own and
only operand. Parentheses do not count. -/
inductive Operand : Node → Node → Prop
  | self {n : Node} : isPlus n.unwrapped = false → Operand n n.unwrapped
  | left {n l o : Node} : isPlus n.unwrapped = true → n.unwrapped.child? "left" = some l →
      Operand l o → Operand n o
  | right {n r o : Node} : isPlus n.unwrapped = true → n.unwrapped.child? "right" = some r →
      Operand r o → Operand n o

theorem kind_of_isPlus {n : Node} (h : isPlus n = true) : n.kind = "binary_expression" := by
  rw [isPlus, Bool.and_eq_true, beq_iff_eq] at h
  exact h.1

theorem unwrapped_of_isPlus {n : Node} (h : isPlus n = true) : n.unwrapped = n :=
  Node.unwrapped_of_ne (by simp [kind_of_isPlus h])

/-- A `+` is no access and no call, so it does not look like a path itself. -/
theorem isPathLike_of_isPlus (s : Source) {n : Node} (h : isPlus n.unwrapped = true) :
    s.isPathLike n = false := by
  have hkind := kind_of_isPlus h
  have hchain : s.chain? n.unwrapped = none := by
    rw [Source.chain?, s.chainFrom_eq, n.unwrapped_unwrapped, hkind]
    rfl
  rw [Source.isPathLike, if_neg (by simp [hkind]), hchain]

theorem operand_iff_of_not_isPlus {n o : Node} (h : isPlus n.unwrapped = false) :
    Operand n o ↔ o = n.unwrapped := by
  constructor
  · intro ho
    cases ho with
    | self => rfl
    | left hplus => exact absurd (h.symm.trans hplus) Bool.false_ne_true
    | right hplus => exact absurd (h.symm.trans hplus) Bool.false_ne_true
  · intro ho
    exact ho ▸ .self h

theorem operand_refl {n : Node} (hkind : n.kind ≠ "parenthesized_expression")
    (h : isPlus n = false) : Operand n n := by
  have hunwrapped := Node.unwrapped_of_ne hkind
  rw [operand_iff_of_not_isPlus (by rw [hunwrapped, h]), hunwrapped]

theorem operand_iff_of_isPlus {n l r o : Node} (h : isPlus n = true)
    (hl : n.child? "left" = some l) (hr : n.child? "right" = some r) :
    Operand n o ↔ Operand l o ∨ Operand r o := by
  have hunwrapped := unwrapped_of_isPlus h
  constructor
  · intro ho
    cases ho with
    | self hplus =>
        rw [hunwrapped, h] at hplus
        cases hplus
    | left _ hl' ho =>
        rw [hunwrapped, hl] at hl'
        cases hl'
        exact .inl ho
    | right _ hr' ho =>
        rw [hunwrapped, hr] at hr'
        cases hr'
        exact .inr ho
  · intro ho
    rcases ho with ho | ho
    · exact .left (by rw [hunwrapped, h]) (by rw [hunwrapped, hl]) ho
    · exact .right (by rw [hunwrapped, h]) (by rw [hunwrapped, hr]) ho

theorem operand_congr {n m o : Node} (h : n.unwrapped = m.unwrapped) : Operand n o → Operand m o := by
  intro ho
  cases ho with
  | self hplus => exact h ▸ .self (h ▸ hplus)
  | left hplus hl ho => exact .left (h ▸ hplus) (h ▸ hl) ho
  | right hplus hr ho => exact .right (h ▸ hplus) (h ▸ hr) ho

/-! ### The search below -/

/-- Whether the search for a path succeeds in a part of a chain. -/
def partHasPath (s : Source) (n : Node) : Bool :=
  s.isPathLike n || concatHasPath s n

theorem concatHasPath_eq (s : Source) (n : Node) :
    concatHasPath s n = (isPlus n.unwrapped &&
      ((n.unwrapped.child? "left").any (partHasPath s) ||
        (n.unwrapped.child? "right").any (partHasPath s))) := by
  rw [concatHasPath]
  cases hplus : isPlus n.unwrapped with
  | false => rfl
  | true =>
      rw [if_pos rfl, Bool.true_and]
      congr 1
      · split
        · rename_i l hl
          exact (congrArg (Option.any (partHasPath s)) hl).symm
        · rename_i hl
          exact (congrArg (Option.any (partHasPath s)) hl).symm
      · split
        · rename_i r hr
          exact (congrArg (Option.any (partHasPath s)) hr).symm
        · rename_i hr
          exact (congrArg (Option.any (partHasPath s)) hr).symm

/-- The search goes through all operands of a part. -/
theorem partHasPath_iff (s : Source) (n : Node) :
    partHasPath s n = true ↔ ∃ o, Operand n o ∧ s.isPathLike o = true := by
  induction hn : sizeOf n using Nat.strongRecOn generalizing n with
  | _ size ih =>
      have hside : ∀ {field : String} {c : Node}, n.unwrapped.child? field = some c →
          (partHasPath s c = true ↔ ∃ o, Operand c o ∧ s.isPathLike o = true) := by
        intro field c hc
        have hlt := Node.sizeOf_lt_of_child? hc
        have hle := n.sizeOf_unwrapped_le
        exact ih (sizeOf c) (by omega) c rfl
      rw [partHasPath, concatHasPath_eq]
      cases hplus : isPlus n.unwrapped with
      | false =>
          simp only [Bool.false_and, Bool.or_false, operand_iff_of_not_isPlus hplus, exists_eq_left,
            s.isPathLike_unwrapped]
      | true =>
          rw [isPathLike_of_isPlus s hplus, Bool.false_or, Bool.true_and, Bool.or_eq_true,
            Option.any_eq_true, Option.any_eq_true]
          constructor
          · intro h
            rcases h with ⟨l, hl, hpath⟩ | ⟨r, hr, hpath⟩
            · obtain ⟨o, ho, hlike⟩ := (hside hl).mp hpath
              exact ⟨o, .left hplus hl ho, hlike⟩
            · obtain ⟨o, ho, hlike⟩ := (hside hr).mp hpath
              exact ⟨o, .right hplus hr ho, hlike⟩
          · intro h
            obtain ⟨o, ho, hlike⟩ := h
            cases ho with
            | self hfalse => exact absurd (hfalse.symm.trans hplus) Bool.false_ne_true
            | left _ hl ho => exact .inl ⟨_, hl, (hside hl).mpr ⟨o, ho, hlike⟩⟩
            | right _ hr ho => exact .inr ⟨_, hr, (hside hr).mpr ⟨o, ho, hlike⟩⟩

/-! ### Places in a chain -/

/-- A step from a place in a chain outwards: through parentheses, or to a `+` with another part of
the chain on its other side. -/
inductive Step where
  | parens
  | beside (part : Node)

/-- The second site is a part of the chain that the first one is, reached by the steps, which are
listed from the inside out. -/
inductive InChain (top : Site) : List Step → Site → Prop
  | top : InChain top [] top
  | parens {p u : Site} {steps : List Step} : p.IsParent u →
      p.node.kind = "parenthesized_expression" → p.node.expressions = [u.node] →
      InChain top steps p → InChain top (.parens :: steps) u
  | left {p u : Site} {r : Node} {steps : List Step} : p.IsParent u → isPlus p.node = true →
      p.node.child? "left" = some u.node → p.node.child? "right" = some r →
      InChain top steps p → InChain top (.beside r :: steps) u
  | right {p u : Site} {l : Node} {steps : List Step} : p.IsParent u → isPlus p.node = true →
      p.node.child? "left" = some l → p.node.child? "right" = some u.node →
      InChain top steps p → InChain top (.beside l :: steps) u

/-- An operand of the chain other than the one at the place. -/
def Other (steps : List Step) (o : Node) : Prop :=
  ∃ part, Step.beside part ∈ steps ∧ Operand part o

/-- An operand on the other side of the `+` right around the place. -/
def Nearest (steps : List Step) (o : Node) : Prop :=
  ∃ part, steps.head? = some (.beside part) ∧ Operand part o

theorem Nearest.other {steps : List Step} {o : Node} (h : Nearest steps o) : Other steps o := by
  obtain ⟨part, hhead, ho⟩ := h
  exact ⟨part, List.mem_of_head? hhead, ho⟩

theorem nearest_iff_other {steps : List Step} (h : steps.length = 1) (o : Node) :
    Nearest steps o ↔ Other steps o := by
  obtain ⟨step, rfl⟩ := List.length_eq_one_iff.mp h
  simp [Nearest, Other, eq_comm]

theorem other_parens_iff {steps : List Step} {o : Node} :
    Other (.parens :: steps) o ↔ Other steps o := by
  simp [Other]

theorem other_beside_iff {part : Node} {steps : List Step} {o : Node} :
    Other (.beside part :: steps) o ↔ Operand part o ∨ Other steps o := by
  simp [Other, or_and_right, exists_or]

/-- The operands of a chain are those at a place of it and the others. -/
theorem InChain.operand_iff {top t : Site} {steps : List Step} (h : InChain top steps t) (o : Node) :
    Operand top.node o ↔ Operand t.node o ∨ Other steps o := by
  induction h with
  | top => simp [Other]
  | @parens p u steps _ hkind hexpr _ ih =>
      have hunwrapped := Node.unwrapped_of_parens hkind hexpr
      have hsame : Operand p.node o ↔ Operand u.node o :=
        ⟨operand_congr hunwrapped, operand_congr hunwrapped.symm⟩
      rw [ih, hsame, other_parens_iff]
  | left _ hplus hl hr _ ih =>
      rw [ih, operand_iff_of_isPlus hplus hl hr, other_beside_iff, or_assoc]
  | right _ hplus hl hr _ ih =>
      rw [ih, operand_iff_of_isPlus hplus hl hr, other_beside_iff, or_assoc, or_left_comm]

/-! ### What is reported -/

theorem field_of_child? {n c : Node} {field : String} (h : n.child? field = some c) :
    c.field = some field := by
  have hfield := List.find?_some h
  exact beq_iff_eq.mp hfield

/-- The search starts on the other side of the `+` right around a string. -/
theorem InChain.flagsString_iff {s : Source} {top t : Site} {steps : List Step}
    (h : InChain top steps t) (hplus : isPlus top.node = true) (hkind : t.node.kind = "string")
    (hsep : hasSeparator (s.literal t.node) = true) :
    flagsString s t = true ↔ ∃ o, Nearest steps o ∧ s.isPathLike o = true := by
  have hnearest : ∀ {part : Node} {steps : List Step},
      (partHasPath s part = true ↔ ∃ o, Nearest (.beside part :: steps) o ∧ s.isPathLike o = true) := by
    intro part steps
    simp [partHasPath_iff, Nearest]
  rw [flagsString, hsep, Bool.true_and, Site.parent?]
  cases h with
  | top =>
      have hbinary := kind_of_isPlus hplus
      rw [hkind] at hbinary
      exact absurd hbinary (by decide)
  | parens hparent hparens _ _ =>
      rw [hparent.ancestors, List.head?_cons, Option.any_some, isPlus, hparens]
      simp [Nearest]
  | left hparent hp hl hr _ =>
      rw [hparent.ancestors, List.head?_cons, Option.any_some, hp, Bool.true_and, field_of_child? hl,
        if_pos (by decide), hr, Option.any_some]
      exact hnearest
  | right hparent hp hl hr _ =>
      rw [hparent.ancestors, List.head?_cons, Option.any_some, hp, Bool.true_and, field_of_child? hr,
        if_neg (by decide), hl, Option.any_some]
      exact hnearest

/-- A string with a separator and no mark of an address, anywhere in a chain of `+`, is reported
exactly if it stands right in a `+`, without parentheses, and some operand on the other side of that
`+` looks like a path. Then some other operand of the chain does, and for a string in the outermost
`+` the two are the same. -/
theorem reported_iff_nearest_looks_like_path {s : Source} {top t : Site} {steps : List Step}
    (ht : t ∈ s.sites) (hkind : t.node.kind = "string")
    (hplain : ∀ marker ∈ urlMarkers, ¬ marker.toList <:+: (s.literal t.node).toList)
    (hsep : '/' ∈ (s.literal t.node).toList ∨ '\\' ∈ (s.literal t.node).toList)
    (hplus : isPlus top.node = true) (hchain : InChain top steps t) (e : Entry) :
    rule.rule.check s e = .ok ((rule.flagged s).map fun u => s.report u.node e rule.message) ∧
      (∀ o, Operand top.node o ↔ o = t.node ∨ Other steps o) ∧
      (t ∈ rule.flagged s ↔ ∃ o, Nearest steps o ∧ s.isPathLike o = true) ∧
      (t ∈ rule.flagged s → ∃ o, Other steps o ∧ s.isPathLike o = true) ∧
      (steps.length = 1 →
        (t ∈ rule.flagged s ↔ ∃ o, Other steps o ∧ s.isPathLike o = true)) := by
  have hunwrapped : t.node.unwrapped = t.node := Node.unwrapped_of_ne (by simp [hkind])
  have hnot : isPlus t.node.unwrapped = false := by simp [hunwrapped, isPlus, hkind]
  have hflags : rule.flags s t = flagsString s t := by
    change flags s t = _
    rw [flags, if_neg (by simp [hkind])]
  have hiff : t ∈ rule.flagged s ↔ ∃ o, Nearest steps o ∧ s.isPathLike o = true := by
    have hin : rule.kinds.contains t.node.kind = true := by
      rw [hkind]
      decide
    rw [NodeRule.flagged, List.mem_filter, hin, Bool.true_and, hflags,
      hchain.flagsString_iff hplus hkind ((hasSeparator_iff _).mpr ⟨hplain, hsep⟩)]
    exact and_iff_right ht
  refine ⟨rfl, fun o => ?_, hiff, fun h => ?_, fun hlength => ?_⟩
  · rw [hchain.operand_iff, operand_iff_of_not_isPlus hnot, hunwrapped]
  · obtain ⟨o, ho, hlike⟩ := hiff.mp h
    exact ⟨o, ho.other, hlike⟩
  · rw [hiff]
    simp only [nearest_iff_other hlength]

/-! ### One chain in two groupings -/

/-- A `+` that is an operand of no other one. -/
def IsTop (t : Site) : Prop :=
  isPlus t.node = true ∧
    (t.ancestors.dropWhile (·.kind == "parenthesized_expression")).head?.all (!isPlus ·) = true

def named (field : String) (start stop : Nat) : Node :=
  .mk { kind := "identifier", start, stop, field := some field } []

def slash (field : Option String) (start : Nat) : Node :=
  .mk { kind := "string", start, stop := start + 3, field } []

def sum (field : Option String) (left right : Node) : Node :=
  .mk { kind := "binary_expression", start := left.label.start, stop := right.label.stop, field }
    [left,
     .mk { kind := "+", named := false, start := left.label.stop + 1, stop := left.label.stop + 2,
           field := some "operator" } [],
     right]

def inParens (n : Node) : Node :=
  .mk { kind := "parenthesized_expression", start := n.label.start - 1, stop := n.label.stop + 1,
        field := some "right" } [n]

def chainSource (text : String) (root : Node) : Source where
  path := "a.ts"
  content := text.toUTF8.toList
  root

def rightPair : Node := sum none (slash (some "left") 5) (named "right" 11 14)

/-- The chain `a + ('/' + dir)`. -/
def rightGrouped : Node := sum none (named "left" 0 1) (inParens rightPair)

def rightSource : Source := chainSource "a + ('/' + dir)" rightGrouped

def rightSlash : Site := ⟨slash (some "left") 5, [rightPair, inParens rightPair, rightGrouped]⟩

/-- Next to the path, the separator is reported from inside of a group. -/
theorem reported_iff_nearest_looks_like_path_rightGrouped :
    IsTop ⟨rightGrouped, []⟩ ∧
      InChain ⟨rightGrouped, []⟩ [.beside (named "right" 11 14), .parens, .beside (named "left" 0 1)]
        rightSlash ∧
      rightSlash ∈ rule.flagged rightSource := by
  have hmem : rightSlash ∈ rightSource.sites := List.mem_of_getElem? (i := 5) rfl
  have hchain : InChain ⟨rightGrouped, []⟩
      [.beside (named "right" 11 14), .parens, .beside (named "left" 0 1)] rightSlash :=
    .left (p := ⟨rightPair, [inParens rightPair, rightGrouped]⟩)
      ⟨List.mem_of_getElem? (i := 0) rfl, rfl⟩ rfl rfl rfl
      (.parens (p := ⟨inParens rightPair, [rightGrouped]⟩)
        ⟨List.mem_of_getElem? (i := 0) rfl, rfl⟩ rfl rfl
        (.right ⟨List.mem_of_getElem? (i := 2) rfl, rfl⟩ rfl rfl rfl .top))
  have hseparator : hasSeparator (rightSource.literal rightSlash.node) = true := by decide +kernel
  obtain ⟨hplain, hsep⟩ := (hasSeparator_iff _).mp hseparator
  have hiff := (reported_iff_nearest_looks_like_path hmem rfl hplain hsep rfl hchain
    ⟨rule.id, .error, .none, 0, ""⟩).2.2.1
  refine ⟨⟨rfl, rfl⟩, hchain, hiff.mpr ?_⟩
  exact ⟨named "right" 11 14, ⟨_, rfl, operand_refl (by decide) rfl⟩, by decide +kernel⟩

/-- A string with a separator that is not reported, though another operand of its chain looks like a
path. -/
structure Missed (s : Source) (top t : Site) : Prop where
  inTree : t ∈ s.sites
  isString : t.node.kind = "string"
  hasSeparator : hasSeparator (s.literal t.node) = true
  isTop : IsTop top
  inChain : ∃ steps, InChain top steps t ∧ ∃ o, Other steps o ∧ s.isPathLike o = true
  unreported : t ∉ rule.flagged s

def leftPair : Node := sum (some "left") (named "left" 0 1) (slash (some "right") 4)

/-- The chain `a + '/' + dir`. -/
def leftGrouped : Node := sum none leftPair (named "right" 10 13)

/-- The chain `dir + ('/')`. -/
def inGroup : Node := sum none (named "left" 0 3) (inParens (slash none 7))

/-- A path further up in the chain is not seen, nor is any from inside of parentheses. -/
theorem grouping_hides_paths :
    Missed (chainSource "a + '/' + dir" leftGrouped) ⟨leftGrouped, []⟩
        ⟨slash (some "right") 4, [leftPair, leftGrouped]⟩ ∧
      Missed (chainSource "dir + ('/')" inGroup) ⟨inGroup, []⟩
        ⟨slash none 7, [inParens (slash none 7), inGroup]⟩ := by
  constructor
  · refine ⟨List.mem_of_getElem? (i := 4) rfl, rfl, by decide +kernel, ⟨rfl, rfl⟩, ?_, ?_⟩
    · refine ⟨[.beside (named "left" 0 1), .beside (named "right" 10 13)], ?_, named "right" 10 13,
        ?_, by decide +kernel⟩
      · exact .right (p := ⟨leftPair, [leftGrouped]⟩) ⟨List.mem_of_getElem? (i := 2) rfl, rfl⟩ rfl
          rfl rfl (.left ⟨List.mem_of_getElem? (i := 0) rfl, rfl⟩ rfl rfl rfl .top)
      · exact ⟨_, List.mem_of_getElem? (i := 1) rfl, operand_refl (by decide) rfl⟩
    · intro h
      exact absurd (List.mem_filter.mp h).2 (by decide +kernel)
  · refine ⟨List.mem_of_getElem? (i := 4) rfl, rfl, by decide +kernel, ⟨rfl, rfl⟩, ?_, ?_⟩
    · refine ⟨[.parens, .beside (named "left" 0 3)], ?_, named "left" 0 3, ?_, by decide +kernel⟩
      · exact .parens (p := ⟨inParens (slash none 7), [inGroup]⟩)
          ⟨List.mem_of_getElem? (i := 0) rfl, rfl⟩ rfl rfl
          (.right ⟨List.mem_of_getElem? (i := 2) rfl, rfl⟩ rfl rfl rfl .top)
      · exact ⟨_, List.mem_of_getElem? (i := 1) rfl, operand_refl (by decide) rfl⟩
    · intro h
      exact absurd (List.mem_filter.mp h).2 (by decide +kernel)

end PathSeparator

end BoundaryLint
