import BoundaryLint.Proofs.Checked
import BoundaryLint.Proofs.SteadyReaders

/-!
# Modes that only leaves look at

The modes `i`, `m` and `s` change what the leaves of an expression match. Whether a text is a pattern
does not depend on them: with the modes of the leaves left aside, the expression is the same, and so
are the errors. A pattern has the modes it was given and those that its own text switches on.
-/
namespace BoundaryLint.Regex

def isLeafMode (c : Char) : Bool :=
  c == 'i' || c == 'm' || c == 's'

namespace Flags
variable {f g : Flags}

/-- The modes agree, apart from those that only leaves look at. -/
def SameControl (f g : Flags) : Prop :=
  ∀ c, isLeafMode c = false → f.has c = g.has c

theorem sameControl_of_leafModes {ms : List Char} (hms : ∀ c ∈ ms, isLeafMode c = true)
    (h : ∀ c, g.has c = (f.has c || ms.contains c)) : f.SameControl g := by
  intro c hc
  have hmem : ms.contains c = false := by
    rw [List.contains_eq_mem, decide_eq_false_iff_not]
    intro hmem
    rw [hms c hmem] at hc
    cases hc
  rw [h, hmem, Bool.or_false]

theorem has_filter (f : Flags) (p : Char → Bool) (c : Char) :
    has ⟨f.letters.filter p⟩ c = (f.has c && p c) := by
  rw [Bool.eq_iff_iff]
  simp [has]

theorem SameControl.within (h : f.SameControl g) (on off : Flags) :
    (f.within on off).SameControl (g.within on off) := by
  intro c hc
  unfold Flags.within without
  dsimp only
  rw [has_filter, has_filter, has_union, has_union]
  split
  · rw [has_filter, has_filter, h c hc]
  · rw [h c hc]

end Flags

/-! ### Expressions without the modes of their leaves -/

def Anchor.bare : Anchor → Anchor
  | .lineStart => .textStart
  | .lineEnd => .finalEnd
  | a => a

/-- The expression under no modes. -/
def Node.bare : Node → Node
  | .empty => .empty
  | .char code _ => .char code .exact
  | .set s _ => .set s .exact
  | .any _ => .any false
  | .anchor a => .anchor a.bare
  | .seq a b => .seq a.bare b.bare
  | .alt a b => .alt a.bare b.bare
  | .group body => .group body.bare
  | .capture i body => .capture i body.bare
  | .loop lo hi greed body => .loop lo hi greed body.bare
  | .atomic body => .atomic body.bare
  | .backref i _ => .backref i .exact
  | .ifGroup i yes no => .ifGroup i yes.bare no.bare
  | .ahead negated body => .ahead negated body.bare
  | .behind negated width body => .behind negated width body.bare

namespace Node

theorem width_bare (groups : List (Nat × Width)) (n : Node) :
    n.bare.width groups = n.width groups := by
  induction n with
  | seq a b iha ihb | alt a b iha ihb | ifGroup i a b iha ihb =>
      simp only [bare, width, iha, ihb]
  | group body ih | capture i body ih | loop lo hi greed body ih | atomic body ih =>
      simp only [bare, width, ih]
  | _ => rfl

theorem firstLoop?_bare (n : Node) : n.bare.firstLoop? = n.firstLoop? := by
  induction n with
  | seq a b iha ihb | alt a b iha ihb | ifGroup i a b iha ihb =>
      simp only [bare, firstLoop?, iha, ihb]
  | group body ih | capture i body ih | atomic body ih | ahead negated body ih
    | behind negated width body ih => simp only [bare, firstLoop?, ih]
  | _ => rfl

/-- Expressions that differ in the modes of their leaves alone. -/
def SameShape (m n : Node) : Prop :=
  m.bare = n.bare

namespace SameShape
variable {m m' n n' : Node}

theorem width (h : m.SameShape n) (groups : List (Nat × Width)) :
    m.width groups = n.width groups := by
  rw [← width_bare, h, width_bare]

theorem firstLoop? (h : m.SameShape n) : m.firstLoop? = n.firstLoop? := by
  rw [← firstLoop?_bare, h, firstLoop?_bare]

theorem alt (h : m.SameShape m') (h' : n.SameShape n') :
    (Node.alt m n).SameShape (.alt m' n') := by
  show Node.alt m.bare n.bare = Node.alt m'.bare n'.bare
  rw [h, h']

theorem ifGroup (index : Nat) (h : m.SameShape m') (h' : n.SameShape n') :
    (Node.ifGroup index m n).SameShape (.ifGroup index m' n') := by
  show Node.ifGroup index m.bare n.bare = Node.ifGroup index m'.bare n'.bare
  rw [h, h']

theorem anchor_ite {a b : Anchor} (h : a.bare = b.bare) (c d : Bool) :
    (Node.anchor (if c then a else b)).SameShape (.anchor (if d then a else b)) := by
  have hbare (c : Bool) : (if c then a else b).bare = b.bare := by
    cases c with
    | true => exact h
    | false => rfl
  show Node.anchor _ = Node.anchor _
  rw [hbare c, hbare d]

end SameShape

end Node

namespace Reader
open Node

def SameShapes (as bs : List Node) : Prop :=
  as.map bare = bs.map bare

theorem SameShapes.cons {m n : Node} {as bs : List Node} (htail : SameShapes as bs)
    (hhead : m.SameShape n) : SameShapes (m :: as) (n :: bs) :=
  List.cons_eq_cons.mpr ⟨hhead, htail⟩

theorem SameShapes.sequence {as bs : List Node} (h : SameShapes as bs) :
    (sequence as).SameShape (sequence bs) := by
  have hbare (as : List Node) : (Reader.sequence as).bare = Reader.sequence (as.map bare) := by
    cases as with
    | nil => rfl
    | cons a as =>
        show (as.foldl _ a).bare = (as.map bare).foldl _ a.bare
        induction as generalizing a with
        | nil => rfl
        | cons b as ih => exact ih (.seq b a)
  show (Reader.sequence as).bare = (Reader.sequence bs).bare
  rw [hbare, hbare, h]

section
variable {ms : List Char} {f g : Flags}

/-! ### Leaves -/

theorem alike_backReference (f g : Flags) (ds : List Char) :
    Alike ms SameShape (backReference f ds) (backReference g ds) := by
  apply Alike.get_bind
  rintro s _ ⟨_, h⟩
  dsimp only
  split
  · apply (alike_fail _ _).halt_if
    exact (steady_checkBehind _).bind fun _ => .pure rfl
  · exact alike_fail _ _

theorem alike_namedReference (f g : Flags) :
    Alike ms SameShape (namedReference f) (namedReference g) := by
  apply (steady_groupName _).bind
  intro n
  apply Alike.get_bind
  rintro s _ ⟨_, h⟩
  dsimp only
  split
  · exact alike_fail _ _
  apply Alike.get_bind
  rintro s _ ⟨_, h⟩
  dsimp only
  apply (alike_fail _ _).halt_if
  exact (steady_checkBehind _).bind fun _ => .pure rfl

theorem alike_digitEscape (f g : Flags) (c : Char) :
    Alike ms SameShape (digitEscape f c) (digitEscape g c) := by
  apply (steady_takeChars _ _).bind
  intro ds
  split
  · split
    · apply (steady_takeChars _ _).bind
      intro es
      split
      · dsimp only
        apply (alike_fail _ _).halt_if
        exact .pure rfl
      · exact alike_backReference _ _ _
    · exact alike_backReference _ _ _
  · exact alike_backReference _ _ _

theorem isAscii_eq (h : f.SameControl g) : isAscii f = isAscii g :=
  h 'a' rfl

theorem alike_escape (h : f.SameControl g) (c : Char) :
    Alike ms SameShape (escape f c) (escape g c) := by
  have hanchor : anchorEscape? f c = anchorEscape? g c := by
    unfold anchorEscape?
    rw [isAscii_eq h]
  unfold escape
  rw [hanchor, isAscii_eq h]
  split
  · exact .pure rfl
  split
  · exact .pure rfl
  split
  · exact .pure rfl
  split
  · rename_i x hx
    exact (steady_of_codeEscape? hx).bind fun _ => .pure rfl
  split
  · exact (steady_takeChars _ _).bind fun _ => .pure rfl
  split
  · exact alike_digitEscape _ _ _
  split
  · exact alike_fail _ _
  · exact .pure rfl

/-! ### Repetitions and groups -/

theorem alike_repetition (f g : Flags) (c : Char) {as bs : List Node} (h : SameShapes as bs) :
    Alike ms SameShapes (repetition f c as) (repetition g c bs) := by
  apply steady_position.bind
  intro start
  apply (steady_bounds _ _).bind
  intro bounds
  split
  · exact .pure (h.cons rfl)
  rename_i lo hi
  -- the item before decides, by its shape alone, whether it can be repeated
  cases as with
  | nil =>
      cases bs with
      | nil => exact alike_failAt _ _
      | cons n bs => cases h
  | cons m as =>
      cases bs with
      | nil => cases h
      | cons n bs =>
          obtain ⟨hhead, htail⟩ := List.cons.inj h
          have hloop : Alike ms SameShapes (greed >>= fun greed => pure (.loop lo hi greed m :: as))
              (greed >>= fun greed => pure (.loop lo hi greed n :: bs)) := by
            apply steady_greed.bind
            intro greed
            exact .pure (SameShapes.cons htail (congrArg (Node.loop lo hi greed) hhead))
          cases m with
          | anchor a =>
              cases n with
              | anchor b => exact alike_failAt _ _
              | _ => cases hhead
          | loop lo hi greed body =>
              cases n with
              | loop lo' hi' greed' body' => exact alike_failAt _ _
              | _ => cases hhead
          | _ =>
              cases n with
              | anchor b => cases hhead
              | loop lo hi greed body => cases hhead
              | _ => exact hloop

theorem alike_closeGroup (index : Nat) {m n : Node} (h : m.SameShape n) :
    Alike ms (· = ·) (closeGroup index m) (closeGroup index n) := by
  have heq : closeGroup index m = closeGroup index n := by
    unfold closeGroup
    simp only [h.width]
  rw [heq]
  apply steady_modify
  rintro s _ ⟨f, hf⟩
  exact .intro _ f hf

theorem alike_lookbehind (negated : Bool) {m n : Node} (h : m.SameShape n) :
    Alike ms SameShape (lookbehind negated m) (lookbehind negated n) := by
  apply Alike.get_bind
  rintro s _ ⟨f, hf⟩
  dsimp only
  rw [h.width]
  refine Steady.bind (steady_modify ?_) fun _ => .pure (congrArg (Node.behind negated _) h)
  rintro s _ ⟨f, hf⟩
  exact .intro _ f hf

/-- Openings of groups that go on under modes with the same control. -/
inductive Opening.Like : Opening → Opening → Prop
  | ignored : Like .ignored .ignored
  | done {m n : Node} : m.SameShape n → Like (.done m) (.done n)
  | body {f g : Flags} (capture : Bool) (named : Option (List Char)) (atomic : Bool) :
      f.SameControl g → Like (.body capture named atomic f) (.body capture named atomic g)
  | around (ahead negated : Bool) : Like (.around ahead negated) (.around ahead negated)
  | condition : Like .condition .condition

theorem alike_opening (start : Nat) (h : f.SameControl g) (atStart : Bool) :
    Alike ms Opening.Like (opening start f atStart) (opening start g atStart) := by
  apply (steady_accept _).bind
  intro b
  dsimp only
  split
  · exact .pure (.body _ _ _ h)
  apply steady_next.bind
  intro t
  split
  · exact alike_fail _ _
  · apply (steady_accept _).bind
    intro b
    split
    · exact (steady_groupName _).bind fun _ => .pure (.body _ _ _ h)
    apply (steady_accept _).bind
    intro b
    split
    · exact (alike_namedReference f g).bind fun _ _ hn => .pure (.done hn)
    apply steady_next.bind
    intro u
    split
    · exact alike_fail _ _
    · exact alike_fail _ _
  · exact .pure (.body _ _ _ h)
  · apply Alike.get_bind
    rintro s _ ⟨_, _⟩
    apply (steady_skipComment _ _).bind
    intro b
    split
    · exact .pure .ignored
    · exact alike_failAt _ _
  · exact .pure (.around _ _)
  · exact .pure (.around _ _)
  · apply steady_next.bind
    intro u
    split
    · exact alike_fail _ _
    · exact .pure (.around _ _)
    · exact .pure (.around _ _)
    · exact alike_fail _ _
  · exact .pure .condition
  · exact .pure (.body _ _ _ h)
  · apply (alike_fail _ _).halt_if
    apply (steady_inlineFlags _).bind
    intro modes
    split
    · split
      · exact .pure .ignored
      · exact alike_failAt _ _
    · exact .pure (.body _ _ _ (h.within _ _))

end

/-! ### Expressions -/

/-- Readers of expressions that stay in step, given a bound on their steps. -/
structure InStepUpTo (ms : List Char) (fuel : Nat) : Prop where
  alternatives {f g : Option Flags} (h : Option.Rel Flags.SameControl f g) (first : Bool) :
    Alike ms SameShape (alternatives fuel f first) (alternatives fuel g first)
  items {f g : Option Flags} (h : Option.Rel Flags.SameControl f g) (first : Bool)
    {as bs : List Node} (hitems : SameShapes as bs) :
    Alike ms SameShapes (items fuel f first as) (items fuel g first bs)
  groupAt {f g : Flags} (h : f.SameControl g) (atStart : Bool) (start : Nat) :
    Alike ms (Option.Rel SameShape) (groupAt fuel f atStart start) (groupAt fuel g atStart start)

namespace InStepUpTo
variable {ms : List Char} {fuel : Nat}

theorem zero : InStepUpTo ms 0 where
  alternatives _ _ := .pure rfl
  items _ _ _ _ hitems := .pure hitems
  groupAt _ _ _ := .pure .none

theorem alternatives_succ (ih : InStepUpTo ms fuel) {f g : Option Flags}
    (h : Option.Rel Flags.SameControl f g) (first : Bool) :
    Alike ms SameShape (Reader.alternatives (fuel + 1) f first)
      (Reader.alternatives (fuel + 1) g first) := by
  unfold Reader.alternatives
  apply (ih.items h first rfl).bind
  intro as bs hitems
  apply (steady_accept _).bind
  intro b
  split
  · apply (ih.alternatives h false).bind
    intro m n hmn
    exact .pure (hitems.sequence.alt hmn)
  · exact .pure hitems.sequence

/-- The modes in force are those of the scope, or else the global ones. -/
theorem sameControl_getD (hms : ∀ c ∈ ms, isLeafMode c = true) {f g : Option Flags} {k l : Flags}
    (h : Option.Rel Flags.SameControl f g) (hl : ∀ c, l.has c = (k.has c || ms.contains c)) :
    (f.getD k).SameControl (g.getD l) := by
  cases h with
  | some h => exact h
  | none => exact Flags.sameControl_of_leafModes hms hl

theorem items_succ (hms : ∀ c ∈ ms, isLeafMode c = true) (ih : InStepUpTo ms fuel)
    {f g : Option Flags} (h : Option.Rel Flags.SameControl f g) (first : Bool) {as bs : List Node}
    (hitems : SameShapes as bs) :
    Alike ms SameShapes (Reader.items (fuel + 1) f first as)
      (Reader.items (fuel + 1) g first bs) := by
  have hnext {m n : Node} (hmn : m.SameShape n) : Alike ms SameShapes
      (Reader.items fuel f first (m :: as)) (Reader.items fuel g first (n :: bs)) :=
    ih.items h first (hitems.cons hmn)
  have hempty : as.isEmpty = bs.isEmpty := by
    rw [← List.isEmpty_map (f := bare), hitems, List.isEmpty_map]
  unfold Reader.items
  apply Alike.get_bind
  rintro s _ ⟨l, hl⟩
  have hcontrol := sameControl_getD hms h hl
  dsimp only
  generalize f.getD s.flags = k at hcontrol ⊢
  generalize g.getD l = l at hcontrol ⊢
  apply steady_peek.bind
  intro t
  split
  · exact .pure hitems
  · exact .pure hitems
  · exact .pure hitems
  apply steady_next.bind
  intro _
  split
  · exact (alike_escape hcontrol _).bind fun _ _ => hnext
  · exact .pure hitems
  rw [hcontrol 'x' rfl, isAscii_eq hcontrol, hempty]
  split
  · exact ih.items h first hitems
  split
  · apply Alike.get_bind
    rintro s _ ⟨_, _⟩
    exact (steady_skipComment _ _).bind fun _ => ih.items h first hitems
  split
  · apply steady_position.bind
    intro pos
    exact (steady_charset _ _).bind fun _ => hnext rfl
  · exact hnext rfl
  · exact hnext (.anchor_ite (by rfl) _ _)
  · exact hnext (.anchor_ite (by rfl) _ _)
  · apply steady_position.bind
    intro pos
    apply (ih.groupAt hcontrol _ _).bind
    intro m n hmn
    cases hmn with
    | none => exact ih.items h first hitems
    | some hmn => exact hnext hmn
  · split
    · exact (alike_repetition _ _ _ hitems).bind fun _ _ hrepeated => ih.items h first hrepeated
    · exact hnext rfl

theorem behind_succ (ih : InStepUpTo ms fuel) {f g : Flags} (h : f.SameControl g) (negated : Bool)
    (start : Nat) (outer : Option Nat) : Alike ms (Option.Rel SameShape)
      (do let body ← Reader.alternatives fuel (some f) false
          modify fun s => { s with behindFrom := outer }
          close start
          return some (← lookbehind negated body))
      (do let body ← Reader.alternatives fuel (some g) false
          modify fun s => { s with behindFrom := outer }
          close start
          return some (← lookbehind negated body)) := by
  apply (ih.alternatives (.some h) false).bind
  intro m n hmn
  refine Steady.bind (steady_modify ?_) fun _ => ?_
  · rintro s _ ⟨l, hl⟩
    exact .intro _ l hl
  apply (steady_close _).bind
  intro _
  exact (alike_lookbehind negated hmn).bind fun _ _ hbehind => .pure (.some hbehind)

theorem groupAt_succ (ih : InStepUpTo ms fuel) {f g : Flags} (h : f.SameControl g) (atStart : Bool)
    (start : Nat) : Alike ms (Option.Rel SameShape) (Reader.groupAt (fuel + 1) f atStart start)
      (Reader.groupAt (fuel + 1) g atStart start) := by
  unfold Reader.groupAt
  apply (alike_opening start h atStart).bind
  intro o p hop
  cases hop with
  | ignored => exact .pure .none
  | done hmn => exact .pure (.some hmn)
  | around ahead negated =>
      cases ahead with
      | true =>
          apply (ih.alternatives (.some h) false).bind
          intro m n hmn
          exact (steady_close _).bind fun _ => .pure (.some (congrArg (Node.ahead negated) hmn))
      | false =>
          apply Alike.get_bind
          rintro s _ ⟨l, hl⟩
          dsimp only
          split
          · refine Steady.bind (steady_modify ?_) fun _ => ih.behind_succ h negated start _
            rintro s _ ⟨l, hl⟩
            exact .intro _ l hl
          · exact ih.behind_succ h negated start _
  | condition =>
      apply steady_conditionGroup.bind
      intro index
      apply (ih.items (.some h) false rfl).bind
      intro as bs hyes
      have hclose {m n : Node} (hno : m.SameShape n) : Alike ms (Option.Rel SameShape)
          (close start >>= fun _ => pure (some (.ifGroup index (sequence as) m)))
          (close start >>= fun _ => pure (some (.ifGroup index (sequence bs) n))) :=
        (steady_close start).bind fun _ => .pure (.some (.ifGroup index hyes.sequence hno))
      apply (steady_accept _).bind
      intro b
      dsimp only
      split
      · apply (ih.items (.some h) false rfl).bind
        intro as' bs' hno
        apply steady_peek.bind
        intro t
        apply (alike_fail _ _).halt_if
        exact hclose hno.sequence
      · exact hclose rfl
  | body capture named atomic hinner =>
      have hopen : Steady ms (some <$> openGroup named) := by
        rw [map_eq_pure_bind]
        exact (steady_openGroup named).bind fun _ => .pure rfl
      apply Steady.ite_bind hopen (.pure rfl)
      intro index
      apply (ih.alternatives (.some hinner) false).bind
      intro m n hmn
      apply (steady_close _).bind
      intro _
      split
      · rename_i i
        apply (alike_closeGroup i hmn).bind
        intro _ _ _
        exact .pure (.some (congrArg (Node.capture i) hmn))
      · cases atomic with
        | true => exact .pure (.some (congrArg Node.atomic hmn))
        | false => exact .pure (.some (congrArg Node.group hmn))

end InStepUpTo

theorem inStepUpTo {ms : List Char} (hms : ∀ c ∈ ms, isLeafMode c = true) (fuel : Nat) :
    InStepUpTo ms fuel := by
  induction fuel with
  | zero => exact .zero
  | succ fuel ih =>
      exact
        { alternatives := ih.alternatives_succ
          items := ih.items_succ hms
          groupAt := ih.groupAt_succ }

end Reader

/-! ### Patterns -/

/-- What holds of the last state when all of the text is an expression. -/
structure Reader.Finished (root : Node) (s : State) : Prop where
  choice : (s.flags.has 'a' && s.flags.has 'u') = false
  rest : s.rest.isEmpty = true
  references : s.references.find? (fun r => s.groupCount ≤ r.1) = none
  repetition : s.flags.has 't' = true → root.firstLoop? = none
  far : s.farBehind = false
  fixed : s.variableBehind = false

theorem Pattern.parse_eq_ok_iff {source : List Char} {flags : Flags} {p : Pattern} :
    Pattern.parse source flags = .ok p ↔
      ¬ ((Token.ofChars source).head? == some .dangling) = true ∧
      ∃ s, Reader.alternatives (2 * (Token.ofChars source).length + 2) none true
          { rest := Token.ofChars source, flags } = .ok (p.root, s) ∧
        Reader.Finished p.root s ∧ p.source = source ∧ p.flags = s.flags := by
  unfold Pattern.parse
  dsimp only
  rw [guard_eq_ok_iff, bind_eq_ok_iff]
  apply and_congr_right
  intro _
  constructor
  · rintro ⟨⟨root, s⟩, hrun, h⟩
    dsimp only at h
    rw [guard_eq_ok_iff, guard_eq_ok_iff] at h
    obtain ⟨hchoice, hrest, h⟩ := h
    split at h
    · cases h
    rename_i hfind
    have hend : (s.flags.has 't' = true → root.firstLoop? = none) ∧ s.farBehind = false ∧
        s.variableBehind = false ∧ p = ⟨source, s.flags, root⟩ := by
      split at h
      · split at h
        · cases h
        · rename_i hloop
          rw [guard_eq_ok_iff, guard_eq_ok_iff] at h
          obtain ⟨hfar, hfixed, h⟩ := h
          cases h
          exact ⟨fun _ => hloop, by simpa using hfar, by simpa using hfixed, rfl⟩
      · rename_i ht
        rw [guard_eq_ok_iff, guard_eq_ok_iff] at h
        obtain ⟨hfar, hfixed, h⟩ := h
        cases h
        exact ⟨fun h => absurd h ht, by simpa using hfar, by simpa using hfixed, rfl⟩
    obtain ⟨hloop, hfar, hfixed, rfl⟩ := hend
    have hfinished : Reader.Finished root s :=
      ⟨by simpa using hchoice, by simpa using hrest, hfind, hloop, hfar, hfixed⟩
    exact ⟨s, hrun, hfinished, rfl, rfl⟩
  · rintro ⟨s, hrun, hs, hsource, hflags⟩
    refine ⟨(p.root, s), hrun, ?_⟩
    dsimp only
    rw [guard_eq_ok_iff, guard_eq_ok_iff]
    refine ⟨by simp [hs.choice], by simp [hs.rest], ?_⟩
    have hend : p = ⟨source, s.flags, p.root⟩ := by
      rw [← hsource, ← hflags]
    simp only [hs.references]
    cases ht : s.flags.has 't' with
    | false => simp only [hs.far, hs.fixed, Bool.false_eq_true, if_false, ← hend, pure, Except.pure]
    | true =>
        simp only [hs.repetition ht, hs.far, hs.fixed, Bool.false_eq_true, if_false, if_true, ← hend,
          pure, Except.pure]

/-- The checks at the end do not look at the modes of leaves either. -/
theorem Reader.Finished.extend {ms : List Char} (hms : ∀ c ∈ ms, isLeafMode c = true)
    {m n : Node} {s t : State} (h : Finished m s) (hmn : m.SameShape n) (hst : Extends ms s t) :
    Finished n t := by
  cases hst with
  | intro f hf =>
      have hsame := Flags.sameControl_of_leafModes hms hf
      constructor
      case choice => rw [← hsame 'a' rfl, ← hsame 'u' rfl, h.choice]
      case rest => exact h.rest
      case references => exact h.references
      case repetition =>
        rw [← hsame 't' rfl, ← hmn.firstLoop?]
        exact h.repetition
      case far => exact h.far
      case fixed => exact h.fixed

/-- Under more modes that only leaves look at, a pattern is still one, of the same shape. It has these
modes besides those it had. -/
theorem Pattern.exists_of_leafModes {ms body : List Char} {f g : Flags} {q : Pattern}
    (hms : ∀ c ∈ ms, isLeafMode c = true) (hg : ∀ c, g.has c = (f.has c || ms.contains c))
    (h : Pattern.parse body f = .ok q) :
    ∃ p, Pattern.parse body g = .ok p ∧ p.source = body ∧ q.root.SameShape p.root ∧
      ∀ c, p.flags.has c = (q.flags.has c || ms.contains c) := by
  obtain ⟨hdangling, s, hq, hs, -, hflags⟩ := parse_eq_ok_iff.mp h
  have hrun := (Reader.inStepUpTo hms (2 * (Token.ofChars body).length + 2)).alternatives .none true
    _ _ (.intro { rest := Token.ofChars body, flags := f } g hg)
  rw [hq] at hrun
  generalize hp : Reader.alternatives _ _ _ _ = x at hrun
  cases hrun with
  | @ok _ root _ t hroot hst =>
      refine ⟨⟨body, t.flags, root⟩, parse_eq_ok_iff.mpr ?_, rfl, hroot, ?_⟩
      · exact ⟨hdangling, t, hp, hs.extend hms hroot hst, rfl, rfl⟩
      · cases hst with
        | intro l hl =>
            rw [hflags]
            exact hl

end BoundaryLint.Regex
