import BoundaryLint.Proofs.Ancestry
import BoundaryLint.Proofs.Checked
import BoundaryLint.Selector.Parser
import BoundaryLint.Selector.Match
import Mathlib.Data.List.Induction

/-!
# Chains of matched sites

A selector matches a node if, for one of its alternatives, there is a chain of sites that ends at the
node: one site for each compound, and each pair of neighbours related as the combinator between them
says. Matching goes outwards from the node, and where a descendant combinator leaves a choice it must
try all ancestors. So a chain is followed from its end: the last compound speaks of the node, and
what is in front of it is a shorter alternative that some parent or ancestor satisfies.
-/
namespace BoundaryLint.Selector

/-- What a combinator asks of the sites on its two sides. -/
def Combinator.Joins : Combinator → Site → Site → Prop
  | .child => Site.IsParent
  | .descendant => Site.IsAncestor

theorem Combinator.Joins.mem_all {m : Combinator} {p t : Site} {root : Node} (h : m.Joins p t)
    (ht : t ∈ Site.all root) : p ∈ Site.all root := by
  cases m with
  | child => exact Site.IsParent.mem_all h ht
  | descendant => exact Site.IsAncestor.mem_all h ht

theorem someAncestor_eq_true_iff {f : Node → List Node → Bool} {root : Node} {t : Site}
    (ht : t ∈ Site.all root) :
    someAncestor f t.ancestors = true ↔
      ∃ q : Site, q.IsAncestor t ∧ f q.node q.ancestors = true := by
  generalize hl : t.ancestors = l
  induction l generalizing t with
  | nil =>
      simp only [someAncestor, Bool.false_eq_true, false_iff]
      rintro ⟨q, hq, -⟩
      obtain ⟨p, hp, -⟩ := Site.isAncestor_iff.mp hq
      rw [hp.ancestors] at hl
      cases hl
  | cons a outer ih =>
      have hparent := Site.isParent_of_ancestors ht hl
      rw [someAncestor, Bool.or_eq_true, ih (hparent.mem_all ht) rfl]
      constructor
      · rintro (h | ⟨q, hq, h⟩)
        · exact ⟨⟨a, outer⟩, .single hparent, h⟩
        · exact ⟨q, hq.tail hparent, h⟩
      · rintro ⟨q, hq, h⟩
        obtain ⟨p, hp, hqp⟩ := Site.isAncestor_iff.mp hq
        obtain rfl := hp.unique hparent
        rcases hqp with rfl | hqp
        · exact .inl h
        · exact .inr ⟨q, hqp, h⟩

/-! ### One more compound -/

namespace Complex

def snoc (x : Complex) (m : Combinator) (c : Compound) : Complex :=
  { x with tail := x.tail ++ [(m, c)] }

@[simp] theorem compounds_snoc (x : Complex) (m : Combinator) (c : Compound) :
    (x.snoc m c).compounds = x.compounds ++ [c] := by
  simp [compounds, snoc]

@[simp] theorem combinators_snoc (x : Complex) (m : Combinator) (c : Compound) :
    (x.snoc m c).combinators = x.combinators ++ [m] := by
  simp [combinators, snoc]

@[simp] theorem outward_snoc (x : Complex) (m : Combinator) (c : Compound) :
    (x.snoc m c).outward = (c, (m, x.outward.1) :: x.outward.2) := by
  simp [outward, snoc, List.foldl_append]

theorem snoc_induction {motive : Complex → Prop} (single : ∀ c, motive ⟨c, []⟩)
    (snoc : ∀ x m c, motive x → motive (x.snoc m c)) (x : Complex) : motive x := by
  obtain ⟨head, tail⟩ := x
  induction tail using List.reverseRecOn with
  | nil => exact single head
  | append_singleton tail mc ih => exact snoc ⟨head, tail⟩ mc.1 mc.2 ih

theorem length_compounds (x : Complex) : x.compounds.length = x.combinators.length + 1 := by
  simp [compounds, combinators]

variable {s : Source} {t : Site}

theorem accepts_single (c : Compound) :
    (⟨c, []⟩ : Complex).accepts s t = true ↔ c.accepts s t.node = true := by
  simp [accepts, outward, contextAccepts]

theorem accepts_snoc_child (x : Complex) (c : Compound) (s : Source) (t : Site) :
    (x.snoc .child c).accepts s t =
      (c.accepts s t.node && match t.ancestors with
        | [] => false
        | a :: outer => x.accepts s ⟨a, outer⟩) := by
  rw [accepts, outward_snoc]
  simp only [contextAccepts]
  rfl

theorem accepts_snoc_descendant (x : Complex) (c : Compound) (s : Source) (t : Site) :
    (x.snoc .descendant c).accepts s t =
      (c.accepts s t.node && someAncestor (fun a outer => x.accepts s ⟨a, outer⟩) t.ancestors) := by
  rw [accepts, outward_snoc]
  simp only [contextAccepts]
  rfl

/-- The last compound speaks of the node itself, the others of a site that the last combinator
relates to it. -/
theorem accepts_snoc_iff (x : Complex) (m : Combinator) (c : Compound) (ht : t ∈ s.sites) :
    (x.snoc m c).accepts s t = true ↔
      c.accepts s t.node = true ∧ ∃ p, m.Joins p t ∧ x.accepts s p = true := by
  cases m with
  | descendant =>
      rw [accepts_snoc_descendant, Bool.and_eq_true]
      exact and_congr_right fun _ => someAncestor_eq_true_iff ht
  | child =>
      rw [accepts_snoc_child, Bool.and_eq_true]
      refine and_congr_right fun _ => ?_
      cases hl : t.ancestors with
      | nil =>
          simp only [Bool.false_eq_true, false_iff]
          rintro ⟨p, hp, -⟩
          rw [Site.IsParent.ancestors hp] at hl
          cases hl
      | cons a outer =>
          have hparent := Site.isParent_of_ancestors ht hl
          constructor
          · intro h
            exact ⟨⟨a, outer⟩, hparent, h⟩
          · rintro ⟨p, hp, h⟩
            obtain rfl := Site.IsParent.unique hp hparent
            exact h

/-! ### Chains of sites -/

theorem getElem?_concat_eq_some_iff {α : Type} {l : List α} {a b : α} {i : Nat} :
    (l ++ [a])[i]? = some b ↔ l[i]? = some b ∨ i = l.length ∧ a = b := by
  rcases Nat.lt_trichotomy i l.length with hi | rfl | hi
  · rw [List.getElem?_append_left hi]
    simp [Nat.ne_of_lt hi]
  · simp
  · rw [List.getElem?_eq_none (by simp; omega), List.getElem?_eq_none (by omega)]
    simp [Nat.ne_of_gt hi]

/-- A site for each compound, in the order of the text: each satisfies its compound, and neighbours
are related as the combinator between them says. -/
structure MatchedBy (x : Complex) (s : Source) (sites : List Site) : Prop where
  inTree : ∀ t ∈ sites, t ∈ s.sites
  length_eq : sites.length = x.compounds.length
  accepts : ∀ (i : Nat) (c : Compound) (t : Site), x.compounds[i]? = some c → sites[i]? = some t →
    c.accepts s t.node = true
  joins : ∀ (i : Nat) (m : Combinator) (p t : Site), x.combinators[i]? = some m →
    sites[i]? = some p → sites[i + 1]? = some t → m.Joins p t

theorem matchedBy_single {c : Compound} (ht : t ∈ s.sites) (h : c.accepts s t.node = true) :
    (⟨c, []⟩ : Complex).MatchedBy s [t] where
  inTree := by simpa using ht
  length_eq := rfl
  accepts := by
    intro i c' t' hc ht'
    obtain ⟨hi, -⟩ := List.getElem?_eq_some_iff.mp ht'
    obtain rfl : i = 0 := by simpa using hi
    cases hc
    cases ht'
    exact h
  joins := by simp [combinators]

theorem matchedBy_snoc {x : Complex} {m : Combinator} {c : Compound} {sites : List Site} :
    (x.snoc m c).MatchedBy s (sites ++ [t]) ↔
      x.MatchedBy s sites ∧ t ∈ s.sites ∧ c.accepts s t.node = true ∧
        ∃ p, sites.getLast? = some p ∧ m.Joins p t := by
  have hlast : sites.length = x.combinators.length + 1 →
      sites.getLast? = sites[x.combinators.length]? := by
    intro hlength
    rw [List.getLast?_eq_getElem?, hlength, Nat.add_sub_cancel]
  constructor
  · intro h
    have hlength : sites.length = x.compounds.length := by simpa using h.length_eq
    have hlength' := hlength.trans x.length_compounds
    have hcompounds := h.accepts
    have hcombinators := h.joins
    simp only [compounds_snoc, combinators_snoc, getElem?_concat_eq_some_iff] at *
    refine ⟨⟨fun u hu => h.inTree u (by simp [hu]), hlength, ?_, ?_⟩, h.inTree t (by simp), ?_, ?_⟩
    · intro i d u hd hu
      exact hcompounds i d u (.inl hd) (.inl hu)
    · intro i m' p u hm hp hu
      exact hcombinators i m' p u (.inl hm) (.inl hp) (.inl hu)
    · exact hcompounds _ c t (.inr ⟨rfl, rfl⟩) (.inr ⟨hlength.symm, rfl⟩)
    · obtain ⟨p, hp⟩ : ∃ p, sites[x.combinators.length]? = some p :=
        ⟨_, List.getElem?_eq_getElem (by omega)⟩
      refine ⟨p, (hlast hlength').trans hp, ?_⟩
      exact hcombinators _ m p t (.inr ⟨rfl, rfl⟩) (.inl hp) (.inr ⟨hlength'.symm, rfl⟩)
  · rintro ⟨h, ht, hc, p, hp, hm⟩
    have hlength := h.length_eq
    have hlength' := hlength.trans x.length_compounds
    refine ⟨?_, by simp [hlength], ?_, ?_⟩
    · simpa [or_imp, forall_and] using ⟨h.inTree, ht⟩
    · intro i d u hd hu
      rw [compounds_snoc, getElem?_concat_eq_some_iff] at hd
      rcases getElem?_concat_eq_some_iff.mp hu with hu | ⟨rfl, rfl⟩
      · have hi := (List.getElem?_eq_some_iff.mp hu).1
        rcases hd with hd | ⟨rfl, -⟩
        · exact h.accepts i d u hd hu
        · omega
      · rcases hd with hd | ⟨-, rfl⟩
        · have hi := (List.getElem?_eq_some_iff.mp hd).1
          omega
        · exact hc
    · intro i m' q u hm' hq hu
      rw [combinators_snoc, getElem?_concat_eq_some_iff] at hm'
      rcases getElem?_concat_eq_some_iff.mp hu with hu | ⟨hi, rfl⟩
      · have hi := (List.getElem?_eq_some_iff.mp hu).1
        rw [List.getElem?_append_left (by omega)] at hq
        rcases hm' with hm' | ⟨rfl, -⟩
        · exact h.joins i m' q u hm' hq hu
        · omega
      · obtain rfl : i = x.combinators.length := by omega
        rw [List.getElem?_append_left (by omega), ← hlast hlength', hp] at hq
        cases hq
        rcases hm' with hm' | ⟨-, rfl⟩
        · have hi := (List.getElem?_eq_some_iff.mp hm').1
          omega
        · exact hm

/-- An alternative accepts a node exactly if a chain of sites ends at it. -/
theorem accepts_iff_exists_matchedBy (x : Complex) (ht : t ∈ s.sites) :
    x.accepts s t = true ↔ ∃ sites, x.MatchedBy s sites ∧ sites.getLast? = some t := by
  induction x using snoc_induction generalizing t with
  | single c =>
      rw [accepts_single]
      constructor
      · intro h
        exact ⟨[t], matchedBy_single ht h, rfl⟩
      · rintro ⟨sites, h, hlast⟩
        obtain ⟨u, rfl⟩ := List.length_eq_one_iff.mp h.length_eq
        cases hlast
        exact h.accepts 0 c u rfl rfl
  | snoc x m c ih =>
      rw [accepts_snoc_iff x m c ht]
      constructor
      · rintro ⟨hc, p, hp, hx⟩
        obtain ⟨sites, h, hlast⟩ := (ih (hp.mem_all ht)).mp hx
        exact ⟨sites ++ [t], matchedBy_snoc.mpr ⟨h, ht, hc, p, hlast, hp⟩, by simp⟩
      · rintro ⟨sites, h, hlast⟩
        obtain ⟨front, rfl⟩ := List.getLast?_eq_some_iff.mp hlast
        obtain ⟨hx, -, hc, p, hp, hm⟩ := matchedBy_snoc.mp h
        exact ⟨hc, p, hm, (ih (hm.mem_all ht)).mpr ⟨front, hx, hp⟩⟩

/-! ### Matching by positions -/

/-- Whether some ancestor satisfies a test that may fail to give an answer. -/
def someAncestor? (p : Node → List Node → Option Bool) : List Node → Option Bool
  | [] => some false
  | a :: outer => do
    if ← p a outer then return true
    someAncestor? p outer

/-- Matching that looks compounds and combinators up by their positions, from the compound at a
position outwards. There is no answer if a position is out of range. -/
def acceptsAt? (x : Complex) (s : Source) : Nat → Site → Option Bool
  | 0, t => do
    let c ← x.compounds[0]?
    return c.accepts s t.node
  | i + 1, t => do
    let c ← x.compounds[i + 1]?
    if !c.accepts s t.node then return false
    match ← x.combinators[i]? with
    | .child =>
      match t.ancestors with
      | [] => return false
      | a :: outer => acceptsAt? x s i ⟨a, outer⟩
    | .descendant => someAncestor? (fun a outer => acceptsAt? x s i ⟨a, outer⟩) t.ancestors

theorem someAncestor?_some (f : Node → List Node → Bool) (l : List Node) :
    someAncestor? (fun a outer => some (f a outer)) l = some (someAncestor f l) := by
  induction l with
  | nil => rfl
  | cons a outer ih => cases hf : f a outer <;> simp [someAncestor?, someAncestor, hf, ih]

def upTo (x : Complex) (i : Nat) : Complex :=
  { x with tail := x.tail.take i }

theorem exists_upTo_succ (x : Complex) {i : Nat} (hi : i < x.combinators.length) :
    ∃ m c, x.combinators[i]? = some m ∧ x.compounds[i + 1]? = some c ∧
      x.upTo (i + 1) = (x.upTo i).snoc m c := by
  have hi' : i < x.tail.length := by simpa [combinators] using hi
  refine ⟨x.tail[i].1, x.tail[i].2, ?_, ?_, ?_⟩
  · simp [combinators, hi']
  · simp [compounds, hi']
  · rw [upTo, List.take_succ_eq_append_getElem hi']
    rfl

/-- Every position that matching looks up is in range. -/
theorem acceptsAt?_eq (x : Complex) (s : Source) {i : Nat} (hi : i ≤ x.combinators.length)
    (t : Site) : x.acceptsAt? s i t = some ((x.upTo i).accepts s t) := by
  induction i generalizing t with
  | zero => simp [acceptsAt?, compounds, upTo, accepts, outward, contextAccepts]
  | succ i ih =>
      obtain ⟨m, c, hm, hc, hx⟩ := x.exists_upTo_succ hi
      have hrest : x.acceptsAt? s i = fun t => some ((x.upTo i).accepts s t) :=
        funext (ih (by omega))
      rw [acceptsAt?, hm, hc, hx, hrest]
      cases haccepts : c.accepts s t.node with
      | false => cases m <;> simp [accepts_snoc_child, accepts_snoc_descendant, haccepts]
      | true =>
          cases m with
          | child =>
              rw [accepts_snoc_child]
              cases t.ancestors <;> simp [haccepts]
          | descendant =>
              rw [accepts_snoc_descendant]
              simp [haccepts, someAncestor?_some]

end Complex

/-! ### Selectors -/

theorem alternatives_ne_nil {known : String → Bool} {text : String} {x : Selector}
    (h : parseWith known text = .ok x) : x.alternatives ≠ [] := by
  unfold parseWith at h
  dsimp only at h
  split at h
  · cases h
  · split at h
    · rename_i alternatives hread
      cases h
      rintro rfl
      simp only [alternativesOf] at hread
      split at hread
      · cases hread
      · cases hread
      · obtain ⟨xs, -, hnil⟩ := map_eq_ok_iff.mp hread
        cases hnil
      · cases hread
    · cases h

/-- A selector that was read has alternatives of the right shape: matching finds a compound and a
combinator wherever it looks for one. It matches a node exactly if a chain of sites for one of its
alternatives ends at the node. -/
theorem accepts_iff_exists_chain {known : String → Bool} {text : String} {x : Selector}
    (h : parseWith known text = .ok x) (s : Source) {t : Site} (ht : t ∈ s.sites) :
    x.alternatives ≠ [] ∧
      (∀ a ∈ x.alternatives, a.compounds ≠ [] ∧
        a.combinators.length + 1 = a.compounds.length ∧
        a.acceptsAt? s (a.compounds.length - 1) t = some (a.accepts s t)) ∧
      (x.accepts s t = true ↔
        ∃ a ∈ x.alternatives, ∃ sites, a.MatchedBy s sites ∧ sites.getLast? = some t) := by
  refine ⟨alternatives_ne_nil h, fun a _ => ⟨by simp [Complex.compounds], ?_, ?_⟩, ?_⟩
  · exact a.length_compounds.symm
  · have hlength := a.length_compounds
    rw [a.acceptsAt?_eq s (by omega), hlength, Nat.add_sub_cancel]
    simp [Complex.upTo, Complex.combinators]
  · simp only [accepts, List.any_eq_true, Complex.accepts_iff_exists_matchedBy _ ht]

/-- A call inside of a call, where only the outer one stands right below the condition. -/
def nestedCalls : Source where
  path := "a.ts"
  content := []
  root :=
    .mk { kind := "if_statement" } [.mk { kind := "call_expression" }
      [.mk { kind := "return_statement" } [.mk { kind := "call_expression" }
        [.mk { kind := "identifier" } []]]]]

/-- The nearest call has the wrong parent, and the search goes on to the next one. -/
theorem accepts_iff_exists_chain_nestedCalls :
    ∃ x t, parseWith Kind.isKnown "IfStatement > CallExpression Identifier" = .ok x ∧
      t ∈ nestedCalls.sites ∧ t.node.kind = "identifier" ∧ t.ancestors.length = 4 ∧
      ∃ a ∈ x.alternatives, ∃ sites, a.MatchedBy nestedCalls sites ∧ sites.getLast? = some t := by
  have hparse : parseWith Kind.isKnown "IfStatement > CallExpression Identifier" =
      .ok ⟨"IfStatement > CallExpression Identifier",
        [⟨⟨some ⟨["if_statement"], none⟩, []⟩,
          [(.child, ⟨some ⟨["call_expression"], none⟩, []⟩),
            (.descendant, ⟨some ⟨Kind.identifiers, none⟩, []⟩)]⟩]⟩ := by
    decide +kernel
  obtain ⟨t, ht⟩ : ∃ t, nestedCalls.sites[4]? = some t := ⟨_, rfl⟩
  have hmem : t ∈ nestedCalls.sites := List.mem_of_getElem? ht
  cases ht
  refine ⟨_, _, hparse, hmem, rfl, rfl, ?_⟩
  exact (accepts_iff_exists_chain hparse nestedCalls hmem).2.2.mp (by decide +kernel)

end BoundaryLint.Selector
