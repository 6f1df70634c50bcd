import BoundaryLint.Tree.Node
import Mathlib.Logic.Relation

/-!
# Parents and ancestors

A site lists the ancestors of its node. In the sites of a tree this list is what it seems to be: each
site other than the root has one parent among the sites, the parent has the node among its children,
and going up from parent to parent meets the listed ancestors in order.
-/
namespace BoundaryLint.Site

/-- `p` is right above `t`. -/
structure IsParent (p t : Site) : Prop where
  child : t.node ∈ p.node.children
  ancestors : t.ancestors = p.node :: p.ancestors

def IsAncestor : Site → Site → Prop := Relation.TransGen IsParent

theorem IsParent.unique {p q t : Site} (hp : p.IsParent t) (hq : q.IsParent t) : p = q := by
  obtain ⟨pn, pa⟩ := p
  obtain ⟨qn, qa⟩ := q
  have heq : pn :: pa = qn :: qa := hp.ancestors.symm.trans hq.ancestors
  simpa using heq

theorem isAncestor_iff {q t : Site} :
    q.IsAncestor t ↔ ∃ p : Site, p.IsParent t ∧ (q = p ∨ q.IsAncestor p) := by
  constructor
  · intro h
    obtain ⟨p, hqp, hp⟩ := Relation.TransGen.tail'_iff.mp h
    refine ⟨p, hp, ?_⟩
    rcases Relation.reflTransGen_iff_eq_or_transGen.mp hqp with heq | htrans
    · exact .inl heq.symm
    · exact .inr htrans
  · rintro ⟨p, hp, rfl | hq⟩
    · exact .single hp
    · exact .tail hq hp

mutual

theorem mem_below {ancestors : List Node} {n : Node} {t : Site} (h : t ∈ below ancestors n) :
    t = ⟨n, ancestors⟩ ∨ ∃ p ∈ below ancestors n, p.IsParent t := by
  cases n with
  | mk l cs =>
      rw [below, List.mem_cons] at h
      rcases h with rfl | h
      · exact .inl rfl
      · right
        rcases mem_belowAll h with ⟨c, hc, rfl⟩ | ⟨p, hp, hpt⟩
        · exact ⟨⟨.mk l cs, ancestors⟩, by simp [below], hc, rfl⟩
        · exact ⟨p, by rw [below]; exact List.mem_cons_of_mem _ hp, hpt⟩

theorem mem_belowAll {ancestors : List Node} {cs : List Node} {t : Site}
    (h : t ∈ belowAll ancestors cs) :
    (∃ c ∈ cs, t = ⟨c, ancestors⟩) ∨ ∃ p ∈ belowAll ancestors cs, p.IsParent t := by
  cases cs with
  | nil => simp [belowAll] at h
  | cons c cs =>
      simp only [belowAll, List.mem_append] at h ⊢
      rcases h with h | h
      · rcases mem_below h with rfl | ⟨p, hp, hpt⟩
        · exact .inl ⟨c, List.mem_cons_self, rfl⟩
        · exact .inr ⟨p, .inl hp, hpt⟩
      · rcases mem_belowAll h with ⟨d, hd, rfl⟩ | ⟨p, hp, hpt⟩
        · exact .inl ⟨d, List.mem_cons_of_mem c hd, rfl⟩
        · exact .inr ⟨p, .inr hp, hpt⟩

end

variable {root : Node} {p q t : Site}

theorem IsParent.mem_all (hp : p.IsParent t) (ht : t ∈ all root) : p ∈ all root := by
  rcases mem_below ht with rfl | ⟨q, hq, hqt⟩
  · cases hp.ancestors
  · rwa [hp.unique hqt]

theorem IsAncestor.mem_all (hq : q.IsAncestor t) (ht : t ∈ all root) : q ∈ all root := by
  induction hq using Relation.TransGen.head_induction_on with
  | single h => exact h.mem_all ht
  | head h _ ih => exact h.mem_all ih

theorem isParent_of_ancestors (ht : t ∈ all root) {a : Node} {outer : List Node}
    (h : t.ancestors = a :: outer) : (⟨a, outer⟩ : Site).IsParent t := by
  rcases mem_below ht with rfl | ⟨p, -, hp⟩
  · cases h
  · obtain ⟨pn, pa⟩ := p
    obtain ⟨rfl, rfl⟩ : pn = a ∧ pa = outer := by simpa using hp.ancestors.symm.trans h
    exact hp

end BoundaryLint.Site
