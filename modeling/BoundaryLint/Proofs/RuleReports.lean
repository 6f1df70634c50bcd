import BoundaryLint.Rule.Registry
import Mathlib.Data.List.Basic

/-!
# What rules report

Every built-in rule goes over the nodes of a file in pre-order, and every diagnostic is the report of
a node: it carries the path of the source, the id and the severity of the entry, and the position of
the node.
-/
namespace BoundaryLint

/-! ### Nodes in document order -/

mutual

theorem Site.map_node_below (ancestors : List Node) (n : Node) :
    (Site.below ancestors n).map (·.node) = n.preorder := by
  cases n with
  | mk l cs => rw [Site.below, Node.preorder, List.map_cons, Site.map_node_belowAll]

theorem Site.map_node_belowAll (ancestors : List Node) (cs : List Node) :
    (Site.belowAll ancestors cs).map (·.node) = Node.preorderAll cs := by
  cases cs with
  | nil => rfl
  | cons c cs =>
      rw [Site.belowAll, Node.preorderAll, List.map_append, Site.map_node_below,
        Site.map_node_belowAll]

end

theorem Source.map_node_sites (s : Source) : s.sites.map (·.node) = s.root.preorder :=
  Site.map_node_below [] s.root

/-! ### Reports in the order of the nodes -/

/-- A rule goes over the sites in pre-order, and may report each of them any number of times. -/
def Rule.ReportsInOrder (rule : Rule) : Prop :=
  ∀ s e ds, rule.check s e = .ok ds → ∃ messages : Site → List String,
    ds = s.sites.flatMap fun t => (messages t).map (s.report t.node e)

theorem NodeRule.reportsInOrder (r : NodeRule) : r.rule.ReportsInOrder := by
  intro s e ds h
  cases h
  refine ⟨fun t => if r.kinds.contains t.node.kind && r.flags s t then [r.message] else [], ?_⟩
  rw [NodeRule.flagged]
  induction s.sites with
  | nil => rfl
  | cons t ts ih =>
      rw [List.filter_cons, List.flatMap_cons, ← ih]
      by_cases h : (r.kinds.contains t.node.kind && r.flags s t) = true
      · simp only [h, if_true, List.map_cons, List.map_nil, List.singleton_append]
      · simp only [h, if_false, Bool.false_eq_true, List.map_nil, List.nil_append]

theorem RestrictedImports.reportsInOrder : rule.ReportsInOrder := by
  intro s e ds h
  change check s e = .ok ds at h
  unfold check at h
  split at h
  · rename_i bs _
    cases h
    refine ⟨fun t => (t.node.importSource?.bind fun src => messageFor? bs (s.literal src)).toList, ?_⟩
    rw [diagnostics, ← s.map_node_sites, List.filterMap_map, List.filterMap_eq_flatMap_toList]
    congr 1
    funext t
    dsimp only [Function.comp_apply]
    cases t.node.importSource? with
    | none => rfl
    | some src =>
        rw [Option.bind_some, Option.bind_some]
        cases messageFor? bs (s.literal src) <;> rfl
  · split at h
    · cases h
    · cases h
      exact ⟨fun _ => [], by simp⟩

theorem RestrictedSyntax.reportsInOrder (known : String → Bool) :
    (rule known).ReportsInOrder := by
  intro s e ds h
  change check s e = .ok ds at h
  unfold check at h
  split at h
  · rename_i bs _
    cases h
    refine ⟨fun t => (bs.map fun b => (b, b.selector.subjectTypes)).filterMap fun x =>
      if isCandidate x.2 t.node && x.1.selector.accepts s t then some x.1.message else none, ?_⟩
    rw [diagnostics]
    congr 1
    funext t
    rw [diagnosticsAt, List.map_filterMap]
    congr 1
    funext x
    obtain ⟨b, types⟩ := x
    dsimp only
    cases isCandidate types t.node && b.selector.accepts s t <;> rfl
  · cases h

theorem Registry.reportsInOrder_builtin {rule : Rule} (h : rule ∈ builtin.rules) :
    rule.ReportsInOrder := by
  simp only [builtin, List.mem_cons, List.not_mem_nil, or_false] at h
  rcases h with rfl | rfl | rfl | rfl | rfl | rfl | rfl | rfl
  · exact RestrictedImports.reportsInOrder
  · exact RestrictedSyntax.reportsInOrder _
  all_goals exact NodeRule.reportsInOrder _

/-- A rule reports with the severity of the entry. -/
def Rule.KeepsSeverity (rule : Rule) : Prop :=
  ∀ s e ds, rule.check s e = .ok ds → ∀ d ∈ ds, d.severity = e.severity

/-- A rule names the file of the source and the id of the entry. -/
def Rule.Labels (rule : Rule) : Prop :=
  ∀ s e ds, rule.check s e = .ok ds → ∀ d ∈ ds, d.file = s.path ∧ d.ruleId = e.ruleId

namespace Rule.ReportsInOrder
variable {rule : Rule} {s : Source} {e : Entry} {ds : List Diagnostic}

theorem exists_report (h : rule.ReportsInOrder) (hcheck : rule.check s e = .ok ds) {d : Diagnostic}
    (hd : d ∈ ds) : ∃ n message, d = s.report n e message := by
  obtain ⟨messages, rfl⟩ := h s e ds hcheck
  obtain ⟨t, -, ht⟩ := List.mem_flatMap.mp hd
  obtain ⟨message, -, rfl⟩ := List.mem_map.mp ht
  exact ⟨t.node, message, rfl⟩

theorem keepsSeverity (h : rule.ReportsInOrder) : rule.KeepsSeverity := by
  intro s e ds hcheck d hd
  obtain ⟨n, message, rfl⟩ := h.exists_report hcheck hd
  rfl

theorem labels (h : rule.ReportsInOrder) : rule.Labels := by
  intro s e ds hcheck d hd
  obtain ⟨n, message, rfl⟩ := h.exists_report hcheck hd
  exact ⟨rfl, rfl⟩

end Rule.ReportsInOrder

end BoundaryLint
