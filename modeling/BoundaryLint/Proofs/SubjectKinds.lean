import BoundaryLint.Proofs.Checked
import BoundaryLint.Proofs.RuleReports

/-!
# Kinds that a selector can match

Before banned syntax is looked for, each selector is asked for the kinds of nodes it can match, and it
is tried on no others. The kinds are read off the last compound of every alternative; one alternative
whose last compound leaves the kind open makes all kinds possible. Nothing is lost by this: a selector
accepts no node of another kind, so the reports are those of a search that tries every selector on
every node.
-/
namespace BoundaryLint

/-! ### What the last compounds allow -/

namespace Selector

theorem Compound.kind_mem_of_accepts {c : Compound} {k : KindSpec} {s : Source} {n : Node}
    (hk : c.kind = some k) (h : c.accepts s n = true) : n.kind ∈ k.types := by
  rw [Compound.accepts, hk, Option.all_some, Bool.and_eq_true] at h
  have hkind := h.1
  rw [KindSpec.accepts, Bool.and_eq_true] at hkind
  exact List.contains_iff_mem.mp hkind.1

/-- Kinds are only left out if every alternative names the kinds of its last compound. -/
theorem types_subset_of_subjectTypes {x : Selector} {types : List String}
    (h : x.subjectTypes = some types) {a : Complex} (ha : a ∈ x.alternatives) :
    ∃ k, a.outward.1.kind = some k ∧ ∀ kind ∈ k.types, kind ∈ types := by
  obtain ⟨groups, hgroups, rfl⟩ := Option.map_eq_some_iff.mp h
  clear h
  generalize x.alternatives = alternatives at ha hgroups
  induction alternatives generalizing groups with
  | nil => cases ha
  | cons b rest ih =>
      rw [List.mapM_cons] at hgroups
      obtain ⟨group, hgroup, hrest⟩ := Option.bind_eq_some_iff.mp hgroups
      obtain ⟨others, hothers, hcons⟩ := Option.bind_eq_some_iff.mp hrest
      obtain ⟨k, hk, rfl⟩ := Option.map_eq_some_iff.mp hgroup
      cases hcons
      rcases List.mem_cons.mp ha with rfl | ha
      · refine ⟨k, hk, ?_⟩
        intro kind hkind
        simp [hkind]
      · obtain ⟨k', hk', hsubset⟩ := ih others ha hothers
        refine ⟨k', hk', ?_⟩
        intro kind hkind
        have hmem := hsubset kind hkind
        simp only [List.flatten_cons, List.mem_append, hmem, or_true]

theorem kind_mem_of_accepts {x : Selector} {s : Source} {t : Site} (h : x.accepts s t = true)
    {types : List String} (htypes : x.subjectTypes = some types) : t.node.kind ∈ types := by
  obtain ⟨a, ha, haccepts⟩ := List.any_eq_true.mp h
  obtain ⟨k, hk, hsubset⟩ := types_subset_of_subjectTypes htypes ha
  rw [Complex.accepts, Bool.and_eq_true] at haccepts
  apply hsubset
  exact Compound.kind_mem_of_accepts hk haccepts.1

end Selector

namespace RestrictedSyntax

/-! ### Banned syntax in the order of the options -/

/-- The entries that one option holds: those of the list under `selectors`, or the option itself. -/
def itemsOf : Value → List Value
  | .map label es =>
    match Value.find? es "selectors" with
    | some (.list _ items) => items
    | _ => [.map label es]
  | v => [v]

theorem mapM_singleton_eq_ok {ε α β : Type} {f : α → Except ε β} {a : α} {bs : List β}
    (h : ((f a).map fun b => [b]) = .ok bs) : [a].mapM f = .ok bs := by
  obtain ⟨b, hb, rfl⟩ := map_eq_ok_iff.mp h
  exact mapM_eq_ok_iff.mpr (.cons hb .nil)

theorem mapM_itemsOf {known : String → Bool} {v : Value} {bs : List BannedSyntax}
    (h : readOption known v = .ok bs) : (itemsOf v).mapM (readItem known) = .ok bs := by
  cases v with
  | map label es =>
      unfold readOption at h
      unfold itemsOf
      dsimp only at h ⊢
      cases hfind : Value.find? es "selectors" with
      | none =>
          rw [hfind] at h
          exact mapM_singleton_eq_ok h
      | some w =>
          rw [hfind] at h
          cases w with
          | list label items => exact h
          | null | bool | int | float | str | bytes | time | pair | set | map => cases h
  | null | bool | int | float | str | bytes | time | list | pair | set =>
      exact mapM_singleton_eq_ok h

/-- Options that are read hold at least one entry, and give what their entries give, in order. -/
theorem exists_items_of_readOptions {known : String → Bool} {raw : List Value} {o : Options}
    (h : readOptions known raw = .ok o) :
    ∃ bs, o = .selectors bs ∧ bs ≠ [] ∧ (raw.flatMap itemsOf).mapM (readItem known) = .ok bs := by
  unfold readOptions at h
  split at h
  · cases h
  · cases h
  · rename_i bs hne hread
    cases h
    refine ⟨bs, rfl, fun hnil => hne hnil, ?_⟩
    obtain ⟨groups, hgroups, rfl⟩ := map_eq_ok_iff.mp hread
    have hall := mapM_eq_ok_iff.mp hgroups
    clear hne hread hgroups
    apply mapM_eq_ok_iff.mpr
    induction hall with
    | nil => exact .nil
    | cons hv _ ih =>
        rw [List.flatMap_cons, List.flatten_cons]
        exact List.rel_append (mapM_eq_ok_iff.mp (mapM_itemsOf hv)) ih

/-! ### Reports -/

/-- The reports on one node: one for each banned selector that accepts it, in the order of the
options. -/
def reportsAt (bs : List BannedSyntax) (s : Source) (e : Entry) (t : Site) : List Diagnostic :=
  (bs.filter fun b => b.selector.accepts s t).map fun b =>
    { file := s.path, line := (s.position t.node).1, column := (s.position t.node).2,
      ruleId := e.ruleId, severity := e.severity, message := b.message }

theorem isCandidate_of_accepts {x : Selector} {s : Source} {t : Site} (h : x.accepts s t = true) :
    isCandidate x.subjectTypes t.node = true := by
  unfold isCandidate
  cases htypes : x.subjectTypes with
  | none => rfl
  | some types => exact List.contains_iff_mem.mpr (Selector.kind_mem_of_accepts h htypes)

theorem isCandidate_and_accepts (x : Selector) (s : Source) (t : Site) :
    (isCandidate x.subjectTypes t.node && x.accepts s t) = x.accepts s t := by
  cases h : x.accepts s t with
  | false => rw [Bool.and_false]
  | true => rw [isCandidate_of_accepts h, Bool.and_true]

theorem diagnosticsAt_eq_reportsAt (bs : List BannedSyntax) (s : Source) (e : Entry) (t : Site) :
    diagnosticsAt (bs.map fun b => (b, b.selector.subjectTypes)) s e t = reportsAt bs s e t := by
  unfold diagnosticsAt reportsAt
  induction bs with
  | nil => rfl
  | cons b bs ih =>
      rw [List.map_cons, List.filterMap_cons, List.filter_cons]
      dsimp only
      rw [isCandidate_and_accepts, ih]
      cases h : b.selector.accepts s t with
      | false => rfl
      | true => rfl

theorem length_reportsAt (bs : List BannedSyntax) (s : Source) (e : Entry) (t : Site) :
    (reportsAt bs s e t).length =
      bs.countP fun b => b.selector.alternatives.any fun a => a.accepts s t := by
  rw [reportsAt, List.length_map, ← List.countP_eq_length_filter]
  rfl

/-- Asking for the kinds first changes no report. With options that were read, the rule goes over the
nodes in pre-order and, at each, over the banned selectors in the order of the options, and reports
every one that accepts the node: once, however many of its alternatives do. A selector accepts no
node of a kind that it was not tried on. All this holds whichever kinds are known. -/
theorem check_reports_every_accepted_node {known : String → Bool} {raw : List Value} {o : Options}
    (h : readOptions known raw = .ok o) (s : Source) (e : Entry) (he : e.options = o) :
    ∃ bs, o = .selectors bs ∧ bs ≠ [] ∧ (raw.flatMap itemsOf).mapM (readItem known) = .ok bs ∧
      (rule known).check s e = .ok (s.sites.flatMap (reportsAt bs s e)) ∧
      s.sites.map (·.node) = s.root.preorder ∧
      (∀ t, (reportsAt bs s e t).length =
        bs.countP fun b => b.selector.alternatives.any fun a => a.accepts s t) ∧
      ∀ b ∈ bs, ∀ types, b.selector.subjectTypes = some types →
        ∀ t, t.node.kind ∉ types → b.selector.accepts s t = false := by
  obtain ⟨bs, rfl, hne, hitems⟩ := exists_items_of_readOptions h
  refine ⟨bs, rfl, hne, hitems, ?_, s.map_node_sites, length_reportsAt bs s e, ?_⟩
  · change check s e = _
    rw [check, he]
    have hsites := funext (diagnosticsAt_eq_reportsAt bs s e)
    exact congrArg (fun f => Except.ok (s.sites.flatMap f)) hsites
  · intro b _ types htypes t hkind
    rw [Bool.eq_false_iff]
    intro haccepts
    exact hkind (Selector.kind_mem_of_accepts haccepts htypes)

def conjunction : Source where
  path := "a.ts"
  content := "a && b".toUTF8.toList
  root :=
    .mk { kind := "binary_expression", stop := 6 }
      [.mk { kind := "identifier", stop := 1, field := some "left" } [],
       .mk { kind := "&&", named := false, start := 2, stop := 4, field := some "operator" } [],
       .mk { kind := "identifier", start := 5, stop := 6, field := some "right" } []]

/-- Logic in two alternatives, of which the second holds whenever the first one does, and names by an
attribute alone. -/
def logicAndNames : List Value :=
  [.map none [(.str "selectors", .list none
    [.str "LogicalExpression, BinaryExpression", .str "[type='identifier']"])]]

def logicAndNamesBanned : List BannedSyntax :=
  [⟨⟨"LogicalExpression, BinaryExpression",
      [⟨⟨some ⟨["binary_expression"], some ["&&", "||", "??"]⟩, []⟩, []⟩,
        ⟨⟨some ⟨["binary_expression"], none⟩, []⟩, []⟩]⟩,
      defaultMessage "LogicalExpression, BinaryExpression"⟩,
    ⟨⟨"[type='identifier']", [⟨⟨none, [⟨["type"], .equals (.text "identifier")⟩]⟩, []⟩]⟩,
      defaultMessage "[type='identifier']"⟩]

/-- Both alternatives accept the conjunction, which is reported once, before the two names. -/
theorem check_reports_every_accepted_node_conjunction :
    readOptions Kind.isKnown logicAndNames = .ok (.selectors logicAndNamesBanned) ∧
      (logicAndNamesBanned.map fun b => b.selector.subjectTypes) =
        [some ["binary_expression", "binary_expression"], none] ∧
      ∃ ds, (rule Kind.isKnown).check conjunction
          ⟨ruleId, .warn, .selectors logicAndNamesBanned, 0, ""⟩ = .ok ds ∧
        ds.map (fun d => (d.column, d.message)) =
          [(1, defaultMessage "LogicalExpression, BinaryExpression"),
            (1, defaultMessage "[type='identifier']"), (6, defaultMessage "[type='identifier']")] := by
  have hread : readOptions Kind.isKnown logicAndNames = .ok (.selectors logicAndNamesBanned) := by
    decide +kernel
  refine ⟨hread, rfl, ?_⟩
  obtain ⟨bs, hbs, -, -, hcheck, -⟩ := check_reports_every_accepted_node hread conjunction
    ⟨ruleId, .warn, .selectors logicAndNamesBanned, 0, ""⟩ rfl
  cases hbs
  exact ⟨_, hcheck, by decide +kernel⟩

end RestrictedSyntax

end BoundaryLint
