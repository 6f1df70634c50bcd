import BoundaryLint.Proofs.CollectedReports
import BoundaryLint.Proofs.Positions
import BoundaryLint.Proofs.RuleReports
import BoundaryLint.Proofs.Traversals
import BoundaryLint.Proofs.WellFormedConfig
import Mathlib.Order.Bounds.Defs

/-!
# Document order

The ranges of a parser's tree are nested: children lie inside of their parent, one after the other.
In such a tree the nodes in pre-order start further and further in the file, so their positions
ascend. Rules go over the nodes in pre-order. Hence what a rule reports is in the order of reports
already, and the first error node that is met has the least position of all.
-/
namespace BoundaryLint

open Text.Utf8 (Bytes encode)

namespace Node

/-- A node starts before it stops, and its children lie inside of it, in order and apart. -/
structure Laid (n : Node) : Prop where
  range : n.label.start ≤ n.label.stop
  inside : ∀ c ∈ n.children, n.label.start ≤ c.label.start ∧ c.label.stop ≤ n.label.stop
  apart : n.children.Pairwise fun a b => a.label.stop ≤ b.label.start

instance (n : Node) : Decidable n.Laid :=
  decidable_of_iff
    (n.label.start ≤ n.label.stop ∧
      (∀ c ∈ n.children, n.label.start ≤ c.label.start ∧ c.label.stop ≤ n.label.stop) ∧
      n.children.Pairwise fun a b => a.label.stop ≤ b.label.start)
    ⟨fun h => ⟨h.1, h.2.1, h.2.2⟩, fun h => ⟨h.range, h.inside, h.apart⟩⟩

/-- A tree over some bytes: all of its nodes are laid out within them. -/
def WellFormed (content : Bytes) (root : Node) : Prop :=
  root.label.stop ≤ content.length ∧ ∀ n ∈ root.preorder, n.Laid

instance (content : Bytes) (root : Node) : Decidable (WellFormed content root) :=
  inferInstanceAs (Decidable (_ ∧ _))

/-! ### Nodes in pre-order -/

theorem mem_preorder_self (n : Node) : n ∈ n.preorder := by
  cases n with
  | mk l cs =>
      rw [preorder]
      exact List.mem_cons_self

mutual

theorem inside_of_mem_preorder {n m : Node} (hlaid : ∀ k ∈ n.preorder, k.Laid)
    (h : m ∈ n.preorder) : n.label.start ≤ m.label.start ∧ m.label.stop ≤ n.label.stop := by
  cases n with
  | mk l cs =>
      have hroot := hlaid _ (mem_preorder_self _)
      rw [preorder] at h hlaid
      rcases List.mem_cons.mp h with heq | hbelow
      · rw [heq]
        exact ⟨le_rfl, le_rfl⟩
      · have hcs : ∀ k ∈ preorderAll cs, k.Laid := fun k hk => hlaid k (List.mem_cons_of_mem _ hk)
        obtain ⟨c, hc, hcm⟩ := inside_of_mem_preorderAll hcs hbelow
        have hin := hroot.inside c hc
        exact ⟨hin.1.trans hcm.1, hcm.2.trans hin.2⟩

theorem inside_of_mem_preorderAll {cs : List Node} {m : Node}
    (hlaid : ∀ k ∈ preorderAll cs, k.Laid) (h : m ∈ preorderAll cs) :
    ∃ c ∈ cs, c.label.start ≤ m.label.start ∧ m.label.stop ≤ c.label.stop := by
  cases cs with
  | nil =>
      rw [preorderAll] at h
      cases h
  | cons c cs =>
      rw [preorderAll] at h hlaid
      rcases List.mem_append.mp h with hc | hcs
      · have hlaid' : ∀ k ∈ c.preorder, k.Laid := fun k hk => hlaid k (List.mem_append_left _ hk)
        exact ⟨c, List.mem_cons_self, inside_of_mem_preorder hlaid' hc⟩
      · have hlaid' : ∀ k ∈ preorderAll cs, k.Laid := fun k hk => hlaid k (List.mem_append_right _ hk)
        obtain ⟨d, hd, hin⟩ := inside_of_mem_preorderAll hlaid' hcs
        exact ⟨d, List.mem_cons_of_mem c hd, hin⟩

end

mutual

/-- Nodes in pre-order start one behind the other. -/
theorem start_ascends_preorder {n : Node} (hlaid : ∀ k ∈ n.preorder, k.Laid) :
    n.preorder.Pairwise fun a b => a.label.start ≤ b.label.start := by
  cases n with
  | mk l cs =>
      have hroot := hlaid _ (mem_preorder_self _)
      have hbelow : ∀ m ∈ preorderAll cs, l.start ≤ m.label.start := by
        intro m hm
        have hmem : m ∈ (mk l cs).preorder := by
          rw [preorder]
          exact List.mem_cons_of_mem _ hm
        exact (inside_of_mem_preorder hlaid hmem).1
      rw [preorder] at hlaid ⊢
      apply List.Pairwise.cons hbelow
      exact start_ascends_preorderAll (fun k hk => hlaid k (List.mem_cons_of_mem _ hk)) hroot.apart

theorem start_ascends_preorderAll {cs : List Node} (hlaid : ∀ k ∈ preorderAll cs, k.Laid)
    (hapart : cs.Pairwise fun a b => a.label.stop ≤ b.label.start) :
    (preorderAll cs).Pairwise fun a b => a.label.start ≤ b.label.start := by
  cases cs with
  | nil =>
      rw [preorderAll]
      exact List.Pairwise.nil
  | cons c cs =>
      rw [preorderAll] at hlaid ⊢
      have hc : ∀ k ∈ c.preorder, k.Laid := fun k hk => hlaid k (List.mem_append_left _ hk)
      have hcs : ∀ k ∈ preorderAll cs, k.Laid := fun k hk => hlaid k (List.mem_append_right _ hk)
      rw [List.pairwise_cons] at hapart
      rw [List.pairwise_append]
      refine ⟨start_ascends_preorder hc, start_ascends_preorderAll hcs hapart.2, ?_⟩
      -- the earlier node stops inside of `c`, and the later one starts in a sibling behind `c`
      intro a ha b hb
      obtain ⟨d, hd, hbd⟩ := inside_of_mem_preorderAll hcs hb
      have hac := inside_of_mem_preorder hc ha
      have hrange := (hc a ha).range
      have hcd := hapart.1 d hd
      omega

end

theorem WellFormed.positions_ascend {content : Bytes} {root : Node} (h : WellFormed content root) :
    root.preorder.Pairwise fun a b =>
      toLex (positionAt content a.label.start) ≤ toLex (positionAt content b.label.start) :=
  (start_ascends_preorder h.2).imp (positionAt_mono content)

end Node

/-! ### Reports in document order -/

/-- Options that a built-in rule has read are options that it can be run with. -/
theorem Registry.exists_ok_builtin {rule : Rule} (h : rule ∈ builtin.rules) {raw : List Value}
    {e : Entry} (hread : rule.readOptions raw = .ok e.options) (s : Source) :
    ∃ ds, rule.check s e = .ok ds := by
  simp only [builtin, List.mem_cons, List.not_mem_nil, or_false] at h
  rcases h with rfl | rfl | rfl | rfl | rfl | rfl | rfl | rfl
  · obtain ⟨bs, -, hoptions⟩ := RestrictedImports.exists_of_readOptions hread
    refine ⟨RestrictedImports.diagnostics bs s e, ?_⟩
    change RestrictedImports.check s e = _
    rw [RestrictedImports.check, hoptions]
  · obtain ⟨bs, -, hoptions⟩ := RestrictedSyntax.exists_of_readOptions hread
    refine ⟨RestrictedSyntax.diagnostics bs s e, ?_⟩
    change RestrictedSyntax.check s e = _
    rw [RestrictedSyntax.check, hoptions]
  all_goals exact ⟨_, rfl⟩

theorem Source.positions_ascend_sites {s : Source} (h : Node.WellFormed s.content s.root) :
    s.sites.Pairwise fun t u => toLex (s.position t.node) ≤ toLex (s.position u.node) := by
  have hnodes := h.positions_ascend
  rwa [← s.map_node_sites, List.pairwise_map] at hnodes

def Diagnostic.place (d : Diagnostic) : Int ×ₗ Int :=
  toLex (d.line, d.column)

theorem Source.place_report_le {s : Source} {n m : Node} (e : Entry) (x y : String)
    (h : toLex (s.position n) ≤ toLex (s.position m)) :
    (s.report n e x).place ≤ (s.report m e y).place := by
  rw [Prod.Lex.toLex_le_toLex] at h
  rw [Diagnostic.place, Diagnostic.place, Prod.Lex.toLex_le_toLex]
  dsimp only [Source.report]
  omega

section
variable {rule : Rule} {s : Source} {e : Entry} {ds : List Diagnostic}

theorem Rule.ReportsInOrder.ascend (hrule : rule.ReportsInOrder)
    (h : Node.WellFormed s.content s.root) (hcheck : rule.check s e = .ok ds) :
    ds.Pairwise fun a b => a.place ≤ b.place := by
  obtain ⟨messages, rfl⟩ := hrule s e ds hcheck
  rw [List.pairwise_flatMap]
  constructor
  · intro t _
    rw [List.pairwise_map]
    exact List.pairwise_of_forall fun x y => s.place_report_le e x y le_rfl
  · refine (s.positions_ascend_sites h).imp ?_
    intro t u htu a ha b hb
    obtain ⟨x, -, rfl⟩ := List.mem_map.mp ha
    obtain ⟨y, -, rfl⟩ := List.mem_map.mp hb
    exact s.place_report_le e x y htu

/-- Reports of one rule on one file are ordered by their places alone. -/
theorem Rule.ReportsInOrder.keys_ascend (hrule : rule.ReportsInOrder)
    (h : Node.WellFormed s.content s.root) (hcheck : rule.check s e = .ok ds) :
    ds.Pairwise fun a b => a.key ≤ b.key := by
  have hlabels := hrule.labels s e ds hcheck
  refine (hrule.ascend h hcheck).imp_of_mem ?_
  intro a b ha hb hab
  rw [Diagnostic.place, Diagnostic.place, Prod.Lex.toLex_le_toLex] at hab
  rw [Diagnostic.key, Diagnostic.key, (hlabels a ha).1, (hlabels b hb).1, (hlabels a ha).2,
    (hlabels b hb).2]
  simp only [Prod.Lex.toLex_le_toLex, lt_irrefl, false_or, true_and, le_refl, and_true]
  omega

end

/-! ### Sorting keeps what is in order -/

theorem Diagnostic.sublist_sort {ds all : List Diagnostic}
    (hordered : ds.Pairwise fun a b => a.key ≤ b.key) (h : ds.Sublist all) :
    ds.Sublist (sort all) := by
  have trans : ∀ a b c : Diagnostic, le a b → le b c → le a c := by
    intro a b c hab hbc
    rw [le_eq_decide_key, decide_eq_true_eq] at *
    exact hab.trans hbc
  have total : ∀ a b : Diagnostic, le a b || le b a := by
    intro a b
    simpa [le_eq_decide_key] using le_total a.key b.key
  apply List.sublist_mergeSort trans total _ h
  exact hordered.imp fun hab => by simpa [le_eq_decide_key] using hab

theorem Collected.sublist_results {c : Collected} {file : String} {reports ds : List Diagnostic}
    (hfile : (file, reports) ∈ c.byFile) (h : ds.Sublist reports)
    (hordered : ds.Pairwise fun a b => a.key ≤ b.key) : ds.Sublist c.results := by
  have hmem : (file, reports) ∈ c.sortedFiles := List.mem_mergeSort.mpr hfile
  have hmerged : reports.Sublist (c.sortedFiles.flatMap (·.2)) :=
    List.sublist_flatten_of_mem (List.mem_map_of_mem hmem)
  exact Diagnostic.sublist_sort hordered (h.trans hmerged)

/-! ### Error nodes -/

theorem Node.firstError?_eq_find? (n : Node) : n.firstError? = n.preorder.find? (·.isError) := by
  rw [firstError?, visited_eq_preorder]

theorem Node.WellFormed.firstError_least {content : Bytes} {root n : Node}
    (h : Node.WellFormed content root) (hn : root.firstError? = some n) :
    IsLeast {p | ∃ m ∈ root.preorder, m.isError = true ∧ p = toLex (positionAt content m.label.start)}
      (toLex (positionAt content n.label.start)) := by
  rw [Node.firstError?_eq_find?] at hn
  obtain ⟨herror, front, back, hsplit, hfront⟩ := List.find?_eq_some_iff_append.mp hn
  have hascend := h.positions_ascend
  rw [hsplit, List.pairwise_append, List.pairwise_cons] at hascend
  constructor
  · exact ⟨n, by simp [hsplit], herror, rfl⟩
  · intro p hp
    obtain ⟨m, hm, hmerror, rfl⟩ := hp
    rw [hsplit, List.mem_append, List.mem_cons] at hm
    rcases hm with hm | hm | hm
    · have hnot := hfront m hm
      rw [hmerror] at hnot
      cases hnot
    · rw [hm]
    · exact hascend.2.1.1 m hm

theorem Node.exists_firstError {root : Node} (h : ∃ n ∈ root.preorder, n.isError = true) :
    ∃ n, root.firstError? = some n := by
  rw [firstError?_eq_find?]
  exact Option.isSome_iff_exists.mp (List.find?_isSome.mpr h)

theorem Source.parseWithout_malformed {missing : List String} {path : String} {content : Bytes}
    {root n : Node} (hext : Dialect.isSupported (extensionOf path) = true)
    (hmissing : extensionOf path ∉ missing) (hn : root.firstError? = some n) :
    Source.parseWithout missing path content { root, hasError := true } =
      .error { path, fault := .malformed, line := (positionAt content n.label.start).1,
               column := (positionAt content n.label.start).2 } := by
  unfold parseWithout
  dsimp only
  rw [hext, Bool.not_true, if_neg Bool.false_ne_true, if_neg (by simpa using hmissing), if_pos rfl,
    hn]

/-- In a tree that is well formed over its bytes, whatever the bytes are, positions ascend in
pre-order. So the reports of a built-in rule are in order as they come, and sorting them together
with others keeps them so; and a malformed file is reported at the least position of its error
nodes. In an encoded text, the position of a node that starts between characters counts the newlines
and the characters before it, and no two starts share a position. -/
theorem positions_follow_document_order {content : Bytes} {root : Node}
    (h : Node.WellFormed content root) :
    (root.preorder.Pairwise fun a b =>
        toLex (positionAt content a.label.start) ≤ toLex (positionAt content b.label.start)) ∧
      (∀ path e, ∀ rule ∈ Registry.builtin.rules,
        (∀ raw, rule.readOptions raw = .ok e.options →
          ∃ ds, rule.check ⟨path, content, root⟩ e = .ok ds) ∧
        ∀ ds, rule.check ⟨path, content, root⟩ e = .ok ds →
          (ds.Pairwise fun a b => toLex (a.line, a.column) ≤ toLex (b.line, b.column)) ∧
          ∀ (c : Collected) file reports, (file, reports) ∈ c.byFile → ds.Sublist reports →
            ds.Sublist c.results) ∧
      (∀ missing path, Dialect.isSupported (extensionOf path) = true → extensionOf path ∉ missing →
        (∃ n ∈ root.preorder, n.isError = true) →
        ∃ line column,
          Source.parseWithout missing path content { root, hasError := true } =
            .error { path, fault := .malformed, line, column } ∧
          IsLeast {p | ∃ n ∈ root.preorder, n.isError = true ∧
            p = toLex (positionAt content n.label.start)} (toLex (line, column))) ∧
      ∀ text, content = encode text →
        (∀ n ∈ root.preorder, String.Pos.Raw.IsValid text ⟨n.label.start⟩ →
          ∃ lines line, TextBefore text n.label.start lines line ∧
            positionAt content n.label.start =
              ((lines ++ line).count '\n' + 1, line.length + 1)) ∧
        ∀ a ∈ root.preorder, ∀ b ∈ root.preorder, String.Pos.Raw.IsValid text ⟨a.label.start⟩ →
          String.Pos.Raw.IsValid text ⟨b.label.start⟩ → a.label.start ≠ b.label.start →
          positionAt content a.label.start ≠ positionAt content b.label.start := by
  refine ⟨h.positions_ascend, ?_, ?_, ?_⟩
  · intro path e rule hrule
    have horder := Registry.reportsInOrder_builtin hrule
    constructor
    · intro raw hread
      exact Registry.exists_ok_builtin hrule hread _
    · intro ds hcheck
      refine ⟨horder.ascend h hcheck, ?_⟩
      intro c file reports hfile hsub
      exact Collected.sublist_results hfile hsub (horder.keys_ascend h hcheck)
  · intro missing path hext hmissing herror
    obtain ⟨n, hn⟩ := Node.exists_firstError herror
    exact ⟨_, _, Source.parseWithout_malformed hext hmissing hn, h.firstError_least hn⟩
  · intro text htext
    subst htext
    constructor
    · intro n _ hstart
      obtain ⟨lines, line, hbefore⟩ := exists_textBefore hstart
      exact ⟨lines, line, hbefore, hbefore.positionAt_eq⟩
    · intro a _ b _ ha hb hne heq
      exact hne (eq_of_positionAt_eq ha hb heq)

/-- Two accesses on two lines, the first one behind a character of two bytes. -/
def storageText : String := "é=localStorage.a\nlocalStorage.b"

def storageTree : Node :=
  .mk { kind := "program", stop := 32 }
    [.mk { kind := "assignment_expression", stop := 17 }
      [.mk { kind := "identifier", stop := 2, field := some "left" } [],
       .mk { kind := "member_expression", start := 3, stop := 17, field := some "right" }
        [.mk { kind := "identifier", start := 3, stop := 15, field := some "object" } [],
         .mk { kind := "property_identifier", start := 16, stop := 17, field := some "property" } []]],
     .mk { kind := "member_expression", start := 18, stop := 32 }
      [.mk { kind := "identifier", start := 18, stop := 30, field := some "object" } [],
       .mk { kind := "property_identifier", start := 31, stop := 32, field := some "property" } []]]

/-- The first access is in the third column, though it starts at the fourth byte. -/
theorem positions_follow_document_order_storage :
    Node.WellFormed (encode storageText) storageTree ∧
      String.Pos.Raw.IsValid storageText ⟨3⟩ ∧
      positionAt (encode storageText) 3 = (1, 3) ∧
      (∃ lines line, TextBefore storageText 3 lines line ∧ positionAt (encode storageText) 3 =
        ((lines ++ line).count '\n' + 1, line.length + 1)) ∧
      ∃ ds, LocalStorage.rule.rule.check ⟨"a.ts", encode storageText, storageTree⟩
          ⟨LocalStorage.rule.id, .warn, .none, 0, ""⟩ = .ok ds ∧
        ds.map (fun d => (d.line, d.column)) = [(1, 3), (2, 1)] ∧
        ds.Pairwise fun a b => toLex (a.line, a.column) ≤ toLex (b.line, b.column) := by
  have hwf : Node.WellFormed (encode storageText) storageTree := by decide +kernel
  have hstart : String.Pos.Raw.IsValid storageText ⟨3⟩ :=
    String.Pos.Raw.isValid_iff_exists_append.mpr
      ⟨"é=", "localStorage.a\nlocalStorage.b", by decide, by decide⟩
  have hrule : LocalStorage.rule.rule ∈ Registry.builtin.rules := by simp [Registry.builtin]
  obtain ⟨-, hrules, -, htext⟩ := positions_follow_document_order hwf
  obtain ⟨hreturns, hordered⟩ := hrules "a.ts" ⟨LocalStorage.rule.id, .warn, .none, 0, ""⟩
    LocalStorage.rule.rule hrule
  obtain ⟨ds, hds⟩ := hreturns [] rfl
  refine ⟨hwf, hstart, by decide +kernel, ?_, ds, hds, ?_, (hordered ds hds).1⟩
  · exact (htext storageText rfl).1 _ (List.mem_of_getElem? (i := 3) rfl) hstart
  · cases hds
    decide +kernel

end BoundaryLint
