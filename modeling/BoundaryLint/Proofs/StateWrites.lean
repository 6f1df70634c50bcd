import BoundaryLint.Proofs.AccessChains
import BoundaryLint.Rule.NavigationState

/-!
# Writes into the navigation state

An expression that is reached from the state object has layers: property accesses, subscripts,
parentheses and non-null marks, in any number and order. The search for the state object takes them
off in two loops. The first one takes subscripts and parentheses, the second one everything but
subscripts. So a write is seen exactly if its subscripts are outermost: none of them stands inside of
a property access or a non-null mark.
-/
namespace BoundaryLint

namespace NavigationState

/-- A layer of an expression. -/
inductive Access where
  | property
  | subscript
  | parens
  | nonNull
  deriving DecidableEq, Repr

/-- The expression is reached from the state object. Its layers are listed from the outside in. -/
inductive Reaches (s : Source) : List Access → Node → Prop
  | state {n : Node} : Kind.isIdentifier n.kind = true → s.text n = stateObject → Reaches s [] n
  | property {n o p : Node} {path : List Access} : n.kind = "member_expression" →
      n.child? "property" = some p → Kind.isIdentifier p.kind = true →
      n.child? "object" = some o → Reaches s path o → Reaches s (.property :: path) n
  | subscript {n o : Node} {path : List Access} : n.kind = "subscript_expression" →
      n.child? "object" = some o → Reaches s path o → Reaches s (.subscript :: path) n
  | parens {n c : Node} {path : List Access} : n.kind = "parenthesized_expression" →
      n.expressions = [c] → Reaches s path c → Reaches s (.parens :: path) n
  | nonNull {n c : Node} {path : List Access} : n.kind = "non_null_expression" →
      n.namedChildren.head? = some c → Reaches s path c → Reaches s (.nonNull :: path) n

/-- The first node is an assignment, `++`, `--` or `delete`, and the second one is what it writes to. -/
inductive Writes : Node → Node → Prop
  | assignment {n target : Node} : n.kind = "assignment_expression" →
      n.child? "left" = some target → Writes n target
  | augmented {n target : Node} : n.kind = "augmented_assignment_expression" →
      n.child? "left" = some target → Writes n target
  | update {n target : Node} : n.kind = "update_expression" →
      n.child? "argument" = some target → Writes n target
  | delete {n op target : Node} : n.kind = "unary_expression" →
      n.child? "operator" = some op → op.kind = "delete" →
      n.child? "argument" = some target → Writes n target

/-- The layers that the search takes off first. -/
def Access.isOuter : Access → Bool
  | .subscript => true
  | .parens => true
  | .property => false
  | .nonNull => false

/-- No subscript stands inside of a property access or a non-null mark. -/
def SubscriptsOutermost (path : List Access) : Prop :=
  Access.subscript ∉ path.dropWhile Access.isOuter

instance (path : List Access) : Decidable (SubscriptsOutermost path) :=
  inferInstanceAs (Decidable (Access.subscript ∉ path.dropWhile Access.isOuter))

/-! ### What is written to -/

theorem Writes.target? {n target : Node} (h : Writes n target) : target? n = some target := by
  cases h with
  | assignment hkind hleft => simp [NavigationState.target?, hkind, hleft]
  | augmented hkind hleft => simp [NavigationState.target?, hkind, hleft]
  | update hkind harg => simp [NavigationState.target?, hkind, harg]
  | delete hkind hop hdelete harg =>
      simp [NavigationState.target?, hkind, hop, hdelete, harg]

theorem Writes.kind_mem {n target : Node} (h : Writes n target) : n.kind ∈ rule.kinds := by
  cases h with
  | assignment hkind => simp [rule, hkind]
  | augmented hkind => simp [rule, hkind]
  | update hkind => simp [rule, hkind]
  | delete hkind => simp [rule, hkind]

/-! ### Layers taken off -/

section
variable {s : Source} {path : List Access} {n : Node}

theorem Reaches.unwrapped (h : Reaches s path n) :
    Reaches s (path.dropWhile (· == .parens)) n.unwrapped := by
  induction h with
  | state hid htext =>
      rw [Node.unwrapped_of_ne (ne_of_apply_ne Kind.isIdentifier (by rw [hid]; decide))]
      exact .state hid htext
  | property hkind hp hid ho h _ =>
      rw [Node.unwrapped_of_ne (by simp [hkind])]
      exact .property hkind hp hid ho h
  | subscript hkind ho h _ =>
      rw [Node.unwrapped_of_ne (by simp [hkind])]
      exact .subscript hkind ho h
  | parens hkind hc _ ih =>
      rw [Node.unwrapped_of_parens hkind hc]
      exact ih
  | nonNull hkind hc h _ =>
      rw [Node.unwrapped_of_ne (by simp [hkind])]
      exact .nonNull hkind hc h

theorem underSubscripts_eq (n : Node) :
    underSubscripts n =
      if n.unwrapped.kind == "subscript_expression" then
        (n.unwrapped.child? "object").bind underSubscripts
      else some n.unwrapped := by
  rw [NavigationState.underSubscripts]
  congr 1
  split
  · rename_i ho
    exact (congrArg (Option.bind · NavigationState.underSubscripts) ho).symm
  · rename_i ho
    exact (congrArg (Option.bind · NavigationState.underSubscripts) ho).symm

/-- The first loop takes off all outer layers. -/
theorem Reaches.underSubscripts (h : Reaches s path n) :
    ∃ m, underSubscripts n = some m ∧ Reaches s (path.dropWhile Access.isOuter) m := by
  induction h with
  | @state n hid htext =>
      have hparens : n.kind ≠ "parenthesized_expression" :=
        ne_of_apply_ne Kind.isIdentifier (by rw [hid]; decide)
      have hsubscript : n.kind ≠ "subscript_expression" :=
        ne_of_apply_ne Kind.isIdentifier (by rw [hid]; decide)
      refine ⟨n, ?_, .state hid htext⟩
      rw [underSubscripts_eq, Node.unwrapped_of_ne hparens, if_neg (by simpa using hsubscript)]
  | @property n _ _ _ hkind hp hid ho h _ =>
      refine ⟨n, ?_, .property hkind hp hid ho h⟩
      rw [underSubscripts_eq, Node.unwrapped_of_ne (by simp [hkind]), if_neg (by simp [hkind])]
  | @subscript n o _ hkind ho _ ih =>
      have hunder : NavigationState.underSubscripts n = NavigationState.underSubscripts o := by
        rw [underSubscripts_eq, Node.unwrapped_of_ne (by simp [hkind]), if_pos (by simp [hkind]), ho,
          Option.bind_some]
      rw [hunder]
      exact ih
  | @parens n c _ hkind hc _ ih =>
      have hunder : NavigationState.underSubscripts n = NavigationState.underSubscripts c := by
        rw [underSubscripts_eq, underSubscripts_eq c, Node.unwrapped_of_parens hkind hc]
      rw [hunder]
      exact ih
  | @nonNull n _ _ hkind hc h _ =>
      refine ⟨n, ?_, .nonNull hkind hc h⟩
      rw [underSubscripts_eq, Node.unwrapped_of_ne (by simp [hkind]), if_neg (by simp [hkind])]

/-- The second loop takes off all layers but subscripts, on which it gives up. -/
theorem Reaches.chainFrom (h : Reaches s path n) (inner : List String) :
    if .subscript ∈ path then s.chainFrom inner n = none
    else ∃ names, s.chainFrom inner n = some (stateObject :: names) := by
  induction h generalizing inner with
  | @state n hid htext =>
      refine ⟨inner, ?_⟩
      rw [Source.chainFrom_of_isName inner (by simp [Kind.isName, hid]), htext]
  | @property n o p _ hkind hp hid ho _ ih =>
      rw [Source.chainFrom_of_access inner hkind hp ho, if_pos hid]
      simpa using ih (s.text p :: inner)
  | @subscript n _ _ hkind _ _ _ =>
      rw [if_pos List.mem_cons_self, s.chainFrom_eq, Node.unwrapped_of_ne (by simp [hkind]), hkind]
      rfl
  | @parens n c _ hkind hc _ ih =>
      rw [Source.chainFrom_of_parens inner hkind hc]
      simpa using ih inner
  | @nonNull n c _ hkind hc _ ih =>
      rw [Source.chainFrom_of_nonNull inner hkind hc]
      simpa using ih inner

/-! ### What is seen -/

/-- Parentheses come off first, which leaves the same layers for the two loops. -/
theorem dropWhile_isOuter_dropWhile (path : List Access) :
    (path.dropWhile (· == .parens)).dropWhile Access.isOuter = path.dropWhile Access.isOuter := by
  induction path with
  | nil => rfl
  | cons a path ih =>
      cases a with
      | parens => exact ih
      | property => rfl
      | subscript => rfl
      | nonNull => rfl

theorem Reaches.isIdentifier_or (h : Reaches s path n) :
    (path = [] ∧ Kind.isIdentifier n.kind = true ∧ s.text n = stateObject) ∨
      Kind.isIdentifier n.kind = false := by
  cases h with
  | state hid htext => exact .inl ⟨rfl, hid, htext⟩
  | property hkind => exact .inr (by rw [hkind]; decide)
  | subscript hkind => exact .inr (by rw [hkind]; decide)
  | parens hkind => exact .inr (by rw [hkind]; decide)
  | nonNull hkind => exact .inr (by rw [hkind]; decide)

/-- The loops find the state object behind every layer unless a subscript stops the second one. -/
theorem Reaches.any_chain? (h : Reaches s path n) :
    ((NavigationState.underSubscripts n).bind s.chain?).any (·.contains stateObject) = true ↔
      SubscriptsOutermost path := by
  obtain ⟨m, hm, hreaches⟩ := h.underSubscripts
  have hchain := hreaches.chainFrom []
  rw [hm, Option.bind_some, Source.chain?, SubscriptsOutermost]
  split at hchain
  · rename_i hmem
    simp [hchain, hmem]
  · rename_i hnot
    obtain ⟨names, hnames⟩ := hchain
    simp [hnames, hnot]

theorem Reaches.targetsState_iff (h : Reaches s path n) :
    targetsState s n = true ↔ SubscriptsOutermost path := by
  have houter : SubscriptsOutermost (path.dropWhile (· == .parens)) ↔ SubscriptsOutermost path := by
    rw [SubscriptsOutermost, SubscriptsOutermost, dropWhile_isOuter_dropWhile]
  have hunwrapped := h.unwrapped
  rw [← houter, targetsState]
  rcases hunwrapped.isIdentifier_or with ⟨hnil, hid, htext⟩ | hid
  · rw [if_pos hid, htext, hnil]
    decide
  · rw [if_neg (by simp [hid])]
    exact hunwrapped.any_chain?

end

/-- A write to the state object or to anything reached from it, outside of the functions that own it,
is reported exactly if its subscripts are outermost. -/
theorem reported_iff_subscripts_outermost {s : Source} {t : Site} (ht : t ∈ s.sites)
    {target : Node} {path : List Access} (hwrites : Writes t.node target)
    (hreaches : Reaches s path target)
    (houtside : ∀ name ∈ s.enclosingFunction? t.ancestors, name ∉ accessors) (e : Entry) :
    rule.rule.check s e = .ok ((rule.flagged s).map fun u => s.report u.node e rule.message) ∧
      (t ∈ rule.flagged s ↔ SubscriptsOutermost path) := by
  have hkind : rule.kinds.contains t.node.kind = true := List.contains_iff_mem.mpr hwrites.kind_mem
  have hfunction : (s.enclosingFunction? t.ancestors).any accessors.contains = false := by
    rw [Option.any_eq_false]
    intro name hname
    simpa using houtside name hname
  have hflags : rule.flags s t = targetsState s target := by
    change flags s t = _
    rw [flags, hwrites.target?, hfunction, Option.any_some, Bool.not_false, Bool.and_true]
  refine ⟨rfl, ?_⟩
  rw [NodeRule.flagged, List.mem_filter, hkind, hflags, Bool.true_and, hreaches.targetsState_iff]
  exact and_iff_right ht

/-- The expression `(navigationState!.a)['b']` from the 19th byte on. -/
def entryOfProperty : Node :=
  .mk { kind := "subscript_expression", start := 19, stop := 44, field := some "argument" }
    [.mk { kind := "parenthesized_expression", start := 19, stop := 39, field := some "object" }
      [.mk { kind := "member_expression", start := 20, stop := 38 }
        [.mk { kind := "non_null_expression", start := 20, stop := 36, field := some "object" }
          [.mk { kind := "identifier", start := 20, stop := 35 } []],
         .mk { kind := "property_identifier", start := 37, stop := 38, field := some "property" } []]],
     .mk { kind := "string", start := 40, stop := 43, field := some "index" } []]

def entryUpdate : Node :=
  .mk { kind := "update_expression", start := 19, stop := 46 } [entryOfProperty]

def resetBody : Node :=
  .mk { kind := "statement_block", start := 17, stop := 49, field := some "body" } [entryUpdate]

def resetFunction : Node :=
  .mk { kind := "function_declaration", stop := 49 }
    [.mk { kind := "identifier", start := 9, stop := 14, field := some "name" } [], resetBody]

def resetSource : Source where
  path := "a.ts"
  content := "function reset() \x7b (navigationState!.a)['b']++; \x7d".toUTF8.toList
  root := resetFunction

/-- All four layers, with the subscript outermost, in a function that does not own the state. -/
theorem reported_iff_subscripts_outermost_entryOfProperty :
    Reaches resetSource [.subscript, .parens, .property, .nonNull] entryOfProperty ∧
      resetSource.enclosingFunction? [resetBody, resetFunction] = some "reset" ∧
      ⟨entryUpdate, [resetBody, resetFunction]⟩ ∈ rule.flagged resetSource := by
  have hmem : ⟨entryUpdate, [resetBody, resetFunction]⟩ ∈ resetSource.sites :=
    List.mem_of_getElem? (i := 3) rfl
  have hreaches : Reaches resetSource [.subscript, .parens, .property, .nonNull] entryOfProperty :=
    .subscript rfl rfl (.parens rfl rfl (.property rfl rfl (by decide) rfl
      (.nonNull rfl rfl (.state (by decide) (by decide +kernel)))))
  have hfunction : resetSource.enclosingFunction? [resetBody, resetFunction] = some "reset" := by
    decide +kernel
  have houtside : ∀ name ∈ resetSource.enclosingFunction? [resetBody, resetFunction],
      name ∉ accessors := by
    rw [hfunction]
    decide
  refine ⟨hreaches, hfunction, ?_⟩
  exact (reported_iff_subscripts_outermost hmem (.update rfl rfl) hreaches houtside
    ⟨rule.id, .error, .none, 0, ""⟩).2.mpr (by decide)

/-- The expression `navigationState['a'].b`. -/
def propertyOfEntry : Node :=
  .mk { kind := "member_expression", stop := 22, field := some "left" }
    [.mk { kind := "subscript_expression", stop := 20, field := some "object" }
      [.mk { kind := "identifier", stop := 15, field := some "object" } [],
       .mk { kind := "string", start := 16, stop := 19, field := some "index" } []],
     .mk { kind := "property_identifier", start := 21, stop := 22, field := some "property" } []]

/-- The expression `navigationState['a']!['b']`. -/
def entryOfMarkedEntry : Node :=
  .mk { kind := "subscript_expression", stop := 26, field := some "left" }
    [.mk { kind := "non_null_expression", stop := 21, field := some "object" }
      [.mk { kind := "subscript_expression", stop := 20 }
        [.mk { kind := "identifier", stop := 15, field := some "object" } [],
         .mk { kind := "string", start := 16, stop := 19, field := some "index" } []]],
     .mk { kind := "string", start := 22, stop := 25, field := some "index" } []]

def assignment (target : Node) : Node :=
  let stop := target.label.stop
  .mk { kind := "assignment_expression", stop := stop + 4 }
    [target, .mk { kind := "number", start := stop + 3, stop := stop + 4, field := some "right" } []]

def assignmentSource (text : String) (target : Node) : Source where
  path := "a.ts"
  content := text.toUTF8.toList
  root := assignment target

/-- A write into the state, outside of the functions that own it, that is not reported. -/
structure Missed (s : Source) (t : Site) : Prop where
  inTree : t ∈ s.sites
  writes : ∃ target path, Writes t.node target ∧ Reaches s path target
  outside : ∀ name ∈ s.enclosingFunction? t.ancestors, name ∉ accessors
  unreported : t ∉ rule.flagged s

/-- A subscript inside of a property access or of a non-null mark hides a write. -/
theorem inner_subscripts_hide_writes :
    Missed (assignmentSource "navigationState['a'].b = 1" propertyOfEntry)
        ⟨assignment propertyOfEntry, []⟩ ∧
      Missed (assignmentSource "navigationState['a']!['b'] = 1" entryOfMarkedEntry)
        ⟨assignment entryOfMarkedEntry, []⟩ := by
  have hproperty : rule.flagged (assignmentSource "navigationState['a'].b = 1" propertyOfEntry) = [] :=
    List.isEmpty_iff.mp (by decide +kernel)
  have hmarked :
      rule.flagged (assignmentSource "navigationState['a']!['b'] = 1" entryOfMarkedEntry) = [] :=
    List.isEmpty_iff.mp (by decide +kernel)
  have houtside : ∀ s : Source, ∀ name ∈ s.enclosingFunction? [], name ∉ accessors := by
    simp [Source.enclosingFunction?]
  constructor
  · refine ⟨List.mem_cons_self, ⟨_, [.property, .subscript], .assignment rfl rfl, ?_⟩,
      houtside _, ?_⟩
    · exact .property rfl rfl (by decide) rfl
        (.subscript rfl rfl (.state (by decide) (by decide +kernel)))
    · rw [hproperty]
      exact List.not_mem_nil
  · refine ⟨List.mem_cons_self, ⟨_, [.subscript, .nonNull, .subscript], .assignment rfl rfl, ?_⟩,
      houtside _, ?_⟩
    · exact .subscript rfl rfl
        (.nonNull rfl rfl (.subscript rfl rfl (.state (by decide) (by decide +kernel))))
    · rw [hmarked]
      exact List.not_mem_nil

end NavigationState

end BoundaryLint
