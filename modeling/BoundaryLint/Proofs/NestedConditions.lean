import BoundaryLint.Proofs.Ancestry
import BoundaryLint.Rule.SourceAuth

/-!
# Conditions inside of conditions

A condition joins its parts by `&&` and `||`; parts may be negated and stand in parentheses. Of a
condition that is reported, a condition inside of it is reported once more exactly if it is negated:
if what stands around it first, parentheses apart, is a `!`. A condition without negated groups is
reported once.
-/
namespace BoundaryLint.SourceAuth

/-- What can stand around a part of a condition. -/
inductive Layer where
  | logical
  | negation
  | parens
  deriving DecidableEq, Repr

def Layer.isAt : Layer → Node → Bool
  | .logical, n => isLogical n
  | .negation, n =>
    n.kind == "unary_expression" && (n.child? "operator").any (·.kind == "!")
  | .parens, n => n.kind == "parenthesized_expression"

/-- The second site is inside of the first one. The layers around it are listed from the inside out;
the last of them is the first site itself. -/
inductive Nested (t : Site) : List Layer → Site → Prop
  | direct {u : Site} {layer : Layer} : t.IsParent u → layer.isAt t.node = true →
      Nested t [layer] u
  | inner {p u : Site} {layer : Layer} {layers : List Layer} : p.IsParent u →
      layer.isAt p.node = true → Nested t layers p → Nested t (layer :: layers) u

/-- The group is negated: its first layer other than parentheses is a negation. -/
def Negated (layers : List Layer) : Prop :=
  (layers.dropWhile (· == .parens)).head? = some .negation

instance (layers : List Layer) : Decidable (Negated layers) :=
  inferInstanceAs (Decidable (_ = _))

/-! ### What the layers are -/

def Layer.kind : Layer → String
  | .logical => "binary_expression"
  | .negation => "unary_expression"
  | .parens => "parenthesized_expression"

theorem Layer.kind_of_isAt {layer : Layer} {n : Node} (h : layer.isAt n = true) :
    n.kind = layer.kind := by
  cases layer with
  | logical => exact beq_iff_eq.mp (Bool.and_eq_true_iff.mp h).1
  | negation => exact beq_iff_eq.mp (Bool.and_eq_true_iff.mp h).1
  | parens => exact beq_iff_eq.mp h

theorem Layer.isLogical_of_isAt {layer : Layer} {n : Node} (h : layer.isAt n = true) :
    isLogical n = (layer == .logical) := by
  have hkind := Layer.kind_of_isAt h
  cases layer with
  | logical => exact h
  | negation => simp [isLogical, hkind, Layer.kind]
  | parens => simp [isLogical, hkind, Layer.kind]

/-- No layer is a function, so all of them are in one function. -/
theorem Layer.enclosingFunction?_inside (s : Source) {p u : Site} (hparent : p.IsParent u)
    {layer : Layer} (hlayer : layer.isAt p.node = true) :
    s.enclosingFunction? u.ancestors = s.enclosingFunction? p.ancestors := by
  have hfunction : Kind.isFunction p.node.kind = false := by
    rw [Layer.kind_of_isAt hlayer]
    cases layer <;> decide
  rw [hparent.ancestors, Source.enclosingFunction?, hfunction, if_neg Bool.false_ne_true]

/-- Whether the search takes what is right inside of a layer for outermost, given its answer for the
layer itself. -/
def Layer.passesOn (outermost : Bool) : Layer → Bool
  | .logical => false
  | .negation => true
  | .parens => outermost

theorem Layer.isOutermost_inside {p u : Site} (hparent : p.IsParent u) {layer : Layer}
    (hlayer : layer.isAt p.node = true) :
    isOutermost u.ancestors = layer.passesOn (isOutermost p.ancestors) := by
  have hkind := Layer.kind_of_isAt hlayer
  have hlogical := Layer.isLogical_of_isAt hlayer
  rw [isOutermost, hparent.ancestors]
  cases layer with
  | logical =>
      rw [List.dropWhile_cons_of_neg (by simp [hkind, Layer.kind]), List.head?_cons,
        Option.any_some, hlogical]
      rfl
  | negation =>
      rw [List.dropWhile_cons_of_neg (by simp [hkind, Layer.kind]), List.head?_cons,
        Option.any_some, hlogical]
      rfl
  | parens =>
      rw [List.dropWhile_cons_of_pos (by simp [hkind, Layer.kind])]
      rfl

/-! ### What is reported inside -/

section
variable {s : Source} {t u : Site} {layers : List Layer}

theorem Nested.enclosingFunction? (h : Nested t layers u) :
    s.enclosingFunction? u.ancestors = s.enclosingFunction? t.ancestors := by
  induction h with
  | direct hparent hlayer => exact Layer.enclosingFunction?_inside s hparent hlayer
  | inner hparent hlayer _ ih => exact (Layer.enclosingFunction?_inside s hparent hlayer).trans ih

/-- Inside of a condition, the search takes a part for an outermost one if it is negated. -/
theorem Nested.isOutermost_iff (h : Nested t layers u) (ht : isLogical t.node = true) :
    isOutermost u.ancestors = true ↔ Negated layers := by
  induction h with
  | @direct u layer hparent hlayer =>
      have hlogical : layer = .logical := by
        rw [Layer.isLogical_of_isAt hlayer] at ht
        exact beq_iff_eq.mp ht
      rw [Layer.isOutermost_inside hparent hlayer, hlogical]
      simp [Layer.passesOn, Negated]
  | @inner p u layer layers hparent hlayer _ ih =>
      rw [Layer.isOutermost_inside hparent hlayer]
      cases layer with
      | logical => simp [Layer.passesOn, Negated]
      | negation => simp [Layer.passesOn, Negated]
      | parens => exact ih

end

/-- The rule reports the flagged sites. Inside of a condition that it reports, it reports another one
exactly if that one is negated and itself reads two or more fields. -/
theorem reported_inside_iff_negated {s : Source} {t u : Site} {layers : List Layer}
    (ht : t ∈ rule.flagged s) (hu : u ∈ s.sites) (hlogical : isLogical u.node = true)
    (hnested : Nested t layers u) (e : Entry) :
    rule.rule.check s e = .ok ((rule.flagged s).map fun v => s.report v.node e rule.message) ∧
      (u ∈ rule.flagged s ↔ Negated layers ∧ 2 ≤ (fieldsRead s u.node).length) ∧
      (.negation ∉ layers → u ∉ rule.flagged s) := by
  have hflags : flags s t = true := (Bool.and_eq_true_iff.mp (List.mem_filter.mp ht).2).2
  simp only [flags, Bool.and_eq_true, bne_iff_ne] at hflags
  have hiff : u ∈ rule.flagged s ↔ Negated layers ∧ 2 ≤ (fieldsRead s u.node).length := by
    have hlayer : Layer.logical.isAt u.node = true := hlogical
    have hkind : rule.kinds.contains u.node.kind = true := by
      rw [Layer.kind_of_isAt hlayer]
      decide
    rw [NodeRule.flagged, List.mem_filter, hkind, Bool.true_and]
    change _ ∧ flags s u = true ↔ _
    rw [flags, hlogical, hnested.enclosingFunction?, bne_iff_ne.mpr hflags.2, Bool.and_true,
      Bool.true_and, Bool.and_eq_true, hnested.isOutermost_iff hflags.1.1.1, decide_eq_true_eq]
    exact and_iff_right hu
  refine ⟨rfl, hiff, ?_⟩
  intro hnone hmem
  have hhead := (hiff.mp hmem).1
  have hnegation : Layer.negation ∈ layers.dropWhile (· == .parens) := List.mem_of_head? hhead
  exact hnone (List.dropWhile_subset _ hnegation)

/-! ### Two conditions -/

/-- A field of the object `source`, from where the object starts to where the field stops. -/
def fieldOfSource (start stop : Nat) (field : String) : Node :=
  .mk { kind := "member_expression", start, stop, field := some field }
    [.mk { kind := "identifier", start, stop := start + 6, field := some "object" } [],
     .mk { kind := "property_identifier", start := start + 7, stop, field := some "property" } []]

def sign (kind : String) (start : Nat) : Node :=
  .mk { kind, named := false, start, stop := start + kind.length, field := some "operator" } []

def joined (operator : String) (left right : Node) : Node :=
  .mk { kind := "binary_expression", start := left.label.start, stop := right.label.stop }
    [left, sign operator (left.label.stop + 1), right]

def inParens (field : String) (n : Node) : Node :=
  .mk { kind := "parenthesized_expression", start := n.label.start - 1, stop := n.label.stop + 1,
        field := some field } [n]

def negated (field : String) (n : Node) : Node :=
  .mk { kind := "unary_expression", start := n.label.start - 1, stop := n.label.stop,
        field := some field }
    [sign "!" (n.label.start - 1), n]

/-- The pair `source.authType && source.needsAuth`. -/
def pair : Node := joined "&&" (fieldOfSource 26 41 "left") (fieldOfSource 45 61 "right")

def pairParens : Node := inParens "argument" pair

def negatedPair : Node := negated "right" pairParens

/-- The alternative `a || !(source.authType && source.needsAuth)`. -/
def alternative : Node :=
  joined "||" (.mk { kind := "identifier", start := 19, stop := 20, field := some "left" } [])
    negatedPair

def alternativeParens : Node := inParens "right" alternative

def condition : Node := joined "&&" (fieldOfSource 0 14 "left") alternativeParens

def conditionSource : Source where
  path := "a.ts"
  content := "source.enabled && (a || !(source.authType && source.needsAuth))".toUTF8.toList
  root := condition

/-- The alternative reads two fields and is not reported again; the negated pair in it is. -/
theorem reported_inside_iff_negated_alternative :
    ⟨condition, []⟩ ∈ rule.flagged conditionSource ∧
      2 ≤ (fieldsRead conditionSource alternative).length ∧
      ⟨alternative, [alternativeParens, condition]⟩ ∉ rule.flagged conditionSource ∧
      ⟨pair, [pairParens, negatedPair, alternative, alternativeParens, condition]⟩ ∈
        rule.flagged conditionSource := by
  have hcondition : ⟨condition, []⟩ ∈ rule.flagged conditionSource :=
    List.mem_filter.mpr ⟨List.mem_of_getElem? (i := 0) rfl, by decide +kernel⟩
  have houter : Nested ⟨condition, []⟩ [.parens, .logical]
      ⟨alternative, [alternativeParens, condition]⟩ :=
    .inner (p := ⟨alternativeParens, [condition]⟩) ⟨List.mem_of_getElem? (i := 0) rfl, rfl⟩ rfl
      (.direct ⟨List.mem_of_getElem? (i := 2) rfl, rfl⟩ rfl)
  have hinner : Nested ⟨condition, []⟩ [.parens, .negation, .logical, .parens, .logical]
      ⟨pair, [pairParens, negatedPair, alternative, alternativeParens, condition]⟩ :=
    .inner (p := ⟨pairParens, [negatedPair, alternative, alternativeParens, condition]⟩)
      ⟨List.mem_of_getElem? (i := 0) rfl, rfl⟩ rfl
      (.inner (p := ⟨negatedPair, [alternative, alternativeParens, condition]⟩)
        ⟨List.mem_of_getElem? (i := 1) rfl, rfl⟩ rfl
        (.inner ⟨List.mem_of_getElem? (i := 2) rfl, rfl⟩ rfl houter))
  have hpair := (reported_inside_iff_negated hcondition (List.mem_of_getElem? (i := 12) rfl) rfl
    hinner ⟨rule.id, .error, .none, 0, ""⟩).2.1
  have halternative := (reported_inside_iff_negated hcondition (List.mem_of_getElem? (i := 6) rfl)
    rfl houter ⟨rule.id, .error, .none, 0, ""⟩).2.2
  exact ⟨hcondition, by decide +kernel, halternative (by decide),
    hpair.mpr ⟨by decide, by decide +kernel⟩⟩

/-- The pair `source.enabled && source.needsAuth` from the 8th byte on. -/
def guardedPair : Node := joined "&&" (fieldOfSource 7 21 "left") (fieldOfSource 25 41 "right")

def guardedParens : Node := inParens "argument" guardedPair

def guardedNegation : Node := negated "right" guardedParens

def guardedCondition : Node :=
  joined "&&" (.mk { kind := "identifier", stop := 1, field := some "left" } []) guardedNegation

def guardedSource : Source where
  path := "a.ts"
  content := "a && !(source.enabled && source.needsAuth)".toUTF8.toList
  root := guardedCondition

/-- A condition is reported together with a negated group in it. -/
theorem negated_group_is_reported_again :
    Nested ⟨guardedCondition, []⟩ [.parens, .negation, .logical]
        ⟨guardedPair, [guardedParens, guardedNegation, guardedCondition]⟩ ∧
      isLogical guardedPair = true ∧
      ⟨guardedCondition, []⟩ ∈ rule.flagged guardedSource ∧
      ⟨guardedPair, [guardedParens, guardedNegation, guardedCondition]⟩ ∈
        rule.flagged guardedSource := by
  refine ⟨?_, rfl, ?_, ?_⟩
  · exact .inner (p := ⟨guardedParens, [guardedNegation, guardedCondition]⟩)
      ⟨List.mem_of_getElem? (i := 0) rfl, rfl⟩ rfl
      (.inner (p := ⟨guardedNegation, [guardedCondition]⟩)
        ⟨List.mem_of_getElem? (i := 1) rfl, rfl⟩ rfl
        (.direct ⟨List.mem_of_getElem? (i := 2) rfl, rfl⟩ rfl))
  · exact List.mem_filter.mpr ⟨List.mem_of_getElem? (i := 0) rfl, by decide +kernel⟩
  · exact List.mem_filter.mpr ⟨List.mem_of_getElem? (i := 6) rfl, by decide +kernel⟩

end BoundaryLint.SourceAuth
