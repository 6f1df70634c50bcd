import BoundaryLint.Proofs.SelectorLayout
import Mathlib.Data.List.TakeWhile

/-!
# Written selectors are read back

Each reader is followed through the text that it is meant for: in front of a remainder that cannot
continue the text, it gives what the text stands for and leaves the remainder. What may follow
differs from reader to reader. A name goes on as long as there are characters of names, a word up to
white space or a bracket, and white space between compounds is a combinator unless a comma, a `>` or
the end comes after it.
-/
namespace BoundaryLint.Selector

/-- The text does not go on with a character of this sort. -/
def Stops (p : Char → Bool) (rest : List Char) : Prop :=
  ∀ c ∈ rest.head?, p c = false

section
variable {p : Char → Bool} {t rest : List Char}

theorem stops_nil : Stops p [] := by simp [Stops]

theorem stops_cons {c : Char} : Stops p (c :: rest) ↔ p c = false := by simp [Stops]

theorem Stops.mono {q : Char → Bool} (h : ∀ c, q c = true → p c = true) (hr : Stops p rest) :
    Stops q rest := by
  intro c hc
  by_contra hq
  have hp := hr c hc
  rw [h c (by simpa using hq)] at hp
  cases hp

theorem takeWhile_append_of_stops (ht : ∀ c ∈ t, p c = true) (hr : Stops p rest) :
    (t ++ rest).takeWhile p = t := by
  rw [List.takeWhile_append_of_pos ht]
  cases rest with
  | nil => simp
  | cons c rest => simp [stops_cons.mp hr]

theorem dropWhile_append_of_stops (ht : ∀ c ∈ t, p c = true) (hr : Stops p rest) :
    (t ++ rest).dropWhile p = rest := by
  rw [List.dropWhile_append_of_pos ht]
  cases rest with
  | nil => simp
  | cons c rest => simp [stops_cons.mp hr]

theorem skipBlank_append (b : Layout.Blanks) (hr : Stops Text.isBlank rest) :
    skipBlank (b.text ++ rest) = rest :=
  dropWhile_append_of_stops b.blank hr

theorem Stops.blanks_append (hr : Stops p rest) (b : Layout.Blanks)
    (hblank : ∀ c, Text.isBlank c = true → p c = false) : Stops p (b.text ++ rest) := by
  cases h : b.text with
  | nil => exact hr
  | cons c t => exact stops_cons.mpr (hblank c (b.blank c (by simp [h])))

end

/-- Parts with texts that are not empty are no more than the characters of their text. -/
theorem length_le_length_flatMap {α : Type} (xs : List α) {f : α → List Char}
    (h : ∀ x ∈ xs, f x ≠ []) : xs.length ≤ (xs.flatMap f).length := by
  induction xs with
  | nil => simp
  | cons x xs ih =>
      have hx := List.length_pos_iff.mpr (h x List.mem_cons_self)
      have hxs := ih fun y hy => h y (List.mem_cons_of_mem x hy)
      simp only [List.flatMap_cons, List.length_append, List.length_cons]
      omega

/-! ### Characters -/

theorem toNat_of_isNameChar {c : Char} (h : isNameChar c = true) :
    0x24 ≤ c.toNat ∧ c.toNat ≤ 0x7a := by
  delta isNameChar Char.isAlphanum Char.isAlpha Char.isUpper Char.isLower Char.isDigit at h
  simp only [Bool.or_eq_true, Bool.and_eq_true, decide_eq_true_eq, beq_iff_eq, ge_iff_le,
    UInt32.le_iff_toNat_le] at h
  have hval : c.val.toNat = c.toNat := rfl
  rcases h with (((h | h) | h) | rfl) | rfl
  · simp at h
    omega
  · simp at h
    omega
  · simp at h
    omega
  · decide
  · decide

theorem isBlank_of_isNameChar {c : Char} (h : isNameChar c = true) : Text.isBlank c = false := by
  have := toNat_of_isNameChar h
  simp only [Text.isBlank, Bool.or_eq_false_iff, Bool.and_eq_false_iff, beq_eq_false_iff_ne,
    decide_eq_false_iff_not]
  omega

theorem isNameChar_of_isNameStart {c : Char} (h : isNameStart c = true) : isNameChar c = true := by
  simp only [isNameStart, isNameChar, Char.isAlphanum, Bool.or_eq_true] at h ⊢
  rcases h with (h | h) | h <;> simp [h]

theorem isNameChar_of_isBlank {c : Char} (h : Text.isBlank c = true) : isNameChar c = false := by
  by_contra hname
  rw [isBlank_of_isNameChar (by simpa using hname)] at h
  cases h

theorem isBareChar_of_isBlank {c : Char} (h : Text.isBlank c = true) : isBareChar c = false := by
  simp [isBareChar, h]

/-- A character that can begin a compound or go on with one: no white space, `>` or comma. -/
def isCompoundChar (c : Char) : Bool :=
  !Text.isBlank c && c != '>' && c != ','

theorem isCompoundChar_of_isNameChar {c : Char} (h : isNameChar c = true) :
    isCompoundChar c = true := by
  have hgt : c ≠ '>' := by rintro rfl; exact absurd h (by decide)
  have hcomma : c ≠ ',' := by rintro rfl; exact absurd h (by decide)
  simp [isCompoundChar, isBlank_of_isNameChar h, hgt, hcomma]

theorem isCompoundChar_of_isBlank {c : Char} (h : Text.isBlank c = true) :
    isCompoundChar c = false := by
  simp [isCompoundChar, h]

/-! ### Names and values -/

theorem name?_append (n : Layout.Name) {rest : List Char} (hr : Stops isNameChar rest) :
    name? (n.text ++ rest) = some (n.text, rest) := by
  rw [Layout.Name.text, List.cons_append, name?, if_pos n.start,
    takeWhile_append_of_stops n.chars hr, dropWhile_append_of_stops n.chars hr]

theorem untilQuote_append {q : Char} {t : List Char} (h : q ∉ t) (rest : List Char) :
    untilQuote q (t ++ q :: rest) = some (t, rest) := by
  induction t with
  | nil => simp [untilQuote]
  | cons c t ih =>
      simp only [List.mem_cons, not_or] at h
      simp [untilQuote, Ne.symm h.1, ih h.2]

theorem untilSlash_append {prev : Char} {body : List Char} (h : '/' ∉ body)
    (hend : (prev :: body).getLast? ≠ some '\\') (rest : List Char) :
    untilSlash prev (body ++ '/' :: rest) = some (body, rest) := by
  induction body generalizing prev with
  | nil =>
      have hprev : prev ≠ '\\' := by simpa using hend
      simp [untilSlash, hprev]
  | cons c body ih =>
      simp only [List.mem_cons, not_or] at h
      have hrest : untilSlash c (body ++ '/' :: rest) = some (body, rest) :=
        ih h.2 (by simpa using hend)
      simp [untilSlash, Ne.symm h.1, hrest]

theorem isBareChar_of_isFlag {c : Char} (h : isFlag c = true) : isBareChar c = true := by
  simp only [isFlag, Bool.or_eq_true, beq_iff_eq] at h
  rcases h with (rfl | rfl) | rfl <;> decide

theorem operandAt_append (v : Layout.Value) {rest : List Char} (hr : Stops isBareChar rest) :
    operandAt (v.text ++ rest) = .ok (v.meaning, rest) := by
  cases v with
  | quoted mark content hmark hcontent =>
      rcases hmark with rfl | rfl
      · simp [Layout.Value.text, Layout.Value.meaning, operandAt, untilQuote_append hcontent]
      · simp [Layout.Value.text, Layout.Value.meaning, operandAt, untilQuote_append hcontent]
  | word first others hfirst hchars =>
      have hbare : ∀ c ∈ first :: others, isBareChar c = true := by
        intro c hc
        simp [isBareChar, hchars c hc]
      rw [Layout.Value.text, operandAt]
      · rw [takeWhile_append_of_stops hbare hr, dropWhile_append_of_stops hbare hr]
        rfl
      · rintro r ⟨⟩
        exact hfirst.1 rfl
      · rintro r ⟨⟩
        exact hfirst.2.1 rfl
      · rintro r ⟨⟩
        exact hfirst.2.2 rfl
  | regex body modes pattern hslash hend hmodes hpattern =>
      have hflags : ∀ c ∈ modes, isFlag c = true := by
        intro c hc
        simpa [isFlag, or_assoc] using hmodes c hc
      have hstops : Stops isFlag rest := hr.mono fun _ => isBareChar_of_isFlag
      -- the slash that opens the expression stands before an empty body
      have hlast : ('/' :: body).getLast? ≠ some '\\' := by
        cases body with
        | nil => decide
        | cons c body => simpa using hend
      have htext : (Layout.Value.regex body modes pattern hslash hend hmodes hpattern).text ++ rest =
          '/' :: (body ++ '/' :: (modes ++ rest)) := by
        simp [Layout.Value.text]
      rw [htext, operandAt, untilSlash_append hslash hlast]
      dsimp only
      rw [takeWhile_append_of_stops hflags hstops, dropWhile_append_of_stops hflags hstops, hpattern]
      rfl

/-! ### Attributes -/

theorem pathAt_append (head : Layout.Name) (tail : List Layout.Name) {rest : List Char} {fuel : Nat}
    (hfuel : tail.length < fuel) (hr : Stops isNameChar rest) (hdot : Stops (· == '.') rest) :
    pathAt fuel (head.text ++ (tail.flatMap (fun n => '.' :: n.text) ++ rest)) =
      .ok ((head :: tail).map fun n => String.ofList n.text, rest) := by
  induction tail generalizing head fuel with
  | nil =>
      obtain ⟨fuel, rfl⟩ := Nat.exists_eq_succ_of_ne_zero (Nat.ne_of_gt hfuel)
      rw [pathAt, List.flatMap_nil, List.nil_append, name?_append head hr]
      split
      · rename_i heq
        cases heq
      · rename_i heq
        cases heq
        simp [Stops] at hdot
      · rename_i heq
        cases heq
        rfl
  | cons n tail ih =>
      obtain ⟨fuel, rfl⟩ := Nat.exists_eq_succ_of_ne_zero (Nat.ne_zero_of_lt hfuel)
      simp only [List.length_cons, Nat.succ_lt_succ_iff] at hfuel
      rw [List.flatMap_cons, List.cons_append, List.cons_append, List.append_assoc, pathAt,
        name?_append head (stops_cons.mpr (by decide))]
      simp [ih n hfuel, Except.map]

theorem stops_isBlank_value (v : Layout.Value) (rest : List Char) :
    Stops Text.isBlank (v.text ++ rest) := by
  cases v with
  | quoted mark content hmark _ => rcases hmark with rfl | rfl <;> exact stops_cons.mpr (by decide)
  | word first others _ hchars => exact stops_cons.mpr (hchars first List.mem_cons_self).2
  | regex => exact stops_cons.mpr (by decide)

theorem operandAt_comparison (x : Layout.Comparison) (rest : List Char) :
    operandAt (skipBlank (x.before.text ++ (x.value.text ++ (x.after.text ++ ']' :: rest)))) =
      .ok (x.value.meaning, x.after.text ++ ']' :: rest) := by
  rw [skipBlank_append x.before (stops_isBlank_value x.value _),
    operandAt_append x.value ?_]
  exact (stops_cons.mpr (by decide)).blanks_append x.after fun _ => isBareChar_of_isBlank

theorem testAt_append (x : Option Layout.Comparison) (rest : List Char) :
    testAt ((x.map (·.text)).getD [] ++ ']' :: rest) =
      .ok ((x.map (·.meaning)).getD .present, ']' :: rest) := by
  cases x with
  | none => rfl
  | some x =>
      have hafter : skipBlank (x.after.text ++ ']' :: rest) = ']' :: rest :=
        skipBlank_append x.after (stops_cons.mpr (by decide))
      cases hneg : x.negated <;>
        simp [Layout.Comparison.text, Layout.Comparison.sign, Layout.Comparison.meaning, hneg, testAt,
          operandAt_comparison, Except.map, hafter]

/-- A comparison begins with its sign, and where there is none the bracket comes. -/
theorem exists_testText_append (x : Layout.Attribute) (rest : List Char) :
    ∃ c r, x.testText ++ ']' :: rest = c :: r ∧ (c = '!' ∨ c = '=' ∨ c = ']') := by
  unfold Layout.Attribute.testText
  cases x.comparison with
  | none => exact ⟨']', rest, rfl, by simp⟩
  | some y =>
      cases hneg : y.negated <;> simp [Layout.Comparison.text, Layout.Comparison.sign, hneg]

theorem attributeAt_append (x : Layout.Attribute) (rest : List Char) :
    attributeAt (x.before.text ++ (x.pathText ++ (x.after.text ++ (x.testText ++ ']' :: rest)))) =
      .ok (x.meaning, rest) := by
  obtain ⟨c, r, htest, hc⟩ := exists_testText_append x rest
  have hblank : Text.isBlank c = false := by rcases hc with rfl | rfl | rfl <;> decide
  have hname : isNameChar c = false := by rcases hc with rfl | rfl | rfl <;> decide
  have hdot : c ≠ '.' := by rcases hc with rfl | rfl | rfl <;> decide
  have hstart : Stops Text.isBlank (x.pathText ++ (x.after.text ++ c :: r)) :=
    stops_cons.mpr (isBlank_of_isNameChar (isNameChar_of_isNameStart x.head.start))
  have hpath : ∀ fuel, x.tail.length < fuel → pathAt fuel (x.pathText ++ (x.after.text ++ c :: r)) =
      .ok (x.meaning.path, x.after.text ++ c :: r) := by
    intro fuel hfuel
    rw [Layout.Attribute.pathText, List.append_assoc]
    refine pathAt_append x.head x.tail hfuel ?_ ?_
    · exact (stops_cons.mpr hname).blanks_append x.after fun _ => isNameChar_of_isBlank
    · refine (stops_cons.mpr (by simpa using hdot)).blanks_append x.after fun c hblank => ?_
      rw [beq_eq_false_iff_ne]
      rintro rfl
      exact absurd hblank (by decide)
  rw [htest, attributeAt, skipBlank_append x.before hstart, hpath]
  · dsimp only
    rw [skipBlank_append x.after (stops_cons.mpr hblank), ← htest, Layout.Attribute.testText,
      testAt_append]
    rfl
  · have := length_le_length_flatMap x.tail (f := fun n => '.' :: n.text) (by simp)
    simp only [Layout.Attribute.pathText, List.length_append]
    omega

theorem Layout.Attribute.text_append (x : Layout.Attribute) (rest : List Char) :
    x.text ++ rest = '[' ::
      (x.before.text ++ (x.pathText ++ (x.after.text ++ (x.testText ++ ']' :: rest)))) := by
  simp [Layout.Attribute.text]

theorem attributesAt_append (xs : List Layout.Attribute) {rest : List Char} {fuel : Nat}
    (hfuel : xs.length < fuel) (hr : Stops (· == '[') rest) :
    attributesAt fuel (xs.flatMap (·.text) ++ rest) = .ok (xs.map (·.meaning), rest) := by
  induction xs generalizing fuel with
  | nil =>
      rw [List.flatMap_nil, List.nil_append, attributesAt]
      · rfl
      · rintro fuel' cs - rfl
        simp [Stops] at hr
  | cons x xs ih =>
      obtain ⟨fuel, rfl⟩ := Nat.exists_eq_succ_of_ne_zero (Nat.ne_zero_of_lt hfuel)
      simp only [List.length_cons, Nat.succ_lt_succ_iff] at hfuel
      rw [List.flatMap_cons, List.append_assoc, x.text_append, attributesAt, attributeAt_append]
      dsimp only
      rw [ih hfuel]
      rfl

/-! ### Compounds -/

section
variable {known : String → Bool}

def isName : List Char → Bool
  | [] => false
  | c :: cs => isNameStart c && cs.all isNameChar

theorem exists_name_of_isName {t : List Char} (h : isName t = true) :
    ∃ n : Layout.Name, n.text = t := by
  cases t with
  | nil => cases h
  | cons c cs =>
      rw [isName, Bool.and_eq_true, List.all_eq_true] at h
      exact ⟨⟨c, cs, h.1, h.2⟩, rfl⟩

theorem isNameStart_of_isLowerChar {c : Char} (h : isLowerChar c = true) :
    isNameStart c = true := by
  simp only [isLowerChar, Bool.or_eq_true, beq_iff_eq, Bool.and_eq_true, decide_eq_true_eq] at h
  rcases h with rfl | ⟨ha, hz⟩
  · decide
  · have hlower : c.isLower = true := by
      delta Char.isLower
      rw [Bool.and_eq_true, decide_eq_true_eq, decide_eq_true_eq]
      exact ⟨ha, hz⟩
    have halpha : c.isAlpha = (c.isUpper || c.isLower) := rfl
    simp [isNameStart, halpha, hlower]

theorem isName_of_isTreeName {t : List Char} (h : isTreeName t = true) : isName t = true := by
  cases t with
  | nil => cases h
  | cons c cs =>
      simp only [isTreeName, isName, Bool.and_eq_true, List.all_eq_true, Bool.or_eq_true] at h ⊢
      refine ⟨isNameStart_of_isLowerChar h.1, fun d hd => ?_⟩
      rcases h.2 d hd with hlower | hdigit
      · exact isNameChar_of_isNameStart (isNameStart_of_isLowerChar hlower)
      · simp [isNameChar, Char.isAlphanum, hdigit]

theorem isName_of_mem_estreeKinds : ∀ p ∈ estreeKinds, isName p.1.toList = true := by
  decide +kernel

theorem exists_name_of_kindSpec? {name : List Char} {spec : KindSpec}
    (h : kindSpec? known name = some spec) : ∃ n : Layout.Name, n.text = name := by
  apply exists_name_of_isName
  unfold kindSpec? at h
  cases hlookup : estreeKinds.lookup (String.ofList name) with
  | some k =>
      obtain ⟨l₁, l₂, hkinds, -⟩ := List.lookup_eq_some_iff.mp hlookup
      have hname := isName_of_mem_estreeKinds (String.ofList name, k) (by simp [hkinds])
      simpa using hname
  | none =>
      simp only [hlookup, Option.ite_none_right_eq_some, Bool.and_eq_true] at h
      exact isName_of_isTreeName h.1.1

theorem kindAt_append (x : Layout.Kind known) {rest : List Char}
    (hr : Stops (fun c => isNameChar c || c == '*') rest) :
    kindAt known (x.text ++ rest) = .ok (x.meaning, rest) := by
  cases x with
  | named name spec hspec =>
      obtain ⟨n, rfl⟩ := exists_name_of_kindSpec? hspec
      have hread := name?_append n (hr.mono (q := isNameChar) fun c hc => by simp [hc])
      rw [Layout.Kind.text, kindAt, hread]
      · dsimp only
        rw [hspec]
        rfl
      · intro r hstar
        have hstart := n.start
        rw [(List.cons.inj hstar).1] at hstart
        exact absurd hstart (by decide)
  | star => rfl
  | omitted =>
      cases rest with
      | nil => rfl
      | cons c rest =>
          rw [stops_cons, Bool.or_eq_false_iff, beq_eq_false_iff_ne] at hr
          have hstart : isNameStart c = false := by
            by_contra hstart
            rw [isNameChar_of_isNameStart (by simpa using hstart)] at hr
            cases hr.1
          rw [Layout.Kind.text, List.nil_append, kindAt]
          · simp [name?, hstart, Layout.Kind.meaning]
          · rintro r ⟨⟩
            exact hr.2 rfl

theorem stops_attributes {p : Char → Bool} (hp : p '[' = false) (xs : List Layout.Attribute)
    {rest : List Char} (hr : Stops p rest) : Stops p (xs.flatMap (·.text) ++ rest) := by
  cases xs with
  | nil => exact hr
  | cons x xs => exact stops_cons.mpr hp

/-- A compound begins with a character that tells it from what may stand before it. -/
theorem Layout.Compound.exists_text_eq_cons (x : Layout.Compound known) :
    ∃ c t, x.text = c :: t ∧ isCompoundChar c = true := by
  obtain ⟨kind, xs, hwritten⟩ := x
  cases kind with
  | named name spec hspec =>
      obtain ⟨n, rfl⟩ := exists_name_of_kindSpec? hspec
      exact ⟨_, _, rfl, isCompoundChar_of_isNameChar (isNameChar_of_isNameStart n.start)⟩
  | star => exact ⟨'*', _, rfl, by decide⟩
  | omitted =>
      obtain ⟨y, ys, rfl⟩ := List.exists_cons_of_ne_nil (hwritten rfl)
      exact ⟨'[', _, rfl, by decide⟩

theorem compoundAt_append (x : Layout.Compound known) {rest : List Char}
    (hr : Stops isCompoundChar rest) :
    compoundAt known (x.text ++ rest) = .ok (x.meaning, rest) := by
  have hkind : kindAt known (x.text ++ rest) =
      .ok (x.kind.meaning, x.attributes.flatMap (·.text) ++ rest) := by
    rw [Layout.Compound.text, List.append_assoc]
    refine kindAt_append x.kind (stops_attributes (by decide) x.attributes (hr.mono ?_))
    intro c hc
    rw [Bool.or_eq_true, beq_iff_eq] at hc
    rcases hc with hc | rfl
    · exact isCompoundChar_of_isNameChar hc
    · decide
  have hattributes : ∀ fuel, x.attributes.length < fuel →
      attributesAt fuel (x.attributes.flatMap (·.text) ++ rest) = .ok (x.meaning.attributes, rest) := by
    intro fuel hfuel
    refine attributesAt_append x.attributes hfuel (hr.mono ?_)
    intro c hc
    rw [beq_iff_eq] at hc
    subst hc
    decide
  have hlength := length_le_length_flatMap x.attributes (f := (·.text))
    (by simp [Layout.Attribute.text])
  -- only a compound of which nothing is written would be refused
  have hsome : ¬(rest.length == (x.text ++ rest).length) = true := by
    obtain ⟨c, t, htext, -⟩ := x.exists_text_eq_cons
    simp only [htext, List.length_append, List.length_cons, beq_iff_eq]
    omega
  unfold compoundAt
  rw [hkind]
  dsimp only
  rw [hattributes]
  · dsimp only
    rw [if_neg hsome]
    rfl
  · rw [List.length_append]
    omega

/-! ### Chains -/

theorem stops_isBlank_compound (x : Layout.Compound known) (rest : List Char) :
    Stops Text.isBlank (x.text ++ rest) := by
  obtain ⟨c, t, htext, hc⟩ := x.exists_text_eq_cons
  rw [htext]
  apply stops_cons.mpr
  by_contra hblank
  rw [isCompoundChar_of_isBlank (by simpa using hblank)] at hc
  cases hc

theorem combinator_append (joint : Layout.Joint) (x : Layout.Compound known) (rest : List Char) :
    combinator (joint.text ++ (x.text ++ rest)) = some (joint.meaning, x.text ++ rest) := by
  have hx := stops_isBlank_compound x rest
  cases joint with
  | child before after =>
      rw [Layout.Joint.text, List.append_assoc, List.cons_append, combinator,
        skipBlank_append before (stops_cons.mpr (by decide))]
      simp [skipBlank_append after hx, Layout.Joint.meaning]
  | descendant b hblanks =>
      have hlength := List.length_pos_iff.mpr hblanks
      obtain ⟨c, t, htext, hc⟩ := x.exists_text_eq_cons
      simp only [isCompoundChar, Bool.and_eq_true, bne_iff_ne] at hc
      rw [Layout.Joint.text, combinator, skipBlank_append b hx, htext, List.cons_append]
      split
      · rename_i heq
        cases heq
      · rename_i heq
        cases heq
        exact absurd rfl hc.1.2
      · rename_i heq
        cases heq
        rw [if_pos (by simpa [hc.2] using hlength)]
        rfl

theorem stops_joint (joint : Layout.Joint) (rest : List Char) :
    Stops isCompoundChar (joint.text ++ rest) := by
  cases joint with
  | child before after =>
      rw [Layout.Joint.text, List.append_assoc]
      exact (stops_cons.mpr (by decide)).blanks_append before fun _ => isCompoundChar_of_isBlank
  | descendant b hblanks =>
      obtain ⟨c, t, htext⟩ := List.exists_cons_of_ne_nil hblanks
      rw [Layout.Joint.text, htext]
      exact stops_cons.mpr (isCompoundChar_of_isBlank (b.blank c (by simp [htext])))

/-- White space before a comma or the end of the text is no combinator. -/
theorem combinator_blanks_append (b : Layout.Blanks) {rest : List Char}
    (hr : Stops (· != ',') rest) : combinator (b.text ++ rest) = none := by
  cases rest with
  | nil =>
      rw [combinator, skipBlank_append b stops_nil]
  | cons c rest =>
      have hc : c = ',' := by simpa [Stops] using hr
      subst hc
      rw [combinator, skipBlank_append b (stops_cons.mpr (by decide))]
      simp

theorem stops_tailText (tail : List (Layout.Joint × Layout.Compound known)) (b : Layout.Blanks)
    {rest : List Char} (hr : Stops (· != ',') rest) :
    Stops isCompoundChar (Layout.Complex.tailText tail ++ (b.text ++ rest)) := by
  cases tail with
  | nil =>
      have hend : Stops isCompoundChar rest := hr.mono fun c hc => by
        simp only [isCompoundChar, Bool.and_eq_true] at hc
        exact hc.2
      exact hend.blanks_append b fun _ => isCompoundChar_of_isBlank
  | cons y tail =>
      simp only [Layout.Complex.tailText, List.flatMap_cons, List.append_assoc]
      exact stops_joint y.1 _

theorem links_append (tail : List (Layout.Joint × Layout.Compound known)) (b : Layout.Blanks)
    {rest : List Char} {fuel : Nat} (hfuel : tail.length < fuel) (hr : Stops (· != ',') rest) :
    links known fuel (Layout.Complex.tailText tail ++ (b.text ++ rest)) =
      .ok (tail.map fun (joint, y) => (joint.meaning, y.meaning), rest) := by
  induction tail generalizing fuel with
  | nil =>
      obtain ⟨fuel, rfl⟩ := Nat.exists_eq_succ_of_ne_zero (Nat.ne_zero_of_lt hfuel)
      -- the reader takes the white space that it tried as a combinator
      have hblank : Stops Text.isBlank rest := hr.mono fun c hc => by
        rw [bne_iff_ne]
        rintro rfl
        exact absurd hc (by decide)
      rw [Layout.Complex.tailText, List.flatMap_nil, List.nil_append, links,
        combinator_blanks_append b hr]
      dsimp only
      rw [skipBlank_append b hblank]
      rfl
  | cons y tail ih =>
      obtain ⟨joint, y⟩ := y
      obtain ⟨fuel, rfl⟩ := Nat.exists_eq_succ_of_ne_zero (Nat.ne_zero_of_lt hfuel)
      simp only [List.length_cons, Nat.succ_lt_succ_iff] at hfuel
      have htext : Layout.Complex.tailText ((joint, y) :: tail) ++ (b.text ++ rest) =
          joint.text ++ (y.text ++ (Layout.Complex.tailText tail ++ (b.text ++ rest))) := by
        simp [Layout.Complex.tailText]
      rw [htext, links, combinator_append]
      dsimp only
      rw [compoundAt_append y (stops_tailText tail b hr)]
      dsimp only
      rw [ih hfuel]
      rfl

theorem complexAt_append (x : Layout.Complex known) (b : Layout.Blanks) {rest : List Char}
    (hr : Stops (· != ',') rest) :
    complexAt known (x.text ++ (b.text ++ rest)) = .ok (x.meaning, rest) := by
  have hlength : x.tail.length ≤ (Layout.Complex.tailText x.tail).length :=
    length_le_length_flatMap x.tail fun y _ => by
      obtain ⟨c, t, htext, -⟩ := y.2.exists_text_eq_cons
      simp [htext]
  rw [Layout.Complex.text, List.append_assoc, complexAt,
    compoundAt_append x.head (stops_tailText x.tail b hr)]
  dsimp only
  rw [links_append x.tail b ?_ hr]
  · rfl
  · rw [List.length_append]
    omega

/-! ### Selectors -/

theorem stops_isBlank_complex (x : Layout.Complex known) (rest : List Char) :
    Stops Text.isBlank (x.text ++ rest) := by
  rw [Layout.Complex.text, List.append_assoc]
  exact stops_isBlank_compound x.head _

theorem alternativesOf_append (head : Layout.Complex known)
    (tail : List (Layout.Blanks × Layout.Blanks × Layout.Complex known)) (after : Layout.Blanks)
    {fuel : Nat} (hfuel : tail.length < fuel) :
    alternativesOf known fuel (head.text ++ (Layout.tailText tail ++ after.text)) =
      .ok (head.meaning :: tail.map fun (_, _, y) => y.meaning) := by
  induction tail generalizing head fuel with
  | nil =>
      obtain ⟨fuel, rfl⟩ := Nat.exists_eq_succ_of_ne_zero (Nat.ne_zero_of_lt hfuel)
      have hread := complexAt_append head after (stops_nil (p := (· != ',')))
      rw [List.append_nil] at hread
      rw [Layout.tailText, List.flatMap_nil, List.nil_append, alternativesOf, hread]
      rfl
  | cons y tail ih =>
      obtain ⟨b, a, y⟩ := y
      obtain ⟨fuel, rfl⟩ := Nat.exists_eq_succ_of_ne_zero (Nat.ne_zero_of_lt hfuel)
      simp only [List.length_cons, Nat.succ_lt_succ_iff] at hfuel
      have htext : Layout.tailText ((b, a, y) :: tail) ++ after.text =
          b.text ++ ',' :: (a.text ++ (y.text ++ (Layout.tailText tail ++ after.text))) := by
        simp [Layout.tailText]
      have hblank := stops_isBlank_complex y (Layout.tailText tail ++ after.text)
      rw [htext, alternativesOf, complexAt_append head b (stops_cons.mpr (by decide))]
      simp [skipBlank_append a hblank, ih y hfuel, Except.map]

/-- However a selector is written, reading its text gives back what was written. -/
theorem parseWith_text (x : Layout known) :
    parseWith known (String.ofList x.text) =
      .ok { source := String.ofList x.text, alternatives := x.alternatives } := by
  have hlength : x.tail.length ≤ (Layout.tailText x.tail).length :=
    length_le_length_flatMap x.tail (by simp)
  obtain ⟨c, t, hhead, -⟩ := x.head.head.exists_text_eq_cons
  have hfront : skipBlank x.text = x.head.text ++ (Layout.tailText x.tail ++ x.after.text) :=
    skipBlank_append x.before (stops_isBlank_complex x.head _)
  have hread : alternativesOf known ((skipBlank x.text).length + 1) (skipBlank x.text) =
      .ok x.alternatives := by
    rw [hfront]
    apply alternativesOf_append
    simp only [List.length_append]
    omega
  unfold parseWith
  rw [String.toList_ofList]
  dsimp only
  split
  · rename_i hempty
    rw [hfront, Layout.Complex.text, hhead] at hempty
    cases hempty
  · rw [hread]

end

/-- A layout with a value of each form, both joints and a comma. -/
example :
    let name (c : Char) (h : isNameStart c = true) : Layout.Name :=
      ⟨c, [], h, List.forall_mem_nil _⟩
    let gap : Layout.Blanks := ⟨[' '], List.forall_mem_singleton.mpr (by decide)⟩
    let nothing : Layout.Blanks := ⟨[], List.forall_mem_nil _⟩
    let quoted : Layout.Attribute := ⟨nothing, name 'a' (by decide), [], nothing,
      some ⟨false, gap, .quoted '"' ['b', ' '] (by decide) (by decide), nothing⟩⟩
    let word : Layout.Attribute := ⟨nothing, name 'c' (by decide), [name 'd' (by decide)], nothing,
      some ⟨true, nothing, .word 'e' [] (by decide) (List.forall_mem_singleton.mpr (by decide)),
        nothing⟩⟩
    let regex : Layout.Attribute := ⟨nothing, name 'f' (by decide), [], nothing,
      some ⟨false, nothing, .regex ['g', '+'] ['i']
        ⟨['g', '+'], ⟨['i']⟩, .loop 1 none .greedy (.char 103 .unicode)⟩ (by decide) (by decide)
        (List.forall_mem_singleton.mpr (by decide)) (by decide), nothing⟩⟩
    let x : Layout Kind.isKnown := ⟨nothing,
      ⟨⟨.omitted, [quoted], nofun⟩, [(.child gap nothing, ⟨.star, [word], nofun⟩),
        (.descendant gap (by decide), ⟨.star, [regex], nofun⟩)]⟩,
      [(nothing, gap, ⟨⟨.star, [], nofun⟩, []⟩)], nothing⟩
    String.ofList x.text = "[a= \"b \"] >*[c.d!=e] *[f=/g+/i], *" := by
  decide

end BoundaryLint.Selector
