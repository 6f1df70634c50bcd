import BoundaryLint.Proofs.JoinedSelectors
import BoundaryLint.Proofs.PatternModes

/-!
# Where a pattern in a selector ends

A pattern is written between slashes, and a slash inside of it is escaped. The search for the closing
slash looks at one character before each slash: behind a backslash, a slash belongs to the pattern. A
body with escaped slashes is therefore read to its end unless it ends in a backslash itself. A body
that ends in escaped backslashes is a pattern too, but its closing slash is taken for an escaped one.
-/
namespace BoundaryLint.Selector

def backslashesAtEnd (cs : List Char) : Nat :=
  (cs.reverse.takeWhile (· == '\\')).length

/-- Each slash comes after an odd number of backslashes, the last of which escapes it. -/
def SlashesEscaped (cs : List Char) : Prop :=
  ∀ i < cs.length, cs[i]? = some '/' → backslashesAtEnd (cs.take i) % 2 = 1

instance : DecidablePred SlashesEscaped := fun cs =>
  inferInstanceAs (Decidable (∀ i < cs.length, _))

namespace Layout

/-- An attribute that is compared with a pattern, written without white space. -/
structure RegexTest where
  head : Name
  tail : List Name
  negated : Bool
  body : List Char
  modes : List Char
  escaped : SlashesEscaped body
  allowed : ∀ c ∈ modes, isFlag c = true

namespace RegexTest

def path (x : RegexTest) : List String :=
  (x.head :: x.tail).map fun n => String.ofList n.text

def sign (x : RegexTest) : List Char := if x.negated then ['!', '='] else ['=']

def test (x : RegexTest) (o : Operand) : Test := if x.negated then .differs o else .equals o

def pathText (x : RegexTest) : List Char :=
  x.head.text ++ x.tail.flatMap fun n => '.' :: n.text

def opening (x : RegexTest) : List Char :=
  '[' :: (x.pathText ++ x.sign)

def text (x : RegexTest) : String :=
  String.ofList (x.opening ++ '/' :: (x.body ++ '/' :: (x.modes ++ [']'])))

end RegexTest

end Layout

section
variable {body cs rest : List Char} {prev : Char}

/-! ### The closing slash -/

theorem backslashesAtEnd_ne_zero_iff (hprev : prev ≠ '\\') :
    backslashesAtEnd cs ≠ 0 ↔ cs.getLastD prev = '\\' := by
  rcases List.eq_nil_or_concat cs with rfl | ⟨front, c, rfl⟩
  · simp [backslashesAtEnd, hprev]
  · by_cases hc : c = '\\'
    · simp [backslashesAtEnd, hc]
    · simp [backslashesAtEnd, hc]

/-- The search passes over a text in which a backslash stands before each slash. -/
theorem untilSlash_append_of_guarded
    (h : ∀ before after, body = before ++ '/' :: after → before.getLastD prev = '\\')
    (u : List Char) :
    untilSlash prev (body ++ u) =
      (untilSlash (body.getLastD prev) u).map fun p => (body ++ p.1, p.2) := by
  induction body generalizing prev with
  | nil => simp
  | cons c body ih =>
      have hrest : ∀ before after, body = before ++ '/' :: after → before.getLastD c = '\\' := by
        intro before after heq
        have hlast := h (c :: before) after (by rw [heq, List.cons_append])
        rwa [List.getLastD_cons] at hlast
      have hopen : ¬ (c == '/' && prev != '\\') = true := by
        rw [Bool.and_eq_true, beq_iff_eq, bne_iff_ne]
        rintro ⟨rfl, hprev⟩
        exact hprev (h [] body rfl)
      rw [List.cons_append, untilSlash, if_neg hopen, ih hrest, List.getLastD_cons, Option.map_map]
      rfl

theorem untilSlash_eq_none (h : '/' ∉ cs) : untilSlash prev cs = none := by
  induction cs generalizing prev with
  | nil => rfl
  | cons c cs ih =>
      rw [List.mem_cons, not_or] at h
      have hc : ¬ (c == '/' && prev != '\\') = true := by simp [Ne.symm h.1]
      rw [untilSlash, if_neg hc, ih h.2, Option.map_none]

theorem SlashesEscaped.untilSlash_eq (h : SlashesEscaped body) (u : List Char) :
    untilSlash '/' (body ++ u) =
      (untilSlash (body.getLastD '/') u).map fun p => (body ++ p.1, p.2) := by
  apply untilSlash_append_of_guarded
  rintro before after rfl
  have hodd := h before.length (by simp) (by simp)
  rw [List.take_left] at hodd
  exact (backslashesAtEnd_ne_zero_iff (by decide)).mp (by omega)

theorem SlashesEscaped.untilSlash_close (h : SlashesEscaped body) (hend : backslashesAtEnd body = 0)
    (rest : List Char) : untilSlash '/' (body ++ '/' :: rest) = some (body, rest) := by
  have hlast : body.getLastD '/' ≠ '\\' := by
    intro heq
    exact (backslashesAtEnd_ne_zero_iff (by decide)).mpr heq hend
  have hclose : ('/' == '/' && body.getLastD '/' != '\\') = true := by
    rw [beq_self_eq_true, Bool.true_and, bne_iff_ne]
    exact hlast
  rw [h.untilSlash_eq, untilSlash, if_pos hclose, Option.map_some, List.append_nil]

/-- Behind a backslash the closing slash is passed over like any other. -/
theorem SlashesEscaped.untilSlash_pass (h : SlashesEscaped body) (hend : backslashesAtEnd body ≠ 0)
    (hrest : '/' ∉ rest) : untilSlash '/' (body ++ '/' :: rest) = none := by
  have hlast : body.getLastD '/' = '\\' := (backslashesAtEnd_ne_zero_iff (by decide)).mp hend
  rw [h.untilSlash_eq, hlast, untilSlash, if_neg (by decide), untilSlash_eq_none hrest]
  rfl

end

section
variable (x : Layout.RegexTest)

/-! ### The attribute around the pattern -/

theorem Layout.RegexTest.startsTest (cs : List Char) : StartsTest (x.sign ++ cs) := by
  unfold sign
  cases x.negated with
  | true => exact ⟨'!', _, rfl, .inl rfl⟩
  | false => exact ⟨'=', _, rfl, .inr (.inl rfl)⟩

theorem testAt_regex (cs : List Char) :
    testAt (x.sign ++ '/' :: cs) =
      (operandAt ('/' :: cs)).map fun p => (x.test p.1, skipBlank p.2) := by
  unfold Layout.RegexTest.sign Layout.RegexTest.test
  cases x.negated with
  | true => rfl
  | false => rfl

theorem readsTest_regex (hend : backslashesAtEnd x.body = 0) {p : Regex.Pattern}
    (hp : Regex.Pattern.parse x.body (flagsOf x.modes) = .ok p) :
    ReadsTest (x.sign ++ '/' :: (x.body ++ '/' :: x.modes)) (x.test (.pattern p)) where
  sign := by
    rw [List.append_assoc]
    exact x.startsTest _
  reads := by
    intro rest
    have hread := operandAt_regex (x.escaped.untilSlash_close hend) x.allowed hp (']' :: rest)
      (stops_cons.mpr (by decide))
    rw [List.append_assoc, List.cons_append, testAt_regex, ← List.cons_append, hread]
    rfl

theorem attributeAt_error {cs : List Char} {f : Fault} (h : testAt (x.sign ++ cs) = .error f) :
    attributeAt (x.pathText ++ (x.sign ++ cs)) = .error f := by
  have hlength := length_le_length_flatMap x.tail (f := fun n => '.' :: n.text) (by simp)
  have hfuel : x.tail.length < (x.pathText ++ (x.sign ++ cs)).length + 1 := by
    rw [Layout.RegexTest.pathText]
    simp only [List.length_append]
    omega
  -- there is no white space, neither before the path nor behind it
  obtain ⟨hpath, hskip⟩ :=
    pathAt_parts ⟨[], List.forall_mem_nil _⟩ x.head x.tail (x.startsTest cs) hfuel
  have hfirst := skipBlank_append ⟨[], List.forall_mem_nil _⟩ (stops_isBlank_name x.head
    (x.tail.flatMap (fun n => '.' :: n.text) ++ (x.sign ++ cs)))
  rw [List.nil_append] at hpath hskip hfirst
  rw [attributeAt]
  nth_rewrite 2 [Layout.RegexTest.pathText]
  rw [List.append_assoc, hfirst, hpath]
  dsimp only
  rw [hskip, h]

theorem testAt_unterminated {cs : List Char} (hnone : untilSlash '/' cs = none) :
    testAt (x.sign ++ '/' :: cs) = .error ⟨.unterminatedPattern, cs.length + 1⟩ := by
  rw [testAt_regex, operandAt, hnone]
  rfl

/-! ### The selector -/

variable (known : String → Bool)

theorem kindAt_bracket (cs : List Char) : kindAt known ('[' :: cs) = .ok (none, '[' :: cs) :=
  rfl

theorem compoundAt_bracket_error {cs : List Char} {f : Fault} (h : attributeAt cs = .error f) :
    compoundAt known ('[' :: cs) = .error f := by
  unfold compoundAt
  rw [kindAt_bracket]
  dsimp only
  rw [attributesAt, h]

theorem parseWith_bracket_error {cs : List Char} {f : Fault} (h : attributeAt cs = .error f) :
    parseWith known (String.ofList ('[' :: cs)) =
      .error ⟨String.ofList ('[' :: cs), cs.length + 1 - f.left, f.reason⟩ := by
  have hskip : skipBlank ('[' :: cs) = '[' :: cs := List.dropWhile_cons_of_neg (by decide)
  unfold parseWith
  dsimp only
  rw [String.toList_ofList, hskip]
  dsimp only
  rw [alternativesOf, complexAt, compoundAt_bracket_error known h]
  rfl

theorem parseWith_bracket {cs : List Char} {a : Attribute}
    (h : ReadsAs attributeAt (fun _ => True) cs a) :
    parseWith known (String.ofList ('[' :: cs)) =
      .ok ⟨String.ofList ('[' :: cs), [⟨⟨none, [a]⟩, []⟩]⟩ := by
  have hskip : skipBlank ('[' :: cs) = '[' :: cs := List.dropWhile_cons_of_neg (by decide)
  have hcompound := compoundAt_parts (.omitted : Layout.Kind known)
    (ReadsAttributes.cons h readsAttributes_nil) (List.cons_ne_nil _ _) [] stops_nil
  apply parseWith_eq_ok_iff.mpr
  refine ⟨rfl, ?_⟩
  rw [String.toList_ofList, hskip]
  refine .last ⟨[], ?_, .done⟩ rfl
  rw [List.append_nil, List.append_nil] at hcompound
  exact hcompound

end

theorem readsAs_regex (x : Layout.RegexTest) (hend : backslashesAtEnd x.body = 0)
    {p : Regex.Pattern} (hp : Regex.Pattern.parse x.body (flagsOf x.modes) = .ok p) :
    ReadsAs attributeAt (fun _ => True)
      (x.pathText ++ (x.sign ++ '/' :: (x.body ++ '/' :: (x.modes ++ [']']))))
      ⟨x.path, x.test (.pattern p)⟩ := by
  intro rest _
  have hparts := attributeAt_parts ⟨[], List.forall_mem_nil _⟩ ⟨[], List.forall_mem_nil _⟩ x.head
    x.tail (readsTest_regex x hend hp) rest
  simpa [Layout.RegexTest.pathText, Layout.RegexTest.path] using hparts

theorem slash_notMem_modes (x : Layout.RegexTest) : '/' ∉ x.modes ++ [']'] := by
  intro hmem
  rcases List.mem_append.mp hmem with hmode | hbracket
  · exact absurd (x.allowed _ hmode) (by decide)
  · exact absurd hbracket (by decide)

/-- A pattern with escaped slashes is read as a whole if it does not end in a backslash. The attribute
is then compared with the pattern of this body, under the modes behind it and those that the body
switches on itself. If it ends in a backslash, be it an escaped one, the selector is refused. -/
theorem parseWith_regexTest (known : String → Bool) (x : Layout.RegexTest) {q : Regex.Pattern}
    (hbody : Regex.Pattern.parse x.body .none = .ok q) :
    (backslashesAtEnd x.body = 0 → ∃ p : Regex.Pattern,
      parseWith known x.text = .ok ⟨x.text, [⟨⟨none, [⟨x.path, x.test (.pattern p)⟩]⟩, []⟩]⟩ ∧
        p.source = x.body ∧ ∀ c, p.flags.has c = (q.flags.has c || x.modes.contains c)) ∧
    (backslashesAtEnd x.body ≠ 0 →
      parseWith known x.text = .error ⟨x.text, x.opening.length, .unterminatedPattern⟩) := by
  have htext : x.text = String.ofList ('[' :: (x.pathText ++ (x.sign ++ '/' ::
      (x.body ++ '/' :: (x.modes ++ [']']))))) := by
    rw [Layout.RegexTest.text, Layout.RegexTest.opening, List.cons_append, List.append_assoc]
  rw [htext]
  constructor
  · intro hend
    obtain ⟨p, hp, hsource, -, hflags⟩ := Regex.Pattern.exists_of_leafModes x.allowed
      (Regex.Flags.has_union .none ⟨x.modes⟩) hbody
    exact ⟨p, parseWith_bracket known (readsAs_regex x hend hp), hsource, hflags⟩
  · intro hend
    have hnone := x.escaped.untilSlash_pass hend (slash_notMem_modes x)
    rw [parseWith_bracket_error known (attributeAt_error x (testAt_unterminated x hnone))]
    congr 2
    simp only [Layout.RegexTest.opening, List.length_cons, List.length_append]
    omega

/-- `[a.b!=/(?s)\\\/./mi]`: an escaped backslash, an escaped slash, and a mode in the pattern. -/
def escapedSlash : Layout.RegexTest where
  head := ⟨'a', [], by decide, List.forall_mem_nil _⟩
  tail := [⟨'b', [], by decide, List.forall_mem_nil _⟩]
  negated := true
  body := "(?s)\\\\\\/.".toList
  modes := ['m', 'i']
  escaped := by decide
  allowed := by simp [isFlag]

theorem parseWith_regexTest_escapedSlash :
    ∃ p : Regex.Pattern, parse "[a.b!=/(?s)\\\\\\/./mi]" =
        .ok ⟨"[a.b!=/(?s)\\\\\\/./mi]", [⟨⟨none, [⟨["a", "b"], .differs (.pattern p)⟩]⟩, []⟩]⟩ ∧
      p.source = "(?s)\\\\\\/.".toList ∧
      ['i', 'm', 's', 'x'].map p.flags.has = [true, true, true, false] := by
  have hbody : Regex.Pattern.parse escapedSlash.body .none = .ok ⟨escapedSlash.body, ⟨['s']⟩,
      .seq (.char 92 .exact) (.seq (.char 47 .exact) (.any true))⟩ := by
    decide +kernel
  have htext : escapedSlash.text = "[a.b!=/(?s)\\\\\\/./mi]" := by decide
  obtain ⟨p, hparse, hsource, hflags⟩ :=
    (parseWith_regexTest Kind.isKnown escapedSlash hbody).1 (by decide)
  rw [htext] at hparse
  refine ⟨p, hparse, hsource, ?_⟩
  simp only [List.map_cons, List.map_nil, hflags]
  decide

/-- `[a=/\\/]`: the pattern of a backslash, which is escaped by another one. -/
def escapedBackslash : Layout.RegexTest where
  head := ⟨'a', [], by decide, List.forall_mem_nil _⟩
  tail := []
  negated := false
  body := ['\\', '\\']
  modes := []
  escaped := by decide
  allowed := List.forall_mem_nil _

/-- The body is a pattern without slashes that ends in an even number of backslashes, and still the
selector is refused. -/
theorem escaped_backslash_hides_closing_slash :
    escapedBackslash.text = "[a=/\\\\/]" ∧
      Regex.Pattern.parse escapedBackslash.body .none =
        .ok ⟨escapedBackslash.body, .none, .char 92 .exact⟩ ∧
      backslashesAtEnd escapedBackslash.body % 2 = 0 ∧
      parse "[a=/\\\\/]" = .error ⟨"[a=/\\\\/]", 3, .unterminatedPattern⟩ := by
  decide +kernel

end BoundaryLint.Selector
