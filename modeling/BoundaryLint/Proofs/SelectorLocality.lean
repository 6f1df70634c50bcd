import BoundaryLint.Proofs.Checked
import BoundaryLint.Proofs.SelectorRoundTrip

/-!
# Readers look at what they take

A reader that succeeds has taken a front of the text. What it made of this front does not depend on
the text behind it: in front of any other text that cannot continue it, the same front is read in the
same way. The searches for a closing quote and a closing slash end inside of the front, and the
character that is looked back at belongs to it.
-/
namespace BoundaryLint.Selector

/-- The text is read as `a` in front of everything that may follow, and nothing of that is taken. -/
def ReadsAs {α : Type} (reader : List Char → Outcome α) (follow : List Char → Prop)
    (front : List Char) (a : α) : Prop :=
  ∀ rest, follow rest → reader (front ++ rest) = .ok (a, rest)

section
variable {p : Char → Bool} {cs front r rest u : List Char}

theorem Stops.of_append (hne : front ≠ []) (h : Stops p (front ++ r)) (u : List Char) :
    Stops p (front ++ u) := by
  cases front with
  | nil => exact absurd rfl hne
  | cons c front => exact stops_cons.mpr (stops_cons.mp h)

theorem exists_blanks (cs : List Char) : ∃ b : Layout.Blanks, cs = b.text ++ skipBlank cs :=
  ⟨⟨cs.takeWhile Text.isBlank, fun _ hc => List.mem_takeWhile_imp hc⟩,
    List.takeWhile_append_dropWhile.symm⟩

theorem stops_skipBlank (cs : List Char) : Stops Text.isBlank (skipBlank cs) := by
  intro c hc
  have hhead := List.head?_dropWhile_not Text.isBlank cs
  rw [show (cs.dropWhile Text.isBlank).head? = some c from hc] at hhead
  exact hhead

/-! ### Names and values -/

theorem exists_name {n : List Char} (h : name? cs = some (n, r)) :
    ∃ x : Layout.Name, x.text = n ∧ cs = x.text ++ r := by
  cases cs with
  | nil => cases h
  | cons c cs =>
      rw [name?] at h
      split at h
      · rename_i hstart
        cases h
        refine ⟨⟨c, cs.takeWhile isNameChar, hstart, fun _ hc => List.mem_takeWhile_imp hc⟩, rfl, ?_⟩
        rw [Layout.Name.text, List.cons_append, List.takeWhile_append_dropWhile]
      · cases h

theorem eq_of_untilQuote {q : Char} {t : List Char} (h : untilQuote q cs = some (t, r)) :
    cs = t ++ q :: r ∧ q ∉ t := by
  induction cs generalizing t with
  | nil => cases h
  | cons c cs ih =>
      rw [untilQuote] at h
      split at h
      · rename_i hq
        cases h
        simpa using hq
      · rename_i hq
        obtain ⟨⟨t', r'⟩, hread, heq⟩ := Option.map_eq_some_iff.mp h
        cases heq
        have hrest := ih hread
        have hne : c ≠ q := by simpa using hq
        exact ⟨by rw [hrest.1]; rfl, by simp [hne.symm, hrest.2]⟩

theorem eq_of_untilSlash {prev : Char} {body : List Char} (h : untilSlash prev cs = some (body, r)) :
    cs = body ++ '/' :: r ∧
      ∀ rest, untilSlash prev (body ++ '/' :: rest) = some (body, rest) := by
  induction cs generalizing prev body with
  | nil => cases h
  | cons c cs ih =>
      rw [untilSlash] at h
      split at h
      · rename_i hslash
        cases h
        rw [Bool.and_eq_true, beq_iff_eq] at hslash
        refine ⟨by rw [hslash.1]; rfl, ?_⟩
        intro rest
        rw [List.nil_append, untilSlash, if_pos (by simpa using hslash.2)]
      · rename_i hslash
        obtain ⟨⟨body', r'⟩, hread, heq⟩ := Option.map_eq_some_iff.mp h
        cases heq
        have hrest := ih hread
        refine ⟨by rw [hrest.1]; rfl, ?_⟩
        intro rest
        rw [List.cons_append, untilSlash, if_neg hslash, hrest.2 rest]
        rfl

/-- A regular expression and its modes, where the search for the closing slash finds the end of the
body. -/
theorem operandAt_regex {body modes : List Char} {pattern : Regex.Pattern}
    (hend : ∀ rest, untilSlash '/' (body ++ '/' :: rest) = some (body, rest))
    (hmodes : ∀ c ∈ modes, isFlag c = true)
    (hpattern : Regex.Pattern.parse body (flagsOf modes) = .ok pattern) :
    ReadsAs operandAt (Stops isBareChar) ('/' :: (body ++ '/' :: modes)) (.pattern pattern) := by
  intro rest hr
  have hstops : Stops isFlag rest := hr.mono fun _ => isBareChar_of_isFlag
  have htext : '/' :: (body ++ '/' :: modes) ++ rest = '/' :: (body ++ '/' :: (modes ++ rest)) := by
    simp
  rw [htext, operandAt, hend]
  dsimp only
  rw [takeWhile_append_of_stops hmodes hstops, dropWhile_append_of_stops hmodes hstops, hpattern]

theorem readsAs_value (v : Layout.Value) : ReadsAs operandAt (Stops isBareChar) v.text v.meaning :=
  fun _ hr => operandAt_append v hr

theorem readsAs_word (hfirst : ∀ c ∈ cs.head?, c ≠ '\'' ∧ c ≠ '"' ∧ c ≠ '/')
    (hne : cs.takeWhile isBareChar ≠ []) :
    ReadsAs operandAt (Stops isBareChar) (cs.takeWhile isBareChar)
      (.text (String.ofList (cs.takeWhile isBareChar))) := by
  cases cs with
  | nil => exact absurd rfl hne
  | cons c cs =>
      have hbare : isBareChar c = true := by
        by_contra hc
        exact hne (List.takeWhile_cons_of_neg hc)
      have hword : (c :: cs).takeWhile isBareChar = c :: cs.takeWhile isBareChar :=
        List.takeWhile_cons_of_pos hbare
      have hchars : ∀ d ∈ c :: cs.takeWhile isBareChar, d ≠ ']' ∧ Text.isBlank d = false := by
        intro d hd
        rw [← hword] at hd
        simpa [isBareChar] using List.mem_takeWhile_imp hd
      rw [hword]
      exact readsAs_value (.word c (cs.takeWhile isBareChar) (hfirst c rfl) hchars)

theorem operandAt_local {o : Operand} (h : operandAt cs = .ok (o, r)) :
    ∃ front, front ≠ [] ∧ cs = front ++ r ∧ ReadsAs operandAt (Stops isBareChar) front o := by
  unfold operandAt at h
  split at h
  · split at h
    · rename_i t r' hread
      cases h
      obtain ⟨rfl, hmark⟩ := eq_of_untilQuote hread
      have hreads := readsAs_value (.quoted '\'' t (.inl rfl) hmark)
      exact ⟨_, List.cons_ne_nil _ _, by simp, hreads⟩
    · cases h
  · split at h
    · rename_i t r' hread
      cases h
      obtain ⟨rfl, hmark⟩ := eq_of_untilQuote hread
      have hreads := readsAs_value (.quoted '"' t (.inr rfl) hmark)
      exact ⟨_, List.cons_ne_nil _ _, by simp, hreads⟩
    · cases h
  · split at h
    · cases h
    · rename_i body r' hread
      dsimp only at h
      split at h
      · rename_i pattern hpattern
        cases h
        obtain ⟨rfl, hend⟩ := eq_of_untilSlash hread
        have hmodes : ∀ c ∈ r'.takeWhile isFlag, isFlag c = true := fun _ hc =>
          List.mem_takeWhile_imp hc
        refine ⟨_, List.cons_ne_nil _ _, ?_, operandAt_regex hend hmodes hpattern⟩
        simp
      · cases h
  · rename_i hquote hdouble hslash
    split at h
    · cases h
    · rename_i hword
      cases h
      have hfirst : ∀ c ∈ cs.head?, c ≠ '\'' ∧ c ≠ '"' ∧ c ≠ '/' := by
        intro c hc
        obtain ⟨rest, rfl⟩ := List.head?_eq_some_iff.mp hc
        refine ⟨?_, ?_, ?_⟩ <;> intro heq <;> subst heq
        · exact hquote rest rfl
        · exact hdouble rest rfl
        · exact hslash rest rfl
      exact ⟨_, hword, List.takeWhile_append_dropWhile.symm, readsAs_word hfirst hword⟩

/-! ### Attributes -/

theorem comparison_local {o : Operand} (h : operandAt (skipBlank cs) = .ok (o, u))
    (hu : skipBlank u = ']' :: r) :
    ∃ front, cs = front ++ ']' :: r ∧ ∀ rest, ∃ v,
      operandAt (skipBlank (front ++ ']' :: rest)) = .ok (o, v) ∧ skipBlank v = ']' :: rest := by
  obtain ⟨before, hbefore⟩ := exists_blanks cs
  obtain ⟨after, hafter⟩ := exists_blanks u
  obtain ⟨value, hne, hvalue, hreads⟩ := operandAt_local h
  have hstart : Stops Text.isBlank (value ++ u) := hvalue ▸ stops_skipBlank cs
  refine ⟨before.text ++ (value ++ after.text), ?_, ?_⟩
  · rw [List.append_assoc, List.append_assoc, ← hu, ← hafter, ← hvalue]
    exact hbefore
  · intro rest
    have hbracket : Stops Text.isBlank (']' :: rest) := stops_cons.mpr (by decide)
    have hbare : Stops isBareChar (after.text ++ ']' :: rest) :=
      (stops_cons.mpr (by decide)).blanks_append after fun _ => isBareChar_of_isBlank
    refine ⟨after.text ++ ']' :: rest, ?_, skipBlank_append after hbracket⟩
    rw [List.append_assoc, List.append_assoc,
      skipBlank_append before (hstart.of_append hne (after.text ++ ']' :: rest))]
    exact hreads _ hbare

/-- What can follow the path of an attribute: a sign or the bracket. -/
def StartsTest (cs : List Char) : Prop :=
  ∃ c f, cs = c :: f ∧ (c = '!' ∨ c = '=' ∨ c = ']')

/-- The text of a comparison, up to the bracket: it begins with its sign, and where there is none the
bracket comes. -/
structure ReadsTest (front : List Char) (t : Test) : Prop where
  sign : StartsTest (front ++ [']'])
  reads : ∀ rest, testAt (front ++ ']' :: rest) = .ok (t, ']' :: rest)

theorem testAt_local {t : Test} (h : testAt cs = .ok (t, ']' :: r)) :
    ∃ front, cs = front ++ ']' :: r ∧ ReadsTest front t := by
  unfold testAt at h
  split at h
  · obtain ⟨⟨o, u⟩, hread, heq⟩ := map_eq_ok_iff.mp h
    obtain ⟨rfl, hu⟩ := Prod.mk.inj heq
    obtain ⟨front, rfl, hreads⟩ := comparison_local hread hu
    refine ⟨'!' :: '=' :: front, rfl, ⟨'!', _, rfl, .inl rfl⟩, ?_⟩
    intro rest
    obtain ⟨v, hv, hblank⟩ := hreads rest
    rw [List.cons_append, List.cons_append, testAt, hv]
    dsimp only [Except.map]
    rw [hblank]
  · obtain ⟨⟨o, u⟩, hread, heq⟩ := map_eq_ok_iff.mp h
    obtain ⟨rfl, hu⟩ := Prod.mk.inj heq
    obtain ⟨front, rfl, hreads⟩ := comparison_local hread hu
    refine ⟨'=' :: front, rfl, ⟨'=', _, rfl, .inr (.inl rfl)⟩, ?_⟩
    intro rest
    obtain ⟨v, hv, hblank⟩ := hreads rest
    rw [List.cons_append, testAt, hv]
    dsimp only [Except.map]
    rw [hblank]
  · cases h
    exact ⟨[], rfl, ⟨']', [], rfl, .inr (.inr rfl)⟩, fun _ => rfl⟩

theorem exists_path {fuel : Nat} {path : List String} (h : pathAt fuel cs = .ok (path, r)) :
    ∃ (head : Layout.Name) (tail : List Layout.Name),
      cs = head.text ++ (tail.flatMap (fun n => '.' :: n.text) ++ r) ∧
      path = (head :: tail).map fun n => String.ofList n.text := by
  induction fuel generalizing cs path with
  | zero => cases h
  | succ fuel ih =>
      rw [pathAt] at h
      split at h
      · cases h
      · rename_i n rest hname
        obtain ⟨x, rfl, rfl⟩ := exists_name hname
        obtain ⟨⟨path', r'⟩, hpath, heq⟩ := map_eq_ok_iff.mp h
        cases heq
        obtain ⟨head, tail, rfl, rfl⟩ := ih hpath
        exact ⟨x, head :: tail, by simp, rfl⟩
      · rename_i n rest _ hname
        obtain ⟨x, rfl, rfl⟩ := exists_name hname
        cases h
        exact ⟨x, [], by simp, rfl⟩

/-- A path ends before its comparison, from which white space may separate it. -/
theorem pathAt_parts (after : Layout.Blanks) (head : Layout.Name) (tail : List Layout.Name)
    (hu : StartsTest u) {fuel : Nat} (hfuel : tail.length < fuel) :
    pathAt fuel (head.text ++ (tail.flatMap (fun n => '.' :: n.text) ++ (after.text ++ u))) =
        .ok ((head :: tail).map fun n => String.ofList n.text, after.text ++ u) ∧
      skipBlank (after.text ++ u) = u := by
  obtain ⟨c, f, rfl, hc⟩ := hu
  have hblank : Text.isBlank c = false := by rcases hc with rfl | rfl | rfl <;> decide
  have hname : isNameChar c = false := by rcases hc with rfl | rfl | rfl <;> decide
  have hdot : Stops (· == '.') (c :: f) :=
    stops_cons.mpr (by rcases hc with rfl | rfl | rfl <;> decide)
  constructor
  · apply pathAt_append head tail hfuel
    · exact (stops_cons.mpr hname).blanks_append after fun _ => isNameChar_of_isBlank
    · apply hdot.blanks_append after
      intro d hd
      rw [beq_eq_false_iff_ne]
      rintro rfl
      exact absurd hd (by decide)
  · exact skipBlank_append after (stops_cons.mpr hblank)

theorem stops_isBlank_name (n : Layout.Name) (u : List Char) : Stops Text.isBlank (n.text ++ u) :=
  stops_cons.mpr (isBlank_of_isNameChar (isNameChar_of_isNameStart n.start))

theorem attributeAt_parts (before after : Layout.Blanks) (head : Layout.Name)
    (tail : List Layout.Name) {front : List Char} {t : Test} (ht : ReadsTest front t)
    (rest : List Char) :
    attributeAt (before.text ++ (head.text ++ (tail.flatMap (fun n => '.' :: n.text) ++
        (after.text ++ (front ++ ']' :: rest))))) =
      .ok (⟨(head :: tail).map fun n => String.ofList n.text, t⟩, rest) := by
  have hstart : StartsTest (front ++ ']' :: rest) := by
    obtain ⟨c, f, hsign, hc⟩ := ht.sign
    refine ⟨c, f ++ rest, ?_, hc⟩
    rw [← List.cons_append, ← hsign, List.append_assoc, List.singleton_append]
  have hlength := length_le_length_flatMap tail (f := fun n => '.' :: n.text) (by simp)
  have hparts {fuel : Nat} (hfuel : tail.length < fuel) := pathAt_parts after head tail hstart hfuel
  rw [attributeAt, skipBlank_append before (stops_isBlank_name head _), (hparts _).1]
  · dsimp only
    rw [(hparts (Nat.lt_succ_self _)).2]
    simp only [ht.reads]
  · simp only [List.length_append]
    omega

theorem attributeAt_local {a : Attribute} (h : attributeAt cs = .ok (a, r)) :
    ∃ front, cs = front ++ r ∧ ReadsAs attributeAt (fun _ => True) front a := by
  unfold attributeAt at h
  split at h
  · cases h
  · rename_i path u hpath
    split at h
    · cases h
    · rename_i t u' htest
      cases h
      obtain ⟨before, hbefore⟩ := exists_blanks cs
      obtain ⟨after, hafter⟩ := exists_blanks u
      obtain ⟨head, tail, hnames, rfl⟩ := exists_path hpath
      obtain ⟨front, hfront, hreads⟩ := testAt_local htest
      refine ⟨before.text ++ (head.text ++ (tail.flatMap (fun n => '.' :: n.text) ++
        (after.text ++ (front ++ [']'])))), ?_, ?_⟩
      · rw [hfront] at hafter
        rw [hafter] at hnames
        rw [hnames] at hbefore
        simpa using hbefore
      · intro rest _
        have hparts := attributeAt_parts before after head tail hreads rest
        simpa using hparts
    · cases h

theorem attributesAt_of_stops (fuel : Nat) (h : Stops (· == '[') cs) :
    attributesAt fuel cs = .ok ([], cs) := by
  rw [attributesAt]
  rintro fuel' rest - rfl
  simp [Stops] at h

/-- The text of attributes: it is empty or begins with a bracket. -/
structure ReadsAttributes (front : List Char) (as : List Attribute) : Prop where
  bracket : front = [] ∨ ∃ f, front = '[' :: f
  reads : ∀ fuel, front.length < fuel → ReadsAs (attributesAt fuel) (Stops (· == '[')) front as

theorem readsAttributes_nil : ReadsAttributes [] [] where
  bracket := .inl rfl
  reads := fun fuel _ _ hr => attributesAt_of_stops fuel hr

theorem ReadsAttributes.cons {a : Attribute} {as : List Attribute} {others : List Char}
    (ha : ReadsAs attributeAt (fun _ => True) front a) (has : ReadsAttributes others as) :
    ReadsAttributes ('[' :: (front ++ others)) (a :: as) where
  bracket := .inr ⟨_, rfl⟩
  reads := by
    intro fuel hfuel rest hr
    obtain ⟨fuel, rfl⟩ := Nat.exists_eq_succ_of_ne_zero (Nat.ne_zero_of_lt hfuel)
    simp only [List.length_cons, List.length_append, Nat.succ_lt_succ_iff] at hfuel
    rw [List.cons_append, List.append_assoc, attributesAt, ha _ trivial]
    dsimp only
    rw [has.reads fuel (by omega) rest hr, Except.map]

theorem attributesAt_local {fuel : Nat} {as : List Attribute}
    (h : attributesAt fuel cs = .ok (as, r)) :
    ∃ front, cs = front ++ r ∧ ReadsAttributes front as := by
  induction fuel generalizing cs as with
  | zero =>
      cases h
      exact ⟨[], rfl, readsAttributes_nil⟩
  | succ fuel ih =>
      unfold attributesAt at h
      split at h
      · rename_i rest hfuel
        split at h
        · cases h
        · rename_i a u hattribute
          obtain ⟨⟨as', r'⟩, hrest, heq⟩ := map_eq_ok_iff.mp h
          cases heq
          cases hfuel
          obtain ⟨front, rfl, hfront⟩ := attributeAt_local hattribute
          obtain ⟨others, rfl, hothers⟩ := ih hrest
          exact ⟨'[' :: (front ++ others), by simp, ReadsAttributes.cons hfront hothers⟩
      · cases h
        exact ⟨[], rfl, readsAttributes_nil⟩

/-! ### Compounds -/

variable {known : String → Bool}

theorem exists_kind {k : Option KindSpec} (h : kindAt known cs = .ok (k, r)) :
    ∃ x : Layout.Kind known, cs = x.text ++ r ∧ x.meaning = k := by
  unfold kindAt at h
  split at h
  · cases h
    exact ⟨.star, rfl, rfl⟩
  · split at h
    · cases h
      exact ⟨.omitted, rfl, rfl⟩
    · rename_i n u hname
      split at h
      · rename_i spec hspec
        cases h
        obtain ⟨x, rfl, rfl⟩ := exists_name hname
        exact ⟨.named x.text spec hspec, rfl, rfl⟩
      · cases h

theorem exists_compoundChar (k : Layout.Kind known) {as : List Attribute}
    (has : ReadsAttributes front as) (hne : k.text ++ front ≠ []) :
    ∃ c f, k.text ++ front = c :: f ∧ isCompoundChar c = true := by
  cases k with
  | named name spec hspec =>
      obtain ⟨n, rfl⟩ := exists_name_of_kindSpec? hspec
      exact ⟨_, _, rfl, isCompoundChar_of_isNameChar (isNameChar_of_isNameStart n.start)⟩
  | star => exact ⟨'*', _, rfl, by decide⟩
  | omitted =>
      rcases has.bracket with rfl | ⟨f, rfl⟩
      · exact absurd rfl hne
      · exact ⟨'[', f, rfl, by decide⟩

theorem compoundAt_parts (k : Layout.Kind known) {as : List Attribute}
    (has : ReadsAttributes front as) (hne : k.text ++ front ≠ []) :
    ReadsAs (compoundAt known) (Stops isCompoundChar) (k.text ++ front) ⟨k.meaning, as⟩ := by
  intro rest hr
  have hkind : Stops (fun c => isNameChar c || c == '*') (front ++ rest) := by
    rcases has.bracket with rfl | ⟨f, rfl⟩
    · apply hr.mono
      intro c hc
      rw [Bool.or_eq_true, beq_iff_eq] at hc
      rcases hc with hc | rfl
      · exact isCompoundChar_of_isNameChar hc
      · decide
    · exact stops_cons.mpr (by decide)
  have hbracket : Stops (· == '[') rest := by
    apply hr.mono
    intro c hc
    rw [beq_iff_eq] at hc
    subst hc
    decide
  have hlength : ¬(rest.length == (k.text ++ (front ++ rest)).length) = true := by
    have hpos := List.length_pos_iff.mpr hne
    simp only [List.length_append, beq_iff_eq] at hpos ⊢
    omega
  unfold compoundAt
  rw [List.append_assoc, kindAt_append k hkind]
  dsimp only
  rw [has.reads _ (by simp only [List.length_append]; omega) rest hbracket]
  dsimp only
  rw [if_neg hlength]

/-- A compound takes some text, which begins as compounds do. What it is read as depends on this text
alone, as long as no character follows that could go on with a compound. -/
theorem compoundAt_local {x : Compound} (h : compoundAt known cs = .ok (x, r)) :
    ∃ c f, cs = c :: (f ++ r) ∧ isCompoundChar c = true ∧
      ReadsAs (compoundAt known) (Stops isCompoundChar) (c :: f) x := by
  unfold compoundAt at h
  split at h
  · cases h
  · rename_i kind u hkind
    split at h
    · cases h
    · rename_i as r' hattributes
      split at h
      · split at h <;> cases h
      · rename_i hlength
        cases h
        obtain ⟨k, rfl, rfl⟩ := exists_kind hkind
        obtain ⟨front, rfl, has⟩ := attributesAt_local hattributes
        have hne : k.text ++ front ≠ [] := by
          intro hnil
          rw [← List.append_assoc, hnil] at hlength
          simp at hlength
        obtain ⟨c, f, htext, hc⟩ := exists_compoundChar k has hne
        have hreads := compoundAt_parts k has hne
        rw [htext] at hreads
        refine ⟨c, f, ?_, hc, hreads⟩
        rw [← List.append_assoc, htext]
        rfl

end

end BoundaryLint.Selector
