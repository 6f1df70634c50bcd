import BoundaryLint.Report.Format
import Std.Data.String.ToInt

/-!
# Records for tools

A report for tools has a line for each diagnostic, with colons between its fields. Only the message
may hold colons, and it comes last; its line breaks are folded into blanks. So a tool gets every
diagnostic back: it cuts the text at line feeds, and each line at its first five colons.
-/
namespace BoundaryLint.Report

/-! ### Folded messages -/

/-- The characters that end a line. A carriage return and the line feed after it end one line. -/
def lineBreaks : List Char :=
  ['\n', '\x0b', '\x0c', '\r', '\x1c', '\x1d', '\x1e', '\x85', '\u2028', '\u2029']

/-- A text with a blank for each line break. A break at the very end is dropped. -/
def folded : List Char → List Char
  | [] => []
  | '\r' :: '\n' :: cs => if cs.isEmpty then [] else ' ' :: folded cs
  | c :: cs =>
    if c ∈ lineBreaks then
      if cs.isEmpty then [] else ' ' :: folded cs
    else c :: folded cs

theorem isLineBreak_iff (c : Char) : Text.isLineBreak c = true ↔ c ∈ lineBreaks := by
  have hcode : ∀ d : Char, c = d ↔ c.toNat = d.toNat := by
    intro d
    rw [Char.toNat_inj]
  simp only [Text.isLineBreak, lineBreaks, List.mem_cons, List.not_mem_nil, or_false, hcode,
    Bool.or_eq_true, Bool.and_eq_true, decide_eq_true_eq, beq_iff_eq]
  simp only [Char.reduceToNat]
  omega

theorem linesFrom_eq_nil_iff (acc cs : List Char) :
    Text.linesFrom acc cs = [] ↔ acc = [] ∧ cs = [] := by
  fun_induction Text.linesFrom acc cs with
  | case1 acc h => simpa using h
  | case2 acc h => simpa using h
  | case3 acc cs => simp
  | case4 acc c cs _ h => simp
  | case5 acc c cs _ h ih => simp [ih]

theorem intercalate_linesFrom (acc cs : List Char) :
    [' '].intercalate (Text.linesFrom acc cs) = acc.reverse ++ folded cs := by
  have hbreak : ∀ acc cs : List Char,
      [' '].intercalate (Text.linesFrom [] cs) = folded cs →
      [' '].intercalate (acc.reverse :: Text.linesFrom [] cs) =
        acc.reverse ++ if cs.isEmpty then [] else ' ' :: folded cs := by
    intro acc cs ih
    cases cs with
    | nil => simp [Text.linesFrom]
    | cons c cs =>
        have hne : Text.linesFrom [] (c :: cs) ≠ [] := by simp [linesFrom_eq_nil_iff]
        rw [List.intercalate_cons_of_ne_nil hne, ih]
        simp
  fun_induction Text.linesFrom acc cs with
  | case1 acc h => simp_all [folded]
  | case2 acc h => simp [folded]
  | case3 acc cs ih => rw [hbreak acc cs (by simpa using ih), folded]
  | case4 acc c cs hne h ih =>
      rw [hbreak acc cs (by simpa using ih), folded, if_pos ((isLineBreak_iff c).mp h)]
      exact hne
  | case5 acc c cs hne h ih =>
      rw [ih, folded, if_neg (mt (isLineBreak_iff c).mpr h)]
      · simp
      · exact hne

theorem toList_oneLine (message : String) : (oneLine message).toList = folded message.toList := by
  rw [oneLine, String.toList_intercalate, List.map_map]
  have hmap : (Text.lines message.toList).map (String.toList ∘ String.ofList) =
      Text.lines message.toList := by simp [Function.comp_def]
  rw [hmap]
  exact intercalate_linesFrom [] message.toList

theorem lineFeed_not_mem_folded (cs : List Char) : '\n' ∉ folded cs := by
  fun_induction folded cs with
  | case1 => simp
  | case2 cs h => simp
  | case3 cs h ih => simpa using ih
  | case4 c cs _ h h' => simp
  | case5 c cs _ h h' ih => simpa using ih
  | case6 c cs _ h ih =>
      rw [List.mem_cons, not_or]
      refine ⟨?_, ih⟩
      rintro rfl
      exact h (by decide)

/-! ### Fields and lines -/

/-- A text that can stand between two colons of a line. -/
def IsField (cs : List Char) : Prop := ':' ∉ cs ∧ '\n' ∉ cs

instance (cs : List Char) : Decidable (IsField cs) := inferInstanceAs (Decidable (_ ∧ _))

/-- A text cut at the first `n` of its separators. -/
def cutFirst (sep : Char) : Nat → List Char → List (List Char)
  | 0, cs => [cs]
  | n + 1, cs =>
    match cs.dropWhile (· != sep) with
    | [] => [cs]
    | _ :: rest => cs.takeWhile (· != sep) :: cutFirst sep n rest

theorem cutFirst_append {sep : Char} {field : List Char} (h : sep ∉ field) (n : Nat)
    (rest : List Char) :
    cutFirst sep (n + 1) (field ++ sep :: rest) = field :: cutFirst sep n rest := by
  have hkept : ∀ c ∈ field, (c != sep) = true := by
    intro c hc
    exact bne_iff_ne.mpr fun heq => h (heq ▸ hc)
  rw [cutFirst, List.dropWhile_append_of_pos hkept, List.takeWhile_append_of_pos hkept]
  simp

theorem isField_repr (n : Int) : IsField n.repr.toList := by
  have hdigit : ∀ m : Nat, ∀ c ∈ m.repr.toList, c.isDigit = true := by
    intro m c hc
    rw [Nat.toList_repr] at hc
    exact Nat.isDigit_of_mem_toDigits (by decide) (by decide) hc
  have hchar : ∀ c ∈ n.repr.toList, c.isDigit = true ∨ c = '-' := by
    intro c hc
    rw [Int.repr_eq_if] at hc
    split at hc
    · exact .inl (hdigit _ c hc)
    · rw [String.toList_append] at hc
      rcases List.mem_append.mp hc with hc | hc
      · exact .inr (by simpa using hc)
      · exact .inl (hdigit _ c hc)
  constructor
  · intro hc
    exact absurd (hchar _ hc) (by decide)
  · intro hc
    exact absurd (hchar _ hc) (by decide)

def fieldsOf (d : Diagnostic) : List (List Char) :=
  [d.file.toList, d.line.repr.toList, d.column.repr.toList, d.severity.name.toList, d.ruleId.toList,
    folded d.message.toList]

/-- A line is its fields with colons between them. -/
theorem toList_porcelainLine (d : Diagnostic) : (porcelainLine d).toList =
    d.file.toList ++ ':' :: (d.line.repr.toList ++ ':' :: (d.column.repr.toList ++
      ':' :: (d.severity.name.toList ++ ':' :: (d.ruleId.toList ++
        ':' :: folded d.message.toList)))) := by
  rw [porcelainLine, String.toList_append, toList_oneLine]
  simp [toString]

/-- The texts before the message can stand between colons. The severities that rules report with
always can. -/
structure IsRecord (d : Diagnostic) : Prop where
  file : IsField d.file.toList
  ruleId : IsField d.ruleId.toList
  severity : ∀ name, d.severity = .other name → IsField name.toList

namespace IsRecord
variable {d : Diagnostic}

theorem isField_severity (h : IsRecord d) : IsField d.severity.name.toList := by
  cases hd : d.severity with
  | other name => exact h.severity name hd
  | _ => decide

theorem cutFirst_porcelainLine (h : IsRecord d) :
    cutFirst ':' 5 (porcelainLine d).toList = fieldsOf d := by
  rw [toList_porcelainLine, cutFirst_append h.file.1, cutFirst_append (isField_repr _).1,
    cutFirst_append (isField_repr _).1, cutFirst_append h.isField_severity.1,
    cutFirst_append h.ruleId.1, cutFirst, fieldsOf]

theorem lineFeed_not_mem_porcelainLine (h : IsRecord d) : '\n' ∉ (porcelainLine d).toList := by
  rw [toList_porcelainLine]
  simp [h.file.2, h.ruleId.2, h.isField_severity.2, (isField_repr _).2, lineFeed_not_mem_folded]

end IsRecord

/-! ### Reading a report -/

structure Record where
  file : String
  line : Int
  column : Int
  severity : String
  ruleId : String
  message : String
  deriving DecidableEq

def Record.ofLine? (line : List Char) : Option Record :=
  match (cutFirst ':' 5 line).map String.ofList with
  | [file, line, column, severity, ruleId, message] => do
    let line ← line.toInt?
    let column ← column.toInt?
    some { file, line, column, severity, ruleId, message }
  | _ => none

/-- The record of a diagnostic: all of it but the line breaks of the message. -/
def recordOf (d : Diagnostic) : Record where
  file := d.file
  line := d.line
  column := d.column
  severity := d.severity.name
  ruleId := d.ruleId
  message := .ofList (folded d.message.toList)

theorem ofLine?_porcelainLine {d : Diagnostic} (h : IsRecord d) :
    Record.ofLine? (porcelainLine d).toList = some (recordOf d) := by
  rw [Record.ofLine?, h.cutFirst_porcelainLine]
  simp [fieldsOf, recordOf]

theorem splitOn_porcelain {r : Result} (hne : r.diagnostics ≠ [])
    (h : ∀ d ∈ r.diagnostics, IsRecord d) :
    (porcelain r).toList.splitOn '\n' = r.diagnostics.map fun d => (porcelainLine d).toList := by
  rw [porcelain, String.toList_intercalate, List.map_map]
  apply List.splitOn_intercalate
  · intro l hl
    obtain ⟨d, hd, rfl⟩ := List.mem_map.mp hl
    exact (h d hd).lineFeed_not_mem_porcelainLine
  · simpa using hne

/-- A report for tools can be read back: there is one line for each diagnostic, in order, and its
first five colons part the fields, whatever the message holds. -/
theorem porcelain_reads_back {r : Result} (hne : r.diagnostics ≠ [])
    (h : ∀ d ∈ r.diagnostics, IsRecord d) :
    ((porcelain r).toList.splitOn '\n').length = r.diagnostics.length ∧
      ((porcelain r).toList.splitOn '\n').map (cutFirst ':' 5) = r.diagnostics.map fieldsOf ∧
      ((porcelain r).toList.splitOn '\n').map Record.ofLine? =
        r.diagnostics.map fun d => some (recordOf d) := by
  rw [splitOn_porcelain hne h, List.length_map, List.map_map, List.map_map]
  refine ⟨rfl, ?_, ?_⟩
  · apply List.map_congr_left
    intro d hd
    rw [Function.comp_apply, (h d hd).cutFirst_porcelainLine]
  · apply List.map_congr_left
    intro d hd
    rw [Function.comp_apply, ofLine?_porcelainLine (h d hd)]

/-- Two diagnostics whose messages hold colons and breaks of several kinds, at the end too. -/
def brokenMessages : Result where
  diagnostics := [
    { file := "src/a.ts", line := 3, column := 14, ruleId := "no-localstorage", severity := .error,
      message := "store: use\r\nthe settings\u2028\u2028store\n" },
    { file := "src/b.ts", line := 1, column := 1, ruleId := "r", severity := .warn,
      message := "a:b:c:d:e:f\x0b\r" }]

/-- A break at the end is gone, and each other one is a blank. -/
theorem porcelain_reads_back_brokenMessages :
    brokenMessages.diagnostics ≠ [] ∧ (∀ d ∈ brokenMessages.diagnostics, IsRecord d) ∧
      ((porcelain brokenMessages).toList.splitOn '\n').map Record.ofLine? = [
        some ⟨"src/a.ts", 3, 14, "error", "no-localstorage", "store: use the settings  store"⟩,
        some ⟨"src/b.ts", 1, 1, "warn", "r", "a:b:c:d:e:f "⟩] := by
  have hrecord : ∀ d ∈ brokenMessages.diagnostics, IsRecord d := by
    simp only [brokenMessages, List.forall_mem_cons]
    refine ⟨⟨by decide, by decide, ?_⟩, ⟨by decide, by decide, ?_⟩, List.forall_mem_nil _⟩
    all_goals
      intro name h
      cases h
  have hread := (porcelain_reads_back (r := brokenMessages) (by decide) hrecord).2.2
  exact ⟨by decide, hrecord, hread.trans (by decide +kernel)⟩

end BoundaryLint.Report
