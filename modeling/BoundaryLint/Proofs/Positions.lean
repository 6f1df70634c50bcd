import BoundaryLint.Proofs.DecodedText
import BoundaryLint.Tree.Source
import Mathlib.Data.Prod.Lex
import Mathlib.Data.List.Induction
import Mathlib.Data.List.TakeWhile

/-!
# Positions

A position is a line and a column, and positions are compared in this order. A position is found from
the bytes before an offset, by counting newlines and then the characters after the last one. Going
forward in the bytes never goes back in positions, whatever the bytes are. In an encoded text the
offsets between its characters have positions of their own.
-/
namespace BoundaryLint

open Text.Utf8 (Bytes decode encode encodeChars)

/-! ### After the last mark -/

section
variable {α : Type*} [BEq α] [LawfulBEq α] {x : α} {l m : List α}

/-- What comes after the last `x` of a list. -/
def afterLast (x : α) (l : List α) : List α :=
  (l.reverse.takeWhile (· != x)).reverse

theorem afterLast_append_of_not_mem (h : x ∉ m) : afterLast x (l ++ m) = afterLast x l ++ m := by
  have hall : ∀ a ∈ m.reverse, (a != x) = true := by
    intro a ha
    rw [bne_iff_ne]
    intro heq
    exact h (heq ▸ List.mem_reverse.mp ha)
  rw [afterLast, List.reverse_append, List.takeWhile_append_of_pos hall, List.reverse_append,
    List.reverse_reverse, afterLast]

theorem afterLast_append_self : afterLast x (l ++ [x]) = [] := by
  simp [afterLast]

theorem not_mem_afterLast : x ∉ afterLast x l := by
  intro h
  have := List.mem_takeWhile_imp (List.mem_reverse.mp h)
  simp at this

theorem exists_append_afterLast (l : List α) :
    ∃ front, l = front ++ afterLast x l ∧ (front = [] ∨ front.getLast? = some x) := by
  induction l using List.reverseRecOn with
  | nil => exact ⟨[], rfl, .inl rfl⟩
  | append_singleton l a ih =>
      by_cases h : x = a
      · subst h
        exact ⟨l ++ [x], by simp [afterLast_append_self], .inr (by simp)⟩
      · obtain ⟨front, hl, hfront⟩ := ih
        refine ⟨front, ?_, hfront⟩
        rw [afterLast_append_of_not_mem (by simpa using h), ← List.append_assoc, ← hl]

/-- A mark more, or none and something after the last one: a longer list is further. -/
theorem eq_nil_of_same_place (hcount : (l ++ m).count x = l.count x)
    (hlength : (afterLast x (l ++ m)).length = (afterLast x l).length) : m = [] := by
  have hnot : x ∉ m := by
    rw [List.count_append] at hcount
    exact List.count_eq_zero.mp (by omega)
  rw [afterLast_append_of_not_mem hnot, List.length_append] at hlength
  exact List.length_eq_zero_iff.mp (by omega)

end

/-! ### Forward in the bytes -/

def positionAfter (front : Bytes) : Nat × Nat :=
  (front.count 0x0a + 1, (decode (afterLast 0x0a front)).length + 1)

theorem positionAt_eq_positionAfter (content : Bytes) (offset : Nat) :
    positionAt content offset = positionAfter (content.take offset) := by
  rw [positionAfter, ← Text.Utf8.length_text]
  rfl

theorem positionAfter_le_append (front more : Bytes) :
    toLex (positionAfter front) ≤ toLex (positionAfter (front ++ more)) := by
  rw [Prod.Lex.toLex_le_toLex]
  dsimp only [positionAfter]
  by_cases h : (0x0a : UInt8) ∈ more
  · left
    have := List.count_pos_iff.mpr h
    rw [List.count_append]
    omega
  · right
    have hcount := List.count_eq_zero.mpr h
    have hlength := Text.Utf8.length_decode_le_append (afterLast 0x0a front) more
    rw [List.count_append, hcount, afterLast_append_of_not_mem h]
    exact ⟨rfl, by omega⟩

theorem positionAt_mono (content : Bytes) {i j : Nat} (h : i ≤ j) :
    toLex (positionAt content i) ≤ toLex (positionAt content j) := by
  have htake : content.take j = content.take i ++ (content.drop i).take (j - i) := by
    rw [← List.take_add, Nat.add_sub_cancel' h]
  rw [positionAt_eq_positionAfter, positionAt_eq_positionAfter, htake]
  exact positionAfter_le_append _ _

/-! ### Between the characters of a text -/

theorem encodeChars_newline : encodeChars ['\n'] = [0x0a] := by decide

theorem newline_not_mem_encodeChars {c : Char} (h : c ≠ '\n') : 0x0a ∉ encodeChars [c] := by
  rw [encodeChars, List.flatMap_singleton, Text.Utf8.newline_mem_encodeChar]
  exact h

theorem count_encodeChars (cs : List Char) : (encodeChars cs).count 0x0a = cs.count '\n' := by
  induction cs using List.reverseRecOn with
  | nil => rfl
  | append_singleton cs c ih =>
      rw [Text.Utf8.encodeChars_append, List.count_append, List.count_append, ih]
      congr 1
      by_cases h : c = '\n'
      · rw [h, encodeChars_newline]
        rfl
      · rw [List.count_eq_zero.mpr (newline_not_mem_encodeChars h),
          List.count_singleton, if_neg (by simpa using h)]

theorem afterLast_encodeChars (cs : List Char) :
    afterLast 0x0a (encodeChars cs) = encodeChars (afterLast '\n' cs) := by
  induction cs using List.reverseRecOn with
  | nil => rfl
  | append_singleton cs c ih =>
      rw [Text.Utf8.encodeChars_append]
      by_cases h : c = '\n'
      · rw [h, encodeChars_newline, afterLast_append_self, afterLast_append_self]
        rfl
      · rw [afterLast_append_of_not_mem (newline_not_mem_encodeChars h), ih,
          afterLast_append_of_not_mem (by simpa using Ne.symm h), Text.Utf8.encodeChars_append]

theorem positionAfter_encodeChars (cs : List Char) :
    positionAfter (encodeChars cs) = (cs.count '\n' + 1, (afterLast '\n' cs).length + 1) := by
  rw [positionAfter, count_encodeChars, afterLast_encodeChars, Text.Utf8.decode_encodeChars,
    List.length_map]

/-- The text before a byte offset of an encoded text, cut after its last newline. -/
structure TextBefore (text : String) (offset : Nat) (lines line : List Char) : Prop where
  front : lines ++ line <+: text.toList
  offset : (encodeChars (lines ++ line)).length = offset
  lines : lines = [] ∨ lines.getLast? = some '\n'
  line : '\n' ∉ line

theorem exists_textBefore {text : String} {offset : Nat}
    (h : String.Pos.Raw.IsValid text ⟨offset⟩) : ∃ lines line, TextBefore text offset lines line := by
  obtain ⟨front, rest, htext, hoffset⟩ := String.Pos.Raw.isValid_iff_exists_append.mp h
  obtain ⟨lines, hcut, hlines⟩ := exists_append_afterLast (x := '\n') front.toList
  refine ⟨lines, afterLast '\n' front.toList, ?_, ?_, hlines, not_mem_afterLast⟩
  · rw [← hcut, htext, String.toList_append]
    exact List.prefix_append _ _
  · have hsize : front.utf8ByteSize = offset := (congrArg String.Pos.Raw.byteIdx hoffset).symm
    rw [← hcut, ← Text.Utf8.encode_eq_encodeChars, ← hsize]
    rfl

namespace TextBefore
variable {text : String} {offset : Nat} {lines line : List Char}

theorem take_encode (h : TextBefore text offset lines line) :
    (encode text).take offset = encodeChars (lines ++ line) := by
  obtain ⟨rest, hrest⟩ := h.front
  rw [Text.Utf8.encode_eq_encodeChars, ← hrest, Text.Utf8.encodeChars_append, ← h.offset,
    List.take_left]

theorem afterLast_eq (h : TextBefore text offset lines line) :
    afterLast '\n' (lines ++ line) = line := by
  rw [afterLast_append_of_not_mem h.line]
  rcases h.lines with hnil | hlast
  · rw [hnil]
    rfl
  · obtain ⟨front, hfront⟩ := List.getLast?_eq_some_iff.mp hlast
    rw [hfront, afterLast_append_self, List.nil_append]

/-- The line is told by the newlines before the offset, the column by the characters after the last
one. -/
theorem positionAt_eq (h : TextBefore text offset lines line) :
    positionAt (encode text) offset = ((lines ++ line).count '\n' + 1, line.length + 1) := by
  rw [positionAt_eq_positionAfter, h.take_encode, positionAfter_encodeChars, h.afterLast_eq]

end TextBefore

/-- Of two offsets with one position, none is behind the other. -/
theorem TextBefore.offset_eq {text : String} {i j : Nat} {lines line lines' line' : List Char}
    (hi : TextBefore text i lines line) (hj : TextBefore text j lines' line')
    (hlonger : lines ++ line <+: lines' ++ line')
    (h : positionAt (encode text) i = positionAt (encode text) j) : i = j := by
  obtain ⟨more, hmore⟩ := hlonger
  rw [hi.positionAt_eq, hj.positionAt_eq, Prod.mk.injEq] at h
  have hcount : (lines ++ line ++ more).count '\n' = (lines ++ line).count '\n' := by
    rw [hmore]
    omega
  have hlength : (afterLast '\n' (lines ++ line ++ more)).length =
      (afterLast '\n' (lines ++ line)).length := by
    rw [hmore, hi.afterLast_eq, hj.afterLast_eq]
    omega
  have hnil := eq_nil_of_same_place hcount hlength
  rw [← hi.offset, ← hj.offset, ← hmore, hnil, List.append_nil]

theorem eq_of_positionAt_eq {text : String} {i j : Nat} (hi : String.Pos.Raw.IsValid text ⟨i⟩)
    (hj : String.Pos.Raw.IsValid text ⟨j⟩)
    (h : positionAt (encode text) i = positionAt (encode text) j) : i = j := by
  obtain ⟨lines, line, hbefore⟩ := exists_textBefore hi
  obtain ⟨lines', line', hbefore'⟩ := exists_textBefore hj
  rcases List.prefix_or_prefix_of_prefix hbefore.front hbefore'.front with hle | hle
  · exact hbefore.offset_eq hbefore' hle h
  · exact (hbefore'.offset_eq hbefore hle h.symm).symm

end BoundaryLint
