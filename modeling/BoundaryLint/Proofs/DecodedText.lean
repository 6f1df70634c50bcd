import BoundaryLint.Text.Utf8
import Mathlib.Data.List.Basic
import Mathlib.Tactic.SplitIfs

/-!
# Decoded text

Decoding goes from part to part. The first byte of a part says which bytes may follow it, and the part
takes as many of them as there are. So a part can only be cut short where the bytes end, and more
bytes never give fewer characters. A text that is encoded is decoded to its own characters.
-/
namespace BoundaryLint.Text.Utf8

/-! ### One part after the other -/

/-- The tests for the bytes that may follow the first byte of a part. -/
def followers (a : UInt8) : List (UInt8 → Bool) :=
  if a < 0x80 then []
  else if isLead2 a then [isContinuation]
  else if isLead3 a then [isSecond a, isContinuation]
  else if isLead4 a then [isSecond a, isContinuation, isContinuation]
  else []

/-- How many bytes at the front pass the tests in turn. -/
def passing : List (UInt8 → Bool) → Bytes → Nat
  | test :: tests, b :: bs => if test b then passing tests bs + 1 else 0
  | [], _ => 0
  | _ :: _, [] => 0

theorem decode_cons (a : UInt8) (rest : Bytes) :
    ∃ part, decode (a :: rest) = part :: decode (rest.drop (passing (followers a) rest)) := by
  rw [decode.eq_def, followers]
  dsimp only
  split_ifs
  · exact ⟨_, rfl⟩
  · cases rest with
    | nil => exact ⟨none, rfl⟩
    | cons b rest =>
        dsimp only [passing]
        split_ifs <;> exact ⟨_, rfl⟩
  · rcases rest with _ | ⟨b, _ | ⟨c, rest⟩⟩
    · exact ⟨none, rfl⟩
    · dsimp only [passing]
      split_ifs <;> exact ⟨none, rfl⟩
    · dsimp only [passing]
      split_ifs <;> exact ⟨_, rfl⟩
  · rcases rest with _ | ⟨b, _ | ⟨c, _ | ⟨d, rest⟩⟩⟩
    · exact ⟨none, rfl⟩
    · dsimp only [passing]
      split_ifs <;> exact ⟨none, rfl⟩
    · dsimp only [passing]
      split_ifs <;> exact ⟨none, rfl⟩
    · dsimp only [passing]
      split_ifs <;> exact ⟨_, rfl⟩
  · exact ⟨none, rfl⟩

theorem passing_le (tests : List (UInt8 → Bool)) (bs : Bytes) : passing tests bs ≤ bs.length := by
  induction tests generalizing bs with
  | nil => simp [passing]
  | cons test tests ih =>
      cases bs with
      | nil => simp [passing]
      | cons b bs =>
          have hrest := ih bs
          rw [passing, List.length_cons]
          split <;> omega

/-- Bytes at the end only matter to tests that had run out of bytes. -/
theorem passing_append (tests : List (UInt8 → Bool)) (bs more : Bytes) :
    passing tests (bs ++ more) = passing tests bs ∨ passing tests bs = bs.length := by
  induction tests generalizing bs with
  | nil => exact .inl (by simp [passing])
  | cons test tests ih =>
      cases bs with
      | nil => exact .inr (by simp [passing])
      | cons b bs =>
          have hrest := ih bs
          rw [List.cons_append, passing, passing, List.length_cons]
          split <;> omega

/-- More bytes never give fewer characters, wherever the bytes are cut. -/
theorem length_decode_le_append (bs more : Bytes) :
    (decode bs).length ≤ (decode (bs ++ more)).length := by
  induction hn : bs.length using Nat.strongRecOn generalizing bs with
  | _ n ih =>
      cases bs with
      | nil => exact Nat.zero_le _
      | cons a rest =>
          obtain ⟨part, hpart⟩ := decode_cons a rest
          obtain ⟨part', hpart'⟩ := decode_cons a (rest ++ more)
          rw [List.cons_append, hpart, hpart', List.length_cons, List.length_cons]
          apply Nat.succ_le_succ
          have hle := passing_le (followers a) rest
          rcases passing_append (followers a) rest more with hsame | hend
          · rw [hsame, List.drop_append_of_le_length hle]
            refine ih (rest.drop (passing (followers a) rest)).length ?_ _ rfl
            simp only [List.length_drop, ← hn, List.length_cons]
            omega
          · rw [hend, List.drop_length]
            exact Nat.zero_le _

theorem length_text (bs : Bytes) : (text bs).length = (decode bs).length :=
  List.length_map _

/-! ### Classes of bytes as ranges of numbers -/

section
variable (a b : UInt8)

theorem lt_ascii_iff : a < 0x80 ↔ a.toNat < 128 := UInt8.lt_iff_toNat_lt

theorem not_lt_ascii (h : 128 ≤ a.toNat) : ¬ a < 0x80 := by
  rw [lt_ascii_iff]
  omega

theorem isContinuation_iff : isContinuation b = true ↔ 128 ≤ b.toNat ∧ b.toNat ≤ 191 := by
  simp [isContinuation, UInt8.le_iff_toNat_le]

theorem isLead2_iff : isLead2 a = true ↔ 194 ≤ a.toNat ∧ a.toNat ≤ 223 := by
  simp [isLead2, UInt8.le_iff_toNat_le]

theorem not_isLead2 (h : 224 ≤ a.toNat) : ¬ isLead2 a = true := by
  rw [isLead2_iff]
  omega

theorem isLead3_iff : isLead3 a = true ↔ 224 ≤ a.toNat ∧ a.toNat ≤ 239 := by
  simp [isLead3, UInt8.le_iff_toNat_le]

theorem isLead4_iff : isLead4 a = true ↔ 240 ≤ a.toNat ∧ a.toNat ≤ 244 := by
  simp [isLead4, UInt8.le_iff_toNat_le]

/-- Second bytes are continuations, less those that would give a sequence that is too long, a
surrogate or a number beyond the last code point. -/
theorem isSecond_iff : isSecond a b = true ↔
    (128 ≤ b.toNat ∧ b.toNat ≤ 191) ∧ (a.toNat = 224 → 160 ≤ b.toNat) ∧
      (a.toNat = 237 → b.toNat ≤ 159) ∧ (a.toNat = 240 → 144 ≤ b.toNat) ∧
      (a.toNat = 244 → b.toNat ≤ 143) := by
  have hlead : ∀ n : UInt8, (a == n) = true ↔ a.toNat = n.toNat := by
    intro n
    rw [beq_iff_eq, UInt8.toNat_inj]
  unfold isSecond
  simp only [hlead, isContinuation, UInt8.le_iff_toNat_le, UInt8.reduceToNat]
  split_ifs <;> simp only [Bool.and_eq_true, decide_eq_true_eq] <;> omega

end

/-! ### Encoded text -/

/-- The size of bytes as a numeral, for `omega`. -/
theorem toNat_ofNat_of_lt {n : Nat} (h : n < 256) : (UInt8.ofNat n).toNat = n :=
  UInt8.toNat_ofNat_of_lt' h

section
variable {a b c d : UInt8} (rest : Bytes)

theorem decode_one (ha : a < 0x80) :
    decode (a :: rest) = some (Char.ofNat a.toNat) :: decode rest := by
  rw [decode.eq_def]
  exact if_pos ha

theorem decode_two (ha : isLead2 a = true) (hb : isContinuation b = true) :
    decode (a :: b :: rest) = some (Char.ofNat (a.toNat % 32 * 64 + low b)) :: decode rest := by
  have hrange := (isLead2_iff a).mp ha
  have hone := not_lt_ascii a (by omega)
  rw [decode.eq_def]
  dsimp only
  rw [if_neg hone, if_pos ha, if_pos hb]

theorem decode_three (ha : isLead3 a = true) (hb : isSecond a b = true)
    (hc : isContinuation c = true) :
    decode (a :: b :: c :: rest) =
      some (Char.ofNat ((a.toNat % 16 * 64 + low b) * 64 + low c)) :: decode rest := by
  have hrange := (isLead3_iff a).mp ha
  have hone := not_lt_ascii a (by omega)
  have htwo := not_isLead2 a (by omega)
  rw [decode.eq_def]
  dsimp only
  rw [if_neg hone, if_neg htwo, if_pos ha, if_pos hb, if_pos hc]

theorem decode_four (ha : isLead4 a = true) (hb : isSecond a b = true)
    (hc : isContinuation c = true) (hd : isContinuation d = true) :
    decode (a :: b :: c :: d :: rest) =
      some (Char.ofNat (((a.toNat % 8 * 64 + low b) * 64 + low c) * 64 + low d)) ::
        decode rest := by
  have hrange := (isLead4_iff a).mp ha
  have hone := not_lt_ascii a (by omega)
  have htwo := not_isLead2 a (by omega)
  have hthree : ¬ isLead3 a = true := by
    rw [isLead3_iff]
    omega
  rw [decode.eq_def]
  dsimp only
  rw [if_neg hone, if_neg htwo, if_neg hthree, if_pos ha, if_pos hb, if_pos hc, if_pos hd]

end

theorem decode_encodeChar_append (c : Char) (rest : Bytes) :
    decode (String.utf8EncodeChar c ++ rest) = some c :: decode rest := by
  obtain ⟨v, hv⟩ : ∃ v, c.val.toNat = v := ⟨_, rfl⟩
  have hvalid : v < 0xd800 ∨ 0xdfff < v ∧ v < 0x110000 := hv ▸ c.valid
  have hc : Char.ofNat v = c := by rw [← hv, ← Char.toNat, Char.ofNat_toNat]
  delta String.utf8EncodeChar
  dsimp only
  rw [hv]
  split_ifs
  · have ha := toNat_ofNat_of_lt (n := v) (by omega)
    rw [List.singleton_append, decode_one rest (by rw [lt_ascii_iff]; omega), ha, hc]
  · have ha := toNat_ofNat_of_lt (n := v / 64 % 32 + 192) (by omega)
    have hb := toNat_ofNat_of_lt (n := v % 64 + 128) (by omega)
    rw [List.cons_append, List.singleton_append,
      decode_two rest (by rw [isLead2_iff]; omega) (by rw [isContinuation_iff]; omega), low, ha, hb]
    rw [show (v / 64 % 32 + 192) % 32 * 64 + (v % 64 + 128) % 64 = v by omega, hc]
  · have ha := toNat_ofNat_of_lt (n := v / 4096 % 16 + 224) (by omega)
    have hb := toNat_ofNat_of_lt (n := v / 64 % 64 + 128) (by omega)
    have hd := toNat_ofNat_of_lt (n := v % 64 + 128) (by omega)
    rw [List.cons_append, List.cons_append, List.singleton_append,
      decode_three rest (by rw [isLead3_iff]; omega) (by rw [isSecond_iff]; omega)
        (by rw [isContinuation_iff]; omega), low, low, ha, hb, hd]
    rw [show ((v / 4096 % 16 + 224) % 16 * 64 + (v / 64 % 64 + 128) % 64) * 64 +
      (v % 64 + 128) % 64 = v by omega, hc]
  · have ha := toNat_ofNat_of_lt (n := v / 262144 % 8 + 240) (by omega)
    have hb := toNat_ofNat_of_lt (n := v / 4096 % 64 + 128) (by omega)
    have hd := toNat_ofNat_of_lt (n := v / 64 % 64 + 128) (by omega)
    have he := toNat_ofNat_of_lt (n := v % 64 + 128) (by omega)
    rw [List.cons_append, List.cons_append, List.cons_append, List.singleton_append,
      decode_four rest (by rw [isLead4_iff]; omega) (by rw [isSecond_iff]; omega)
        (by rw [isContinuation_iff]; omega) (by rw [isContinuation_iff]; omega), low, low, low,
      ha, hb, hd, he]
    rw [show (((v / 262144 % 8 + 240) % 8 * 64 + (v / 4096 % 64 + 128) % 64) * 64 +
      (v / 64 % 64 + 128) % 64) * 64 + (v % 64 + 128) % 64 = v by omega, hc]

def encodeChars (cs : List Char) : Bytes :=
  cs.flatMap String.utf8EncodeChar

theorem encode_eq_encodeChars (s : String) : encode s = encodeChars s.toList := by
  conv_lhs => rw [← String.ofList_toList (s := s)]
  rw [encode, String.toUTF8_eq_toByteArray, String.toByteArray_ofList, List.utf8Encode,
    List.data_toByteArray, encodeChars]

/-- An encoded text is decoded to its own characters. -/
theorem decode_encodeChars (cs : List Char) : decode (encodeChars cs) = cs.map some := by
  induction cs with
  | nil => rfl
  | cons c cs ih =>
      rw [encodeChars, List.flatMap_cons, decode_encodeChar_append, List.map_cons]
      exact congrArg (some c :: ·) ih

theorem encodeChars_append (cs ds : List Char) :
    encodeChars (cs ++ ds) = encodeChars cs ++ encodeChars ds :=
  List.flatMap_append

theorem newline_mem_encodeChar (c : Char) :
    0x0a ∈ String.utf8EncodeChar c ↔ c = '\n' := by
  constructor
  · obtain ⟨v, hv⟩ : ∃ v, c.val.toNat = v := ⟨_, rfl⟩
    delta String.utf8EncodeChar
    dsimp only
    rw [hv]
    intro h
    have hbyte : ∀ n, (0x0a : UInt8) = UInt8.ofNat n → n % 256 = 10 := by
      intro n hn
      have hnat := congrArg UInt8.toNat hn
      rw [UInt8.toNat_ofNat'] at hnat
      exact hnat.symm
    have hten : v = 10 := by
      split_ifs at h
      all_goals
        simp only [List.mem_cons, List.not_mem_nil, or_false] at h
      · have := hbyte _ h
        omega
      · rcases h with h | h <;> have := hbyte _ h <;> omega
      · rcases h with h | h | h <;> have := hbyte _ h <;> omega
      · rcases h with h | h | h | h <;> have := hbyte _ h <;> omega
    rw [← Char.ofNat_toNat c, Char.toNat, hv, hten]
  · intro h
    rw [h]
    decide

end BoundaryLint.Text.Utf8
