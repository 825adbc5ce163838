import Courier.Text.Utf8
import Mathlib.Tactic.SplitIfs

/-!
# Courier — Proofs — Texts that are written to a file

A text that is written in UTF-8 is read back as it was, unless it starts with a byte order mark
(`decodeFile_toUTF8`).  Each character is one well-formed sequence, so that none is replaced.
-/

namespace Courier.Text

/-! ### Bytes -/

theorem toList_loop (bs : ByteArray) (i : Nat) (r : List UInt8) :
    ByteArray.toList.loop bs i r = r.reverse ++ bs.data.toList.drop i := by
  induction i, r using ByteArray.toList.loop.induct bs with
  | case1 i r h ih =>
      rw [ByteArray.toList.loop, if_pos h, ih, List.reverse_cons, List.append_assoc]
      have there : i < bs.data.toList.length := h
      rw [List.drop_eq_getElem_cons there]
      congr 2
      have first : bs.get! i = bs.data.toList[i] := by
        rw [ByteArray.get!, Array.getElem_toList]
        exact getElem!_pos bs.data i h
      rw [first]
      rfl
  | case2 i r h =>
      have none : bs.data.toList.drop i = [] := List.drop_eq_nil_of_le (Nat.le_of_not_lt h)
      rw [ByteArray.toList.loop, if_neg h, none, List.append_nil]

theorem toList_bytes (s : String) : s.toUTF8.toList = s.toList.flatMap String.utf8EncodeChar := by
  have bytes : s.toUTF8 = s.toList.utf8Encode := String.utf8Encode_toList.symm
  rw [bytes, ByteArray.toList, toList_loop, List.utf8Encode, List.toList_data_toByteArray]
  rfl

/-! ### One character -/

theorem decodeOne_utf8EncodeChar (c : Char) (rest : List UInt8) :
    ∃ b bs, String.utf8EncodeChar c = b :: bs ∧ decodeOne b (bs ++ rest) = (c, bs.length) := by
  have valid : c.toNat < 0xD800 ∨ 0xDFFF < c.toNat ∧ c.toNat < 0x110000 := c.valid
  have back (n : Nat) (h : n = c.toNat) : Char.ofNat n = c := h ▸ Char.ofNat_toNat c
  have value : c.val.toNat = c.toNat := rfl
  have byte (n : Nat) : (UInt8.ofNat n).toNat = n % 256 := UInt8.toNat_ofNat'
  simp only [String.utf8EncodeChar, value]
  split_ifs with one two three
  · refine ⟨_, _, rfl, ?_⟩
    unfold decodeOne
    rw [if_pos (by simp [UInt8.lt_iff_toNat_lt, byte]; omega)]
    exact Prod.ext (back _ (by simp [byte]; omega)) rfl
  · refine ⟨_, _, rfl, ?_⟩
    unfold decodeOne
    rw [if_neg (by simp [UInt8.lt_iff_toNat_lt, byte]; omega),
      if_pos (by simp [UInt8.le_iff_toNat_le, byte]; omega)]
    simp only [List.cons_append]
    rw [if_pos (by simp [isContinuation, UInt8.le_iff_toNat_le, byte]; omega)]
    exact Prod.ext (back _ (by simp [byte]; omega)) rfl
  · refine ⟨_, _, rfl, ?_⟩
    unfold decodeOne
    rw [if_neg (by simp [UInt8.lt_iff_toNat_lt, byte]; omega),
      if_neg (by simp [UInt8.le_iff_toNat_le, byte]; omega),
      if_pos (by simp [UInt8.le_iff_toNat_le, byte]; omega)]
    simp only [List.cons_append]
    rw [if_pos (by
        simp only [secondOfThree, isContinuation, ← UInt8.toNat_inj, UInt8.le_iff_toNat_le, byte]
        simp
        split_ifs <;> omega),
      if_pos (by simp [isContinuation, UInt8.le_iff_toNat_le, byte]; omega)]
    exact Prod.ext (back _ (by simp [byte]; omega)) rfl
  · refine ⟨_, _, rfl, ?_⟩
    unfold decodeOne
    rw [if_neg (by simp [UInt8.lt_iff_toNat_lt, byte]; omega),
      if_neg (by simp [UInt8.le_iff_toNat_le, byte]; omega),
      if_neg (by simp [UInt8.le_iff_toNat_le, byte]; omega),
      if_pos (by simp [UInt8.le_iff_toNat_le, byte]; omega)]
    simp only [List.cons_append]
    rw [if_pos (by
        simp only [secondOfFour, isContinuation, ← UInt8.toNat_inj, UInt8.le_iff_toNat_le, byte]
        simp
        split_ifs <;> omega),
      if_pos (by simp [isContinuation, UInt8.le_iff_toNat_le, byte]; omega),
      if_pos (by simp [isContinuation, UInt8.le_iff_toNat_le, byte]; omega)]
    exact Prod.ext (back _ (by simp [byte]; omega)) rfl

theorem decodeFrom_skip (acc : List Char) (bs rest : List UInt8) :
    decodeFrom acc bs.length (bs ++ rest) = decodeFrom acc 0 rest := by
  induction bs with
  | nil => rfl
  | cons b bs ih => exact ih

theorem decodeFrom_utf8Encode (acc cs : List Char) :
    decodeFrom acc 0 (cs.flatMap String.utf8EncodeChar) = acc.reverse ++ cs := by
  induction cs generalizing acc with
  | nil => exact (List.append_nil _).symm
  | cons c cs ih =>
      obtain ⟨b, bs, encoded, decoded⟩ :=
        decodeOne_utf8EncodeChar c (cs.flatMap String.utf8EncodeChar)
      rw [List.flatMap_cons, encoded, List.cons_append, decodeFrom]
      simp only [decoded]
      rw [decodeFrom_skip, ih, List.reverse_cons, List.append_assoc]
      rfl

/-- **Read back.** -/
theorem decodeFile_toUTF8 {s : String} (h : ∀ c ∈ s.toList.head?, c.toNat ≠ 0xFEFF) :
    decodeFile s.toUTF8 = s.toList := by
  rw [decodeFile, toList_bytes, decodeFrom_utf8Encode]
  cases cs : s.toList with
  | nil => rfl
  | cons c cs' =>
      rw [cs] at h
      exact if_neg (h c rfl)

end Courier.Text
