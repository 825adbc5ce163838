import Courier.MessageId
import Mathlib.Algebra.Ring.Nat

/-!
# Courier — Proofs — What tells identifiers apart

The number that an identifier carries is what its last 8 bytes spell (`MessageId.number`).  An
identifier made by a queue manager carries its put sequence number, as far as 64 bits hold it and
whatever its random part is (`number_generate`); one with a number other than zero is not the
identifier of zeros (`isNone_eq_false`).

Nothing of an identifier is lost in a header (`header_injective`): each byte is written as two
digits, so the text falls into the bytes again.
-/

namespace Courier

/-! ### Headers -/

namespace Text

theorem hexDigit_inj {m n : Nat} (hm : m < 16) (hn : n < 16) (h : hexDigit m = hexDigit n) :
    m = n := by
  have distinct : ∀ i j : Fin 16, hexDigit i = hexDigit j → i = j := by decide
  exact congrArg Fin.val (distinct ⟨m, hm⟩ ⟨n, hn⟩ h)

theorem hexOfByte_inj {b b' : UInt8} (h : hexOfByte b = hexOfByte b') : b = b' := by
  obtain ⟨high, low⟩ : hexDigit (b.toNat / 16) = hexDigit (b'.toNat / 16) ∧
      hexDigit (b.toNat % 16) = hexDigit (b'.toNat % 16) := by
    simpa [hexOfByte] using h
  have size := b.toNat_lt
  have size' := b'.toNat_lt
  have quotient := hexDigit_inj (by omega) (by omega) high
  have remainder := hexDigit_inj (by omega) (by omega) low
  exact UInt8.toNat_inj.mp (by omega)

/-- Two digits a byte: equal texts are equal byte by byte. -/
theorem hexChars_injective : Function.Injective hexChars := by
  intro bs
  induction bs with
  | nil =>
      intro bs' h
      cases bs' with
      | nil => rfl
      | cons b' bs' => cases h
  | cons b bs ih =>
      intro bs' h
      cases bs' with
      | nil => cases h
      | cons b' bs' =>
          have split : hexOfByte b ++ hexChars bs = hexOfByte b' ++ hexChars bs' := h
          obtain ⟨first, rest⟩ := List.append_inj split rfl
          rw [hexOfByte_inj first, ih rest]

end Text

namespace MessageId

theorem header_injective : Function.Injective header := by
  intro id id' h
  have digits : Text.hexChars id.bytes.toList = Text.hexChars id'.bytes.toList := by
    simpa [header, hex, Text.hexOfBytes, String.ofList_inj] using h
  have bytes := Text.hexChars_injective digits
  cases id
  cases id'
  exact congrArg MessageId.mk (Vector.toList_inj.mp bytes)

/-! ### Numbers -/

/-- The number that bytes spell, most significant first. -/
def numberOf (bs : List UInt8) : Nat := bs.foldl (fun n b => n * 256 + b.toNat) 0

/-- The number in the last 8 bytes. -/
def number (id : MessageId) : Nat := numberOf (id.bytes.toList.drop 16)

theorem numberOf_concat (bs : List UInt8) (b : UInt8) :
    numberOf (bs ++ [b]) = numberOf bs * 256 + b.toNat := by
  simp [numberOf, List.foldl_append]

/-- The last bytes of a number, most significant first, spell what of it they can hold. -/
theorem numberOf_ofFn (width n : Nat) :
    numberOf (List.ofFn fun i : Fin width => UInt8.ofNat (n / 256 ^ (width - 1 - i.val))) =
      n % 256 ^ width := by
  induction width generalizing n with
  | zero => simp [numberOf, Nat.mod_one]
  | succ width ih =>
      -- all bytes but the last are those of `n / 256`
      have front (i : Fin width) : n / 256 ^ (width + 1 - 1 - i.castSucc.val) =
          n / 256 / 256 ^ (width - 1 - i.val) := by
        have exponent : width + 1 - 1 - i.castSucc.val = width - 1 - i.val + 1 := by
          have := i.isLt
          simp only [Fin.val_castSucc]
          omega
        rw [exponent, Nat.pow_succ', Nat.div_div_eq_div_mul]
      rw [List.ofFn_succ_last, numberOf_concat]
      simp only [front, ih]
      have last : (UInt8.ofNat (n / 256 ^ (width + 1 - 1 - (Fin.last width).val))).toNat =
          n % 256 := by
        simp
      rw [last, Nat.pow_succ', Nat.mod_mul]
      omega

theorem number_generate (entropy : Entropy) (n : Nat) :
    (generate entropy n).number = n % 2 ^ 64 := by
  have parts : (generate entropy n).bytes.toList = entropy.toList ++ (bigEndian n).toList :=
    Vector.toList_append
  rw [number, parts, List.drop_left' (by simp), bigEndian, Vector.toList_ofFn]
  exact numberOf_ofFn 8 n

/-- A number that 8 bytes hold is carried whole. -/
theorem number_generate_of_lt (entropy : Entropy) {n : Nat} (few : n < 2 ^ 64) :
    (generate entropy n).number = n := by
  rw [number_generate, Nat.mod_eq_of_lt few]

theorem numberOf_eq_zero {bs : List UInt8} (h : ∀ b ∈ bs, b = 0) : numberOf bs = 0 := by
  rw [List.eq_replicate_of_mem h]
  induction bs.length with
  | zero => rfl
  | succ n ih => rw [List.replicate_succ', numberOf_concat, ih]; rfl

theorem isNone_eq_false {id : MessageId} (h : id.number ≠ 0) : id.isNone = false := by
  rw [← Bool.not_eq_true]
  intro none
  refine h (numberOf_eq_zero fun b hb => ?_)
  exact eq_of_beq (List.all_eq_true.mp none b (List.mem_of_mem_drop hb))

theorem isNone_generate (entropy : Entropy) {n : Nat} (pos : 0 < n) (few : n < 2 ^ 64) :
    (generate entropy n).isNone = false := by
  apply isNone_eq_false
  rw [number_generate_of_lt entropy few]
  exact Nat.ne_of_gt pos

end MessageId

end Courier
