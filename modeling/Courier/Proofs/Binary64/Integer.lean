import Courier.Proofs.Binary64.Text

/-!
# Courier — Proofs — Integers as binary64 numbers

An unsigned integer of 64 bits that no signed one is, from 2^63 on, is read as a binary64 number.
Those have 53 bits there, so that it is rounded to a multiple of 2048 (`roundAway_ofDecimal`) and
brought below 2^64.  What comes back is the integer itself if and only if it is such a multiple
or the greatest of all (`nearest_eq_self_iff`).
-/

namespace Courier.Binary64

/-! ### Reading a numeral -/

theorem ofText?_toDigits (n : Nat) :
    ofText? (Nat.toDigits 10 n) =
      some (ofDecimal false n (Nat.toDigits 10 n).length 0) := by
  have digits : ∀ c ∈ Nat.toDigits 10 n, c.isDigit := fun _ => Text.isDigit_of_mem_toDigits
  have unsigned : ofText? (Nat.toDigits 10 n) = unsignedOrWord? false (Nat.toDigits 10 n) := by
    unfold ofText?
    split
    · rename_i h
      exact absurd (digits '+' (h ▸ List.mem_cons_self ..)) (by decide)
    · rename_i h
      exact absurd (digits '-' (h ▸ List.mem_cons_self ..)) (by decide)
    · rfl
  have whole : (Nat.toDigits 10 n).takeWhile Char.isDigit = Nat.toDigits 10 n :=
    List.takeWhile_eq_self_iff.mpr digits
  obtain ⟨c, hc⟩ := List.exists_mem_of_ne_nil _ (Nat.toDigits_ne_nil (n := n) (b := 10))
  rw [unsigned, unsignedOrWord?, word?_of_mem hc (Text.isAlpha_of_isDigit (digits c hc)),
    Option.none_or, unsigned?, whole, List.drop_length]
  simp [Text.natural?_toDigits]

/-! ### From 2^63 on -/

/-- The integer that comes back. -/
def nearest (n : Nat) : Nat := min (2048 * roundHalfEven n 2048) (2 ^ 64 - 1)

theorem exponentFor_of_large {n : Nat} (low : 2 ^ 63 ≤ n) (high : n < 2 ^ 64) :
    exponentFor n 1 = 11 := by
  have log : Nat.log2 n = 63 := (Nat.log2_eq_iff (by omega)).mpr ⟨low, high⟩
  have one : Nat.log2 1 = 0 := by decide
  have up : (powerOfTwo 63).1 = 2 ^ 63 := rfl
  have down : (powerOfTwo 63).2 = 1 := rfl
  simp only [exponentFor, log, one]
  rw [if_pos]
  · rfl
  · change 1 * 2 ^ 63 ≤ n * 1
    omega

theorem powerOfTwo_natCast (k : Nat) : powerOfTwo k = (2 ^ k, 1) := by
  have none : (-(k : Int)).toNat = 0 := by omega
  rw [powerOfTwo, none]
  rfl

/-- A number without a fraction is rounded to itself. -/
theorem roundAway_finite (high : Int) (m k : Nat) :
    (finite false m k).roundAway 0 high = max 0 (min high (m * 2 ^ k : Nat)) := by
  have half : (2 * m * 2 ^ k + 1) / 2 = m * 2 ^ k := by
    rw [Nat.mul_assoc]
    omega
  simp only [roundAway, powerOfTwo_natCast, Nat.mul_one, half]
  rfl

theorem ofDecimal_zero_power {n : Nat} (h : n ≠ 0) (places : Nat) :
    ofDecimal false n places 0 = ofFraction false n 1 := by
  have ten : powerOfTen 0 = (1, 1) := rfl
  rw [ofDecimal, if_neg (by omega), if_neg (by decide)]
  simp only [ten, Nat.mul_one]

theorem roundAway_ofDecimal {n : Nat} (low : 2 ^ 63 ≤ n) (high : n < 2 ^ 64) (places : Nat) :
    (ofDecimal false n places 0).roundAway 0 (Int.pow 2 64 - 1) = nearest n := by
  rw [ofDecimal_zero_power (by omega), ofFraction, exponentFor_of_large low high]
  have two : powerOfTwo 11 = (2048, 1) := rfl
  have limit : mantissaLimit = 2 ^ 53 := rfl
  have top : Int.pow 2 64 - 1 = 2 ^ 64 - 1 := rfl
  simp only [two, Nat.mul_one, Nat.one_mul, nearest]
  generalize roundHalfEven n 2048 = m
  split
  · -- the mantissa is full: half of it, with one more in the exponent
    rw [if_neg (show ¬ maxExponent < 11 + 1 by decide), show (11 + 1 : Int) = (12 : Nat) from rfl,
      roundAway_finite]
    omega
  · rw [if_neg (show ¬ maxExponent < 11 by decide), show (11 : Int) = (11 : Nat) from rfl,
      roundAway_finite]
    omega

theorem nearest_eq_self_iff {n : Nat} (low : 2 ^ 63 ≤ n) (high : n < 2 ^ 64) :
    nearest n = n ↔ 2048 ∣ n ∨ n = 2 ^ 64 - 1 := by
  simp only [nearest, roundHalfEven]
  split_ifs <;> omega

end Courier.Binary64
