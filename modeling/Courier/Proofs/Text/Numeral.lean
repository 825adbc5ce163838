import Courier.Text.Numeral
import Mathlib

/-!
# Courier — Proofs — Numerals

The digits of a number read back as the number (`natural?_toDigits`), and the numeral of an integer
as the integer (`integer?_toString`), in a field as far as the field can hold it
(`signed?_toString`).
-/

namespace Courier.Text

/-! ### Digits -/

theorem digitValue?_digitChar {base d : Nat} (hb : base ≤ 16) (h : d < base) :
    digitValue? base d.digitChar = some d := by
  have small := Nat.lt_of_lt_of_le h hb
  interval_cases d <;> exact if_pos h

theorem digitsFrom_concat (base acc : Nat) (cs : List Char) (c : Char) :
    digitsFrom base acc (cs ++ [c]) =
      (digitsFrom base acc cs).bind fun n => (digitValue? base c).map (n * base + ·) := by
  induction cs generalizing acc with
  | nil =>
      simp only [List.nil_append, digitsFrom, Option.bind_some]
      cases digitValue? base c <;> rfl
  | cons d cs ih =>
      rw [List.cons_append, digitsFrom, digitsFrom]
      cases digitValue? base d with
      | none => rfl
      | some v => exact ih _

theorem digitsFrom_toDigits {base : Nat} (h : 1 < base) (hb : base ≤ 16) (n : Nat) :
    digitsFrom base 0 (Nat.toDigits base n) = some n := by
  induction n using Nat.strongRecOn with
  | _ n ih =>
      rcases Nat.lt_or_ge n base with small | large
      · rw [Nat.toDigits_of_lt_base small, digitsFrom, digitValue?_digitChar hb small]
        simp [digitsFrom]
      · have less : n / base < n := Nat.div_lt_self (by omega) h
        rw [Nat.toDigits_of_base_le h large, digitsFrom_concat, ih _ less,
          digitValue?_digitChar hb (Nat.mod_lt n (by omega))]
        simp [Nat.div_add_mod']

theorem natural?_of_ne_nil {base : Nat} {cs : List Char} (h : cs ≠ []) :
    natural? base cs = digitsFrom base 0 cs := by
  cases cs with
  | nil => exact absurd rfl h
  | cons c cs => rfl

theorem natural?_toDigits {base : Nat} (h : 1 < base) (hb : base ≤ 16) (n : Nat) :
    natural? base (Nat.toDigits base n) = some n := by
  rw [natural?_of_ne_nil Nat.toDigits_ne_nil, digitsFrom_toDigits h hb]

theorem isDigit_of_mem_toDigits {n : Nat} {c : Char} (h : c ∈ Nat.toDigits 10 n) : c.isDigit :=
  Nat.isDigit_of_mem_toDigits (by decide) (by decide) h

theorem digitValue?_eq_none {c : Char} (h : c.isDigit = false) : digitValue? 10 c = none := by
  have bound : ¬ (48 ≤ c.toNat ∧ c.toNat ≤ 57) := by
    intro hc
    rw [Char.isDigit, Bool.and_eq_false_iff] at h
    simp only [decide_eq_false_iff_not, UInt32.le_iff_toNat_le] at h
    exact h.elim (· hc.1) (· hc.2)
  simp only [digitValue?, if_neg bound]
  refine if_neg ?_
  split_ifs <;> omega

theorem natural?_eq_none_of_digitValue? {base : Nat} {cs : List Char} {c : Char} (hc : c ∈ cs)
    (h : digitValue? base c = none) : natural? base cs = none := by
  have digits : ∀ acc, digitsFrom base acc cs = none := by
    induction cs with
    | nil => cases hc
    | cons d cs ih =>
        intro acc
        rw [digitsFrom]
        rcases List.mem_cons.mp hc with rfl | hc
        · rw [h]
        · cases digitValue? base d with
          | none => rfl
          | some v => exact ih hc _
  rw [natural?_of_ne_nil (List.ne_nil_of_mem hc), digits]

/-- A text with something else than digits is no number. -/
theorem natural?_eq_none_of_mem {cs : List Char} {c : Char} (hc : c ∈ cs)
    (h : c.isDigit = false) : natural? 10 cs = none :=
  natural?_eq_none_of_digitValue? hc (digitValue?_eq_none h)

/-! ### Ranges -/

theorem fitsSigned_iff {bits : Nat} {n : Int} :
    fitsSigned bits n ↔ -2 ^ (bits - 1) ≤ n ∧ n < 2 ^ (bits - 1) := by
  rw [fitsSigned, Bool.and_eq_true, decide_eq_true_eq, decide_eq_true_eq]
  exact Iff.rfl

theorem fitsUnsigned_iff {bits : Nat} {n : Int} :
    fitsUnsigned bits n ↔ 0 ≤ n ∧ n < 2 ^ bits := by
  rw [fitsUnsigned, Bool.and_eq_true, decide_eq_true_eq, decide_eq_true_eq]
  exact Iff.rfl

/-! ### Numerals -/

theorem integer?_eq_none_of_mem {cs : List Char} {c : Char} (hc : c ∈ cs)
    (h : c.isDigit = false) (plus : c ≠ '+') (minus : c ≠ '-') : integer? 10 cs = none := by
  have tail {d : Char} {ds : List Char} (hc : c ∈ d :: ds) (other : c ≠ d) : c ∈ ds :=
    (List.mem_cons.mp hc).resolve_left other
  unfold integer?
  split
  · rw [natural?_eq_none_of_mem (tail hc plus) h]
    rfl
  · rw [natural?_eq_none_of_mem (tail hc minus) h]
    rfl
  · rw [natural?_eq_none_of_mem hc h]
    rfl

/-- A numeral without a sign. -/
theorem integer?_of_digits {base : Nat} {cs : List Char} (h : ∀ c ∈ cs, c.isDigit) :
    integer? base cs = (natural? base cs).map Int.ofNat := by
  unfold integer?
  split
  · exact absurd (h '+' (List.mem_cons_self ..)) (by decide)
  · exact absurd (h '-' (List.mem_cons_self ..)) (by decide)
  · rfl

theorem lt_of_unsigned? {bits base n : Nat} {cs : List Char} (h : unsigned? bits base cs = some n) :
    n < Nat.pow 2 bits := by
  unfold unsigned? at h
  split at h
  · exact of_decide_eq_true (Option.filter_eq_some_iff.mp h).2
  · exact of_decide_eq_true (Option.filter_eq_some_iff.mp h).2

theorem signed?_toDigits (n : Nat) :
    signed? 64 10 (Nat.toDigits 10 n) = if n < 2 ^ 63 then some (n : Int) else none := by
  rw [signed?, integer?_of_digits fun _ => isDigit_of_mem_toDigits,
    natural?_toDigits (by decide) (by decide)]
  have fits : fitsSigned 64 (Int.ofNat n) = decide (n < 2 ^ 63) := by
    rw [Bool.eq_iff_iff, fitsSigned_iff, Int.ofNat_eq_natCast, decide_eq_true_eq]
    omega
  simp only [Option.map_some, Option.filter_some, fits, decide_eq_true_eq]
  rfl

/-- The numeral of a number that is not negative. -/
theorem toList_toString_of_nonneg {n : Int} (h : 0 ≤ n) :
    (toString n).toList = Nat.toDigits 10 n.toNat := by
  lift n to Nat using h
  exact Nat.toList_repr

/-- The numeral of an integer: its digits, after a minus sign if it is negative. -/
theorem toList_toString (n : Int) :
    (toString n).toList = (if n < 0 then ['-'] else []) ++ Nat.toDigits 10 n.natAbs := by
  by_cases h : n < 0
  · have digits : (-n).toNat = n.natAbs := by omega
    rw [if_pos h, Int.toString_eq_repr, Int.repr_eq_if, if_neg (Int.not_le.mpr h),
      String.toList_append, digits, Nat.toList_repr]
    rfl
  · have digits : n.toNat = n.natAbs := by omega
    rw [if_neg h, toList_toString_of_nonneg (Int.not_lt.mp h), digits, List.nil_append]

theorem integer?_toString (n : Int) : integer? 10 (toString n).toList = some n := by
  have natural : natural? 10 (Nat.toDigits 10 n.natAbs) = some n.natAbs :=
    natural?_toDigits (by decide) (by decide) n.natAbs
  rw [toList_toString]
  by_cases h : n < 0
  · have sign : -Int.ofNat n.natAbs = n := by rw [Int.ofNat_eq_natCast]; omega
    rw [if_pos h, List.singleton_append, integer?, natural, Option.map_some, sign]
  · have sign : Int.ofNat n.natAbs = n := by rw [Int.ofNat_eq_natCast]; omega
    rw [if_neg h, List.nil_append, integer?_of_digits fun _ => isDigit_of_mem_toDigits, natural,
      Option.map_some, sign]

theorem signed?_toString (bits : Nat) (n : Int) :
    signed? bits 10 (toString n).toList = if fitsSigned bits n then some n else none := by
  rw [signed?, integer?_toString, Option.filter_some]

theorem toString_injective : Function.Injective (toString : Int → String) := by
  intro m n same
  have read := integer?_toString m
  rw [same, integer?_toString n] at read
  exact (Option.some.inj read).symm

/-! ### Words -/

theorem toLower_of_not_isAlpha {c : Char} (h : c.isAlpha = false) : c.toLower = c :=
  Char.toLower_eq_of_not_isUpper fun upper => by simp [Char.isAlpha, upper] at h

theorem isAlpha_of_isDigit {c : Char} (h : c.isDigit) : c.isAlpha = false := by
  simp only [Char.isDigit, Char.isAlpha, Char.isUpper, Char.isLower, Bool.and_eq_true,
    decide_eq_true_eq, Bool.or_eq_false_iff, Bool.and_eq_false_iff, decide_eq_false_iff_not,
    UInt32.le_iff_toNat_le, ge_iff_le] at h ⊢
  simp at h ⊢
  omega

/-- A text with something else than letters is no word, in any case. -/
theorem lower_ne_of_mem {cs : List Char} {c : Char} (hc : c ∈ cs) (h : c.isAlpha = false)
    {word : String} (letters : word.toList.all Char.isAlpha) :
    String.ofList (cs.map Char.toLower) ≠ word := by
  rintro rfl
  rw [String.toList_ofList] at letters
  have := List.all_eq_true.mp letters _ (List.mem_map_of_mem hc)
  rw [toLower_of_not_isAlpha h, h] at this
  cases this

end Courier.Text
