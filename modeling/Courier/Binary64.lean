/-!
# Courier — Binary64 numbers

Floating-point numbers of 64 bits as exact data, for the settings that may be written with a
point or an exponent.  A decimal numeral is rounded to the nearest number, a half to the even
mantissa (`Binary64.ofDecimal`), and a number to the nearest integer, a half away from zero
(`Binary64.roundAway`).
-/

namespace Courier

inductive Binary64 where
  | nan
  | infinite (negative : Bool)
  /-- `mantissa` times two to the power `exponent`. -/
  | finite (negative : Bool) (mantissa : Nat) (exponent : Int)
  deriving DecidableEq

namespace Binary64

/-- The exponent of the smallest numbers. -/
def minExponent : Int := -1074

/-- The exponent of the largest numbers. -/
def maxExponent : Int := 971

/-- One more than the largest mantissa. -/
def mantissaLimit : Nat := Nat.pow 2 53

def zero (negative : Bool) : Binary64 := finite negative 0 minExponent

/-- Two to the power `e`, as a fraction. -/
def powerOfTwo (e : Int) : Nat × Nat := (Nat.pow 2 e.toNat, Nat.pow 2 (-e).toNat)

/-- Ten to the power `e`, as a fraction. -/
def powerOfTen (e : Int) : Nat × Nat := (Nat.pow 10 e.toNat, Nat.pow 10 (-e).toNat)

/-- The integer nearest to a fraction, of two the even one. -/
def roundHalfEven (num den : Nat) : Nat :=
  let q := num / den
  let r := num % den
  if 2 * r < den ∨ (2 * r = den ∧ q % 2 = 0) then q else q + 1

/-- The exponent that gives a positive fraction a full mantissa, or the smallest one. -/
def exponentFor (num den : Nat) : Int :=
  let guess : Int := (Nat.log2 num : Int) - Nat.log2 den
  let (up, down) := powerOfTwo guess
  max minExponent (if den * up ≤ num * down then guess - 52 else guess - 53)

/-- The number nearest to a positive fraction. -/
def ofFraction (negative : Bool) (num den : Nat) : Binary64 :=
  let e := exponentFor num den
  let (up, down) := powerOfTwo e
  let m := roundHalfEven (num * down) (den * up)
  let (m, e) := if m = mantissaLimit then (m / 2, e + 1) else (m, e)
  if maxExponent < e then infinite negative else finite negative m e

/-- The number nearest to `digits` times ten to the power `power`, where `digits` is written with
`places` digits.  Powers far beyond the range are not worked out. -/
def ofDecimal (negative : Bool) (digits places : Nat) (power : Int) : Binary64 :=
  if digits = 0 ∨ places + power < -325 then zero negative
  else if 309 < power then infinite negative
  else
    let (up, down) := powerOfTen power
    ofFraction negative (digits * up) down

def isFinite : Binary64 → Bool
  | finite _ _ _ => true
  | _            => false

/-- Zero of either sign. -/
def isZero : Binary64 → Bool
  | finite _ m _ => m == 0
  | _            => false

/-- The nearest integer, a half going away from zero; numbers outside `low` to `high` give the
nearer end, and a text that is no number gives zero. -/
def roundAway (low high : Int) : Binary64 → Int
  | nan               => 0
  | infinite negative => if negative then low else high
  | finite negative m e =>
    let (up, down) := powerOfTwo e
    let n : Int := ((2 * m * up + down) / (2 * down) : Nat)
    max low (min high (if negative then -n else n))

end Binary64

end Courier
