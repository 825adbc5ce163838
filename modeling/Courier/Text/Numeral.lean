/-!
# Courier — Numerals

Whole numbers as text: digits in a base from 2 to 36, and an optional sign.  Reading takes the
whole text or nothing; no blank, separator or point is allowed.  The ranges are those of the
fields that hold the numbers.
-/

namespace Courier.Text

/-- The value of `c` as a digit in `base`. -/
def digitValue? (base : Nat) (c : Char) : Option Nat :=
  let n := c.toNat
  let v :=
    if 48 ≤ n ∧ n ≤ 57 then n - 48
    else if 97 ≤ n ∧ n ≤ 122 then n - 87
    else if 65 ≤ n ∧ n ≤ 90 then n - 55
    else base
  if v < base then some v else none

/-- `acc` continued by the digits `cs`. -/
def digitsFrom (base : Nat) (acc : Nat) : List Char → Option Nat
  | []      => some acc
  | c :: cs =>
    match digitValue? base c with
    | some v => digitsFrom base (acc * base + v) cs
    | none   => none

/-- At least one digit and nothing else. -/
def natural? (base : Nat) : List Char → Option Nat
  | [] => none
  | cs => digitsFrom base 0 cs

/-- A sign, if there is one, and then at least one digit. -/
def integer? (base : Nat) : List Char → Option Int
  | '+' :: cs => (natural? base cs).map Int.ofNat
  | '-' :: cs => (natural? base cs).map fun n => -Int.ofNat n
  | cs        => (natural? base cs).map Int.ofNat

/-! ### Ranges -/

/-- The range of a signed field of `bits` bits. -/
def fitsSigned (bits : Nat) (n : Int) : Bool :=
  -Int.pow 2 (bits - 1) ≤ n && n < Int.pow 2 (bits - 1)

/-- The range of an unsigned field of `bits` bits. -/
def fitsUnsigned (bits : Nat) (n : Int) : Bool := 0 ≤ n && n < Int.pow 2 bits

/-- A signed numeral of at most `bits` bits. -/
def signed? (bits base : Nat) (cs : List Char) : Option Int :=
  (integer? base cs).filter (fitsSigned bits)

/-- An unsigned numeral of at most `bits` bits; a plus sign may stand before it, a minus sign
may not. -/
def unsigned? (bits base : Nat) : List Char → Option Nat
  | '+' :: cs => (natural? base cs).filter (· < Nat.pow 2 bits)
  | cs        => (natural? base cs).filter (· < Nat.pow 2 bits)

end Courier.Text
