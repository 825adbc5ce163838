import Courier.Binary64
import Courier.Text.Numeral

/-!
# Courier — Binary64 numbers as text

A number is written in positional notation, never with an exponent, in the fewest digits that
read back (`Binary64.display`).  Reading takes a sign, digits with at most one point, an
exponent, and the names of the infinities and of NaN in any case (`Binary64.ofText?`).
-/

namespace Courier.Binary64

/-! ### Writing -/

/-- `digits` times ten to the power `power`. -/
structure Decimal where
  digits : Nat
  power  : Int
  deriving DecidableEq

/-- Whether the power of ten `p` is at most `m` times two to the power `e`. -/
def tenAtMost (p : Int) (m : Nat) (e : Int) : Bool :=
  let (tenUp, tenDown) := powerOfTen p
  let (twoUp, twoDown) := powerOfTwo e
  tenUp * twoDown ≤ m * twoUp * tenDown

/-- The power of ten of the first digit. -/
def leadingPower (m : Nat) (e : Int) : Int :=
  let guess := (Nat.log2 m + e) * 30103 / 100000
  if tenAtMost (guess + 1) m e then guess + 1 else guess

/-- The numeral on the grid of `10 ^ power` that reads back, the nearer of two; of two equally
near ones the greater.  The numbers that read back lie within half the distance to the next
number, ends included for an even mantissa. -/
def onGrid? (m : Nat) (e power : Int) : Option Nat :=
  let (twoUp, twoDown) := powerOfTwo (e - 2)
  let (tenUp, tenDown) := powerOfTen power
  let unit := twoUp * tenDown
  let step := tenUp * twoDown
  let value := 4 * m * unit
  let low := (4 * m - (if m = mantissaLimit / 2 ∧ minExponent < e then 1 else 2)) * unit
  let high := (4 * m + 2) * unit
  let floor := value / step
  let slack := if m % 2 = 0 then 0 else 1
  let down := low + slack ≤ floor * step
  let up := (floor + 1) * step + slack ≤ high
  if up ∧ (¬ down ∨ step ≤ 2 * (value - floor * step)) then some (floor + 1)
  else if down then some floor
  else none

/-- The first grid with a numeral that reads back, from `10 ^ power` on to finer ones. -/
def shortestFrom (m : Nat) (e : Int) : Nat → Int → Decimal
  | 0, power        => ⟨(onGrid? m e power).getD 0, power⟩
  | fuel + 1, power =>
    match onGrid? m e power with
    | some digits => ⟨digits, power⟩
    | none        => shortestFrom m e fuel (power - 1)

/-- The shortest numeral that reads back as `m` times two to the power `e`. -/
def shortest (m : Nat) (e : Int) : Decimal :=
  if m = 0 then ⟨0, 0⟩ else shortestFrom m e 16 (leadingPower m e)

/-- `cs` without the zeros at its end. -/
def trimZeros (cs : List Char) : List Char := (cs.reverse.dropWhile (· == '0')).reverse

/-- `n` in at least `width` digits. -/
def paddedDigits (width n : Nat) : List Char :=
  let ds := Nat.toDigits 10 n
  List.replicate (width - ds.length) '0' ++ ds

/-- The numeral without an exponent. -/
def Decimal.positional (d : Decimal) : String :=
  let (up, down) := powerOfTen d.power
  let whole := toString (d.digits * up / down)
  let rest := d.digits * up % down
  if rest = 0 then whole
  else whole ++ "." ++ String.ofList (trimZeros (paddedDigits (-d.power).toNat rest))

def display : Binary64 → String
  | nan                 => "NaN"
  | infinite negative   => if negative then "-inf" else "inf"
  | finite negative m e => (if negative then "-" else "") ++ (shortest m e).positional

/-! ### Reading -/

/-- A power of ten, with a sign or without. -/
def power? (cs : List Char) : Option Int := Text.integer? 10 cs

/-- Digits, a point or none, digits, and an exponent or none; there has to be a digit before the
exponent. -/
def unsigned? (negative : Bool) (cs : List Char) : Option Binary64 :=
  let whole := cs.takeWhile Char.isDigit
  let rest := cs.drop whole.length
  let (fraction, rest) := match rest with
    | '.' :: rest =>
      let fraction := rest.takeWhile Char.isDigit
      (fraction, rest.drop fraction.length)
    | _ => ([], rest)
  let digits := whole ++ fraction
  let number (power : Int) : Option Binary64 :=
    (Text.natural? 10 digits).map fun n =>
      ofDecimal negative n digits.length (power - fraction.length)
  match rest with
  | []        => number 0
  | c :: rest => if c = 'e' ∨ c = 'E' then (power? rest).bind number else none

/-- The numbers that are written as a word. -/
def word? (negative : Bool) (cs : List Char) : Option Binary64 :=
  let word := String.ofList (cs.map Char.toLower)
  if word = "inf" ∨ word = "infinity" then some (infinite negative)
  else if word = "nan" then some nan
  else none

def unsignedOrWord? (negative : Bool) (cs : List Char) : Option Binary64 :=
  (word? negative cs).or (unsigned? negative cs)

/-- The number that a text is nearest to. -/
def ofText? : List Char → Option Binary64
  | '+' :: cs => unsignedOrWord? false cs
  | '-' :: cs => unsignedOrWord? true cs
  | cs        => unsignedOrWord? false cs

end Courier.Binary64
