import Courier.Instant
import Courier.Text.Blank
import Courier.Text.Numeral

/-!
# Courier — Instants as RFC 3339 text

Writing gives universal time with `Z` and 0, 3, 6 or 9 digits of fraction, the fewest that are
exact; years outside 0 to 9999 carry a sign.  Reading is lenient: an offset or `Z` is needed, but
white space may stand between the parts, numbers may lack their leading zeros, a space or a small
`t` may stand for `T`, and any number of fraction digits is taken (those after the ninth are
dropped).  A date that the calendar lacks is refused.
-/

namespace Courier

/-! ### The calendar -/

/-- A day of the proleptic Gregorian calendar. -/
structure CivilDate where
  year  : Int
  month : Nat
  day   : Nat
  deriving DecidableEq

namespace CivilDate

def isLeapYear (year : Int) : Bool :=
  year % 4 == 0 && (year % 100 != 0 || year % 400 == 0)

def monthLength (year : Int) (month : Nat) : Nat :=
  if month = 2 then if isLeapYear year then 29 else 28
  else if month = 4 ∨ month = 6 ∨ month = 9 ∨ month = 11 then 30
  else 31

def IsValid (d : CivilDate) : Prop :=
  -262143 ≤ d.year ∧ d.year ≤ 262142 ∧ 1 ≤ d.month ∧ d.month ≤ 12 ∧ 1 ≤ d.day ∧
    d.day ≤ monthLength d.year d.month

instance (d : CivilDate) : Decidable d.IsValid := by unfold IsValid; infer_instance

/-- Days since the epoch.  Years are taken to start in March, so that the leap day comes last. -/
def toDays (d : CivilDate) : Int :=
  let y := if d.month ≤ 2 then d.year - 1 else d.year
  let era := y / 400
  let yearOfEra := y - era * 400
  let marchMonth : Int := if 2 < d.month then (d.month : Int) - 3 else (d.month : Int) + 9
  let dayOfYear := (153 * marchMonth + 2) / 5 + d.day - 1
  era * 146097 + (yearOfEra * 365 + yearOfEra / 4 - yearOfEra / 100 + dayOfYear) - 719468

/-- The date of a count of days since the epoch. -/
def ofDays (days : Int) : CivilDate :=
  let z := days + 719468
  let era := z / 146097
  let dayOfEra := z - era * 146097
  let yearOfEra := (dayOfEra - dayOfEra / 1460 + dayOfEra / 36524 - dayOfEra / 146096) / 365
  let dayOfYear := dayOfEra - (365 * yearOfEra + yearOfEra / 4 - yearOfEra / 100)
  let marchMonth := (5 * dayOfYear + 2) / 153
  let day := dayOfYear - (153 * marchMonth + 2) / 5 + 1
  let month := if marchMonth < 10 then marchMonth + 3 else marchMonth - 9
  let year := yearOfEra + era * 400
  ⟨if month ≤ 2 then year + 1 else year, month.toNat, day.toNat⟩

end CivilDate

namespace Instant

/-! ### Writing -/

/-- `n` in at least `width` digits. -/
def padded (width n : Nat) : String :=
  let digits := Nat.toDigits 10 n
  String.ofList (List.replicate (width - digits.length) '0' ++ digits)

def yearText (year : Int) : String :=
  if 0 ≤ year ∧ year ≤ 9999 then padded 4 year.toNat
  else if year < 0 then "-" ++ padded 4 year.natAbs
  else "+" ++ padded 4 year.toNat

/-- The fraction in the fewest of 0, 3, 6 or 9 digits. -/
def fractionText (nanos : Nat) : String :=
  if nanos = 0 then ""
  else if nanos % 1000000 = 0 then "." ++ padded 3 (nanos / 1000000)
  else if nanos % 1000 = 0 then "." ++ padded 6 (nanos / 1000)
  else "." ++ padded 9 nanos

/-- The date and the time of day in universal time, to the second. -/
def dateAndTime (t : Instant) : String :=
  let date := CivilDate.ofDays (t.seconds / 86400)
  let second := (t.seconds % 86400).toNat
  let shown := second % 60 + if t.isLeap then 1 else 0
  yearText date.year ++ "-" ++ padded 2 date.month ++ "-" ++ padded 2 date.day ++ "T" ++
    padded 2 (second / 3600) ++ ":" ++ padded 2 (second / 60 % 60) ++ ":" ++ padded 2 shown

/-- The instant in universal time. -/
def toRfc3339 (t : Instant) : String :=
  t.dateAndTime ++ fractionText (t.nanos % nanosPerSecond) ++ "Z"

/-- The instant with exactly six digits of fraction, the rest cut off. -/
def toMicroseconds (t : Instant) : String :=
  t.dateAndTime ++ "." ++ padded 6 (t.nanos % nanosPerSecond / 1000) ++ "Z"

/-! ### Reading -/

/-- Digits of a numeral of at most `width` digits; at least one is needed. -/
def number? (width : Nat) (cs : List Char) : Option (Nat × List Char) :=
  let digits := (cs.take width).takeWhile Char.isDigit
  (Text.natural? 10 digits).map fun n => (n, cs.drop digits.length)

/-- A two-digit field, with white space before it. -/
def field? (cs : List Char) : Option (Nat × List Char) := number? 2 (Text.trimStartChars cs)

/-- The year: four digits at most, or a sign and any number of digits. -/
def year? (cs : List Char) : Option (Int × List Char) :=
  match Text.trimStartChars cs with
  | '-' :: rest => (number? rest.length rest).map fun (n, rest) => (-(n : Int), rest)
  | '+' :: rest => (number? rest.length rest).map fun (n, rest) => ((n : Int), rest)
  | rest        => (number? 4 rest).map fun (n, rest) => ((n : Int), rest)

/-- The mark `c`, with white space before it. -/
def mark? (c : Char) (cs : List Char) : Option (List Char) :=
  match Text.trimStartChars cs with
  | d :: rest => if c = d then some rest else none
  | []        => none

/-- The fraction of a second in nanoseconds; digits after the ninth count for nothing. -/
def fraction? : List Char → Option (Nat × List Char)
  | '.' :: rest =>
    let digits := rest.takeWhile Char.isDigit
    let kept := digits.take 9
    (Text.natural? 10 kept).map fun n =>
      (n * Nat.pow 10 (9 - kept.length), rest.drop digits.length)
  | rest => some (0, rest)

/-- Hours and minutes of an offset, in seconds; colons and white space between them are
skipped. -/
def offsetSize? (cs : List Char) : Option (Int × List Char) :=
  match cs with
  | h₁ :: h₂ :: rest =>
    if h₁.isDigit ∧ h₂.isDigit then
      match rest.dropWhile (fun c => c == ':' || Text.isBlank c) with
      | m₁ :: m₂ :: rest =>
        if m₁.isDigit ∧ m₂.isDigit ∧ m₁.toNat < 54 then
          let two (a b : Char) : Int := (a.toNat - 48 : Nat) * 10 + (b.toNat - 48 : Nat)
          some (two h₁ h₂ * 3600 + two m₁ m₂ * 60, rest)
        else none
      | _ => none
    else none
  | _ => none

/-- The offset from universal time in seconds. -/
def offset? (cs : List Char) : Option (Int × List Char) :=
  match cs with
  | 'Z' :: rest | 'z' :: rest => some (0, rest)
  | '+' :: rest => offsetSize? rest
  | '-' :: rest | '−' :: rest => (offsetSize? rest).map fun (n, rest) => (-n, rest)
  | u :: t :: c :: rest =>
    if u.toLower = 'u' ∧ t.toLower = 't' ∧ c.toLower = 'c' then some (0, rest) else none
  | _ => none

/-- The instant of a date, a time of day and an offset. -/
def ofParts? (date : CivilDate) (hour minute second nanos : Nat) (offset : Int) :
    Option Instant :=
  if date.IsValid ∧ hour < 24 ∧ minute < 60 ∧ second ≤ 60 ∧ offset.natAbs < 86400 then
    let shown := if second = 60 then 59 else second
    let leap := if second = 60 then nanosPerSecond else 0
    ofUnix? (date.toDays * 86400 + (hour * 3600 + minute * 60 + shown : Nat) - offset)
      (nanos + leap)
  else none

/-- Reads a date, a time and an offset. -/
def ofRfc3339? (s : String) : Option Instant := do
  let (year, cs) ← year? s.toList
  let cs ← mark? '-' cs
  let (month, cs) ← field? cs
  let cs ← mark? '-' cs
  let (day, cs) ← field? cs
  let cs ← match cs with
    | 'T' :: cs | 't' :: cs | ' ' :: cs => some cs
    | _ => none
  let (hour, cs) ← field? cs
  let cs ← mark? ':' cs
  let (minute, cs) ← field? cs
  let cs ← mark? ':' cs
  let (second, cs) ← field? cs
  let (nanos, cs) ← fraction? cs
  let (offset, cs) ← offset? (Text.trimStartChars cs)
  if cs.all Text.isBlank then ofParts? ⟨year, month, day⟩ hour minute second nanos offset else none

end Instant

end Courier
