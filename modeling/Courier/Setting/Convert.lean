import Courier.Setting

/-!
# Courier — Settings as values of fields

What a setting is worth for a field of a given type.  Flags and numbers stand for one another,
and texts that name a flag or a number are taken as well; null, and a list or a table in the
place of a single value, is refused.
-/

namespace Courier.Setting

def trueWords : List String := ["true", "on", "yes"]

def falseWords : List String := ["false", "off", "no"]

def lower (s : String) : String := String.ofList (s.toList.map Char.toLower)

/-- The number that a text stands for: 1 or 0 for a flag, or a numeral. -/
def numberOfText? (read : List Char → Option Int) (s : String) : Option Int :=
  if trueWords.contains (lower s) then some 1
  else if falseWords.contains (lower s) then some 0
  else read s.toList

/-- An integer between two bounds; numbers with a fraction are rounded, and brought inside. -/
def integer? (low high : Int) (read : List Char → Option Int) : Setting → Option Int
  | int n  => if low ≤ n ∧ n ≤ high then some n else none
  | flag b => some (if b then 1 else 0)
  | real x => some (x.roundAway low high)
  | text s => numberOfText? read s
  | _      => none

/-- A signed integer of 64 bits. -/
def signed? : Setting → Option Int :=
  integer? (-Int.pow 2 63) (Int.pow 2 63 - 1) (Text.signed? 64 10)

/-- An unsigned integer of 64 bits. -/
def unsigned? (v : Setting) : Option Nat :=
  (integer? 0 (Int.pow 2 64 - 1) (fun cs => (Text.unsigned? 64 10 cs).map Int.ofNat) v).map
    Int.toNat

def flag? : Setting → Option Bool
  | flag b => some b
  | int n  => some (n != 0)
  | real x => some !x.isZero
  | text s =>
    if s = "1" ∨ trueWords.contains (lower s) then some true
    else if s = "0" ∨ falseWords.contains (lower s) then some false
    else none
  | _ => none

def text? : Setting → Option String
  | text s => some s
  | int n  => some (toString n)
  | flag b => some (if b then "true" else "false")
  | real x => some x.display
  | _      => none

/-- All items as texts. -/
def allTexts? : List Setting → Option (List String)
  | []      => some []
  | v :: vs => do return (← text? v) :: (← allTexts? vs)

def texts? : Setting → Option (List String)
  | list vs => allTexts? vs
  | _       => none

/-- One of some names: the name as a text, or a table that has it as its only entry. -/
def named? {α : Type} (names : List (String × α)) : Setting → Option α
  | text s            => names.lookup s
  | table [(name, _)] => names.lookup name
  | _                 => none

/-- The values of fields by name: the entries of a table, or the items of a list in the order of
the fields. -/
def fields? (names : List String) : Setting → Option (List (String × Setting))
  | table es => some es
  | list vs  => some (names.zip vs)
  | _        => none

/-- The value of a field, or its default when there is none. -/
def fieldOr? {α : Type} (fields : List (String × Setting)) (name : String) (default : α)
    (read : Setting → Option α) : Option α :=
  match fields.lookup name with
  | some v => read v
  | none   => some default

end Courier.Setting
