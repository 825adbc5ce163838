import Courier.Json

/-!
# Courier — JSON forms of simple values

How numbers in a range, flags, named variants and records stand in JSON.  A variant without data
is its name, or an object that maps its name to null; a record is an object, in which unknown
members do no harm, or an array of its fields in order.
-/

namespace Courier.Json

/-! ### Scalars -/

def text? : Json → Option String
  | str s => some s
  | _     => none

def flag? : Json → Option Bool
  | bool b => some b
  | _      => none

/-- An integer in the range of a signed field. -/
def signed? (bits : Nat) : Json → Option Int
  | int n => if Text.fitsSigned bits n then some n else none
  | _     => none

/-- An integer in the range of an unsigned field. -/
def unsigned? (bits : Nat) : Json → Option Nat
  | int n => if Text.fitsUnsigned bits n then some n.toNat else none
  | _     => none

/-- Null, or what `read` takes. -/
def optional? {α : Type} (read : Json → Option α) : Json → Option (Option α)
  | null => some none
  | v    => (read v).map some

/-- All items, each as `read` takes it. -/
def all? {α : Type} (read : Json → Option α) : List Json → Option (List α)
  | []      => some []
  | v :: vs => do return (← read v) :: (← all? read vs)

def list? {α : Type} (read : Json → Option α) : Json → Option (List α)
  | arr items => all? read items
  | _         => none

/-! ### Variants -/

/-- The name of a variant and its data. -/
def variant? : Json → Option (String × Option Json)
  | str name          => some (name, none)
  | obj [(name, data)] => some (name, some data)
  | _                 => none

/-- The value of that name, for variants without data. -/
def named? {α : Type} (names : List (String × α)) (v : Json) : Option α :=
  match variant? v with
  | some (name, none)      => names.lookup name
  | some (name, some null) => names.lookup name
  | _                      => none

/-! ### Records -/

/-- The members of a record: those of an object, or the items of an array under the field names
in order.  A record that is `full` needs an item for every field. -/
def record? (fields : List String) (full : Bool) : Json → Option (List (String × Json))
  | obj members => some members
  | arr items   =>
    if items.length = fields.length ∨ (¬ full ∧ items.length < fields.length) then
      some (fields.zip items)
    else none
  | _ => none

/-- A field that has to be there. -/
def need? {α : Type} (members : List (String × Json)) (field : String)
    (read : Json → Option α) : Option α :=
  (members.lookup field).bind read

/-- A field that has a default. -/
def getOr? {α : Type} (members : List (String × Json)) (field : String) (default : α)
    (read : Json → Option α) : Option α :=
  match members.lookup field with
  | some v => read v
  | none   => some default

end Courier.Json
