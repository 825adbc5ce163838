import Courier.Text.Numeral

/-!
# Courier — JSON values

JSON as data.  A number written without fraction and exponent is an integer of any size; other
numbers keep their digits and the power of ten, because no field of this library takes them.
Members of an object keep their order, and a member that comes again replaces the value of the
earlier one.
-/

namespace Courier

inductive Json where
  | null
  | bool (b : Bool)
  | int (n : Int)
  /-- `digits` times ten to the power `exponent`. -/
  | decimal (digits exponent : Int)
  | str (s : String)
  | arr (items : List Json)
  | obj (members : List (String × Json))

namespace Json

/-- Puts a member at the end, or replaces the value of the member of that name. -/
def setMember (name : String) (value : Json) : List (String × Json) → List (String × Json)
  | []           => [(name, value)]
  | (n, v) :: ms => if n = name then (n, value) :: ms else (n, v) :: setMember name value ms

/-- The member of an object; nothing for another value. -/
def member? (name : String) : Json → Option Json
  | obj ms => ms.lookup name
  | _      => none

/-- The text, or null. -/
def ofText? : Option String → Json
  | some s => str s
  | none   => null

def ofNat (n : Nat) : Json := int n

end Json

end Courier
