import Courier.Binary64.Text

/-!
# Courier — YAML values

What a YAML text says, and the type that a text without quotes has (`Node.ofPlain`).  A number
that is no integer keeps its text.  Keys are texts, integers, flags and such numbers; two keys of
different types are different.
-/

namespace Courier.Yaml

inductive Key where
  | text (s : String)
  | int (n : Int)
  | flag (b : Bool)
  | real (s : String)
  deriving DecidableEq

inductive Node where
  | null
  | flag (b : Bool)
  | int (n : Int)
  | real (s : String)
  | text (s : String)
  /-- A value that does not fit the type it is marked with. -/
  | unfit
  | sequence (items : List Node)
  | mapping (entries : List (Key × Node))

/-- The key without its type. -/
def Key.name : Key → String
  | text s => s
  | int n  => toString n
  | flag b => if b then "true" else "false"
  | real s => s

namespace Node

def key? : Node → Option Key
  | flag b => some (.flag b)
  | int n  => some (.int n)
  | real s => some (.real s)
  | text s => some (.text s)
  | _      => none

/-! ### Plain texts -/

def nulls : List String := ["", "~", "null"]

def flags : List (String × Bool) :=
  [("true", true), ("True", true), ("TRUE", true), ("false", false), ("False", false),
    ("FALSE", false)]

/-- The names of the numbers that are not finite. -/
def specialReals : List String :=
  [".inf", ".Inf", ".INF", "+.inf", "+.Inf", "+.INF", "-.inf", "-.Inf", "-.INF", ".nan", ".NaN",
    ".NAN"]

/-- The integer with a mark of its base, or with a plus sign in front. -/
def markedInt? : List Char → Option Int
  | '0' :: 'x' :: cs => Text.signed? 64 16 cs
  | '0' :: 'o' :: cs => Text.signed? 64 8 cs
  | '+' :: cs        => Text.signed? 64 10 cs
  | _                => none

def isReal (s : String) : Bool :=
  specialReals.contains s ||
    (s.toList.any Char.isDigit && (Binary64.ofText? s.toList).isSome)

/-- The value of a text without quotes and without a tag. -/
def ofPlain (s : String) : Node :=
  match markedInt? s.toList with
  | some n => int n
  | none =>
    if nulls.contains s then null
    else
      match flags.lookup s, Text.signed? 64 10 s.toList with
      | some b, _    => flag b
      | none, some n => int n
      | none, none   => if isReal s then real s else text s

/-- The value of a text without quotes that is marked with a type. -/
def ofTagged (type s : String) : Node :=
  if type = "bool" then
    match flags.lookup s with
    | some b => flag b
    | none   => unfit
  else if type = "int" then
    match Text.signed? 64 10 s.toList with
    | some n => int n
    | none   => unfit
  else if type = "float" then if isReal s then real s else unfit
  else if type = "null" then if s = "~" ∨ s = "null" then null else unfit
  else text s

/-! ### Entries -/

/-- The entries that a list of keys and values in turn makes.  Keys may not repeat.  A value that
does not fit its type is no key, and the value after it is taken for the key. -/
def entries? : List Node → Option (List (Key × Node))
  | unfit :: v :: rest => entries? (v :: rest)
  | k :: v :: rest     => do
    let key ← k.key?
    let entries ← entries? rest
    if entries.any (·.1 = key) then none else some ((key, v) :: entries)
  | _ => some []

end Node

end Courier.Yaml
