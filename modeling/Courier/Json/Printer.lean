import Courier.Json

/-!
# Courier — JSON text

Writing JSON, on one line (`Json.compact`) or indented by two spaces (`Json.pretty`).  In
strings, quotes, backslashes and control characters are escaped and all else stands as it is.
An empty array or object has no line break in it.
-/

namespace Courier.Json

/-! ### Strings -/

def escapeChar (c : Char) : List Char :=
  if c = '\x22' then ['\\', '\x22']
  else if c = '\\' then ['\\', '\\']
  else if c = '\n' then ['\\', 'n']
  else if c = '\r' then ['\\', 'r']
  else if c = '\t' then ['\\', 't']
  else if c.toNat = 8 then ['\\', 'b']
  else if c.toNat = 12 then ['\\', 'f']
  else if c.toNat < 32 then
    ['\\', 'u', '0', '0', Nat.digitChar (c.toNat / 16), Nat.digitChar (c.toNat % 16)]
  else [c]

/-- The string between quotes. -/
def quoted (s : String) : String :=
  "\"" ++ String.ofList (s.toList.flatMap escapeChar) ++ "\""

/-- The digits and the power of ten. -/
def decimalText (digits exponent : Int) : String := toString digits ++ "e" ++ toString exponent

/-! ### One line -/

mutual

/-- The value on one line. -/
def compact : Json → String
  | null               => "null"
  | bool true          => "true"
  | bool false         => "false"
  | int n              => toString n
  | decimal digits exp => decimalText digits exp
  | str s              => quoted s
  | arr items          => "[" ++ ",".intercalate (compactItems items) ++ "]"
  | obj members        => "\x7b" ++ ",".intercalate (compactMembers members) ++ "\x7d"

def compactItems : List Json → List String
  | []      => []
  | v :: vs => compact v :: compactItems vs

def compactMembers : List (String × Json) → List String
  | []           => []
  | (n, v) :: ms => (quoted n ++ ":" ++ compact v) :: compactMembers ms

end

/-! ### Indented -/

/-- A line break and two spaces for each level. -/
def lineBreak (level : Nat) : String := "\n" ++ String.ofList (List.replicate (2 * level) ' ')

/-- The parts, each on a line of its own between `opening` and `closing`. -/
def block (opening closing : String) (level : Nat) : List String → String
  | []    => opening ++ closing
  | parts =>
    let line := lineBreak (level + 1)
    opening ++ line ++ ("," ++ line).intercalate parts ++ lineBreak level ++ closing

mutual

/-- The value at an indentation of `level` steps. -/
def prettyAt (level : Nat) : Json → String
  | null               => "null"
  | bool true          => "true"
  | bool false         => "false"
  | int n              => toString n
  | decimal digits exp => decimalText digits exp
  | str s              => quoted s
  | arr items          => block "[" "]" level (prettyItems (level + 1) items)
  | obj members        => block "\x7b" "\x7d" level (prettyMembers (level + 1) members)

def prettyItems (level : Nat) : List Json → List String
  | []      => []
  | v :: vs => prettyAt level v :: prettyItems level vs

def prettyMembers (level : Nat) : List (String × Json) → List String
  | []           => []
  | (n, v) :: ms => (quoted n ++ ": " ++ prettyAt level v) :: prettyMembers level ms

end

/-- The value on several lines. -/
def pretty (v : Json) : String := prettyAt 0 v

end Courier.Json
