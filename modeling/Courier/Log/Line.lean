import Courier.Instant.Rfc3339
import Courier.Json.Printer
import Courier.Log

/-!
# Courier — Log lines

An event as a line of text or as a JSON object, with the time before it if one is given.  In a
line of text the message shows the characters that steer a terminal as escapes.
-/

namespace Courier

def LogValue.toJson : LogValue → Json
  | text s   => .str s
  | number n => .int n

/-! ### Text -/

/-- The small control characters that a terminal acts on. -/
def isTerminalControl (c : Char) : Bool :=
  c.toNat = 0x1B || c.toNat = 7 || c.toNat = 8 || c.toNat = 0xC || c.toNat = 0x7F

/-- A character as a line of text shows it. -/
def shownInLine (c : Char) : List Char :=
  let digits := Nat.toDigits 16 c.toNat
  if isTerminalControl c then
    '\\' :: 'x' :: (List.replicate (2 - digits.length) '0' ++ digits)
  else if 0x80 ≤ c.toNat ∧ c.toNat ≤ 0x9F then
    ['\\', 'u', '\x7b'] ++ digits ++ ['\x7d']
  else [c]

namespace LogEvent

/-- The target, the message, and the fields. -/
def content (e : LogEvent) : String :=
  let fields := e.fields.map fun (name, value) => " " ++ name ++ "=" ++ value.display
  e.target ++ ": " ++ String.ofList (e.message.toList.flatMap shownInLine) ++ String.join fields

/-- The level and what follows it. -/
def line (e : LogEvent) : String := e.level.name ++ " " ++ e.content

/-- The line with a time before it, the levels in a column. -/
def timedLine (time : Instant) (e : LogEvent) : String :=
  time.toMicroseconds ++ (if e.level = .error then " " else "  ") ++ e.line

/-! ### JSON -/

def members (e : LogEvent) : List (String × Json) :=
  [("level", .str e.level.name),
    ("fields", .obj (("message", .str e.message) ::
      e.fields.map fun (name, value) => (name, value.toJson))),
    ("target", .str e.target)]

def toJson (e : LogEvent) : Json := .obj e.members

def timedJson (time : Instant) (e : LogEvent) : Json :=
  .obj (("timestamp", .str time.toMicroseconds) :: e.members)

end LogEvent

end Courier
