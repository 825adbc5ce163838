import Courier.Text.Hex

/-!
# Courier — Message identifiers

A message is known by 24 bytes.  A queue manager makes one from 16 random bytes and its put
sequence number in the last 8 bytes, most significant first, so two numbers give two
identifiers whatever the random bytes are.  The identifier of 24 zeros stands for none.
-/

namespace Courier

/-- The length of an identifier in bytes. -/
def messageIdBytes : Nat := 24

structure MessageId where
  bytes : Vector UInt8 messageIdBytes
  deriving DecidableEq

/-- The random part of a new identifier. -/
abbrev Entropy := Vector UInt8 16

namespace MessageId

/-- The last 64 bits of `n`, most significant byte first. -/
def bigEndian (n : Nat) : Vector UInt8 8 :=
  Vector.ofFn fun i : Fin 8 => UInt8.ofNat (n / Nat.pow 256 (7 - i.val))

/-- A new identifier. -/
def generate (entropy : Entropy) (sequence : Nat) : MessageId := ⟨entropy ++ bigEndian sequence⟩

/-- The identifier of zeros. -/
def isNone (id : MessageId) : Bool := id.bytes.toList.all (· == 0)

def hex (id : MessageId) : String := Text.hexOfBytes id.bytes.toList

/-- The form in message headers. -/
def header (id : MessageId) : String := "ID:" ++ id.hex

/-- The identifier of 24 bytes. -/
def ofBytes? (bs : List UInt8) : Option MessageId :=
  if h : bs.length = messageIdBytes then some ⟨⟨bs.toArray, by simpa using h⟩⟩ else none

end MessageId

end Courier
