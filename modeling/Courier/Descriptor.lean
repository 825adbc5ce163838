import Courier.Failure
import Courier.Instant
import Courier.MessageId

/-!
# Courier — Descriptors

What travels beside a payload: its format, persistence and expiry, its identifier, the
correlation and reply-to fields and the time it was put.  The identifier and the put time are
written by the queue manager, the other fields by the sender.  Expiry counts tenths of a second;
`Expiry.ofTimeToLive` never gives the zero tenths that a queue manager refuses.
-/

namespace Courier

/-! ### Delivery mode and persistence -/

/-- Whether a message survives a restart, as the queue manager is told. -/
inductive Persistence where
  | notPersistent
  | persistent
  | asQueueDefault
  deriving DecidableEq

/-- Whether a sender asks for messages that survive a restart. -/
inductive DeliveryMode where
  | nonPersistent
  | persistent
  deriving DecidableEq

namespace DeliveryMode

/-- The number by which senders know the mode. -/
def code : DeliveryMode → Int
  | nonPersistent => 1
  | persistent    => 2

def persistence : DeliveryMode → Persistence
  | nonPersistent => .notPersistent
  | persistent    => .persistent

/-- The name in configurations and reports. -/
def name : DeliveryMode → String
  | nonPersistent => "NON_PERSISTENT"
  | persistent    => "PERSISTENT"

/-- The name in log lines and text reports. -/
def label : DeliveryMode → String
  | nonPersistent => "NonPersistent"
  | persistent    => "Persistent"

def all : List DeliveryMode := [nonPersistent, persistent]

def ofCode (n : Int) : Except ValidationError DeliveryMode :=
  if n = 1 then .ok nonPersistent
  else if n = 2 then .ok persistent
  else .error (.outOfRange "delivery_mode"
    (toString n ++ " is neither PERSISTENT (2) nor NON_PERSISTENT (1)"))

end DeliveryMode

/-! ### Format and expiry -/

/-- How a payload is encoded. -/
inductive Format where
  | none
  | string
  deriving DecidableEq

namespace Format

/-- The name in eight characters. -/
def padded : Format → String
  | none   => "        "
  | string => "MQSTR   "

def display : Format → String
  | none   => ""
  | string => "MQSTR"

end Format

/-- How long a message lives after it was put. -/
inductive Expiry where
  | unlimited
  | tenths (count : UInt32)
  deriving DecidableEq

namespace Expiry

/-- The most tenths that a sender's time to live gives. -/
def maxTenths : Nat := 2147483647

/-- The expiry for a time to live in milliseconds: none for zero, else whole tenths of a second,
at least one. -/
def ofTimeToLive (millis : Nat) : Expiry :=
  if millis = 0 then unlimited
  else tenths (UInt32.ofNat (min (max (millis / 100) 1) maxTenths))

/-- The milliseconds of so many tenths of a second. -/
def millisOf (count : UInt32) : Nat := count.toNat * 100

/-- The lifetime in milliseconds. -/
def millis? : Expiry → Option Nat
  | unlimited    => none
  | tenths count => some (millisOf count)

end Expiry

/-! ### The descriptor -/

structure Descriptor where
  format              : Format := .none
  persistence         : Persistence := .asQueueDefault
  expiry              : Expiry := .unlimited
  messageId           : Option MessageId := none
  correlationId       : Option String := none
  replyToQueue        : Option String := none
  replyToQueueManager : Option String := none
  putTime             : Option Instant := none
  deriving DecidableEq

namespace Descriptor

/-- When the message expires: never if it has no expiry, was not put, or would live past the end
of the calendar. -/
def expiresAt? (d : Descriptor) : Option Instant := do
  let putTime ← d.putTime
  let millis ← d.expiry.millis?
  putTime.addMillis? millis

end Descriptor

/-! ### Payloads -/

/-- Payloads are compared byte by byte. -/
instance (priority := 2000) decidableEqPayload : DecidableEq ByteArray := ByteArray.decEq

/-! ### Options of a call -/

/-- What a handle is opened for. -/
structure OpenOptions where
  output              : Bool := false
  failIfQuiescing     : Bool := false
  inputAsQueueDefault : Bool := false
  deriving DecidableEq

def OpenOptions.forSend : OpenOptions := ⟨true, true, true⟩

/-- How a message is put. -/
structure PutOptions where
  syncpoint    : Bool
  newMessageId : Bool
  deriving DecidableEq

end Courier
