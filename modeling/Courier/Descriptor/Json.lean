import Courier.Descriptor
import Courier.Instant.Rfc3339
import Courier.Json.Codec

/-!
# Courier — Descriptors as JSON

The JSON form of a descriptor and of its parts.  An identifier is the array of its bytes and a
put time its RFC 3339 text.  Format, persistence and expiry have to be there; the other fields
may be missing or null.
-/

namespace Courier

open Json

/-! ### Parts -/

def Completion.names : List (String × Completion) :=
  [("Ok", .ok), ("Warning", .warning), ("Failed", .failed)]

def Completion.label : Completion → String
  | .ok      => "Ok"
  | .warning => "Warning"
  | .failed  => "Failed"

def Completion.toJson (c : Completion) : Json := .str c.label

def Completion.ofJson? : Json → Option Completion := named? names

def Reason.toJson (r : Reason) : Json := .int r.code

def Reason.ofJson? (v : Json) : Option Reason := (signed? 32 v).map Reason.mk

def Format.names : List (String × Format) := [("None", .none), ("String", .string)]

def Format.label : Format → String
  | .none   => "None"
  | .string => "String"

def Format.toJson (f : Format) : Json := .str f.label

def Format.ofJson? : Json → Option Format := named? names

def Persistence.names : List (String × Persistence) :=
  [("NotPersistent", .notPersistent), ("Persistent", .persistent),
    ("AsQueueDefault", .asQueueDefault)]

def Persistence.label : Persistence → String
  | .notPersistent  => "NotPersistent"
  | .persistent     => "Persistent"
  | .asQueueDefault => "AsQueueDefault"

def Persistence.toJson (p : Persistence) : Json := .str p.label

def Persistence.ofJson? : Json → Option Persistence := named? names

def DeliveryMode.toJson (m : DeliveryMode) : Json := .str m.name

def DeliveryMode.ofJson? : Json → Option DeliveryMode := named? (all.map fun m => (m.name, m))

def Expiry.toJson : Expiry → Json
  | .unlimited    => .str "Unlimited"
  | .tenths count => .obj [("Tenths", .int count.toNat)]

def Expiry.ofJson? (v : Json) : Option Expiry :=
  match variant? v with
  | some ("Unlimited", none)      => some .unlimited
  | some ("Unlimited", some null) => some .unlimited
  | some ("Tenths", some n)       => (unsigned? 32 n).map fun n => .tenths (UInt32.ofNat n)
  | _                             => none

def MessageId.toJson (id : MessageId) : Json :=
  .arr (id.bytes.toList.map fun b => .int b.toNat)

def MessageId.ofJson? (v : Json) : Option MessageId :=
  (list? (unsigned? 8) v).bind fun ns => ofBytes? (ns.map UInt8.ofNat)

def Instant.toJson (t : Instant) : Json := .str t.toRfc3339

def Instant.ofJson? (v : Json) : Option Instant := (text? v).bind ofRfc3339?

/-! ### The descriptor -/

namespace Descriptor

def fields : List String :=
  ["format", "persistence", "expiry", "message_id", "correlation_id", "reply_to_queue",
    "reply_to_queue_manager", "put_timestamp"]

def toJson (d : Descriptor) : Json :=
  .obj [("format", d.format.toJson), ("persistence", d.persistence.toJson),
    ("expiry", d.expiry.toJson),
    ("message_id", (d.messageId.map MessageId.toJson).getD .null),
    ("correlation_id", ofText? d.correlationId), ("reply_to_queue", ofText? d.replyToQueue),
    ("reply_to_queue_manager", ofText? d.replyToQueueManager),
    ("put_timestamp", (d.putTime.map Instant.toJson).getD .null)]

def ofJson? (v : Json) : Option Descriptor := do
  let ms ← record? fields true v
  return {
    format              := ← need? ms "format" Format.ofJson?
    persistence         := ← need? ms "persistence" Persistence.ofJson?
    expiry              := ← need? ms "expiry" Expiry.ofJson?
    messageId           := ← getOr? ms "message_id" none (optional? MessageId.ofJson?)
    correlationId       := ← getOr? ms "correlation_id" none (optional? text?)
    replyToQueue        := ← getOr? ms "reply_to_queue" none (optional? text?)
    replyToQueueManager := ← getOr? ms "reply_to_queue_manager" none (optional? text?)
    putTime             := ← getOr? ms "put_timestamp" none (optional? Instant.ofJson?) }

end Descriptor

end Courier
