import Courier.Configuration
import Courier.Descriptor.Json

/-!
# Courier — Configurations as JSON

The JSON form of a configuration, in declaration order.  Every field has its default when it is
missing, and every value is taken as it is: reading does not validate.
-/

namespace Courier

open Json

def SessionMode.toJson (m : SessionMode) : Json := .str m.name

def SessionMode.ofJson? : Json → Option SessionMode := named? (all.map fun m => (m.name, m))

namespace ProducerOptions

def toJson (o : ProducerOptions) : Json :=
  .obj [("delivery_mode", o.deliveryMode.toJson), ("time_to_live_ms", .int o.timeToLive)]

def ofJson? (v : Json) : Option ProducerOptions := do
  let ms ← record? ["delivery_mode", "time_to_live_ms"] false v
  let base : ProducerOptions := {}
  return {
    deliveryMode := ← getOr? ms "delivery_mode" base.deliveryMode DeliveryMode.ofJson?
    timeToLive   := ← getOr? ms "time_to_live_ms" base.timeToLive (signed? 64) }

end ProducerOptions

namespace ManagerOptions

def fields : List String :=
  ["name", "queues", "auto_define_queues", "max_queue_depth", "max_message_length"]

def toJson (o : ManagerOptions) : Json :=
  .obj [("name", .str o.name), ("queues", .arr (o.queues.map .str)),
    ("auto_define_queues", .bool o.autoDefineQueues),
    ("max_queue_depth", .ofNat o.maxQueueDepth), ("max_message_length", .ofNat o.maxMessageLength)]

def ofJson? (v : Json) : Option ManagerOptions := do
  let ms ← record? fields false v
  let base : ManagerOptions := {}
  return {
    name             := ← getOr? ms "name" base.name text?
    queues           := ← getOr? ms "queues" base.queues (list? text?)
    autoDefineQueues := ← getOr? ms "auto_define_queues" base.autoDefineQueues flag?
    maxQueueDepth    := ← getOr? ms "max_queue_depth" base.maxQueueDepth (unsigned? 64)
    maxMessageLength := ← getOr? ms "max_message_length" base.maxMessageLength (unsigned? 64) }

end ManagerOptions

namespace Configuration

def toJson (c : Configuration) : Json :=
  .obj [("session_mode", c.sessionMode.toJson), ("producer", c.producer.toJson),
    ("queue_manager", c.manager.toJson)]

def ofJson? (v : Json) : Option Configuration := do
  let ms ← record? ["session_mode", "producer", "queue_manager"] false v
  return {
    sessionMode := ← getOr? ms "session_mode" .autoAcknowledge SessionMode.ofJson?
    producer    := ← getOr? ms "producer" {} ProducerOptions.ofJson?
    manager     := ← getOr? ms "queue_manager" {} ManagerOptions.ofJson? }

end Configuration

end Courier
