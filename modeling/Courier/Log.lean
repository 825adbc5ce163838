import Courier.Configuration

/-!
# Courier — Log events

What the library reports while it works: a level, the part that reports, a message and named
fields in a fixed order.  A field is a number or a text.  Every event the library knows is made
here, so that its wording stands in one place.
-/

namespace Courier

inductive LogLevel where
  | error
  | warn
  | info
  deriving DecidableEq

namespace LogLevel

def name : LogLevel → String
  | error => "ERROR"
  | warn  => "WARN"
  | info  => "INFO"

/-- How much is let through by a filter that admits this level: errors least. -/
def rank : LogLevel → Nat
  | error => 1
  | warn  => 2
  | info  => 3

end LogLevel

/-- The value of a field of an event. -/
inductive LogValue where
  | text (s : String)
  | number (n : Int)
  deriving DecidableEq

def LogValue.display : LogValue → String
  | text s   => s
  | number n => toString n

structure LogEvent where
  level   : LogLevel
  target  : String
  message : String
  fields  : List (String × LogValue) := []
  deriving DecidableEq

namespace LogEvent

/-- The names of the fields; the message is one of them. -/
def fieldNames (e : LogEvent) : List String := "message" :: e.fields.map (·.1)

/-! ### The queue manager -/

def managerTarget : String := "mq_jms_core::providers::memory"

def managerStarted (o : ManagerOptions) : LogEvent :=
  ⟨.info, managerTarget, "Starting in-memory queue manager",
    [("queue_manager", .text o.name), ("queues", .number o.queues.length)]⟩

def managerQuiescing (name : String) : LogEvent :=
  ⟨.info, managerTarget, "Queue manager quiescing", [("queue_manager", .text name)]⟩

/-! ### Handles and producers -/

def closeFailed (queue : String) (e : TransportError) : LogEvent :=
  ⟨.warn, "mq_jms_core::transport", "Failed to close destination handle",
    [("queue", .text queue), ("error", .text e.display)]⟩

def producerTarget : String := "mq_jms_core::producer"

def sendFailed (queue : String) (e : TransportError) : LogEvent :=
  ⟨.warn, producerTarget, "Failed to send message",
    [("queue", .text queue), ("error", .text e.display)]⟩

def deliveryModeKept (e : ValidationError) (current : DeliveryMode) : LogEvent :=
  ⟨.warn, producerTarget, "Invalid DeliveryMode specified; keeping current value",
    [("error", .text e.display), ("current", .text current.label)]⟩

def timeToLiveKept (refused current : Int) : LogEvent :=
  ⟨.warn, producerTarget, "Invalid TimeToLive specified; keeping current value",
    [("time_to_live", .number refused), ("current", .number current)]⟩

/-! ### The command line -/

def commandTarget : String := "mq_jms_cli"

def sending (q : Queue) (count : Nat) (mode : DeliveryMode) (timeToLive : Int)
    (session : SessionMode) : LogEvent :=
  ⟨.info, commandTarget, "Sending messages",
    [("queue", .text q.display), ("count", .number count), ("delivery_mode", .text mode.label),
      ("time_to_live", .number timeToLive), ("session_mode", .text session.label)]⟩

def rolledBack (discarded : Nat) : LogEvent :=
  ⟨.info, commandTarget, "Rolled back unit of work after failed send",
    [("discarded", .number discarded)]⟩

def rollbackFailed (e : SendException) : LogEvent :=
  ⟨.warn, commandTarget, "Failed to roll back unit of work", [("error", .text e.display)]⟩

def commandFailed (display : String) : LogEvent :=
  ⟨.error, "mq_jms", "CLI error: " ++ display, []⟩

end LogEvent

end Courier
