import Courier.Descriptor
import Courier.Queue
import Courier.Text.Blank

/-!
# Courier — Configuration

The settings of a session, of the producers in it and of the queue manager, with their built-in
defaults.  `Configuration.validate` gives the first rule that a configuration breaks, in a fixed
order; the queue list is checked from the front, each name for its form and then for an earlier
copy of it.
-/

namespace Courier

/-! ### Settings -/

/-- Whether sends are grouped into a unit of work. -/
inductive SessionMode where
  | autoAcknowledge
  | transacted
  deriving DecidableEq

namespace SessionMode

def isTransacted : SessionMode → Bool
  | autoAcknowledge => false
  | transacted      => true

/-- The name in configurations and reports. -/
def name : SessionMode → String
  | autoAcknowledge => "auto_acknowledge"
  | transacted      => "transacted"

/-- The name in log lines. -/
def label : SessionMode → String
  | autoAcknowledge => "AutoAcknowledge"
  | transacted      => "Transacted"

def all : List SessionMode := [autoAcknowledge, transacted]

end SessionMode

/-- How new producers deliver. -/
structure ProducerOptions where
  deliveryMode : DeliveryMode := .nonPersistent
  /-- Milliseconds; 0 for messages that never expire. -/
  timeToLive   : Int := 0
  deriving DecidableEq

/-- What an in-memory queue manager is made from. -/
structure ManagerOptions where
  name             : String := "QM1"
  queues           : List String := ["DEV.QUEUE.1", "DEV.QUEUE.2", "DEV.QUEUE.3"]
  autoDefineQueues : Bool := false
  /-- The most messages of a queue, committed and uncommitted. -/
  maxQueueDepth    : Nat := 5000
  /-- The most bytes of a payload. -/
  maxMessageLength : Nat := 4194304
  deriving DecidableEq

structure Configuration where
  sessionMode : SessionMode := .autoAcknowledge
  producer    : ProducerOptions := {}
  manager     : ManagerOptions := {}
  deriving DecidableEq

/-! ### Validation -/

/-- The first queue name, after those of `seen`, that is no queue name or stands there twice. -/
def queueListFault? (seen : List String) : List String → Option ConfigurationError
  | []             => none
  | name :: names =>
    match Queue.ofName name with
    | .error e =>
      some (.invalid ("queue_manager.queues: '" ++ name ++ "': " ++ e.display))
    | .ok _ =>
      if name ∈ seen then
        some (.invalid ("queue_manager.queues: '" ++ name ++ "' is defined twice"))
      else queueListFault? (name :: seen) names

/-- The first rule that the options break. -/
def ManagerOptions.fault? (o : ManagerOptions) : Option ConfigurationError :=
  if Text.isBlankText o.name then some (.missing "queue_manager.name")
  else if o.maxQueueDepth = 0 then
    some (.invalid "queue_manager.max_queue_depth must be greater than zero")
  else if o.maxMessageLength = 0 then
    some (.invalid "queue_manager.max_message_length must be greater than zero")
  else queueListFault? [] o.queues

/-- The first rule that the configuration breaks. -/
def Configuration.fault? (c : Configuration) : Option ConfigurationError :=
  if c.producer.timeToLive < 0 then
    some (.invalid
      ("producer.time_to_live_ms must not be negative, got " ++ toString c.producer.timeToLive))
  else c.manager.fault?

def Configuration.validate (c : Configuration) : Except ConfigurationError Configuration :=
  match c.fault? with
  | some e => .error e
  | none   => .ok c

end Courier
