import Courier.Configuration
import Courier.Configuration.Environment
import Courier.Configuration.File
import Courier.Setting.Convert
import Courier.Setting.Path

/-!
# Courier — Loading a configuration

A configuration is loaded from the built-in defaults, an optional file and the environment, later
sources overriding earlier ones.  Only the merged settings are converted and validated, so a bad
value that is overridden does no harm.
-/

namespace Courier

/-! ### Settings as a configuration -/

def SessionMode.ofSetting? : Setting → Option SessionMode :=
  Setting.named? (all.map fun m => (m.name, m))

def DeliveryMode.ofSetting? : Setting → Option DeliveryMode :=
  Setting.named? (all.map fun m => (m.name, m))

def ProducerOptions.ofSetting? (v : Setting) : Option ProducerOptions := do
  let fs ← v.fields? ["delivery_mode", "time_to_live_ms"]
  let base : ProducerOptions := {}
  return {
    deliveryMode :=
      ← Setting.fieldOr? fs "delivery_mode" base.deliveryMode DeliveryMode.ofSetting?
    timeToLive   := ← Setting.fieldOr? fs "time_to_live_ms" base.timeToLive Setting.signed? }

def ManagerOptions.ofSetting? (v : Setting) : Option ManagerOptions := do
  let fs ← v.fields?
    ["name", "queues", "auto_define_queues", "max_queue_depth", "max_message_length"]
  let base : ManagerOptions := {}
  return {
    name             := ← Setting.fieldOr? fs "name" base.name Setting.text?
    queues           := ← Setting.fieldOr? fs "queues" base.queues Setting.texts?
    autoDefineQueues :=
      ← Setting.fieldOr? fs "auto_define_queues" base.autoDefineQueues Setting.flag?
    maxQueueDepth    := ← Setting.fieldOr? fs "max_queue_depth" base.maxQueueDepth Setting.unsigned?
    maxMessageLength :=
      ← Setting.fieldOr? fs "max_message_length" base.maxMessageLength Setting.unsigned? }

namespace Configuration

def ofSetting? (v : Setting) : Option Configuration := do
  let fs ← v.fields? ["session_mode", "producer", "queue_manager"]
  let base : Configuration := {}
  return {
    sessionMode := ← Setting.fieldOr? fs "session_mode" base.sessionMode SessionMode.ofSetting?
    producer    := ← Setting.fieldOr? fs "producer" base.producer ProducerOptions.ofSetting?
    manager     := ← Setting.fieldOr? fs "queue_manager" base.manager ManagerOptions.ofSetting? }

/-! ### Loading -/

/-- The merged settings of all sources. -/
def settings (files : Files) (path : Option String) (env : Environment) :
    Except ConfigurationError Setting := do
  let file ← match path with
    | some path => fileSettings files path
    | none      => .ok []
  return (Setting.table []).overlay file |>.overlay (environmentSettings env)

/-- The configuration of all sources together. -/
def load (files : Files) (path : Option String) (env : Environment) :
    Except ConfigurationError Configuration := do
  match ofSetting? (← settings files path env) with
  | some c => c.validate
  | none   => .error (.parsing "a setting has a value of the wrong type")

end Configuration

end Courier
