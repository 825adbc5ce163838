import Courier.Configuration
import Courier.Configuration.Json
import Courier.Json.Printer
import Courier.CommandLine
import Courier.Yaml.Printer

/-!
# Courier — Configurations as text

A configuration as the program shows it, in YAML or JSON; both are configuration files.
-/

namespace Courier

open Yaml

def ProducerOptions.toYaml (o : ProducerOptions) : Node :=
  .mapping [(.text "delivery_mode", .text o.deliveryMode.name),
    (.text "time_to_live_ms", .int o.timeToLive)]

def ManagerOptions.toYaml (o : ManagerOptions) : Node :=
  .mapping [(.text "name", .text o.name), (.text "queues", .sequence (o.queues.map .text)),
    (.text "auto_define_queues", .flag o.autoDefineQueues),
    (.text "max_queue_depth", .int o.maxQueueDepth),
    (.text "max_message_length", .int o.maxMessageLength)]

namespace Configuration

def toYaml (c : Configuration) : String :=
  Node.writeDocument
    [(.text "session_mode", .text c.sessionMode.name), (.text "producer", c.producer.toYaml),
      (.text "queue_manager", c.manager.toYaml)]

def render (format : ConfigurationFormat) (c : Configuration) : String :=
  match format with
  | .yaml => c.toYaml
  | .json => c.toJson.pretty

end Configuration

end Courier
