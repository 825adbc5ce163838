import Courier.CommandLine
import Courier.Configuration.Json
import Courier.Json.Printer
import Courier.QueueManager

/-!
# Courier — Reports of sends

What the send command says when it succeeded: the headers of each message, the depth of the queue
and the statistics of the queue manager, as JSON or as lines of text.
-/

namespace Courier

/-- The headers of a sent message. -/
structure SentMessage where
  messageId    : Option String
  timestamp    : Int
  deliveryMode : DeliveryMode
  expiration   : Int
  format       : Format
  length       : Nat
  deriving DecidableEq

namespace SentMessage

def ofMessage (m : Message) : SentMessage where
  messageId    := m.messageId?
  timestamp    := m.timestamp
  deliveryMode := m.deliveryMode
  expiration   := m.expiration
  format       := m.format
  length       := m.payload.size

def toJson (m : SentMessage) : Json :=
  .obj [("message_id", .ofText? m.messageId), ("timestamp", .int m.timestamp),
    ("delivery_mode", m.deliveryMode.toJson), ("expiration", .int m.expiration),
    ("format", .str m.format.display), ("length", .ofNat m.length)]

/-- One line of a text report. -/
def line (m : SentMessage) : String :=
  "  " ++ m.messageId.getD "<none>" ++ " " ++ m.deliveryMode.label ++ " " ++
    toString m.length ++ " bytes"

end SentMessage

def Statistics.toJson (s : Statistics) : Json :=
  .obj [("opens", .ofNat s.opens), ("closes", .ofNat s.closes), ("puts", .ofNat s.puts),
    ("commits", .ofNat s.commits), ("backouts", .ofNat s.backouts)]

/-- The outcome of a send command. -/
structure SendReport where
  manager     : String
  queue       : String
  sessionMode : SessionMode
  messages    : List SentMessage
  depth       : Nat
  statistics  : Statistics
  deriving DecidableEq

namespace SendReport

def toJson (r : SendReport) : Json :=
  .obj [("queue_manager", .str r.manager), ("queue", .str r.queue),
    ("session_mode", r.sessionMode.toJson), ("messages", .arr (r.messages.map (·.toJson))),
    ("depth", .ofNat r.depth), ("statistics", r.statistics.toJson)]

/-- A headline and a line for each message. -/
def toText (r : SendReport) : String :=
  let headline := "Sent " ++ toString r.messages.length ++ " message(s) to " ++ r.queue ++ " on " ++
    r.manager ++ " (depth " ++ toString r.depth ++ ")"
  "\n".intercalate (headline :: r.messages.map (·.line))

def render (format : ReportFormat) (r : SendReport) : String :=
  match format with
  | .json => r.toJson.pretty
  | .text => r.toText

end SendReport

end Courier
