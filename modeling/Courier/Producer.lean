import Courier.Message
import Courier.Transport.Guard

/-!
# Courier — Producers

A producer sends messages with fixed delivery options.  A send opens the queue, builds the
descriptor from the message's own and the options, puts, and closes the handle whatever the put
said.  The descriptor that was put is stored back on the message, after a refused put as well,
so its generated fields can be read as headers.

Options that make no sense are not taken; the producer keeps what it has, and an event tells.
-/

namespace Courier

structure Producer where
  session      : SessionMode
  deliveryMode : DeliveryMode := .nonPersistent
  timeToLive   : Int := 0
  deriving DecidableEq

namespace Producer

/-! ### Options -/

def setDeliveryMode (mode : DeliveryMode) (p : Producer) : Producer :=
  { p with deliveryMode := mode }

/-- Takes a delivery mode by its number, or keeps the one it has. -/
def setDeliveryCode (code : Int) (p : Producer) : Producer :=
  match DeliveryMode.ofCode code with
  | .ok mode => p.setDeliveryMode mode
  | .error _ => p

/-- What is logged when a delivery mode is set by its number. -/
def deliveryCodeEvents (code : Int) (p : Producer) : List LogEvent :=
  match DeliveryMode.ofCode code with
  | .ok _    => []
  | .error e => [.deliveryModeKept e p.deliveryMode]

/-- Takes a time to live of at least 0 milliseconds, or keeps the one it has. -/
def setTimeToLive (millis : Int) (p : Producer) : Producer :=
  if 0 ≤ millis then { p with timeToLive := millis } else p

/-- What is logged when a time to live is set. -/
def timeToLiveEvents (millis : Int) (p : Producer) : List LogEvent :=
  if 0 ≤ millis then [] else [.timeToLiveKept millis p.timeToLive]

/-- Takes configured options, one by one. -/
def configure (o : ProducerOptions) (p : Producer) : Producer :=
  (p.setDeliveryMode o.deliveryMode).setTimeToLive o.timeToLive

def configureEvents (o : ProducerOptions) (p : Producer) : List LogEvent :=
  p.timeToLiveEvents o.timeToLive

/-! ### Sending -/

/-- How every message of the producer is put. -/
def putOptions (p : Producer) : PutOptions := ⟨p.session.isTransacted, true⟩

/-- The descriptor that a message is put with: the message's own or a new one, with the
producer's persistence, the message's format, and the producer's expiry if it has one. -/
def descriptorFor (p : Producer) (m : Message) : Descriptor :=
  let base := { m.descriptorOrNew with
    persistence := p.deliveryMode.persistence
    format      := m.format }
  if 0 < p.timeToLive then { base with expiry := .ofTimeToLive p.timeToLive.toNat } else base

/-- What a send leaves behind. -/
structure Sent (σ : Type) where
  result  : Except TransportError Unit
  message : Message
  state   : σ
  events  : List LogEvent := []

/-- What is logged about the result of a send. -/
def resultEvents (queue : String) : Except TransportError Unit → List LogEvent
  | .error e => [.sendFailed queue e]
  | .ok ()   => []

/-- Sends a message to the queue of that name. -/
def sendVia {σ η : Type} (t : Transport σ η) (p : Producer) (queue : String) (m : Message)
    (draw : Draw) (s : σ) : Sent σ :=
  match Guard.acquire t queue .forSend s with
  | (.error e, s) => ⟨.error e, m, s, resultEvents queue (.error e)⟩
  | (.ok g, s) =>
    let (result, d, s) := g.put t (p.descriptorFor m) p.putOptions m.payload draw s
    let (dropped, s) := g.drop t s
    ⟨result, m.setDescriptor d, s, dropped ++ resultEvents queue result⟩

/-- What the caller is told. -/
def Sent.answer {σ : Type} (r : Sent σ) : Except SendException Unit :=
  r.result.mapError .ofTransport

/-- Sends a message through an in-memory queue manager. -/
def send (p : Producer) (queue : String) (m : Message) (draw : Draw) (qm : QueueManager) :
    Sent QueueManager :=
  p.sendVia QueueManager.transport queue m draw qm

end Producer

end Courier
