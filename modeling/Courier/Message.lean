import Courier.Descriptor
import Courier.Queue
import Courier.Text.Blank

/-!
# Courier — Messages

A message is a body, text or bytes, with a descriptor once it has one.  Reading a header never
makes a descriptor; setting one does, and that descriptor is then the base of the next put.  A
payload is the UTF-8 form of a text, or the bytes as they are.
-/

namespace Courier

/-- What a message says; a text message may have no text. -/
inductive Body where
  | text (content : Option String)
  | bytes (content : ByteArray)
  deriving DecidableEq

structure Message where
  body       : Body
  descriptor : Option Descriptor := none
  deriving DecidableEq

namespace Message

def ofText (content : String) : Message := ⟨.text (some content), none⟩

def ofBytes (content : ByteArray) : Message := ⟨.bytes content, none⟩

def format (m : Message) : Format :=
  match m.body with
  | .text _  => .string
  | .bytes _ => .none

def payload (m : Message) : ByteArray :=
  match m.body with
  | .text content  => (content.map String.toUTF8).getD .empty
  | .bytes content => content

/-- The descriptor, made on first use. -/
def descriptorOrNew (m : Message) : Descriptor := m.descriptor.getD {}

def setDescriptor (d : Descriptor) (m : Message) : Message := { m with descriptor := some d }

/-! ### Headers -/

def messageId? (m : Message) : Option String :=
  (m.descriptor.bind (·.messageId)).map (·.header)

/-- Milliseconds since the epoch when the message was put, 0 if it was not. -/
def timestamp (m : Message) : Int :=
  ((m.descriptor.bind (·.putTime)).map (·.millis)).getD 0

def correlationId? (m : Message) : Option String := m.descriptor.bind (·.correlationId)

def setCorrelationId (id : String) (m : Message) : Message :=
  m.setDescriptor { m.descriptorOrNew with correlationId := some id }

/-- The queue for replies: the reply-to field without the white space at its end, if that is a
queue name. -/
def replyTo? (m : Message) : Option Queue :=
  (m.descriptor.bind (·.replyToQueue)).bind fun name =>
    (Queue.ofName (Text.trimEnd name)).toOption

def setReplyTo (q : Queue) (m : Message) : Message :=
  m.setDescriptor
    { m.descriptorOrNew with replyToQueue := some q.name, replyToQueueManager := none }

/-- The mode that the descriptor's persistence stands for. -/
def deliveryMode (m : Message) : DeliveryMode :=
  match m.descriptor with
  | some d => if d.persistence = .persistent then .persistent else .nonPersistent
  | none   => .nonPersistent

/-- Milliseconds since the epoch when the message expires, 0 if it never does. -/
def expiration (m : Message) : Int :=
  ((m.descriptor.bind (·.expiresAt?)).map (·.millis)).getD 0

/-! ### Bodies -/

/-- A text message with a new text; a bytes message has none to set. -/
def setText? (content : String) (m : Message) : Option Message :=
  match m.body with
  | .text _  => some { m with body := .text (some content) }
  | .bytes _ => none

/-- A bytes message with bytes added at the end. -/
def append? (more : ByteArray) (m : Message) : Option Message :=
  match m.body with
  | .bytes content => some { m with body := .bytes (content ++ more) }
  | .text _        => none

end Message

end Courier
