import Courier.Proofs.Producer.Lifetime
import Courier.Proofs.Producer.Refused

/-!
# Courier — Proofs — What the headers of a message tell

The headers of a message are read from its descriptor, and a send writes the descriptor at two
points.  The producer writes its persistence and its expiry before the put; the queue manager
writes the identifier and the put time when it takes the message.  The descriptor stays on the
message when the put is refused, with what the producer wrote.

So the identifier and the put time are those of the last send that succeeded.  The delivery mode
and the expiration are too as long as no put was refused since.  Otherwise the delivery mode is
that of the producer refused last, and the expiration counts the lifetime of the last refused
producer that has one from the put time of the last success.

A `Trail` follows a message through attempts to send it, and notes what it was right after the
last success and which producers were refused since.  The invariant is `Trail.Follows`: the message
is the one of the last success, with the descriptors of those producers put on it one after the
other.

**Headers after any attempts** (`headers_resend`): the four headers, from the message of the last
success and the producers refused since.  `refused_put_shows` is a message whose headers are not
those of its only success.
-/

namespace Courier

/-! ### Expirations -/

/-- The expiration header that the message would have with the expiry `e`. -/
def Message.expirationWith (e : Expiry) (m : Message) : Int :=
  ((({ m.descriptorOrNew with expiry := e } : Descriptor).expiresAt?).map (·.millis)).getD 0

theorem Message.expiration_eq (m : Message) :
    m.expiration = m.expirationWith m.descriptorOrNew.expiry := by
  obtain ⟨body, descriptor⟩ := m
  cases descriptor <;> rfl

/-- Of its descriptor, an expiration needs the put time besides the expiry. -/
theorem Message.KeepsOwn.expirationWith {m after : Message} (h : m.KeepsOwn after) (e : Expiry) :
    after.expirationWith e = m.expirationWith e := by
  have putTime : after.descriptorOrNew.putTime = m.descriptorOrNew.putTime := by
    rw [Producer.field_descriptorOrNew (·.putTime) rfl, h.putTime,
      Producer.field_descriptorOrNew (·.putTime) rfl]
  simp only [Message.expirationWith, Descriptor.expiresAt?, putTime]

theorem Message.keepsOwn_refl (m : Message) : m.KeepsOwn m := ⟨rfl, rfl, rfl, rfl, rfl, rfl⟩

theorem Message.KeepsOwn.trans {m after last : Message} (h : m.KeepsOwn after)
    (h' : after.KeepsOwn last) : m.KeepsOwn last :=
  ⟨h'.body.trans h.body, h'.messageId.trans h.messageId, h'.putTime.trans h.putTime,
    h'.correlationId.trans h.correlationId, h'.replyToQueue.trans h.replyToQueue,
    h'.replyToQueueManager.trans h.replyToQueueManager⟩

/-! ### Refused puts -/

namespace Producer

/-- The expiry that a producer writes, if it has a time to live. -/
def lifetime? (p : Producer) : Option Expiry :=
  if 0 < p.timeToLive then some (.ofTimeToLive p.timeToLive.toNat) else none

/-- The message after a put of the producer was refused. -/
def refusal (m : Message) (p : Producer) : Message := m.setDescriptor (p.descriptorFor m)

theorem deliveryMode_refusal (m : Message) (p : Producer) :
    (refusal m p).deliveryMode = p.deliveryMode := by
  have persistence : (p.descriptorFor m).persistence = p.deliveryMode.persistence := by
    rw [descriptorFor_eq]
  simp only [Message.deliveryMode, refusal, Message.setDescriptor, persistence]
  cases p.deliveryMode <;> rfl

theorem expiry_refusal (m : Message) (p : Producer) :
    (refusal m p).descriptorOrNew.expiry = p.lifetime?.getD m.descriptorOrNew.expiry := by
  have expiry : (refusal m p).descriptorOrNew.expiry = (p.descriptorFor m).expiry := rfl
  rw [expiry, descriptorFor_expiry, lifetime?]
  split <;> rfl

/-- The message after puts of these producers were refused, one after the other. -/
def refusals (m : Message) (ps : List Producer) : Message := ps.foldl refusal m

theorem refusals_concat (m : Message) (ps : List Producer) (p : Producer) :
    refusals m (ps ++ [p]) = refusal (refusals m ps) p := by
  rw [refusals, List.foldl_append]
  rfl

theorem keepsOwn_refusals (ps : List Producer) : ∀ m : Message, m.KeepsOwn (refusals m ps) := by
  induction ps with
  | nil => exact Message.keepsOwn_refl
  | cons p ps ih => exact fun m => (p.keepsOwn_descriptorFor m).trans (ih _)

theorem deliveryMode_refusals (m : Message) (ps : List Producer) :
    (refusals m ps).deliveryMode =
      ((ps.map (·.deliveryMode)).getLast?).getD m.deliveryMode := by
  -- every refusal sets the mode
  rw [← List.filterMap_eq_map]
  exact view_foldl Message.deliveryMode deliveryMode_refusal ps m

theorem expiration_refusals (m : Message) (ps : List Producer) :
    (refusals m ps).expiration =
      m.expirationWith (((ps.filterMap lifetime?).getLast?).getD m.descriptorOrNew.expiry) := by
  have expiry : (refusals m ps).descriptorOrNew.expiry =
      ((ps.filterMap lifetime?).getLast?).getD m.descriptorOrNew.expiry :=
    view_foldl (fun m : Message => m.descriptorOrNew.expiry) expiry_refusal ps m
  rw [Message.expiration_eq, expiry, (keepsOwn_refusals ps m).expirationWith]

end Producer

/-! ### Attempts to send one message -/

/-- What becomes of a message that is sent again and again. -/
structure Trail where
  /-- The message as the attempts so far leave it. -/
  message  : Message
  /-- The message right after the last attempt that succeeded, at first the message as it is. -/
  lastSent : Message
  /-- The producers whose put was refused since, in order. -/
  refused  : List Producer

namespace Trail

def start (m : Message) : Trail := ⟨m, m, []⟩

/-- One attempt more. -/
def attempt (t : Trail) (s : Sending) : Trail :=
  let sent := s.producer.send s.queue t.message s.draw s.manager
  match sent.result with
  | .ok ()   => start sent.message
  | .error e =>
    { t with
      message := sent.message
      refused := if e.verb = .put then t.refused ++ [s.producer] else t.refused }

def run (m : Message) (sends : List Sending) : Trail := sends.foldl attempt (start m)

/-- The message is the one of the last success, after the puts refused since. -/
def Follows (t : Trail) : Prop := t.message = Producer.refusals t.lastSent t.refused

theorem Follows.attempt {t : Trail} (h : t.Follows) (s : Sending) : (t.attempt s).Follows := by
  have ending := s.producer.ending_send s.queue t.message s.draw s.manager
  unfold Trail.attempt
  generalize s.producer.send s.queue t.message s.draw s.manager = sent at ending
  cases ending with
  | notOpened => exact h
  | refused =>
      -- one more descriptor is put on the message
      have one : Producer.refusal t.message s.producer =
          Producer.refusals t.lastSent (t.refused ++ [s.producer]) := by
        rw [Producer.refusals_concat, ← h]
      exact one
  | stored => rfl

theorem follows_run (m : Message) (sends : List Sending) : (run m sends).Follows := by
  have kept : ∀ t : Trail, t.Follows → (sends.foldl Trail.attempt t).Follows := by
    induction sends with
    | nil => exact fun _ h => h
    | cons s sends ih => exact fun t h => ih _ (h.attempt s)
  exact kept (start m) rfl

theorem message_attempt (t : Trail) (s : Sending) :
    (t.attempt s).message = (s.producer.send s.queue t.message s.draw s.manager).message := by
  simp only [attempt]
  split <;> rfl

/-- A trail follows the message that is sent again. -/
theorem message_run (m : Message) (sends : List Sending) :
    (run m sends).message = Sending.resend m sends := by
  have same : ∀ t : Trail, (sends.foldl Trail.attempt t).message =
      Sending.resend t.message sends := by
    induction sends with
    | nil => exact fun _ => rfl
    | cons s sends ih =>
        intro t
        rw [List.foldl_cons, ih, message_attempt]
        rfl
  exact same (start m)

end Trail

/-- What the headers of `now` are, if `lastSent` is what the message was right after the last
success and `refused` are the producers whose put was refused since. -/
structure Message.HeadersFrom (now lastSent : Message) (refused : List Producer) : Prop where
  messageId    : now.messageId? = lastSent.messageId?
  timestamp    : now.timestamp = lastSent.timestamp
  deliveryMode : now.deliveryMode =
    ((refused.map (·.deliveryMode)).getLast?).getD lastSent.deliveryMode
  expiration   : now.expiration =
    lastSent.expirationWith
      (((refused.filterMap Producer.lifetime?).getLast?).getD lastSent.descriptorOrNew.expiry)

/-- **Headers after any attempts.**  Some attempts to send a message succeed, some do not open
their queue and some have their put refused.  The identifier and the put time are those right
after the last success; the delivery mode and the expiration are given by the producers refused
since, and if there are none the message is as it was right after the last success. -/
theorem headers_resend (m : Message) (sends : List Sending) :
    let t := Trail.run m sends
    (Sending.resend m sends).HeadersFrom t.lastSent t.refused ∧
      (t.refused = [] → Sending.resend m sends = t.lastSent) := by
  intro t
  have follows : Sending.resend m sends = Producer.refusals t.lastSent t.refused :=
    (Trail.message_run m sends).symm.trans (Trail.follows_run m sends)
  rw [follows]
  have own := Producer.keepsOwn_refusals t.refused t.lastSent
  refine ⟨⟨?_, ?_, ?_, ?_⟩, fun none => by rw [none]; rfl⟩
  · rw [Message.messageId?, own.messageId]; rfl
  · rw [Message.timestamp, own.putTime]; rfl
  · exact Producer.deliveryMode_refusals t.lastSent t.refused
  · exact Producer.expiration_refusals t.lastSent t.refused

/-- A queue with room for one message.  The first send succeeds, in the delivery mode that does not
survive a restart and without an expiry; the second, in the other mode and with five seconds to
live, is refused.  The headers are those of the refused send. -/
theorem refused_put_shows :
    let draw : Draw := ⟨⟨0, 0, by decide, by decide⟩, Vector.replicate 16 7⟩
    let qm := QueueManager.ofOptions { maxQueueDepth := 1 }
    let one : Sending := ⟨⟨.autoAcknowledge, .nonPersistent, 0⟩, "DEV.QUEUE.1", draw, qm⟩
    let first := one.producer.send one.queue (.ofText "hello") draw qm
    let two : Sending :=
      ⟨⟨.autoAcknowledge, .persistent, 5000⟩, "DEV.QUEUE.1", draw, first.state⟩
    let second := two.producer.send two.queue first.message draw first.state
    qm.Reachable ∧ first.state.Reachable ∧ first.answer = .ok () ∧
      second.answer = .error (.ofTransport (.failed .put .queueFull)) ∧
      (Trail.run (.ofText "hello") [one, two]).lastSent = first.message ∧
      Sending.resend (.ofText "hello") [one, two] = second.message ∧
      first.message.deliveryMode = .nonPersistent ∧ first.message.expiration = 0 ∧
      second.message.deliveryMode = .persistent ∧ second.message.expiration = 5000 := by
  have reachable : (QueueManager.ofOptions { maxQueueDepth := 1 }).Reachable := ⟨_, [], rfl⟩
  exact ⟨reachable, reachable.send .., rfl, rfl, rfl, rfl, rfl, rfl, rfl, rfl⟩

end Courier
