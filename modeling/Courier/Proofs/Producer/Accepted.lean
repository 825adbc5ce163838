import Courier.Proofs.Producer.Send

/-!
# Courier — Proofs — What an accepted send stores

The options of a producer come from calls (`OptionCall`), and a call may ask for something that is
no option: a delivery mode by a number that no mode has, or a negative time to live.  Such a call
changes nothing, and a configuration whose time to live is refused still sets its delivery mode.
So after any calls the delivery mode is the last one that was accepted, and the default if none
was (`configured_deliveryMode`), and the same goes for the time to live (`configured_timeToLive`).

**What an accepted send stores** (`stored_of_send_ok`): one message, at the end of its queue or of
the unit of work, and nothing else changes but the counters (`QueueManager.StoresOne`).  The
message has the body in its written form, the persistence of that last mode, a new identifier, and
the routing fields that the sender's message carried (`StoredMessage.Conveys`).  The sender's
message keeps its body and gets the stored descriptor.
-/

namespace Courier

/-! ### Options -/

/-- A call that asks a producer to take options. -/
inductive OptionCall where
  | setMode (mode : DeliveryMode)
  | setModeCode (code : Int)
  | setTimeToLive (millis : Int)
  | configure (options : ProducerOptions)

namespace OptionCall

/-- The producer after the call. -/
def apply : OptionCall → Producer → Producer
  | .setMode mode         => Producer.setDeliveryMode mode
  | .setModeCode code     => Producer.setDeliveryCode code
  | .setTimeToLive millis => Producer.setTimeToLive millis
  | .configure options    => Producer.configure options

/-- The delivery mode that the call sets: the one it names, or the one whose number it gives. -/
def accepted? : OptionCall → Option DeliveryMode
  | .setMode mode      => some mode
  | .setModeCode code  => DeliveryMode.all.find? (·.code = code)
  | .setTimeToLive _   => none
  | .configure options => some options.deliveryMode

/-- The delivery mode accepted last, and the default if there is none. -/
def lastMode (calls : List OptionCall) : DeliveryMode :=
  ((calls.filterMap accepted?).getLast?).getD .nonPersistent

/-- The time to live that the call sets: the one it names, unless that is negative. -/
def acceptedTime? : OptionCall → Option Int
  | .setMode _            => none
  | .setModeCode _        => none
  | .setTimeToLive millis => if 0 ≤ millis then some millis else none
  | .configure options    => if 0 ≤ options.timeToLive then some options.timeToLive else none

/-- The time to live accepted last, and none if there is none. -/
def lastTime (calls : List OptionCall) : Int :=
  ((calls.filterMap acceptedTime?).getLast?).getD 0

theorem acceptedTime?_nonneg {call : OptionCall} {millis : Int}
    (h : call.acceptedTime? = some millis) : 0 ≤ millis := by
  unfold acceptedTime? at h
  split at h
  · cases h
  · cases h
  · split at h <;> cases h
    assumption
  · split at h <;> cases h
    assumption

theorem lastTime_nonneg (calls : List OptionCall) : 0 ≤ lastTime calls := by
  unfold lastTime
  cases last : (calls.filterMap acceptedTime?).getLast? with
  | none => exact Int.le_refl 0
  | some millis =>
      obtain ⟨call, -, accepted⟩ := List.mem_filterMap.mp (List.mem_of_getLast? last)
      exact acceptedTime?_nonneg accepted

end OptionCall

/-- A mode is known by its number and by no other. -/
theorem DeliveryMode.ofCode_toOption (code : Int) :
    (ofCode code).toOption = all.find? (·.code = code) := by
  by_cases one : code = 1
  · subst one; rfl
  · by_cases two : code = 2
    · subst two; rfl
    · have no (mode : DeliveryMode) : mode.code ≠ code := by
        cases mode with
        | nonPersistent => exact Ne.symm one
        | persistent => exact Ne.symm two
      simp [ofCode, one, two, all, no, Except.toOption]

namespace Producer

/-- A new producer of a session, after calls that ask for options. -/
def configured (mode : SessionMode) (calls : List OptionCall) : Producer :=
  calls.foldl (fun p call => call.apply p) { session := mode }

theorem setTimeToLive_eq (millis : Int) (p : Producer) :
    p.setTimeToLive millis =
      { p with timeToLive := if 0 ≤ millis then millis else p.timeToLive } := by
  unfold setTimeToLive
  split <;> rfl

theorem setDeliveryCode_eq (code : Int) (p : Producer) :
    p.setDeliveryCode code =
      { p with deliveryMode :=
          (DeliveryMode.all.find? (·.code = code)).getD p.deliveryMode } := by
  rw [← DeliveryMode.ofCode_toOption, setDeliveryCode]
  cases DeliveryMode.ofCode code <;> rfl

/-- A call sets the mode that it is accepted with, and leaves the one there is otherwise. -/
theorem deliveryMode_apply (call : OptionCall) (p : Producer) :
    (call.apply p).deliveryMode = call.accepted?.getD p.deliveryMode := by
  cases call with
  | setMode mode => rfl
  | setModeCode code => rw [OptionCall.apply, setDeliveryCode_eq]; rfl
  | setTimeToLive millis => rw [OptionCall.apply, setTimeToLive_eq]; rfl
  | configure options => rw [OptionCall.apply, configure, setTimeToLive_eq]; rfl

theorem session_apply (call : OptionCall) (p : Producer) : (call.apply p).session = p.session := by
  cases call with
  | setMode mode => rfl
  | setModeCode code => rw [OptionCall.apply, setDeliveryCode_eq]
  | setTimeToLive millis => rw [OptionCall.apply, setTimeToLive_eq]
  | configure options => rw [OptionCall.apply, configure, setTimeToLive_eq]; rfl

theorem session_configured (mode : SessionMode) (calls : List OptionCall) :
    (configured mode calls).session = mode := by
  have kept : ∀ p : Producer, (calls.foldl (fun p call => call.apply p) p).session = p.session := by
    induction calls with
    | nil => exact fun _ => rfl
    | cons call calls ih => exact fun p => (ih _).trans (session_apply call p)
  exact kept _

/-- **The mode accepted last.**  Whatever calls a producer got, refused ones among them, its
delivery mode is the one that was accepted last. -/
theorem configured_deliveryMode (mode : SessionMode) (calls : List OptionCall) :
    (configured mode calls).deliveryMode = OptionCall.lastMode calls :=
  view_foldl Producer.deliveryMode (fun p call => deliveryMode_apply call p) calls
    { session := mode }

/-- A call sets the time to live that it is accepted with, and leaves the one there is
otherwise. -/
theorem timeToLive_apply (call : OptionCall) (p : Producer) :
    (call.apply p).timeToLive = call.acceptedTime?.getD p.timeToLive := by
  cases call with
  | setMode mode => rfl
  | setModeCode code => rw [OptionCall.apply, setDeliveryCode_eq]; rfl
  | setTimeToLive millis =>
      rw [OptionCall.apply, setTimeToLive_eq, OptionCall.acceptedTime?]
      split <;> rfl
  | configure options =>
      rw [OptionCall.apply, configure, setTimeToLive_eq, OptionCall.acceptedTime?]
      split <;> rfl

/-- **The time accepted last.**  A negative time to live in between changes nothing. -/
theorem configured_timeToLive (mode : SessionMode) (calls : List OptionCall) :
    (configured mode calls).timeToLive = OptionCall.lastTime calls :=
  view_foldl Producer.timeToLive (fun p call => timeToLive_apply call p) calls
    { session := mode }

end Producer

/-! ### The message that is stored -/

/-- The written form of a body: UTF-8 for a text, nothing if there is none, and bytes as they
are. -/
inductive Body.Encoded : Body → ByteArray → Format → Prop where
  | text (content : String) : Encoded (.text (some content)) content.toUTF8 .string
  | noText : Encoded (.text none) .empty .string
  | bytes (content : ByteArray) : Encoded (.bytes content) content .none

theorem Message.encoded (m : Message) : m.body.Encoded m.payload m.format := by
  obtain ⟨body, descriptor⟩ := m
  cases body with
  | text content =>
      cases content with
      | none => exact .noText
      | some content => exact .text content
  | bytes content => exact .bytes content

/-- `stored` is the message `m`, put in the delivery mode `mode` under the identifier `id`. -/
structure StoredMessage.Conveys (stored : StoredMessage) (m : Message) (mode : DeliveryMode)
    (id : MessageId) : Prop where
  body                : m.body.Encoded stored.payload stored.descriptor.format
  persistence         : stored.descriptor.persistence = mode.persistence
  messageId           : stored.descriptor.messageId = some id
  correlationId       : stored.descriptor.correlationId = m.descriptor.bind (·.correlationId)
  replyToQueue        : stored.descriptor.replyToQueue = m.descriptor.bind (·.replyToQueue)
  replyToQueueManager :
    stored.descriptor.replyToQueueManager = m.descriptor.bind (·.replyToQueueManager)

/-- After `qm` comes `next`, which has one message more: at the end of the queue, or at the end of
the unit of work if the session is transacted.  The other queues, and whether the queue allows
puts, are as before, and besides the counters so is everything else. -/
structure QueueManager.StoresOne (qm next : QueueManager) (mode : SessionMode) (queue : String)
    (stored : StoredMessage) : Prop where
  destination : next.queues.find? queue =
    some ⟨qm.committed queue ++ (if mode.isTransacted then [] else [stored]), qm.inhibits queue⟩
  others      : ∀ n, n ≠ queue → next.queues.find? n = qm.queues.find? n
  uncommitted : next.uncommitted =
    qm.uncommitted ++ if mode.isTransacted then [⟨queue, stored⟩] else []
  rest        : next =
    { qm with
      queues      := next.queues
      uncommitted := next.uncommitted
      sequence    := qm.sequence + 1
      statistics  :=
        { qm.statistics with
          opens  := qm.statistics.opens + 1
          closes := qm.statistics.closes + 1
          puts   := qm.statistics.puts + 1 } }

namespace Producer

theorem storesOne_afterSend (p : Producer) (queue : String) (m : StoredMessage)
    (qm : QueueManager) : qm.StoresOne (p.afterSend queue m qm) p.session queue m where
  destination := by rw [find?_afterSend, if_pos rfl]
  others n h := by rw [find?_afterSend, if_neg h]
  uncommitted := p.uncommitted_afterSend queue m qm
  rest := rfl

theorem conveys_sent (p : Producer) (m : Message) (draw : Draw) (qm : QueueManager) :
    (p.sent m draw qm).Conveys m p.deliveryMode
      (.generate draw.entropy (qm.sequence + 1)) := by
  -- the queue manager adds the identifier and the put time to what the producer puts
  have put : (p.sent m draw qm).descriptor =
      { p.descriptorFor m with
        messageId := some (.generate draw.entropy (qm.sequence + 1))
        putTime   := some draw.now } := rfl
  rw [descriptorFor_eq] at put
  refine ⟨?_, ?_, ?_, ?_, ?_, ?_⟩
  · rw [put]; exact m.encoded
  · rw [put]
  · rw [put]
  · rw [put]; exact field_descriptorOrNew (·.correlationId) rfl m
  · rw [put]; exact field_descriptorOrNew (·.replyToQueue) rfl m
  · rw [put]; exact field_descriptorOrNew (·.replyToQueueManager) rfl m

/-- **What an accepted send stores.**  A producer of any session, after any calls for options,
sends a message and is told no error: one message was added, at the end of the queue or of the
unit of work, and nothing else that is stored changed.  It is the sender's message, in the
delivery mode accepted last, under a new identifier with the next sequence number; and the
sender's message has its body and the stored descriptor. -/
theorem stored_of_send_ok (mode : SessionMode) (calls : List OptionCall) (queue : String)
    (m : Message) (draw : Draw) (qm : QueueManager)
    (ok : ((configured mode calls).send queue m draw qm).answer = .ok ()) :
    let sent := (configured mode calls).send queue m draw qm
    ∃ stored, qm.StoresOne sent.state mode queue stored ∧
      stored.Conveys m (OptionCall.lastMode calls)
        (.generate draw.entropy (qm.sequence + 1)) ∧
      sent.message = ⟨m.body, some stored.descriptor⟩ := by
  rw [answer_eq_ok_iff] at ok
  have ending := ending_send (configured mode calls) queue m draw qm
  generalize (configured mode calls).send queue m draw qm = sent at ok ending
  cases ending with
  | notOpened | refused => cases ok
  | stored =>
      have one := storesOne_afterSend (configured mode calls) queue
        ((configured mode calls).sent m draw qm) qm
      have conveys := conveys_sent (configured mode calls) m draw qm
      rw [session_configured] at one
      rw [configured_deliveryMode] at conveys
      exact ⟨_, one, conveys, rfl⟩

/-- A text with a correlation identifier, in a transacted session and to a queue that is defined
by the send.  The producer was told a mode by its number, then by a number that no mode has, and a
negative time to live. -/
theorem stored_of_first_send :
    let calls : List OptionCall := [.setModeCode 2, .setModeCode 7, .setTimeToLive (-5)]
    let m := (Message.ofText "hé").setCorrelationId "c-1"
    let draw : Draw := ⟨⟨0, 0, by decide, by decide⟩, Vector.replicate 16 7⟩
    let qm := QueueManager.ofOptions { autoDefineQueues := true }
    let sent := (configured .transacted calls).send "NEW.QUEUE" m draw qm
    qm.Reachable ∧ sent.answer = .ok () ∧
      ∃ stored, qm.StoresOne sent.state .transacted "NEW.QUEUE" stored ∧
        stored.Conveys m .persistent (.generate draw.entropy 1) ∧
        sent.message = ⟨m.body, some stored.descriptor⟩ := by
  have reachable : (QueueManager.ofOptions { autoDefineQueues := true }).Reachable :=
    ⟨_, [], rfl⟩
  exact ⟨reachable, rfl, stored_of_send_ok .transacted
    [.setModeCode 2, .setModeCode 7, .setTimeToLive (-5)] "NEW.QUEUE"
    ((Message.ofText "hé").setCorrelationId "c-1")
    ⟨⟨0, 0, by decide, by decide⟩, Vector.replicate 16 7⟩
    (.ofOptions { autoDefineQueues := true }) rfl⟩

end Producer

end Courier
