import Courier.Proofs.Producer.Headers

/-!
# Courier — Proofs — Sending a message again

A send that fails may leave something on its message: the descriptor of a put that was refused.
That descriptor holds the producer's own format, persistence and expiry over fields of the message,
so the next send by the same producer makes the same descriptor of it (`descriptorFor_refusal`).
After any number of failed attempts a message is therefore as it was, or as one refused put leaves
it (`Tried.eq_or_eq`), and the two cannot be told apart by what a send does with them
(`send_of_alike`).

**Retries leave no trace** (`send_again`): after attempts that failed, whatever queues and states of
queue managers they met, a send of the message does what the first send would do.
-/

namespace Courier

namespace Producer

/-! ### Messages that are put alike -/

/-- A producer puts the same for both messages. -/
structure PutsAlike (p : Producer) (m m' : Message) : Prop where
  body       : m'.body = m.body
  descriptor : p.descriptorFor m' = p.descriptorFor m

theorem putsAlike_refl (p : Producer) (m : Message) : p.PutsAlike m m := ⟨rfl, rfl⟩

/-- The fields that a producer writes are written again, and the others were left. -/
theorem descriptorFor_refusal (p : Producer) (m : Message) :
    p.descriptorFor (refusal m p) = p.descriptorFor m := by
  have carried : (refusal m p).descriptorOrNew = p.descriptorFor m := rfl
  have format : (refusal m p).format = m.format := rfl
  rw [descriptorFor_eq p (refusal m p), carried, format, descriptorFor_eq]
  by_cases h : 0 < p.timeToLive
  · simp only [if_pos h]
  · simp only [if_neg h]

theorem putsAlike_refusal (p : Producer) (m : Message) : p.PutsAlike m (refusal m p) :=
  ⟨rfl, p.descriptorFor_refusal m⟩

section
variable {p : Producer} {m m' : Message}

/-- The descriptor that was put replaces what told the messages apart. -/
theorem PutsAlike.setDescriptor (alike : p.PutsAlike m m') (d : Descriptor) :
    m'.setDescriptor d = m.setDescriptor d := by
  rw [Message.setDescriptor, Message.setDescriptor, alike.body]

theorem PutsAlike.payload (alike : p.PutsAlike m m') : m'.payload = m.payload := by
  rw [Message.payload, Message.payload, alike.body]

/-- A send of either message is the same, except that each is left alone if the queue is not
opened. -/
theorem send_of_alike (alike : p.PutsAlike m m') (queue : String) (draw : Draw)
    (qm : QueueManager) :
    (∃ r, p.send queue m draw qm =
        ⟨.error (.failed .opening r), m, qm, resultEvents queue (.error (.failed .opening r))⟩ ∧
      p.send queue m' draw qm =
        ⟨.error (.failed .opening r), m', qm, resultEvents queue (.error (.failed .opening r))⟩) ∨
    p.send queue m' draw qm = p.send queue m draw qm := by
  rcases qm.openQueue_cases queue .forSend with ⟨r, no⟩ | opened
  · exact .inl ⟨r, send_eq_of_not_opened no draw, send_eq_of_not_opened no draw⟩
  · refine .inr ?_
    have acquired : QueueManager.transport.openQueue queue .forSend qm =
        (.ok ⟨queue, .forSend, false⟩, qm.afterOpen queue) := opened
    simp only [send, sendVia, Guard.acquire, acquired, Except.map, alike.descriptor,
      alike.payload, alike.setDescriptor]

end

/-! ### Failed attempts -/

/-- `now` is what failed attempts of one producer to send `m` left of it.  Each attempt is to a
queue of its own, and meets a queue manager in whatever state that is by then. -/
inductive Tried (p : Producer) (m : Message) : Message → Prop where
  | never : Tried p m m
  | again {now : Message} {queue : String} {draw : Draw} {qm : QueueManager} {x : SendException}
      (tried : Tried p m now) (failed : (p.send queue now draw qm).answer = .error x) :
      Tried p m (p.send queue now draw qm).message

/-- Refused puts of one producer leave what one of them leaves. -/
theorem Tried.eq_or_eq {p : Producer} {m now : Message} (tried : p.Tried m now) :
    now = m ∨ now = refusal m p := by
  induction tried with
  | never => exact .inl rfl
  | @again now queue draw qm x _ failed ih =>
      -- a failed send was not opened, or its put was refused; only the latter writes
      have ending := p.ending_send queue now draw qm
      rw [answer_eq_error_iff] at failed
      obtain ⟨e, failed, -⟩ := failed
      generalize p.send queue now draw qm = sent at ending failed
      cases ending with
      | notOpened => exact ih
      | stored => cases failed
      | refused =>
          right
          rcases ih with rfl | rfl
          · rfl
          · -- the second refused put writes what the first wrote
            have alike := p.putsAlike_refusal m
            rw [alike.setDescriptor, alike.descriptor]
            rfl

theorem Tried.putsAlike {p : Producer} {m now : Message} (tried : p.Tried m now) :
    p.PutsAlike m now := by
  rcases tried.eq_or_eq with rfl | rfl
  · exact p.putsAlike_refl _
  · exact p.putsAlike_refusal m

/-- **Retries leave no trace.**  After failed attempts to send a message by one producer, a send of
what they left is answered as a send of the message itself would be, logs the same, and leaves the
same queue manager; and unless the queue is not opened, it leaves the same message. -/
theorem send_again {p : Producer} {m now : Message} (tried : p.Tried m now) (queue : String)
    (draw : Draw) (qm : QueueManager) :
    let again := p.send queue now draw qm
    let first := p.send queue m draw qm
    again.answer = first.answer ∧ again.state = first.state ∧ again.events = first.events ∧
      ((∀ r, first.answer ≠ .error (.ofTransport (.failed .opening r))) →
        again.message = first.message) := by
  intro again first
  rcases send_of_alike tried.putsAlike queue draw qm with ⟨r, one, other⟩ | same
  · have first_eq : first = _ := one
    have again_eq : again = _ := other
    rw [first_eq, again_eq]
    exact ⟨rfl, rfl, rfl, fun opened => absurd rfl (opened r)⟩
  · have again_eq : again = first := same
    rw [again_eq]
    exact ⟨rfl, rfl, rfl, fun _ => rfl⟩

/-- A message whose put a full queue refuses, and whose queue is then not there: the third attempt
succeeds, and stores and leaves what the first would have. -/
theorem send_again_third :
    let p : Producer := ⟨.transacted, .persistent, 5000⟩
    let draw : Draw := ⟨⟨0, 0, by decide, by decide⟩, Vector.replicate 16 7⟩
    let m := (Message.ofText "hello").setCorrelationId "c-1"
    let full := QueueManager.ofOptions { maxQueueDepth := 0 }
    let qm := QueueManager.ofOptions {}
    let one := p.send "DEV.QUEUE.1" m draw full
    let two := p.send "NEW.QUEUE" one.message draw one.state
    let again := p.send "DEV.QUEUE.2" two.message draw qm
    let first := p.send "DEV.QUEUE.2" m draw qm
    one.answer = .error (.ofTransport (.failed .put .queueFull)) ∧
      two.answer = .error (.ofTransport (.failed .opening .unknownObjectName)) ∧
      two.message ≠ m ∧ p.Tried m two.message ∧ again.answer = .ok () ∧
      again.answer = first.answer ∧ again.state = first.state ∧ again.events = first.events ∧
      ((∀ r, first.answer ≠ .error (.ofTransport (.failed .opening r))) →
        again.message = first.message) := by
  have refused : ((⟨.transacted, .persistent, 5000⟩ : Producer).send "DEV.QUEUE.1"
      ((Message.ofText "hello").setCorrelationId "c-1")
      ⟨⟨0, 0, by decide, by decide⟩, Vector.replicate 16 7⟩
      (.ofOptions { maxQueueDepth := 0 })).answer =
        .error (.ofTransport (.failed .put .queueFull)) := rfl
  exact ⟨refused, rfl, by decide, .again (.again .never refused) rfl, rfl,
    send_again (.again (.again .never refused) rfl) "DEV.QUEUE.2" _ _⟩

end Producer

end Courier
