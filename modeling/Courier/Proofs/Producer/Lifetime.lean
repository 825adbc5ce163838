import Courier.Proofs.Producer.Send

/-!
# Courier — Proofs — How long a sent message lives

A producer with a time to live writes its own expiry into the descriptor that it puts.  A producer
without one, whose messages are meant never to expire, writes none: the message keeps the expiry
that it carries (`descriptorFor_expiry`).  The descriptor that was put is stored back on the
message, so an expiry stays with a message from one send to the next until a producer with a time
to live writes another (`expiry_resend`).

**Expiry of a sent message** (`expiry_of_send_ok`): the stored message and the message itself have
the expiry of the producer's time to live exactly if the producer has one or the message carried
none.  `expiry_outlives_send` is a message whose second producer has none and whose expiry is that
of the first.
-/

namespace Courier

namespace Producer

/-! ### The expiry that is put -/

theorem descriptorFor_expiry (p : Producer) (m : Message) :
    (p.descriptorFor m).expiry =
      if 0 < p.timeToLive then .ofTimeToLive p.timeToLive.toNat
      else m.descriptorOrNew.expiry := by
  rw [descriptorFor_eq]

/-- A message is put with the producer's expiry, or the producer has none and the message does. -/
theorem descriptorFor_expiry_eq_iff (p : Producer) (m : Message) :
    (p.descriptorFor m).expiry = .ofTimeToLive p.timeToLive.toNat ↔
      0 < p.timeToLive ∨ m.descriptorOrNew.expiry = .unlimited := by
  rw [descriptorFor_expiry]
  by_cases h : 0 < p.timeToLive
  · rw [if_pos h]
    exact ⟨fun _ => .inl h, fun _ => rfl⟩
  · have zero : p.timeToLive.toNat = 0 := Int.toNat_of_nonpos (Int.not_lt.mp h)
    rw [if_neg h, zero]
    exact ⟨.inr, fun carried => carried.resolve_left h⟩

/-! ### One send -/

section
variable {qm : QueueManager}

/-- What a message carries after a send.  A send that does not open its queue leaves the message
alone; any other leaves the expiry that it put, whether or not the put was accepted. -/
theorem send_expiry (there : qm.storageLost = false) (p : Producer) (queue : String) (m : Message)
    (draw : Draw) :
    (p.send queue m draw qm).message.descriptorOrNew.expiry =
      if qm.openRefusal? queue .forSend = none then (p.descriptorFor m).expiry
      else m.descriptorOrNew.expiry := by
  cases opened : qm.openRefusal? queue .forSend with
  | some r => rw [send_eq_of_openRefusal there opened]; rfl
  | none =>
      cases accepted : p.putRefusal? queue m qm with
      | some r => rw [send_eq_of_putRefusal there opened accepted]; rfl
      | none => rw [send_eq there opened accepted]; rfl

/-- A send from `qm` stored one message, on its queue or in the unit of work, and left the
descriptor of that message on the one that was sent. -/
structure Sent.Delivered (sent : Sent QueueManager) (p : Producer) (queue : String)
    (qm : QueueManager) (stored : StoredMessage) : Prop where
  committed   : ∀ n, sent.state.committed n =
    qm.committed n ++ addressed n (if p.session.isTransacted then [] else [⟨queue, stored⟩])
  uncommitted : sent.state.uncommitted =
    qm.uncommitted ++ if p.session.isTransacted then [⟨queue, stored⟩] else []
  message     : sent.message.descriptor = some stored.descriptor

/-- **Expiry of a sent message.**  A send that succeeds stores a message, and its expiry is that of
the producer's time to live exactly if the producer has one or the message carried none. -/
theorem expiry_of_send_ok (reachable : qm.Reachable) (p : Producer) (queue : String) (m : Message)
    (draw : Draw) (ok : (p.send queue m draw qm).result = .ok ()) :
    ∃ stored, (p.send queue m draw qm).Delivered p queue qm stored ∧
      (stored.descriptor.expiry = .ofTimeToLive p.timeToLive.toNat ↔
        0 < p.timeToLive ∨ m.descriptorOrNew.expiry = .unlimited) := by
  obtain ⟨opened, accepted⟩ := accepted_of_send_ok reachable.there ok
  have delivered : (p.send queue m draw qm).Delivered p queue qm (p.sent m draw qm) := by
    rw [send_eq reachable.there opened accepted]
    exact ⟨p.committed_afterSend queue _ qm, p.uncommitted_afterSend queue _ qm, rfl⟩
  exact ⟨_, delivered, p.descriptorFor_expiry_eq_iff m⟩

end

/-- A message sent for the first time, by a producer with five seconds to live. -/
theorem expiry_of_first_send :
    let p : Producer := ⟨.autoAcknowledge, .nonPersistent, 5000⟩
    let qm := QueueManager.ofOptions {}
    let sent := p.send "DEV.QUEUE.1" (.ofText "hello")
      ⟨⟨0, 0, by decide, by decide⟩, Vector.replicate 16 7⟩ qm
    qm.Reachable ∧ sent.result = .ok () ∧
      ∃ stored, sent.Delivered p "DEV.QUEUE.1" qm stored ∧
        stored.descriptor.expiry = .tenths 50 := by
  have reachable : (QueueManager.ofOptions {}).Reachable := ⟨{}, [], rfl⟩
  obtain ⟨stored, delivered, expiry⟩ := expiry_of_send_ok reachable
    ⟨.autoAcknowledge, .nonPersistent, 5000⟩ "DEV.QUEUE.1" (.ofText "hello")
    ⟨⟨0, 0, by decide, by decide⟩, Vector.replicate 16 7⟩ rfl
  exact ⟨reachable, rfl, stored, delivered, expiry.mpr (.inl (by decide))⟩

/-- A message whose first producer has five seconds to live and whose second producer has none: the
second send succeeds, and stores and leaves the expiry of the first. -/
theorem expiry_outlives_send :
    let draw : Draw := ⟨⟨0, 0, by decide, by decide⟩, Vector.replicate 16 7⟩
    let first := send ⟨.autoAcknowledge, .nonPersistent, 5000⟩ "DEV.QUEUE.1" (.ofText "hello")
      draw (.ofOptions {})
    let second := send ⟨.autoAcknowledge, .nonPersistent, 0⟩ "DEV.QUEUE.1" first.message draw
      first.state
    first.state.Reachable ∧ second.result = .ok () ∧
      (second.state.committed "DEV.QUEUE.1").map (·.descriptor.expiry) =
        [.tenths 50, .tenths 50] ∧
      second.message.descriptor.map (·.expiry) = some (.tenths 50) ∧
      .tenths 50 ≠ Expiry.ofTimeToLive 0 := by
  have reachable : (QueueManager.ofOptions {}).Reachable := ⟨{}, [], rfl⟩
  exact ⟨reachable.send .., rfl, rfl, rfl, by decide⟩

end Producer

/-! ### One message sent many times -/

/-- A send of a message, with the queue manager that it meets. -/
structure Sending where
  producer : Producer
  queue    : String
  draw     : Draw
  manager  : QueueManager

namespace Sending

/-- The message as the sends leave it, one after the other. -/
def resend (m : Message) (sends : List Sending) : Message :=
  sends.foldl (fun m s => (s.producer.send s.queue m s.draw s.manager).message) m

/-- The expiry that a send writes: the queue is opened, and the producer has a time to live. -/
def written? (s : Sending) : Option Expiry :=
  if s.manager.openRefusal? s.queue .forSend = none ∧ 0 < s.producer.timeToLive then
    some (.ofTimeToLive s.producer.timeToLive.toNat)
  else none

theorem expiry_send (s : Sending) (there : s.manager.storageLost = false) (m : Message) :
    (s.producer.send s.queue m s.draw s.manager).message.descriptorOrNew.expiry =
      s.written?.getD m.descriptorOrNew.expiry := by
  rw [Producer.send_expiry there, Producer.descriptorFor_expiry, written?]
  by_cases opened : s.manager.openRefusal? s.queue .forSend = none
  · by_cases h : 0 < s.producer.timeToLive <;> simp [opened, h]
  · simp [opened]

/-- **The last expiry written stays.**  After any sends, a message carries the expiry that the
last of them to write one wrote, and its own if none did. -/
theorem expiry_resend (sends : List Sending) (m : Message)
    (reachable : ∀ s ∈ sends, s.manager.Reachable) :
    (resend m sends).descriptorOrNew.expiry =
      (sends.reverse.findSome? written?).getD m.descriptorOrNew.expiry := by
  induction sends generalizing m with
  | nil => rfl
  | cons s sends ih =>
      have step := s.expiry_send (reachable s (List.mem_cons_self ..)).there m
      have rest := ih (s.producer.send s.queue m s.draw s.manager).message
        fun t ht => reachable t (List.mem_cons_of_mem _ ht)
      rw [show resend m (s :: sends) = resend _ sends from rfl, rest, step, List.reverse_cons,
        List.findSome?_append]
      cases sends.reverse.findSome? written? with
      | some e => rfl
      | none => cases h : s.written? <;> simp [h]

end Sending

end Courier
