import Courier.Proofs.Producer.Outcome
import Courier.Proofs.Send.Copies

/-!
# Courier — Proofs — How far copies get

Copies of one message differ in what the queue manager writes, which is the identifier with its
number and the put time (`Producer.copy`).  So a run of accepted sends stores known messages
(`Sends.stored`), and the counters go on by its length (`Sends.advances`).

It follows which copies can be refused.  Of the six faults of a send, five can be read off the
message, the options and the queue, and those stay as they are while copies are sent, except that
the queue is there from the first one on.  So whatever refuses a copy after the first is a full
queue (`Sends.fault_of_refused`), and that depends on their number alone (`Grows.depth`).
-/

namespace Courier

/-! ### One copy -/

/-- The message as it is stored by a send that gives it the number `n`. -/
def Producer.copy (p : Producer) (m : Message) (draw : Draw) (n : Nat) : StoredMessage :=
  ⟨{ p.descriptorFor m with
      messageId := some (.generate draw.entropy n)
      putTime   := some draw.now }, m.payload⟩

/-- The headers of a message that is stored. -/
def StoredMessage.shown (s : StoredMessage) : SentMessage where
  messageId    := s.descriptor.messageId.map (·.header)
  timestamp    := (s.descriptor.putTime.map (·.millis)).getD 0
  deliveryMode := if s.descriptor.persistence = .persistent then .persistent else .nonPersistent
  expiration   := (s.descriptor.expiresAt?.map (·.millis)).getD 0
  format       := s.descriptor.format
  length       := s.payload.size

section
variable {p : Producer} {queue : String} {m : Message} {draw : Draw} {qm : QueueManager}

theorem Producer.send_eq_of_ok (ok : (p.send queue m draw qm).answer = .ok ()) :
    p.send queue m draw qm =
      ⟨.ok (), m.setDescriptor (p.copy m draw (qm.sequence + 1)).descriptor,
        p.afterSend queue (p.copy m draw (qm.sequence + 1)) qm, []⟩ := by
  have ending := p.ending_send queue m draw qm
  generalize p.send queue m draw qm = sent at ok ending
  cases ending with
  | notOpened | refused => cases ok
  | stored => rfl

/-- The headers that a sender reads off a copy are those of the message that is stored. -/
theorem shown_copy (n : Nat) :
    SentMessage.ofMessage (m.setDescriptor (p.copy m draw n).descriptor) =
      (p.copy m draw n).shown := by
  have format : (p.copy m draw n).descriptor.format = m.format := by
    rw [Producer.copy, p.descriptorFor_eq]
  simp only [StoredMessage.shown, format]
  rfl

end

/-! ### What accepted sends leave alone -/

namespace QueueManager

/-- After `qm` comes `next`, `n` accepted sends to the queue later: they leave the queue there, the
counters go on by `n`, and all that a put is judged by but the depth of the queue is as before. -/
structure Advances (qm next : QueueManager) (queue : String) (n : Nat) : Prop where
  defined    : next.queues.defined queue ↔ qm.queues.defined queue ∨ 0 < n
  inhibits   : next.inhibits queue = qm.inhibits queue
  options    : next.options = qm.options
  quiescing  : next.quiescing = qm.quiescing
  sequence   : next.sequence = qm.sequence + n
  statistics : next.statistics =
    { qm.statistics with
      opens  := qm.statistics.opens + n
      closes := qm.statistics.closes + n
      puts   := qm.statistics.puts + n }

variable {qm next last : QueueManager} {mode : SessionMode} {queue : String}

theorem Advances.refl (qm : QueueManager) (queue : String) : qm.Advances qm queue 0 :=
  ⟨by simp, rfl, rfl, rfl, rfl, rfl⟩

theorem Advances.trans {n k : Nat} (h : qm.Advances next queue n)
    (h' : next.Advances last queue k) : qm.Advances last queue (n + k) where
  defined := by rw [h'.defined, h.defined, or_assoc, Nat.add_pos_iff_pos_or_pos]
  inhibits := h'.inhibits.trans h.inhibits
  options := h'.options.trans h.options
  quiescing := h'.quiescing.trans h.quiescing
  sequence := by rw [h'.sequence, h.sequence, Nat.add_assoc]
  statistics := by rw [h'.statistics, h.statistics]; simp only [Nat.add_assoc]

theorem StoresOne.advances {stored : StoredMessage} (h : qm.StoresOne next mode queue stored) :
    qm.Advances next queue 1 := by
  obtain ⟨destination, -, -, rest⟩ := h
  refine ⟨?_, ?_, ?_, ?_, ?_, ?_⟩
  · simp [QueueTable.defined, destination]
  · simp [QueueManager.inhibits, destination]
  all_goals rw [rest]

/-- Every message that is sent takes room on its queue, under syncpoint as well. -/
theorem Grows.depth {stored : List StoredMessage} (h : qm.Grows next mode queue stored) :
    (next.committed queue).length + next.uncommittedDepth queue =
      (qm.committed queue).length + qm.uncommittedDepth queue + stored.length := by
  rw [h.committed, uncommittedDepth, uncommittedDepth, h.uncommitted]
  cases mode with
  | autoAcknowledge => simp [SessionMode.isTransacted]; omega
  | transacted => simp [SessionMode.isTransacted, Nat.add_assoc, List.filter_eq_self.mpr]

end QueueManager

/-! ### Runs of accepted sends -/

section
variable {p : Producer} {queue : String} {m : Message} {draws : Nat → Draw} {i : Nat}
  {sent : List Message} {qm last : QueueManager}

theorem Sends.advances (sends : Sends p queue m draws i sent qm last) :
    qm.Advances last queue sent.length := by
  induction sends with
  | none i qm => exact .refl qm queue
  | @more i sent qm last ok rest ih =>
      rw [Producer.send_eq_of_ok ok] at ih
      have one := (p.storesOne_afterSend queue (p.copy m (draws i) (qm.sequence + 1)) qm).advances
      have all := one.trans ih
      rwa [Nat.add_comm] at all

theorem Sends.message (sends : Sends p queue m draws i sent qm last) :
    ∀ (k : Nat) (m' : Message), sent[k]? = some m' →
      m' = m.setDescriptor (p.copy m (draws (i + k)) (qm.sequence + k + 1)).descriptor := by
  induction sends with
  | none i qm => intro k m' h; cases h
  | @more i sent qm last ok rest ih =>
      rw [Producer.send_eq_of_ok ok] at ih ⊢
      intro k m' h
      cases k with
      | zero => cases h; rfl
      | succ k =>
          have later := ih k m' h
          have sequence : (p.afterSend queue (p.copy m (draws i) (qm.sequence + 1)) qm).sequence =
              qm.sequence + 1 := rfl
          rwa [sequence, show i + 1 + k = i + (k + 1) by omega,
            show qm.sequence + 1 + k + 1 = qm.sequence + (k + 1) + 1 by omega] at later

theorem Sends.stored (sends : Sends p queue m draws i sent qm last) {k : Nat} {s : StoredMessage}
    (h : (sent.map (·.asStored))[k]? = some s) :
    s = p.copy m (draws (i + k)) (qm.sequence + k + 1) := by
  rw [List.getElem?_map] at h
  obtain ⟨m', hm', rfl⟩ := Option.map_eq_some_iff.mp h
  rw [sends.message k m' hm']
  rfl

/-- What a sender reads off the messages is what is stored of them. -/
theorem Sends.shown (sends : Sends p queue m draws i sent qm last) :
    sent.map SentMessage.ofMessage = (sent.map (·.asStored)).map StoredMessage.shown := by
  rw [List.map_map]
  refine List.map_congr_left fun m' hm' => ?_
  obtain ⟨k, hk⟩ := List.getElem?_of_mem hm'
  rw [sends.message k m' hk]
  exact shown_copy _

/-! ### The faults of a copy -/

/-- A message that could be sent can be sent again, unless the queue is full. -/
theorem QueueManager.Advances.full_of_applies {n : Nat} (h : qm.Advances last queue n)
    (pos : 0 < n) (free : ∀ f : SendFault, ¬ f.Applies p queue m qm) {f : SendFault}
    (applies : f.Applies p queue m last) : f = .full := by
  have none := free f
  cases f with
  | full => rfl
  | notDefined => exact absurd (h.defined.mpr (.inr pos)) applies.1
  | noLifetime => exact absurd applies none
  | quiescing => rw [SendFault.Applies, h.quiescing] at applies; exact absurd applies none
  | tooLong => rw [SendFault.Applies, h.options] at applies; exact absurd applies none
  | inhibited => rw [SendFault.Applies, h.inhibits] at applies; exact absurd applies none

/-- **What refuses a copy.**  It is one of the faults of a send, and after the first copy a full
queue. -/
theorem Sends.fault_of_refused (sends : Sends p queue m draws i sent qm last)
    (there : qm.storageLost = false) (waiting : qm.Waiting) {draw : Draw} {x : SendException}
    (no : (p.send queue m draw last).answer = .error x) :
    ∃ f : SendFault, x = .ofTransport f.failure ∧ f.Applies p queue m last ∧
      (sent ≠ [] → f = .full) := by
  obtain ⟨f, applies, told⟩ :=
    Producer.exists_fault_of_send_error (sends.ready there waiting).1 no
  refine ⟨f, told, applies, fun some => ?_⟩
  have free : ∀ f : SendFault, ¬ f.Applies p queue m qm := by
    cases sends with
    | none => exact absurd rfl some
    | more ok => exact (Producer.send_ok_iff there _).mp ok
  exact sends.advances.full_of_applies (List.length_pos_iff.mpr some) free applies

end

end Courier
