import Courier.Producer
import Courier.Proofs.QueueManager.Run

/-!
# Courier — Proofs — How a send ends

A send opens the queue, puts once and closes the handle.  With the storage there it ends in one
of three ways: the queue is not opened and nothing changes (`send_eq_of_openRefusal`), the put is
refused (`send_eq_of_putRefusal`), or the message is stored (`send_eq`); the caller is told which
(`accepted_of_send_ok`).  Without the storage no queue is opened, so the three ways are all there
are (`Producer.Ending`, `ending_send`).  A send that is accepted adds one message, to its queue or
to the unit of work (`committed_afterSend`, `uncommitted_afterSend`).

A send makes no calls but those of a client, so it leads from reachable states to reachable ones
(`Reachable.send`).
-/

namespace Courier

namespace Producer

/-- The handle that a send puts through. -/
def sendHandle (queue : String) : Handle := ⟨queue, .forSend, false⟩

/-- What a send stores: the descriptor as the queue manager completes it, and the payload. -/
def sent (p : Producer) (m : Message) (draw : Draw) (qm : QueueManager) : StoredMessage :=
  ⟨qm.stamp (p.descriptorFor m) p.putOptions draw, m.payload⟩

/-- Why the put of a send is refused, once the queue is open. -/
def putRefusal? (p : Producer) (queue : String) (m : Message) (qm : QueueManager) :
    Option Reason :=
  (qm.afterOpen queue).putRefusal? (sendHandle queue) (p.descriptorFor m) m.payload

/-- The state after a message was stored and the handle closed. -/
def afterSend (p : Producer) (queue : String) (m : StoredMessage) (qm : QueueManager) :
    QueueManager :=
  ((qm.afterOpen queue).store queue p.putOptions true m).afterClose

section
variable {p : Producer} {queue : String} {m : Message} {qm : QueueManager}

theorem transport_close (there : qm.storageLost = false) (queue : String) :
    QueueManager.transport.close (sendHandle queue) qm = (.ok (), qm.afterClose) := by
  simp only [QueueManager.transport, QueueManager.close_eq there (h := sendHandle queue) rfl]

/-- A queue that is not opened leaves the message and the state alone. -/
theorem send_eq_of_not_opened {e : TransportError}
    (no : qm.openQueue queue .forSend = (.error e, qm)) (draw : Draw) :
    p.send queue m draw qm = ⟨.error e, m, qm, resultEvents queue (.error e)⟩ := by
  have refused : QueueManager.transport.openQueue queue .forSend qm = (.error e, qm) := no
  simp only [send, sendVia, Guard.acquire, refused, Except.map]

theorem send_eq_of_openRefusal (there : qm.storageLost = false) {r : Reason}
    (no : qm.openRefusal? queue .forSend = some r) (draw : Draw) :
    p.send queue m draw qm =
      ⟨.error (.failed .opening r), m, qm,
        resultEvents queue (.error (.failed .opening r))⟩ :=
  send_eq_of_not_opened (QueueManager.openQueue_eq_of_refused there no) draw

theorem send_eq_of_putRefusal (there : qm.storageLost = false) {r : Reason}
    (ok : qm.openRefusal? queue .forSend = none) (no : p.putRefusal? queue m qm = some r)
    (draw : Draw) :
    p.send queue m draw qm =
      ⟨.error (.failed .put r), m.setDescriptor (p.descriptorFor m),
        (qm.afterOpen queue).afterClose, resultEvents queue (.error (.failed .put r))⟩ := by
  have opened : QueueManager.transport.openQueue queue .forSend qm =
      (.ok (sendHandle queue), qm.afterOpen queue) := QueueManager.openQueue_eq there ok
  have refused : QueueManager.transport.put (sendHandle queue) (p.descriptorFor m) p.putOptions
      m.payload draw (qm.afterOpen queue) =
        (.error (.failed .put r), p.descriptorFor m, qm.afterOpen queue) :=
    QueueManager.put_eq_of_refused no ..
  have there' : (qm.afterOpen queue).storageLost = false := there
  have closed := transport_close there' queue
  simp only [send, sendVia, Guard.acquire, opened, Except.map, Guard.put, refused, Guard.drop,
    closed, List.nil_append]

theorem send_eq (there : qm.storageLost = false)
    (ok : qm.openRefusal? queue .forSend = none) (accepted : p.putRefusal? queue m qm = none)
    (draw : Draw) :
    p.send queue m draw qm =
      ⟨.ok (), m.setDescriptor (p.sent m draw qm).descriptor,
        p.afterSend queue (p.sent m draw qm) qm, []⟩ := by
  have opened : QueueManager.transport.openQueue queue .forSend qm =
      (.ok (sendHandle queue), qm.afterOpen queue) := QueueManager.openQueue_eq there ok
  have put : QueueManager.transport.put (sendHandle queue) (p.descriptorFor m) p.putOptions
      m.payload draw (qm.afterOpen queue) =
        (.ok (), (p.sent m draw qm).descriptor,
          (qm.afterOpen queue).store queue p.putOptions true (p.sent m draw qm)) :=
    QueueManager.put_eq accepted ..
  have there' : ((qm.afterOpen queue).store queue p.putOptions true
      (p.sent m draw qm)).storageLost = false := there
  have closed := transport_close there' queue
  simp only [send, sendVia, Guard.acquire, opened, Except.map, Guard.put, put, Guard.drop,
    closed, List.nil_append, resultEvents, afterSend]

/-- All the ways in which a send ends, and what it leaves behind in each. -/
inductive Ending (p : Producer) (queue : String) (m : Message) (draw : Draw) (qm : QueueManager) :
    Sent QueueManager → Prop where
  | notOpened {r : Reason} (no : qm.openQueue queue .forSend = (.error (.failed .opening r), qm)) :
      Ending p queue m draw qm
        ⟨.error (.failed .opening r), m, qm, resultEvents queue (.error (.failed .opening r))⟩
  | refused {r : Reason} (ok : qm.openRefusal? queue .forSend = none)
      (no : p.putRefusal? queue m qm = some r) :
      Ending p queue m draw qm
        ⟨.error (.failed .put r), m.setDescriptor (p.descriptorFor m),
          (qm.afterOpen queue).afterClose, resultEvents queue (.error (.failed .put r))⟩
  | stored (ok : qm.openRefusal? queue .forSend = none)
      (accepted : p.putRefusal? queue m qm = none) :
      Ending p queue m draw qm
        ⟨.ok (), m.setDescriptor (p.sent m draw qm).descriptor,
          p.afterSend queue (p.sent m draw qm) qm, []⟩

/-- A send ends in one of these ways, also when the storage is lost. -/
theorem ending_send (p : Producer) (queue : String) (m : Message) (draw : Draw)
    (qm : QueueManager) : Ending p queue m draw qm (p.send queue m draw qm) := by
  cases there : qm.storageLost with
  | true =>
      have no : qm.openQueue queue .forSend = (.error (.failed .opening .resourceProblem), qm) :=
        if_pos there
      rw [send_eq_of_not_opened no]
      exact .notOpened no
  | false =>
      cases ok : qm.openRefusal? queue .forSend with
      | some r =>
          rw [send_eq_of_openRefusal there ok]
          exact .notOpened (QueueManager.openQueue_eq_of_refused there ok)
      | none =>
          cases accepted : p.putRefusal? queue m qm with
          | some r => rw [send_eq_of_putRefusal there ok accepted]; exact .refused ok accepted
          | none => rw [send_eq there ok accepted]; exact .stored ok accepted

/-- Only a send that nothing refuses is answered without an error. -/
theorem accepted_of_send_ok (there : qm.storageLost = false) {draw : Draw}
    (ok : (p.send queue m draw qm).result = .ok ()) :
    qm.openRefusal? queue .forSend = none ∧ p.putRefusal? queue m qm = none := by
  cases opened : qm.openRefusal? queue .forSend with
  | some r => rw [send_eq_of_openRefusal there opened] at ok; cases ok
  | none =>
      cases accepted : p.putRefusal? queue m qm with
      | some r => rw [send_eq_of_putRefusal there opened accepted] at ok; cases ok
      | none => exact ⟨rfl, rfl⟩

end

/-- What the caller is told tells which of the ways it was. -/
theorem answer_eq_ok_iff {σ : Type} {sent : Sent σ} :
    sent.answer = .ok () ↔ sent.result = .ok () := by
  obtain ⟨result, message, state, events⟩ := sent
  cases result with
  | ok u => exact ⟨fun _ => rfl, fun _ => rfl⟩
  | error e => constructor <;> intro h <;> cases h

theorem answer_eq_error_iff {σ : Type} {sent : Sent σ} {x : SendException} :
    sent.answer = .error x ↔ ∃ e, sent.result = .error e ∧ x = .ofTransport e := by
  obtain ⟨result, message, state, events⟩ := sent
  cases result with
  | ok u =>
      constructor
      · intro h
        cases h
      · rintro ⟨e, h, -⟩
        cases h
  | error e =>
      constructor
      · intro h
        cases h
        exact ⟨e, rfl, rfl⟩
      · rintro ⟨e', h, rfl⟩
        cases h
        rfl

/-! ### The descriptor that is put -/

/-- A producer writes the format, the persistence and, if it has one, the expiry of a message; the
other fields are the message's own. -/
theorem descriptorFor_eq (p : Producer) (m : Message) :
    p.descriptorFor m =
      { m.descriptorOrNew with
        format      := m.format
        persistence := p.deliveryMode.persistence
        expiry      :=
          if 0 < p.timeToLive then .ofTimeToLive p.timeToLive.toNat
          else m.descriptorOrNew.expiry } := by
  unfold descriptorFor
  split <;> rfl

/-- A field that a new descriptor leaves open is read alike from a message's descriptor and from
the one that it is put with. -/
theorem field_descriptorOrNew {α : Type} (field : Descriptor → Option α) (new : field {} = none)
    (m : Message) : field m.descriptorOrNew = m.descriptor.bind field := by
  rw [Message.descriptorOrNew]
  cases m.descriptor with
  | none => exact new
  | some d => rfl

/-! ### What is set several times -/

/-- **What is set last stays.**  If every step either sets what `view` sees or leaves it, the last
step that set it tells what is seen after all. -/
theorem view_foldl {α β γ : Type} {step : β → α → β} (view : β → γ) {set? : α → Option γ}
    (h : ∀ b a, view (step b a) = (set? a).getD (view b)) (steps : List α) :
    ∀ b, view (steps.foldl step b) = ((steps.filterMap set?).getLast?).getD (view b) := by
  induction steps with
  | nil => exact fun _ => rfl
  | cons a steps ih =>
      intro b
      rw [List.foldl_cons, ih, h]
      cases set : set? a with
      | none => rw [List.filterMap_cons_none set]; rfl
      | some c =>
          rw [List.filterMap_cons_some set, List.getLast?_cons]
          cases (steps.filterMap set?).getLast? <;> rfl

/-! ### Where the message is -/

section
variable (p : Producer) (queue : String) (m : StoredMessage) (qm : QueueManager)

/-- The queue of the message is there after the send, with its messages and the new one, which
waits elsewhere if the session is transacted; the other queues are as they were. -/
theorem find?_afterSend (n : String) :
    (p.afterSend queue m qm).queues.find? n =
      if n = queue then
        some ⟨qm.committed queue ++ (if p.session.isTransacted then [] else [m]),
          qm.inhibits queue⟩
      else qm.queues.find? n := by
  have opened := qm.find?_afterOpen queue n
  have table : (p.afterSend queue m qm).queues =
      if p.session.isTransacted then (qm.afterOpen queue).queues
      else (qm.afterOpen queue).queues.append queue m := rfl
  rw [table]
  cases p.session.isTransacted with
  | true => simpa using opened
  | false =>
      rw [if_neg Bool.false_ne_true, QueueTable.find?_append, opened]
      by_cases h : n = queue <;> simp [h]

theorem committed_afterSend (n : String) :
    (p.afterSend queue m qm).committed n =
      qm.committed n ++ addressed n (if p.session.isTransacted then [] else [⟨queue, m⟩]) := by
  have opened : (qm.afterOpen queue).committed n = qm.committed n :=
    QueueTable.messages_define qm.queues queue n
  have defined : (qm.afterOpen queue).queues.defined queue :=
    (QueueTable.defined_define ..).mpr (.inl rfl)
  rw [← opened]
  exact QueueManager.committed_store defined p.putOptions true m n

theorem uncommitted_afterSend :
    (p.afterSend queue m qm).uncommitted =
      qm.uncommitted ++ if p.session.isTransacted then [⟨queue, m⟩] else [] :=
  (qm.afterOpen queue).uncommitted_store queue p.putOptions true m

end

end Producer

/-! ### Sends are runs -/

namespace Connection

/-- Closing the handle that was opened last. -/
theorem perform_close_last {qm : QueueManager} (there : qm.storageLost = false)
    (handles : List Handle) {h : Handle} (isOpen : h.closed = false) :
    ((mk qm (handles ++ [h])).perform (.close handles.length)).manager = qm.afterClose := by
  simp only [perform, List.getElem?_concat_length, QueueManager.close_eq there isOpen]

/-- Putting to the handle that was opened last. -/
theorem perform_put_last (qm : QueueManager) (handles : List Handle) (h : Handle)
    (d : Descriptor) (o : PutOptions) (payload : ByteArray) (draw : Draw) :
    (mk qm (handles ++ [h])).perform (.put handles.length d o payload draw) =
      mk (qm.put h d o payload draw).2.2 (handles ++ [h]) := by
  simp only [perform, List.getElem?_concat_length]

/-- A send makes a client's calls: an open, a put and a close of the new handle. -/
theorem exists_run_eq_send {c : Connection} (there : c.manager.storageLost = false)
    (p : Producer) (queue : String) (m : Message) (draw : Draw) :
    ∃ ops, (c.run ops).manager = (p.send queue m draw c.manager).state := by
  cases opened : c.manager.openRefusal? queue .forSend with
  | some r => exact ⟨[], by rw [Producer.send_eq_of_openRefusal there opened]; rfl⟩
  | none =>
      have first : c.perform (.openQueue queue .forSend) =
          ⟨c.manager.afterOpen queue, c.handles ++ [Producer.sendHandle queue]⟩ := by
        simp only [perform, QueueManager.openQueue_eq there opened]
        rfl
      -- the new handle stands after those that the connection had
      let put : Operation := .put c.handles.length (p.descriptorFor m) p.putOptions m.payload draw
      refine ⟨[.openQueue queue .forSend, put, .close c.handles.length], ?_⟩
      simp only [put, run, List.foldl_cons, List.foldl_nil, first, perform_put_last]
      cases accepted : p.putRefusal? queue m c.manager with
      | some r =>
          have there' : (c.manager.afterOpen queue).storageLost = false := there
          rw [Producer.send_eq_of_putRefusal there opened accepted,
            QueueManager.put_eq_of_refused accepted]
          exact perform_close_last there' c.handles rfl
      | none =>
          have there' : ((c.manager.afterOpen queue).store queue p.putOptions true
              (p.sent m draw c.manager)).storageLost = false := there
          rw [Producer.send_eq there opened accepted, QueueManager.put_eq accepted]
          exact perform_close_last there' c.handles rfl

end Connection

theorem QueueManager.Reachable.send {qm : QueueManager} (h : qm.Reachable) (p : Producer)
    (queue : String) (m : Message) (draw : Draw) : (p.send queue m draw qm).state.Reachable := by
  have there := h.there
  obtain ⟨o, ops, rfl⟩ := h
  obtain ⟨more, same⟩ := Connection.exists_run_eq_send there p queue m draw
  refine ⟨o, ops ++ more, ?_⟩
  rw [← same, Connection.run, List.foldl_append]
  rfl

end Courier
