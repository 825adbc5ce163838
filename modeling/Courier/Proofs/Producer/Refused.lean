import Courier.Proofs.Producer.Send

/-!
# Courier — Proofs — What a refused send changes

A send can be refused in two places, and the error that the sender gets names the call: the queue
was not opened, or it was opened and the put was refused.  What is left behind differs.

* Not opened: nothing has changed, neither the message nor the queue manager.
* Put refused: the handle was closed again, so one more open and one more close are counted, and a
  queue that was not there is defined if the options say so, and empty
  (`QueueManager.OpensOnly`).  The message has the descriptor that was put: the producer's fields
  are in it, and the fields that it had from its sender and from the queue manager that took it
  last are as they were (`Message.KeepsOwn`).

**A refused send stores nothing** (`kept_of_send_error`): in both, every queue has its messages
and allows puts as before, the unit of work and the sequence number are as they were, and no put,
commit or backout is counted.
-/

namespace Courier

namespace QueueManager

/-- After `qm` comes `next`, with the same messages stored and the same puts allowed. -/
structure StoresNothing (qm next : QueueManager) : Prop where
  committed   : ∀ n, next.committed n = qm.committed n
  inhibits    : ∀ n, next.inhibits n = qm.inhibits n
  uncommitted : next.uncommitted = qm.uncommitted
  sequence    : next.sequence = qm.sequence
  quiescing   : next.quiescing = qm.quiescing
  puts        : next.statistics.puts = qm.statistics.puts
  commits     : next.statistics.commits = qm.statistics.commits
  backouts    : next.statistics.backouts = qm.statistics.backouts

/-- After `qm` comes `next`, where a handle to the queue was opened and closed.  The queue is as it
was, or it is empty and was defined because the options say so. -/
structure OpensOnly (qm next : QueueManager) (queue : String) : Prop where
  others      : ∀ n, n ≠ queue → next.queues.find? n = qm.queues.find? n
  destination : next.queues.find? queue = qm.queues.find? queue ∨
    qm.queues.find? queue = none ∧ qm.options.autoDefineQueues ∧
      next.queues.find? queue = some ⟨[], false⟩
  rest        : next =
    { qm with
      queues     := next.queues
      statistics :=
        { qm.statistics with
          opens  := qm.statistics.opens + 1
          closes := qm.statistics.closes + 1 } }

theorem storesNothing_refl (qm : QueueManager) : qm.StoresNothing qm :=
  ⟨fun _ => rfl, fun _ => rfl, rfl, rfl, rfl, rfl, rfl, rfl⟩

/-- A queue that is defined has no message and allows puts, as if it were not there. -/
theorem OpensOnly.storesNothing {qm next : QueueManager} {queue : String}
    (h : qm.OpensOnly next queue) : qm.StoresNothing next := by
  obtain ⟨others, destination, rest⟩ := h
  have kept (n : String) : next.committed n = qm.committed n ∧ next.inhibits n = qm.inhibits n := by
    simp only [committed, QueueTable.messages, inhibits]
    by_cases hn : n = queue
    · subst hn
      rcases destination with same | ⟨before, -, after⟩
      · rw [same]; exact ⟨rfl, rfl⟩
      · rw [before, after]; exact ⟨rfl, rfl⟩
    · rw [others n hn]; exact ⟨rfl, rfl⟩
  refine ⟨fun n => (kept n).1, fun n => (kept n).2, ?_, ?_, ?_, ?_, ?_, ?_⟩ <;> rw [rest]

theorem opensOnly_afterOpen {qm : QueueManager} {queue : String} {o : OpenOptions}
    (ok : qm.openRefusal? queue o = none) :
    qm.OpensOnly (qm.afterOpen queue).afterClose queue where
  others n h := (qm.find?_afterOpen queue n).trans (if_neg h)
  destination := by
    have opened : (qm.afterOpen queue).afterClose.queues.find? queue =
        some ⟨qm.committed queue, qm.inhibits queue⟩ :=
      (qm.find?_afterOpen queue queue).trans (if_pos rfl)
    rw [opened, committed, QueueTable.messages, inhibits]
    cases before : qm.queues.find? queue with
    | some q => exact .inl rfl
    | none =>
        -- a queue that is not there is opened only if it may be defined
        have missing : ¬ qm.queues.defined queue := by simp [QueueTable.defined, before]
        have auto := (openRefusal?_eq_none_iff.mp ok).2.resolve_left missing
        exact .inr ⟨rfl, auto, rfl⟩
  rest := rfl

end QueueManager

/-- `after` is `m`, with the body and those fields of the descriptor that no producer writes. -/
structure Message.KeepsOwn (m after : Message) : Prop where
  body                : after.body = m.body
  messageId           : after.descriptor.bind (·.messageId) = m.descriptor.bind (·.messageId)
  putTime             : after.descriptor.bind (·.putTime) = m.descriptor.bind (·.putTime)
  correlationId       :
    after.descriptor.bind (·.correlationId) = m.descriptor.bind (·.correlationId)
  replyToQueue        :
    after.descriptor.bind (·.replyToQueue) = m.descriptor.bind (·.replyToQueue)
  replyToQueueManager :
    after.descriptor.bind (·.replyToQueueManager) = m.descriptor.bind (·.replyToQueueManager)

namespace Producer

theorem keepsOwn_descriptorFor (p : Producer) (m : Message) :
    m.KeepsOwn (m.setDescriptor (p.descriptorFor m)) := by
  rw [descriptorFor_eq]
  exact ⟨rfl, field_descriptorOrNew (·.messageId) rfl m, field_descriptorOrNew (·.putTime) rfl m,
    field_descriptorOrNew (·.correlationId) rfl m, field_descriptorOrNew (·.replyToQueue) rfl m,
    field_descriptorOrNew (·.replyToQueueManager) rfl m⟩

/-- **A refused send stores nothing.**  If the queue was not opened, the message and the queue
manager are exactly as before.  If the put was refused, one open and one close more are counted,
the queue may have been defined, and the message keeps what no producer writes. -/
theorem kept_of_send_error (p : Producer) (queue : String) (m : Message) (draw : Draw)
    (qm : QueueManager) {x : SendException}
    (failed : (p.send queue m draw qm).answer = .error x) :
    let sent := p.send queue m draw qm
    qm.StoresNothing sent.state ∧
      ∃ e, x = .ofTransport e ∧
        (e.verb = .opening ∧ sent.message = m ∧ sent.state = qm ∨
          e.verb = .put ∧ m.KeepsOwn sent.message ∧ qm.OpensOnly sent.state queue) := by
  rw [answer_eq_error_iff] at failed
  obtain ⟨e, failed, rfl⟩ := failed
  have ending := ending_send p queue m draw qm
  generalize p.send queue m draw qm = sent at failed ending
  cases ending with
  | notOpened =>
      cases failed
      exact ⟨qm.storesNothing_refl, _, rfl, .inl ⟨rfl, rfl, rfl⟩⟩
  | refused ok =>
      cases failed
      have opened := QueueManager.opensOnly_afterOpen ok
      exact ⟨opened.storesNothing, _, rfl, .inr ⟨rfl, p.keepsOwn_descriptorFor m, opened⟩⟩
  | stored => cases failed

/-- A message that was sent, and is sent again to a queue that the send defines: its body is too
long for the second queue manager. -/
theorem kept_of_second_send :
    let p : Producer := ⟨.transacted, .persistent, 5000⟩
    let draw : Draw := ⟨⟨0, 0, by decide, by decide⟩, Vector.replicate 16 7⟩
    let m := (p.send "DEV.QUEUE.1" (.ofText "hello") draw (.ofOptions {})).message
    let qm := QueueManager.ofOptions { autoDefineQueues := true, maxMessageLength := 4 }
    let sent := p.send "NEW.QUEUE" m draw qm
    qm.Reachable ∧ m.descriptor ≠ none ∧
      sent.answer = .error (.ofTransport (.failed .put .messageTooBig)) ∧
      qm.StoresNothing sent.state ∧
      ∃ e, SendException.ofTransport (.failed .put .messageTooBig) = .ofTransport e ∧
        (e.verb = .opening ∧ sent.message = m ∧ sent.state = qm ∨
          e.verb = .put ∧ m.KeepsOwn sent.message ∧ qm.OpensOnly sent.state "NEW.QUEUE") := by
  have reachable : (QueueManager.ofOptions
      { autoDefineQueues := true, maxMessageLength := 4 }).Reachable := ⟨_, [], rfl⟩
  refine ⟨reachable, ?_, rfl, kept_of_send_error _ _ _ _ _ rfl⟩
  exact fun none => by cases none

end Producer

end Courier
