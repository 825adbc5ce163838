import Courier.Proofs.QueueManager.Calls

/-!
# Courier — Proofs — A state with its unit of work settled

`settled` puts the unit of work on the queues.  A queue manager and its settled state refuse the
same calls: the same queues are defined, and a queue has as many messages committed in the
settled state as it has committed and waiting in the other (`openRefusal?_settled`,
`putRefusal?_settled`).

Settling also commutes with every call: a call made before it can be made after it, where a put
under syncpoint becomes a put without (`settled_store`).  An open may define a queue, and
that commutes only as long as every message that waits has its queue (`Waiting`).
-/

namespace Courier.QueueManager

theorem settled_eq_self {qm : QueueManager} (h : qm.uncommitted = []) : qm.settled = qm := by
  rw [settled, h]
  exact congrArg ({ qm with uncommitted := · }) h.symm

/-! ### What is refused -/

theorem openRefusal?_settled (qm : QueueManager) (queue : String) (o : OpenOptions) :
    qm.settled.openRefusal? queue o = qm.openRefusal? queue o := by
  simp only [openRefusal?, settled, QueueTable.defined_deliver]

/-- Settling moves messages to their queue, and a put counts them either way. -/
theorem putRefusal?_settled (qm : QueueManager) (h : Handle) (d : Descriptor)
    (payload : ByteArray) : qm.settled.putRefusal? h d payload = qm.putRefusal? h d payload := by
  simp only [putRefusal?, uncommittedDepth_eq, settled, QueueTable.find?_deliver]
  cases qm.queues.find? h.queue with
  | none => rfl
  | some q =>
      simp only [Option.map_some, List.length_append, addressed_nil, List.length_nil,
        Nat.add_zero]

/-! ### Calls before and after settling -/

theorem settled_define {qm : QueueManager} (waiting : qm.Waiting) (queue : String) :
    ({ qm with queues := qm.queues.define queue } : QueueManager).settled =
      { qm.settled with queues := qm.settled.queues.define queue } := by
  simp only [settled, QueueTable.define_deliver waiting]

theorem settled_inhibit (qm : QueueManager) (queue : String) (inhibited : Bool) :
    ({ qm with
      queues := qm.queues.modify queue fun q => { q with putInhibited := inhibited } } :
        QueueManager).settled =
      { qm.settled with
        queues := qm.settled.queues.modify queue fun q =>
          { q with putInhibited := inhibited } } := by
  simp only [settled, QueueTable.inhibit_deliver]

theorem settled_afterOpen {qm : QueueManager} (waiting : qm.Waiting) (queue : String) :
    (qm.afterOpen queue).settled = qm.settled.afterOpen queue := by
  simp only [settled, afterOpen, QueueTable.define_deliver waiting]

theorem settled_afterClose (qm : QueueManager) :
    qm.afterClose.settled = qm.settled.afterClose := rfl

/-- A put under syncpoint, settled, is a put without syncpoint. -/
theorem settled_store (qm : QueueManager) (queue : String) (newMessageId drawn : Bool)
    (m : StoredMessage) :
    (qm.store queue ⟨true, newMessageId⟩ drawn m).settled =
      qm.settled.store queue ⟨false, newMessageId⟩ drawn m := by
  have last := qm.queues.append_deliver qm.uncommitted ⟨queue, m⟩
  simp only [store, settled, if_true, Bool.false_eq_true, if_false, last]

/-! ### What waits keeps its queue -/

theorem waiting_of_empty {qm : QueueManager} (empty : qm.uncommitted = []) : qm.Waiting := by
  intro m hm
  rw [empty] at hm
  cases hm

theorem Waiting.define {qm : QueueManager} (waiting : qm.Waiting) (queue : String) :
    ({ qm with queues := qm.queues.define queue } : QueueManager).Waiting :=
  fun m hm => (QueueTable.defined_define ..).mpr (.inr (waiting m hm))

theorem Waiting.inhibit {qm : QueueManager} (waiting : qm.Waiting) (queue : String)
    (inhibited : Bool) :
    ({ qm with
      queues := qm.queues.modify queue fun q => { q with putInhibited := inhibited } } :
        QueueManager).Waiting :=
  fun m hm => by rw [QueueTable.defined_modify]; exact waiting m hm

theorem Waiting.store {qm : QueueManager} (waiting : qm.Waiting) {queue : String}
    (h : qm.queues.defined queue) (o : PutOptions) (drawn : Bool) (m : StoredMessage) :
    (qm.store queue o drawn m).Waiting := by
  intro n hn
  rw [defined_store]
  rw [uncommitted_store] at hn
  rcases List.mem_append.mp hn with hn | hn
  · exact waiting n hn
  · cases hs : o.syncpoint with
    | true => rw [hs] at hn; cases List.mem_singleton.mp hn; exact h
    | false => rw [hs] at hn; cases hn

end Courier.QueueManager
