import Courier.Proofs.QueueManager.Table

/-!
# Courier — Proofs — What each call does

Each call to a queue manager whose storage is there ends in one of few ways.  This file names the
states in which they end (`afterOpen`, `afterClose`, `afterCommit`, `afterBackout`, and `store`
for a put) and gives one equation for each way; the proofs about runs use these equations and do
not open the calls again.

`settled` is the state whose unit of work is on the queues already.  A commit leaves that state,
with one more commit counted (`afterCommit`), and loses no message if all that waits has its queue
(`Waiting`).
-/

namespace Courier

namespace QueueManager

/-! ### States after a call -/

/-- The committed messages of a queue, oldest first. -/
def committed (qm : QueueManager) (queue : String) : List StoredMessage :=
  qm.queues.messages queue

/-- Whether puts to a queue are refused; those to a queue that is not defined are not. -/
def inhibits (qm : QueueManager) (queue : String) : Bool :=
  ((qm.queues.find? queue).map (·.putInhibited)).getD false

def afterOpen (qm : QueueManager) (queue : String) : QueueManager :=
  { qm with
    queues     := qm.queues.define queue
    statistics := { qm.statistics with opens := qm.statistics.opens + 1 } }

def afterClose (qm : QueueManager) : QueueManager :=
  { qm with statistics := { qm.statistics with closes := qm.statistics.closes + 1 } }

/-- The state with the unit of work at the ends of the queues. -/
def settled (qm : QueueManager) : QueueManager :=
  { qm with queues := qm.queues.deliver qm.uncommitted, uncommitted := [] }

/-- Every message of the unit of work has its queue. -/
def Waiting (qm : QueueManager) : Prop := ∀ m ∈ qm.uncommitted, qm.queues.defined m.queue

def afterCommit (qm : QueueManager) : QueueManager :=
  { qm.settled with
    statistics := { qm.statistics with commits := qm.statistics.commits + 1 } }

def afterBackout (qm : QueueManager) : QueueManager :=
  { qm with
    uncommitted := []
    statistics  := { qm.statistics with backouts := qm.statistics.backouts + 1 } }

/-! ### A new queue manager -/

theorem find?_ofOptions (o : ManagerOptions) (queue : String) :
    (ofOptions o).queues.find? queue = if queue ∈ o.queues then some {} else none := by
  have define (names : List String) : ∀ t : QueueTable,
      (names.foldl QueueTable.define t).find? queue =
        if queue ∈ names then some ((t.find? queue).getD {}) else t.find? queue := by
    induction names with
    | nil => exact fun t => by simp
    | cons name names ih =>
        intro t
        rw [List.foldl_cons, ih, QueueTable.find?_define]
        by_cases h : queue = name <;> simp [h]
  exact define o.queues []

theorem defined_ofOptions (o : ManagerOptions) (queue : String) :
    (ofOptions o).queues.defined queue ↔ queue ∈ o.queues := by
  rw [QueueTable.defined, find?_ofOptions]
  split <;> simp [*]

theorem inhibits_ofOptions (o : ManagerOptions) (queue : String) :
    (ofOptions o).inhibits queue = false := by
  rw [inhibits, find?_ofOptions]
  split <;> rfl

theorem committed_ofOptions (o : ManagerOptions) (queue : String) :
    (ofOptions o).committed queue = [] := by
  rw [committed, QueueTable.messages, find?_ofOptions]
  split <;> rfl

/-! ### What calls leave on the queues -/

/-- An opened queue is there, with the messages that it had. -/
theorem find?_afterOpen (qm : QueueManager) (queue n : String) :
    (qm.afterOpen queue).queues.find? n =
      if n = queue then some ⟨qm.committed queue, qm.inhibits queue⟩ else qm.queues.find? n := by
  have same : (qm.queues.find? queue).getD {} = ⟨qm.committed queue, qm.inhibits queue⟩ := by
    rw [committed, QueueTable.messages, inhibits]
    cases qm.queues.find? queue <;> rfl
  rw [afterOpen, QueueTable.find?_define, same]

theorem committed_store {qm : QueueManager} {queue : String} (h : qm.queues.defined queue)
    (o : PutOptions) (drawn : Bool) (m : StoredMessage) (n : String) :
    (qm.store queue o drawn m).committed n =
      qm.committed n ++ addressed n (if o.syncpoint then [] else [⟨queue, m⟩]) := by
  obtain ⟨syncpoint, newMessageId⟩ := o
  cases syncpoint with
  | true => exact (List.append_nil _).symm
  | false => exact QueueTable.messages_append h n m

theorem uncommitted_store (qm : QueueManager) (queue : String) (o : PutOptions) (drawn : Bool)
    (m : StoredMessage) :
    (qm.store queue o drawn m).uncommitted =
      qm.uncommitted ++ if o.syncpoint then [⟨queue, m⟩] else [] := by
  obtain ⟨syncpoint, newMessageId⟩ := o
  cases syncpoint with
  | true => rfl
  | false => exact (List.append_nil _).symm

theorem defined_store (qm : QueueManager) (queue : String) (o : PutOptions) (drawn : Bool)
    (m : StoredMessage) (n : String) :
    (qm.store queue o drawn m).queues.defined n = qm.queues.defined n := by
  obtain ⟨syncpoint, newMessageId⟩ := o
  cases syncpoint with
  | true => rfl
  | false => exact QueueTable.defined_append qm.queues queue n m

/-! ### Calls with the storage there -/

section
variable {qm : QueueManager} (there : qm.storageLost = false)
include there

theorem guarded_eq {α : Type} (verb : Verb) (call : Except TransportError α × QueueManager) :
    qm.guarded verb call = call := by
  simp [guarded, there]

theorem browse_eq {queue : String} (h : qm.queues.defined queue) :
    qm.browse queue = .ok (qm.committed queue) := by
  obtain ⟨q, hq⟩ := QueueTable.defined_iff.mp h
  rw [committed, QueueTable.messages_of_find? hq]
  simp [browse, look, there, hq]

theorem defineQueue_eq (queue : String) :
    qm.defineQueue queue = (.ok (), { qm with queues := qm.queues.define queue }) :=
  guarded_eq there ..

theorem setPutInhibited_eq {queue : String} (h : qm.queues.defined queue) (inhibited : Bool) :
    qm.setPutInhibited queue inhibited =
      (.ok (), { qm with
        queues := qm.queues.modify queue fun q => { q with putInhibited := inhibited } }) := by
  rw [setPutInhibited, guarded_eq there, if_pos h]

theorem setPutInhibited_eq_of_not_defined {queue : String} (h : ¬ qm.queues.defined queue)
    (inhibited : Bool) :
    qm.setPutInhibited queue inhibited = (.error (.failed .put .unknownObjectName), qm) := by
  rw [setPutInhibited, guarded_eq there, if_neg h]

theorem quiesce_eq : qm.quiesce = (.ok (), { qm with quiescing := true }) :=
  guarded_eq there ..

theorem openQueue_eq {queue : String} {o : OpenOptions} (h : qm.openRefusal? queue o = none) :
    qm.openQueue queue o = (.ok ⟨queue, o, false⟩, qm.afterOpen queue) := by
  rw [openQueue, guarded_eq there, h]; rfl

theorem openQueue_eq_of_refused {queue : String} {o : OpenOptions} {r : Reason}
    (h : qm.openRefusal? queue o = some r) :
    qm.openQueue queue o = (.error (.failed .opening r), qm) := by
  rw [openQueue, guarded_eq there, h]

theorem close_eq {h : Handle} (isOpen : h.closed = false) :
    qm.close h = (.ok (), { h with closed := true }, qm.afterClose) := by
  simp [close, isOpen, there, afterClose]

theorem commit_eq : qm.commit = (.ok qm.uncommitted.length, qm.afterCommit) :=
  guarded_eq there ..

theorem backout_eq : qm.backout = (.ok qm.uncommitted.length, qm.afterBackout) :=
  guarded_eq there ..

end

/-! ### Calls that the storage does not matter for -/

/-- An open fails and changes nothing, or its queue is there afterwards. -/
theorem openQueue_cases (qm : QueueManager) (queue : String) (o : OpenOptions) :
    (∃ r, qm.openQueue queue o = (.error (.failed .opening r), qm)) ∨
      qm.openQueue queue o = (.ok ⟨queue, o, false⟩, qm.afterOpen queue) := by
  cases there : qm.storageLost with
  | true => exact .inl ⟨.resourceProblem, if_pos there⟩
  | false =>
      cases ok : qm.openRefusal? queue o with
      | some r => exact .inl ⟨r, openQueue_eq_of_refused there ok⟩
      | none => exact .inr (openQueue_eq there ok)

theorem close_eq_of_closed (qm : QueueManager) {h : Handle} (closed : h.closed = true) :
    qm.close h = (.error (.failed .close .objectHandleError), h, qm) := by
  simp [close, closed]

theorem put_eq {qm : QueueManager} {h : Handle} {d : Descriptor} {payload : ByteArray}
    (ok : qm.putRefusal? h d payload = none) (o : PutOptions) (draw : Draw) :
    qm.put h d o payload draw =
      (.ok (), qm.stamp d o draw,
        qm.store h.queue o (drawsId d o) ⟨qm.stamp d o draw, payload⟩) := by
  rw [put, ok]

theorem put_eq_of_refused {qm : QueueManager} {h : Handle} {d : Descriptor} {payload : ByteArray}
    {r : Reason} (no : qm.putRefusal? h d payload = some r) (o : PutOptions) (draw : Draw) :
    qm.put h d o payload draw = (.error (.failed .put r), d, qm) := by
  rw [put, no]

/-- **What an accepted put is checked for.**  There are the conditions on the handle, the
descriptor and the payload, and the queue has room for one more message beside its committed
messages and those that the unit of work holds for it. -/
structure Accepts (qm : QueueManager) (h : Handle) (d : Descriptor) (payload : ByteArray) :
    Prop where
  isOpen    : h.closed = false
  output    : h.options.output = true
  expiry    : d.expiry ≠ .tenths 0
  there     : qm.storageLost = false
  running   : qm.quiescing = false
  length_le : payload.size ≤ qm.options.maxMessageLength
  room      : ∃ q, qm.queues.find? h.queue = some q ∧ q.putInhibited = false ∧
    q.messages.length + qm.uncommittedDepth h.queue < qm.options.maxQueueDepth

/-- A check passes when its condition is not met, and so do the checks after it. -/
theorem check_eq_none_iff {c : Prop} [Decidable c] {r : Reason} {next : Option Reason} :
    (if c then some r else next) = none ↔ ¬ c ∧ next = none := by
  by_cases h : c <;> simp [h]

theorem openRefusal?_eq_none_iff {qm : QueueManager} {queue : String} {o : OpenOptions} :
    qm.openRefusal? queue o = none ↔
      ¬ (qm.quiescing ∧ o.failIfQuiescing) ∧
        (qm.queues.defined queue ∨ qm.options.autoDefineQueues) := by
  simp only [openRefusal?, check_eq_none_iff, and_true, Decidable.not_and_iff_not_or_not,
    Decidable.not_not]

theorem putRefusal?_eq_none_iff {qm : QueueManager} {h : Handle} {d : Descriptor}
    {payload : ByteArray} : qm.putRefusal? h d payload = none ↔ qm.Accepts h d payload := by
  unfold putRefusal?
  cases hq : qm.queues.find? h.queue with
  | none =>
      simp only [check_eq_none_iff, reduceCtorEq, and_false, false_iff]
      rintro ⟨-, -, -, -, -, -, q, hq', -⟩
      rw [hq] at hq'
      cases hq'
  | some q =>
      simp only [check_eq_none_iff, Bool.not_eq_true, Bool.not_eq_false, Nat.not_lt, Nat.not_le,
        and_true]
      constructor
      · rintro ⟨isOpen, output, expiry, there, running, length_le, inhibited, room⟩
        exact ⟨isOpen, output, expiry, there, running, length_le, q, hq, inhibited, room⟩
      · rintro ⟨isOpen, output, expiry, there, running, length_le, q', hq', inhibited, room⟩
        obtain rfl : q = q' := Option.some.inj (hq.symm.trans hq')
        exact ⟨isOpen, output, expiry, there, running, length_le, inhibited, room⟩

theorem Accepts.defined {qm : QueueManager} {h : Handle} {d : Descriptor} {payload : ByteArray}
    (ok : qm.Accepts h d payload) : qm.queues.defined h.queue := by
  obtain ⟨q, hq, -⟩ := ok.room
  exact QueueTable.defined_iff.mpr ⟨q, hq⟩

end QueueManager

end Courier
