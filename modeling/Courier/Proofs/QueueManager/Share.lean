import Courier.Proofs.QueueManager.Calls

/-!
# Courier — Proofs — What a queue has of its manager

The queues of a manager share one unit of work and one set of counters.  The share of a queue
(`QueueManager.share`) is what concerns that queue: its messages and whether puts to it are allowed,
what waits for it in the unit of work, and what holds for all queues alike, the options and whether
the manager is running and has its storage.  The counters are no part of it.

A share is told without stamps, so that messages are one if they differ in identifier and put time
only.

* What can refuse an open or a put is read off the share (`openRefusal?_of_share`,
  `putRefusal?_of_share`).
* A queue that is defined, or is given a message, changes its own share as that share tells
  (`share_afterOpen`, `share_store`) and no other (`share_afterOpen_of_ne`, `share_store_of_ne`).
-/

namespace Courier

/-! ### Without stamps -/

/-- The descriptor without what the queue manager writes. -/
def Descriptor.unstamped (d : Descriptor) : Descriptor :=
  { d with messageId := none, putTime := none }

def StoredMessage.unstamped (m : StoredMessage) : StoredMessage :=
  { m with descriptor := m.descriptor.unstamped }

def LocalQueue.unstamped (q : LocalQueue) : LocalQueue :=
  { q with messages := q.messages.map (·.unstamped) }

@[simp] theorem Descriptor.unstamped_expiry (d : Descriptor) : d.unstamped.expiry = d.expiry := rfl

@[simp] theorem LocalQueue.unstamped_putInhibited (q : LocalQueue) :
    q.unstamped.putInhibited = q.putInhibited := rfl

@[simp] theorem LocalQueue.length_unstamped (q : LocalQueue) :
    q.unstamped.messages.length = q.messages.length :=
  List.length_map ..

/-! ### Shares -/

/-- What concerns one queue, without stamps. -/
structure Share where
  options     : ManagerOptions
  quiescing   : Bool
  storageLost : Bool
  queue?      : Option LocalQueue
  waiting     : List StoredMessage

namespace Share

/-- The share once its queue is defined. -/
def define (s : Share) : Share := { s with queue? := some (s.queue?.getD {}) }

/-- The share with one message more. -/
def store (syncpoint : Bool) (m : StoredMessage) (s : Share) : Share :=
  if syncpoint then { s with waiting := s.waiting ++ [m] }
  else { s with queue? := s.queue?.map fun q => { q with messages := q.messages ++ [m] } }

end Share

namespace QueueManager

def share (qm : QueueManager) (queue : String) : Share where
  options     := qm.options
  quiescing   := qm.quiescing
  storageLost := qm.storageLost
  queue?      := (qm.queues.find? queue).map (·.unstamped)
  waiting     := (addressed queue qm.uncommitted).map (·.unstamped)

section
variable (qm : QueueManager) (queue : String)

theorem defined_eq_share : qm.queues.defined queue = (qm.share queue).queue?.isSome :=
  Option.isSome_map.symm

theorem uncommittedDepth_eq_share :
    qm.uncommittedDepth queue = (qm.share queue).waiting.length := by
  rw [uncommittedDepth_eq, share, List.length_map]

end

/-! ### What is refused -/

section
variable {qm other : QueueManager} {queue : String} (same : other.share queue = qm.share queue)
include same

theorem openRefusal?_of_share (o : OpenOptions) :
    other.openRefusal? queue o = qm.openRefusal? queue o := by
  have options : other.options = qm.options := congrArg Share.options same
  have quiescing : other.quiescing = qm.quiescing := congrArg Share.quiescing same
  simp only [openRefusal?, defined_eq_share, same, options, quiescing]

/-- Of the messages on a queue, a put counts how many there are. -/
theorem putRefusal?_of_share {h : Handle} (isHere : h.queue = queue) {d d' : Descriptor}
    (alike : d'.unstamped = d.unstamped) (payload : ByteArray) :
    other.putRefusal? h d' payload = qm.putRefusal? h d payload := by
  subst isHere
  have options : other.options = qm.options := congrArg Share.options same
  have quiescing : other.quiescing = qm.quiescing := congrArg Share.quiescing same
  have storageLost : other.storageLost = qm.storageLost := congrArg Share.storageLost same
  have expiry : d'.expiry = d.expiry := by simpa using congrArg (·.expiry) alike
  have found : (other.queues.find? h.queue).map LocalQueue.unstamped =
      (qm.queues.find? h.queue).map LocalQueue.unstamped := congrArg Share.queue? same
  simp only [putRefusal?, options, quiescing, storageLost, expiry, uncommittedDepth_eq_share, same]
  -- what is left are the checks of the queue, which is there in both tables or in none
  cases here : qm.queues.find? h.queue with
  | none =>
      rw [here, Option.map_none, Option.map_eq_none_iff] at found
      rw [found]
  | some q =>
      rw [here, Option.map_some, Option.map_eq_some_iff] at found
      obtain ⟨q', there, like⟩ := found
      have inhibited : q'.putInhibited = q.putInhibited := by
        simpa using congrArg (·.putInhibited) like
      have count : q'.messages.length = q.messages.length := by
        simpa using congrArg (·.messages.length) like
      rw [there]
      simp only [inhibited, count]

end

/-! ### What changes -/

section
variable (qm : QueueManager)

theorem share_afterOpen (queue : String) :
    (qm.afterOpen queue).share queue = (qm.share queue).define := by
  have found : ((qm.afterOpen queue).queues.find? queue).map LocalQueue.unstamped =
      some (((qm.queues.find? queue).map LocalQueue.unstamped).getD {}) := by
    rw [afterOpen, QueueTable.find?_define, if_pos rfl]
    cases qm.queues.find? queue <;> rfl
  simp only [share, found]
  rfl

theorem share_store (queue : String) (o : PutOptions) (drawn : Bool) (m : StoredMessage) :
    (qm.store queue o drawn m).share queue =
      (qm.share queue).store o.syncpoint m.unstamped := by
  obtain ⟨syncpoint, newMessageId⟩ := o
  cases syncpoint with
  | true =>
      have waiting : (addressed queue (qm.uncommitted ++ [⟨queue, m⟩])).map (·.unstamped) =
          (addressed queue qm.uncommitted).map (·.unstamped) ++ [m.unstamped] := by
        rw [addressed_append, addressed_singleton, if_pos rfl, List.map_append]
        rfl
      simp only [share, store, waiting, if_true]
      rfl
  | false =>
      have found : ((qm.queues.append queue m).find? queue).map LocalQueue.unstamped =
          ((qm.queues.find? queue).map LocalQueue.unstamped).map
            fun q => { q with messages := q.messages ++ [m.unstamped] } := by
        rw [QueueTable.find?_append, if_pos rfl]
        cases qm.queues.find? queue with
        | none => rfl
        | some q => simp [LocalQueue.unstamped]
      simp only [share, store, found, Bool.false_eq_true, if_false]
      rfl

variable {queue n : String} (elsewhere : n ≠ queue)
include elsewhere

theorem share_afterOpen_of_ne : (qm.afterOpen queue).share n = qm.share n := by
  have found : (qm.afterOpen queue).queues.find? n = qm.queues.find? n := by
    rw [afterOpen, QueueTable.find?_define, if_neg elsewhere]
  simp only [share, found]
  rfl

theorem share_store_of_ne (o : PutOptions) (drawn : Bool) (m : StoredMessage) :
    (qm.store queue o drawn m).share n = qm.share n := by
  obtain ⟨syncpoint, newMessageId⟩ := o
  cases syncpoint with
  | true =>
      have waiting : addressed n (qm.uncommitted ++ [⟨queue, m⟩]) =
          addressed n qm.uncommitted := by
        rw [addressed_append, addressed_singleton, if_neg (Ne.symm elsewhere), List.append_nil]
      simp only [share, store, waiting, if_true]
  | false =>
      have found : (qm.queues.append queue m).find? n = qm.queues.find? n := by
        rw [QueueTable.find?_append, if_neg elsewhere]
      simp only [share, store, found, Bool.false_eq_true, if_false]

end

end QueueManager

end Courier
