import Courier.Proofs.Producer.Send
import Courier.Proofs.QueueManager.Settled
import Mathlib.Algebra.Ring.Nat
import Mathlib.Data.List.Nodup

/-!
# Courier — Proofs — What the counters add up to

A queue manager counts its calls and keeps no list of them.  The counts can still be checked
against the state: an open has been followed by a close or its handle is live, and a message that
was put is on a queue, waits in the unit of work, or was dropped by a backout
(`QueueManager.Balanced`).  Every call keeps the balance; only the number of live handles and of
dropped messages moves.

A message that is delivered to a queue must count once.  So the balance also says that no two
queues have one name, since a message goes to every queue of its name, and that what waits has its
queue, since a commit drops what has none.
-/

namespace Courier

namespace QueueTable

def names (t : QueueTable) : List String := t.map (·.1)

/-- The messages of all queues together. -/
def total (t : QueueTable) : Nat := (t.map fun e => e.2.messages.length).sum

theorem total_cons (e : String × LocalQueue) (t : QueueTable) :
    total (e :: t) = e.2.messages.length + total t := rfl

theorem mem_names_iff {t : QueueTable} {name : String} : name ∈ t.names ↔ t.defined name := by
  induction t with
  | nil => simp [names, defined, find?]
  | cons e t ih =>
      obtain ⟨n, q⟩ := e
      rw [defined, find?_cons, names, List.map_cons, List.mem_cons]
      by_cases h : name = n
      · simp [h]
      · rw [if_neg h]
        exact (or_iff_right h).trans ih

theorem modify_cons (e : String × LocalQueue) (t : QueueTable) (name : String)
    (f : LocalQueue → LocalQueue) :
    modify (e :: t) name f =
      (if e.1 = name then (e.1, f e.2) else e) :: modify t name f := rfl

/-! ### Names -/

theorem names_modify (t : QueueTable) (name : String) (f : LocalQueue → LocalQueue) :
    (t.modify name f).names = t.names := by
  induction t with
  | nil => rfl
  | cons e t ih =>
      have head : (if e.1 = name then (e.1, f e.2) else e).1 = e.1 := by split <;> rfl
      rw [modify_cons, names, List.map_cons, head]
      exact congrArg (e.1 :: ·) ih

theorem nodup_names_define {t : QueueTable} (h : t.names.Nodup) (name : String) :
    (t.define name).names.Nodup := by
  rw [define]
  split
  · exact h
  · rename_i new
    have fresh : name ∉ t.names := fun hn => new (mem_names_iff.mp hn)
    rw [names, List.map_append]
    exact List.nodup_append.mpr ⟨h, List.nodup_singleton name,
      fun a ha b hb => by rintro rfl; cases List.mem_singleton.mp hb; exact fresh ha⟩

theorem names_deliver (t : QueueTable) (ps : List PendingMessage) :
    (t.deliver ps).names = t.names := by
  induction ps generalizing t with
  | nil => rfl
  | cons p ps ih => rw [deliver_cons, ih, append, names_modify]

/-! ### Totals -/

theorem total_define (t : QueueTable) (name : String) : (t.define name).total = t.total := by
  rw [define]
  split
  · rfl
  · simp [total]

theorem total_inhibit (t : QueueTable) (name : String) (inhibited : Bool) :
    (t.modify name fun q => { q with putInhibited := inhibited }).total = t.total := by
  induction t with
  | nil => rfl
  | cons e t ih =>
      rw [modify_cons, total_cons, total_cons, ih]
      split <;> rfl

/-- Changing a queue that is not there changes nothing. -/
theorem modify_of_not_mem {t : QueueTable} {name : String} (h : name ∉ t.names)
    (f : LocalQueue → LocalQueue) : t.modify name f = t := by
  induction t with
  | nil => rfl
  | cons e t ih =>
      rw [names, List.map_cons, List.mem_cons, not_or] at h
      rw [modify_cons, if_neg (Ne.symm h.1), ih h.2]

/-- A message at the end of its queue counts once, because no other queue has the name. -/
theorem total_append {t : QueueTable} (unique : t.names.Nodup) {name : String}
    (h : t.defined name) (m : StoredMessage) : (t.append name m).total = t.total + 1 := by
  induction t with
  | nil => cases h
  | cons e t ih =>
      obtain ⟨n, q⟩ := e
      obtain ⟨fresh, unique⟩ := List.nodup_cons.mp unique
      rw [append, modify_cons, total_cons, total_cons]
      by_cases hn : n = name
      · subst hn
        have rest : modify t n (fun q => { q with messages := q.messages ++ [m] }) = t :=
          modify_of_not_mem fresh _
        rw [if_pos rfl, rest, List.length_append, List.length_singleton]
        omega
      · have later : defined t name := by
          rw [defined, find?_cons, if_neg (Ne.symm hn)] at h
          exact h
        have := ih unique later
        rw [append] at this
        rw [if_neg hn, this, Nat.add_assoc]

theorem total_deliver {t : QueueTable} (unique : t.names.Nodup) {ps : List PendingMessage}
    (h : ∀ p ∈ ps, t.defined p.queue) : (t.deliver ps).total = t.total + ps.length := by
  induction ps generalizing t with
  | nil => rfl
  | cons p ps ih =>
      have names : (t.append p.queue p.message).names = t.names := names_modify ..
      have first := total_append unique (h p (List.mem_cons_self ..)) p.message
      rw [deliver_cons, ih (names ▸ unique), first, List.length_cons]
      · omega
      · intro q hq
        rw [defined_append]
        exact h q (List.mem_cons_of_mem _ hq)

end QueueTable

namespace QueueManager

/-- The committed messages of all queues together. -/
def stored (qm : QueueManager) : Nat := qm.queues.total

/-- The counters agree with the state, with so many handles live and so many messages dropped by
backouts. -/
structure Balanced (qm : QueueManager) (live dropped : Nat) : Prop where
  there   : qm.storageLost = false
  unique  : qm.queues.names.Nodup
  waiting : qm.Waiting
  opens   : qm.statistics.opens = qm.statistics.closes + live
  puts    : qm.statistics.puts = qm.stored + qm.uncommitted.length + dropped

section
variable {qm : QueueManager} {live dropped : Nat}

theorem balanced_ofOptions (o : ManagerOptions) : (ofOptions o).Balanced 0 0 := by
  have define (names : List String) : ∀ t : QueueTable, t.names.Nodup → t.total = 0 →
      (names.foldl QueueTable.define t).names.Nodup ∧
        (names.foldl QueueTable.define t).total = 0 := by
    induction names with
    | nil => exact fun _ unique none => ⟨unique, none⟩
    | cons name names ih =>
        exact fun t unique none => ih _ (QueueTable.nodup_names_define unique name)
          ((t.total_define name).trans none)
  obtain ⟨unique, none⟩ := define o.queues [] List.nodup_nil rfl
  exact ⟨rfl, unique, waiting_of_empty rfl, rfl, none.symm⟩

/-! ### Calls that move no message -/

theorem Balanced.define (b : qm.Balanced live dropped) (queue : String) :
    ({ qm with queues := qm.queues.define queue } : QueueManager).Balanced live dropped where
  there   := b.there
  unique  := QueueTable.nodup_names_define b.unique queue
  waiting := b.waiting.define queue
  opens   := b.opens
  puts    := by rw [stored, QueueTable.total_define]; exact b.puts

theorem Balanced.inhibit (b : qm.Balanced live dropped) (queue : String) (inhibited : Bool) :
    ({ qm with queues := qm.queues.modify queue fun q => { q with putInhibited := inhibited } } :
      QueueManager).Balanced live dropped where
  there   := b.there
  unique  := by rw [QueueTable.names_modify]; exact b.unique
  waiting := b.waiting.inhibit queue inhibited
  opens   := b.opens
  puts    := by rw [stored, QueueTable.total_inhibit]; exact b.puts

theorem Balanced.quiesce (b : qm.Balanced live dropped) :
    ({ qm with quiescing := true } : QueueManager).Balanced live dropped :=
  ⟨b.there, b.unique, b.waiting, b.opens, b.puts⟩

theorem Balanced.afterOpen (b : qm.Balanced live dropped) (queue : String) :
    (qm.afterOpen queue).Balanced (live + 1) dropped where
  there   := b.there
  unique  := (b.define queue).unique
  waiting := (b.define queue).waiting
  opens   := by rw [QueueManager.afterOpen, b.opens, Nat.add_assoc]
  puts    := (b.define queue).puts

theorem Balanced.afterClose (b : qm.Balanced (live + 1) dropped) :
    qm.afterClose.Balanced live dropped where
  there   := b.there
  unique  := b.unique
  waiting := b.waiting
  opens   := by rw [QueueManager.afterClose, b.opens, Nat.add_assoc, Nat.add_comm live 1]
  puts    := b.puts

/-! ### Calls that do -/

/-- A put puts its message on the queue or into the unit of work, and not both. -/
theorem Balanced.store (b : qm.Balanced live dropped) {queue : String}
    (h : qm.queues.defined queue) (o : PutOptions) (drawn : Bool) (m : StoredMessage) :
    (qm.store queue o drawn m).Balanced live dropped := by
  refine ⟨b.there, ?_, b.waiting.store h o drawn m, b.opens, ?_⟩
  · rw [QueueManager.store]
    split
    · exact b.unique
    · rw [QueueTable.append, QueueTable.names_modify]
      exact b.unique
  · have before := b.puts
    rw [stored, uncommitted_store, QueueManager.store]
    cases o.syncpoint with
    | true =>
        rw [stored] at before
        simp only [if_true, before, List.length_append, List.length_singleton]
        omega
    | false =>
        rw [stored] at before
        simp only [Bool.false_eq_true, if_false, before, QueueTable.total_append b.unique h,
          List.append_nil]
        omega

theorem Balanced.afterCommit (b : qm.Balanced live dropped) :
    qm.afterCommit.Balanced live dropped where
  there   := b.there
  unique  := by
    rw [QueueManager.afterCommit, settled, QueueTable.names_deliver]
    exact b.unique
  waiting := waiting_of_empty rfl
  opens   := b.opens
  puts    := by
    have moved := QueueTable.total_deliver b.unique b.waiting
    rw [stored, QueueManager.afterCommit, settled, moved]
    exact b.puts

theorem Balanced.afterBackout (b : qm.Balanced live dropped) :
    qm.afterBackout.Balanced live (dropped + qm.uncommitted.length) where
  there   := b.there
  unique  := b.unique
  waiting := waiting_of_empty rfl
  opens   := b.opens
  puts    := by
    have before := b.puts
    rw [stored] at before
    simp only [stored, QueueManager.afterBackout, before, List.length_nil]
    omega

/-- A send opens a handle and closes it again, unless no queue was opened. -/
theorem Balanced.send (b : qm.Balanced live dropped) (p : Producer) (queue : String) (m : Message)
    (draw : Draw) : (p.send queue m draw qm).state.Balanced live dropped := by
  have ending := p.ending_send queue m draw qm
  generalize p.send queue m draw qm = sent at ending
  cases ending with
  | notOpened => exact b
  | refused => exact (b.afterOpen queue).afterClose
  | stored ok accepted =>
      have defined := (putRefusal?_eq_none_iff.mp accepted).defined
      exact ((b.afterOpen queue).store defined p.putOptions true _).afterClose

end

end QueueManager

end Courier
