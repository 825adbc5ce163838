import Courier.Proofs.QueueManager.Balance

/-!
# Courier — Proofs — Guarded handles are closed once

Clients of one queue manager that hold handles by guards only (`Custody`).  They acquire guards,
put through them and drop them, in any order, and between these calls they send messages, settle
the unit of work and administer the queues (`Custody.Act`).  A guard is used until it is dropped;
naming one that was dropped, or never acquired, does nothing.

Beside the queue manager, a custody keeps every guard ever acquired, with the closes that the
queue manager counted while it was dropped, and the number of messages that backouts said they
dropped.

**Custody** (`upright_run`): in every state that such clients reach,

* the opens are the closes and the guards not yet dropped;
* a guard that was dropped was closed once, and one that was not, never;
* neither a put nor a drop finds its handle closed, and no drop fails; the same holds of the guard
  that a send has to itself;
* the puts are the messages on all queues, in the unit of work, and dropped by backouts.
-/

namespace Courier

/-- A guard and what became of it. -/
structure Kept where
  guard   : Guard Handle
  dropped : Bool := false
  /-- The closes that were counted for it. -/
  closes  : Nat := 0

structure Custody where
  manager   : QueueManager
  /-- The guards in order of acquisition. -/
  kept      : List Kept := []
  /-- The messages that backouts dropped. -/
  discarded : Nat := 0

namespace Custody

/-- What a client that holds guards can do. -/
inductive Act where
  | defineQueue (queue : String)
  | setPutInhibited (queue : String) (inhibited : Bool)
  | quiesce
  | acquire (queue : String) (options : OpenOptions)
  | put (guard : Nat) (descriptor : Descriptor) (options : PutOptions) (payload : ByteArray)
      (draw : Draw)
  | drop (guard : Nat)
  | send (p : Producer) (queue : String) (m : Message) (draw : Draw)
  | commit
  | backout

def start (o : ManagerOptions) : Custody := { manager := .ofOptions o }

/-- The guard of that number, if it was not dropped. -/
def live? (c : Custody) (i : Nat) : Option Kept := (c.kept[i]?).filter fun k => !k.dropped

/-- How many guards are not dropped. -/
def liveCount (c : Custody) : Nat := c.kept.countP fun k => !k.dropped

/-- What an act leaves behind. -/
def perform (c : Custody) : Act → Custody
  | .defineQueue queue => { c with manager := (c.manager.defineQueue queue).2 }
  | .setPutInhibited queue inhibited =>
    { c with manager := (c.manager.setPutInhibited queue inhibited).2 }
  | .quiesce => { c with manager := c.manager.quiesce.2 }
  | .acquire queue o =>
    match Guard.acquire QueueManager.transport queue o c.manager with
    | (.ok g, qm)    => { c with manager := qm, kept := c.kept ++ [{ guard := g }] }
    | (.error _, qm) => { c with manager := qm }
  | .put i d o payload draw =>
    match c.live? i with
    | some k =>
      { c with manager := (k.guard.put QueueManager.transport d o payload draw c.manager).2.2 }
    | none => c
  | .drop i =>
    match c.live? i with
    | some k =>
      let (_, qm) := k.guard.drop QueueManager.transport c.manager
      let counted := qm.statistics.closes - c.manager.statistics.closes
      { c with
        manager := qm
        kept    := c.kept.set i { k with dropped := true, closes := k.closes + counted } }
    | none => c
  | .send p queue m draw => { c with manager := (p.send queue m draw c.manager).state }
  | .commit => { c with manager := c.manager.commit.2 }
  | .backout =>
    match c.manager.backout with
    | (.ok n, qm)    => { c with manager := qm, discarded := c.discarded + n }
    | (.error _, qm) => { c with manager := qm }

def run (c : Custody) (acts : List Act) : Custody := acts.foldl perform c

/-! ### What every act preserves -/

/-- The counters agree with the state, and the handle of a guard is open until it is dropped. -/
structure Accounted (c : Custody) : Prop where
  balanced : c.manager.Balanced c.liveCount c.discarded
  once     : ∀ k ∈ c.kept, k.closes = if k.dropped then 1 else 0
  isOpen   : ∀ k ∈ c.kept, k.guard.handle.closed = false

theorem live?_eq_some_iff {c : Custody} {i : Nat} {k : Kept} :
    c.live? i = some k ↔ c.kept[i]? = some k ∧ k.dropped = false := by
  rw [live?, Option.filter_eq_some_iff, Bool.not_eq_true']

theorem mem_kept_of_live? {c : Custody} {i : Nat} {k : Kept} (h : c.live? i = some k) :
    k ∈ c.kept :=
  List.mem_of_getElem? (live?_eq_some_iff.mp h).1

/-- A change of the queue manager alone. -/
theorem Accounted.manager {c : Custody} (a : c.Accounted) {qm : QueueManager}
    (b : qm.Balanced c.liveCount c.discarded) : Accounted { c with manager := qm } :=
  ⟨b, a.once, a.isOpen⟩

theorem Accounted.acquire {c : Custody} (a : c.Accounted) (queue : String) (o : OpenOptions) :
    Accounted (c.perform (.acquire queue o)) := by
  cases ok : c.manager.openRefusal? queue o with
  | some r =>
      simp only [perform, Guard.acquire, QueueManager.transport,
        QueueManager.openQueue_eq_of_refused a.balanced.there ok, Except.map]
      exact a
  | none =>
      simp only [perform, Guard.acquire, QueueManager.transport,
        QueueManager.openQueue_eq a.balanced.there ok, Except.map]
      refine ⟨?_, fun k hk => ?_, fun k hk => ?_⟩
      · have one : liveCount ⟨c.manager.afterOpen queue,
            c.kept ++ [⟨⟨queue, ⟨queue, o, false⟩⟩, false, 0⟩], c.discarded⟩ =
              c.liveCount + 1 := by simp [liveCount]
        rw [one]
        exact a.balanced.afterOpen queue
      · rcases List.mem_append.mp hk with hk | hk
        · exact a.once k hk
        · cases List.mem_singleton.mp hk
          rfl
      · rcases List.mem_append.mp hk with hk | hk
        · exact a.isOpen k hk
        · cases List.mem_singleton.mp hk
          rfl

theorem Accounted.put {c : Custody} (a : c.Accounted) (i : Nat) (d : Descriptor)
    (o : PutOptions) (payload : ByteArray) (draw : Draw) :
    Accounted (c.perform (.put i d o payload draw)) := by
  simp only [perform]
  cases c.live? i with
  | none => exact a
  | some k =>
      simp only [Guard.put, QueueManager.transport]
      cases ok : c.manager.putRefusal? k.guard.handle d payload with
      | some r => rw [QueueManager.put_eq_of_refused ok]; exact a.manager a.balanced
      | none =>
          have defined := (QueueManager.putRefusal?_eq_none_iff.mp ok).defined
          rw [QueueManager.put_eq ok]
          exact a.manager (a.balanced.store defined o _ _)

/-- A live guard is closed when it is dropped, and nothing is reported. -/
theorem Accounted.drop_eq {c : Custody} (a : c.Accounted) {k : Kept} (hk : k ∈ c.kept) :
    k.guard.drop QueueManager.transport c.manager = ([], c.manager.afterClose) := by
  simp only [Guard.drop, QueueManager.transport,
    QueueManager.close_eq a.balanced.there (a.isOpen k hk)]

theorem countP_set_of_live {ks : List Kept} {i : Nat} {k k' : Kept} (hi : ks[i]? = some k)
    (live : k.dropped = false) (dropped : k'.dropped = true) :
    ks.countP (fun k => !k.dropped) = (ks.set i k').countP (fun k => !k.dropped) + 1 := by
  induction ks generalizing i with
  | nil => cases hi
  | cons x ks ih =>
      cases i with
      | zero =>
          cases hi
          rw [List.set_cons_zero, List.countP_cons_of_pos (by simp [live]),
            List.countP_cons_of_neg (by simp [dropped])]
      | succ i =>
          have rest := ih (i := i) hi
          rw [List.set_cons_succ, List.countP_cons, List.countP_cons, rest]
          omega

theorem Accounted.drop {c : Custody} (a : c.Accounted) (i : Nat) :
    Accounted (c.perform (.drop i)) := by
  simp only [perform]
  cases hi : c.live? i with
  | none => exact a
  | some k =>
      have hk := mem_kept_of_live? hi
      obtain ⟨at_i, live⟩ := live?_eq_some_iff.mp hi
      -- the queue manager counts one close, and it is the first for this guard
      have counted : c.manager.afterClose.statistics.closes - c.manager.statistics.closes = 1 := by
        exact Nat.add_sub_cancel_left ..
      have none : k.closes = 0 := by rw [a.once k hk, live]; rfl
      simp only [a.drop_eq hk, counted, none, Nat.zero_add]
      refine ⟨?_, fun k' hk' => ?_, fun k' hk' => ?_⟩
      · have b := a.balanced
        have dropped : (⟨k.guard, true, 1⟩ : Kept).dropped = true := rfl
        rw [liveCount, countP_set_of_live at_i live dropped] at b
        exact b.afterClose
      · rcases List.mem_or_eq_of_mem_set hk' with hk' | rfl
        · exact a.once k' hk'
        · rfl
      · rcases List.mem_or_eq_of_mem_set hk' with hk' | rfl
        · exact a.isOpen k' hk'
        · exact a.isOpen k hk

theorem Accounted.perform {c : Custody} (a : c.Accounted) (act : Act) :
    Accounted (c.perform act) := by
  have there := a.balanced.there
  cases act with
  | defineQueue queue =>
      rw [Custody.perform, QueueManager.defineQueue_eq there]
      exact a.manager (a.balanced.define queue)
  | setPutInhibited queue on =>
      by_cases h : c.manager.queues.defined queue
      · rw [Custody.perform, QueueManager.setPutInhibited_eq there h]
        exact a.manager (a.balanced.inhibit queue on)
      · rw [Custody.perform, QueueManager.setPutInhibited_eq_of_not_defined there h]
        exact a
  | quiesce =>
      rw [Custody.perform, QueueManager.quiesce_eq there]
      exact a.manager a.balanced.quiesce
  | acquire queue o => exact a.acquire queue o
  | put i d o payload draw => exact a.put i d o payload draw
  | drop i => exact a.drop i
  | send p queue m draw => exact a.manager (a.balanced.send p queue m draw)
  | commit =>
      rw [Custody.perform, QueueManager.commit_eq there]
      exact a.manager a.balanced.afterCommit
  | backout =>
      simp only [Custody.perform, QueueManager.backout_eq there]
      exact ⟨a.balanced.afterBackout, a.once, a.isOpen⟩

/-! ### Runs -/

theorem accounted_start (o : ManagerOptions) : (start o).Accounted where
  balanced := QueueManager.balanced_ofOptions o
  once _ hk := by cases hk
  isOpen _ hk := by cases hk

theorem Accounted.run {c : Custody} (a : c.Accounted) (acts : List Act) :
    (c.run acts).Accounted := by
  induction acts generalizing c with
  | nil => exact a
  | cons act acts ih => exact ih (a.perform act)

end Custody

/-! ### What guards report -/

namespace QueueManager

/-- An open is never refused for a handle, and neither is a put for a handle that is open. -/
theorem openRefusal?_ne_objectHandleError (qm : QueueManager) (queue : String) (o : OpenOptions) :
    qm.openRefusal? queue o ≠ some .objectHandleError := by
  rw [QueueManager.openRefusal?]
  repeat' split
  all_goals decide

theorem putRefusal?_ne_objectHandleError (qm : QueueManager) {h : Handle}
    (isOpen : h.closed = false) (d : Descriptor) (payload : ByteArray) :
    qm.putRefusal? h d payload ≠ some .objectHandleError := by
  rw [QueueManager.putRefusal?, isOpen]
  repeat' split
  all_goals first | contradiction | decide

end QueueManager

namespace Custody

/-- The result of a put through a guard whose handle is open. -/
theorem put_ne_objectHandleError {g : Guard Handle} (isOpen : g.handle.closed = false)
    (d : Descriptor) (o : PutOptions) (payload : ByteArray) (draw : Draw) (qm : QueueManager)
    {e : TransportError} (no : (g.put QueueManager.transport d o payload draw qm).1 = .error e) :
    e.reason ≠ .objectHandleError := by
  simp only [Guard.put, QueueManager.transport] at no
  cases refused : qm.putRefusal? g.handle d payload with
  | none => rw [QueueManager.put_eq refused] at no; cases no
  | some r =>
      rw [QueueManager.put_eq_of_refused refused] at no
      cases no
      rintro (rfl : r = _)
      exact qm.putRefusal?_ne_objectHandleError isOpen d payload refused

/-- What a send reports about the guard that it has to itself. -/
structure Quiet (sent : Producer.Sent QueueManager) : Prop where
  result : ∀ e, sent.result = .error e → e.reason ≠ .objectHandleError
  events : ∀ queue e, LogEvent.closeFailed queue e ∉ sent.events

theorem quiet_of_refused {queue : String} {verb : Verb} {r : Reason}
    (other : r ≠ .objectHandleError) (m : Message) (qm : QueueManager) :
    Quiet ⟨.error (.failed verb r), m, qm,
      Producer.resultEvents queue (.error (.failed verb r))⟩ where
  result e he := by cases he; exact other
  events queue' e he := by
    have same : (LogEvent.closeFailed queue' e).message =
        (LogEvent.sendFailed queue (.failed verb r)).message :=
      congrArg LogEvent.message (List.mem_singleton.mp he)
    simp [LogEvent.closeFailed, LogEvent.sendFailed] at same

theorem quiet_send {qm : QueueManager} (there : qm.storageLost = false) (p : Producer)
    (queue : String) (m : Message) (draw : Draw) : Quiet (p.send queue m draw qm) := by
  cases opened : qm.openRefusal? queue .forSend with
  | some r =>
      rw [Producer.send_eq_of_openRefusal there opened]
      refine quiet_of_refused ?_ ..
      rintro rfl
      exact qm.openRefusal?_ne_objectHandleError queue .forSend opened
  | none =>
      cases accepted : p.putRefusal? queue m qm with
      | some r =>
          rw [Producer.send_eq_of_putRefusal there opened accepted]
          refine quiet_of_refused ?_ ..
          rintro rfl
          exact QueueManager.putRefusal?_ne_objectHandleError _ rfl _ _ accepted
      | none =>
          rw [Producer.send_eq there opened accepted]
          refine ⟨fun e he => ?_, fun _ e he => ?_⟩
          · cases he
          · cases he

/-- What holds in every state that clients with guards reach. -/
structure Upright (c : Custody) : Prop where
  /-- A guard was opened once, and closed or not dropped yet; a send opens and closes its own.  So
  the closes never exceed the opens. -/
  opens       : c.manager.statistics.opens = c.manager.statistics.closes + c.liveCount
  openHandles : c.manager.statistics.openHandles = c.liveCount
  /-- A guard that was dropped was closed once, the others never. -/
  once        : ∀ k ∈ c.kept, k.closes = if k.dropped then 1 else 0
  /-- A put through a guard is not refused for its handle. -/
  puts        : ∀ i k, c.live? i = some k → ∀ d o payload draw e,
    (k.guard.put QueueManager.transport d o payload draw c.manager).1 = .error e →
      e.reason ≠ .objectHandleError
  /-- Dropping a guard closes its handle, and there is nothing to report. -/
  drops       : ∀ i k, c.live? i = some k →
    (QueueManager.transport.close k.guard.handle c.manager).1 = .ok () ∧
      (k.guard.drop QueueManager.transport c.manager).1 = []
  sends       : ∀ p queue m draw, Quiet (Producer.send p queue m draw c.manager)
  /-- A message that was put is on a queue, in the unit of work, or was dropped. -/
  conserved   : c.manager.statistics.puts =
    c.manager.stored + c.manager.uncommitted.length + c.discarded

theorem Accounted.upright {c : Custody} (a : c.Accounted) : c.Upright where
  opens := a.balanced.opens
  openHandles := by
    rw [Statistics.openHandles, a.balanced.opens, Nat.add_sub_cancel_left]
  once := a.once
  puts i k hi d o payload draw e no :=
    put_ne_objectHandleError (a.isOpen k (mem_kept_of_live? hi)) d o payload draw c.manager no
  drops i k hi := by
    have hk := mem_kept_of_live? hi
    refine ⟨?_, by rw [a.drop_eq hk]⟩
    simp only [QueueManager.transport, QueueManager.close_eq a.balanced.there (a.isOpen k hk)]
  sends p queue m draw := quiet_send a.balanced.there p queue m draw
  conserved := a.balanced.puts

/-- **Custody.**  Whatever clients with guards do to a new queue manager, and in whatever order,
its opens are its closes and the guards not yet dropped, every guard is closed once, when it is
dropped, no put or close finds a handle closed, and the puts are the messages on all queues, in
the unit of work and dropped by backouts. -/
theorem upright_run (o : ManagerOptions) (acts : List Act) : ((start o).run acts).Upright :=
  ((accounted_start o).run acts).upright

end Custody

end Courier
