import Courier.Proofs.QueueManager.Calls

/-!
# Courier — Proofs — Runs of a queue manager

A queue manager in use is a `Connection`: its state and every handle opened on it, closed ones
too, numbered in order of opening.  Clients make calls to the queue manager and to handles
(`Operation`), in any order; a call to a handle that was never opened does nothing.  A run also
has a history: the successful puts, with the message as it came back to the caller, and the
commits and backouts (`Connection.history`).

`Connection.Step` says all that one operation can do, and `Connection.step_perform` that it says
so.  What each step preserves, a run preserves (`Connection.run_preserves`), so an invariant of
every reachable state needs one proof by cases on `Step`.
-/

namespace Courier

/-! ### Operations -/

/-- A call that a client makes. -/
inductive Operation where
  | defineQueue (queue : String)
  | setPutInhibited (queue : String) (inhibited : Bool)
  | quiesce
  | openQueue (queue : String) (options : OpenOptions)
  | put (handle : Nat) (descriptor : Descriptor) (options : PutOptions) (payload : ByteArray)
      (draw : Draw)
  | close (handle : Nat)
  | commit
  | backout

/-- A successful call that matters for what becomes visible.  A put has the message under its
queue, with the descriptor that the caller got back. -/
inductive Event where
  | put (message : PendingMessage) (syncpoint : Bool)
  | commit
  | backout

/-- A queue manager and the handles opened on it, in order. -/
structure Connection where
  manager : QueueManager
  handles : List Handle := []

namespace Connection

def start (o : ManagerOptions) : Connection := ⟨.ofOptions o, []⟩

/-- What an operation leaves behind. -/
def perform (c : Connection) : Operation → Connection
  | .defineQueue queue => { c with manager := (c.manager.defineQueue queue).2 }
  | .setPutInhibited queue inhibited =>
    { c with manager := (c.manager.setPutInhibited queue inhibited).2 }
  | .quiesce => { c with manager := c.manager.quiesce.2 }
  | .openQueue queue o =>
    match c.manager.openQueue queue o with
    | (.ok h, qm)    => ⟨qm, c.handles ++ [h]⟩
    | (.error _, qm) => { c with manager := qm }
  | .put i d o payload draw =>
    match c.handles[i]? with
    | some h => { c with manager := (c.manager.put h d o payload draw).2.2 }
    | none   => c
  | .close i =>
    match c.handles[i]? with
    | some h => let (_, h, qm) := c.manager.close h; ⟨qm, c.handles.set i h⟩
    | none   => c
  | .commit  => { c with manager := c.manager.commit.2 }
  | .backout => { c with manager := c.manager.backout.2 }

/-- What an operation adds to the history, if it succeeds. -/
def event? (c : Connection) : Operation → Option Event
  | .put i d o payload draw =>
    match c.handles[i]? with
    | some h =>
      match c.manager.put h d o payload draw with
      | (.ok (), d, _)   => some (.put ⟨h.queue, ⟨d, payload⟩⟩ o.syncpoint)
      | (.error _, _, _) => none
    | none => none
  | .commit =>
    match c.manager.commit with
    | (.ok _, _)    => some .commit
    | (.error _, _) => none
  | .backout =>
    match c.manager.backout with
    | (.ok _, _)    => some .backout
    | (.error _, _) => none
  | _ => none

def run (c : Connection) (ops : List Operation) : Connection := ops.foldl perform c

/-- The successful puts, commits and backouts of a run, in order. -/
def history (c : Connection) : List Operation → List Event
  | []        => []
  | op :: ops => (c.event? op).toList ++ (c.perform op).history ops

/-! ### One step -/

/-- All that an operation can do while the storage is there. -/
inductive Step (c : Connection) : Option Event → Connection → Prop where
  | refused : Step c none c
  | defined (queue : String) :
      Step c none { c with manager := { c.manager with queues := c.manager.queues.define queue } }
  | inhibited (queue : String) (inhibited : Bool) :
      Step c none { c with manager := { c.manager with
        queues := c.manager.queues.modify queue fun q => { q with putInhibited := inhibited } } }
  | quiesced : Step c none { c with manager := { c.manager with quiescing := true } }
  | opened {queue : String} {o : OpenOptions} (ok : c.manager.openRefusal? queue o = none) :
      Step c none ⟨c.manager.afterOpen queue, c.handles ++ [⟨queue, o, false⟩]⟩
  | closed {i : Nat} {h : Handle} (hi : c.handles[i]? = some h) (isOpen : h.closed = false) :
      Step c none ⟨c.manager.afterClose, c.handles.set i { h with closed := true }⟩
  | put {i : Nat} {h : Handle} {d : Descriptor} {payload : ByteArray} (o : PutOptions)
      (draw : Draw) (hi : c.handles[i]? = some h) (ok : c.manager.Accepts h d payload) :
      Step c (some (.put ⟨h.queue, ⟨c.manager.stamp d o draw, payload⟩⟩ o.syncpoint))
        { c with
          manager := c.manager.store h.queue o (QueueManager.drawsId d o)
            (.mk (c.manager.stamp d o draw) payload) }
  | committed : Step c (some .commit) { c with manager := c.manager.afterCommit }
  | backedOut : Step c (some .backout) { c with manager := c.manager.afterBackout }

theorem step_openQueue {c : Connection} (there : c.manager.storageLost = false) (queue : String)
    (o : OpenOptions) : c.Step none (c.perform (.openQueue queue o)) := by
  cases ok : c.manager.openRefusal? queue o with
  | none => simp only [perform, QueueManager.openQueue_eq there ok]; exact .opened ok
  | some r =>
      simp only [perform, QueueManager.openQueue_eq_of_refused there ok]; exact .refused

theorem step_close {c : Connection} (there : c.manager.storageLost = false) (i : Nat) :
    c.Step none (c.perform (.close i)) := by
  simp only [perform]
  cases hi : c.handles[i]? with
  | none => exact .refused
  | some h =>
      cases isOpen : h.closed with
      | false => simp only [QueueManager.close_eq there isOpen]; exact .closed hi isOpen
      | true =>
          have : c.handles.set i h = c.handles := by
            obtain ⟨lt, rfl⟩ := List.getElem?_eq_some_iff.mp hi
            exact List.set_getElem_self lt
          simp only [QueueManager.close_eq_of_closed _ isOpen, this]
          exact .refused

theorem step_put (c : Connection) (i : Nat) (d : Descriptor) (o : PutOptions)
    (payload : ByteArray) (draw : Draw) :
    c.Step (c.event? (.put i d o payload draw)) (c.perform (.put i d o payload draw)) := by
  simp only [perform, event?]
  cases hi : c.handles[i]? with
  | none => exact .refused
  | some h =>
      cases ok : c.manager.putRefusal? h d payload with
      | none =>
          simp only [QueueManager.put_eq ok]
          exact .put o draw hi (QueueManager.putRefusal?_eq_none_iff.mp ok)
      | some r => simp only [QueueManager.put_eq_of_refused ok]; exact .refused

theorem step_perform {c : Connection} (there : c.manager.storageLost = false) (op : Operation) :
    c.Step (c.event? op) (c.perform op) := by
  cases op with
  | defineQueue queue =>
      rw [perform, QueueManager.defineQueue_eq there]; exact .defined queue
  | setPutInhibited queue on =>
      by_cases h : c.manager.queues.defined queue
      · rw [perform, QueueManager.setPutInhibited_eq there h]; exact .inhibited queue on
      · rw [perform, QueueManager.setPutInhibited_eq_of_not_defined there h]; exact .refused
  | quiesce => rw [perform, QueueManager.quiesce_eq there]; exact .quiesced
  | openQueue queue o => exact step_openQueue there queue o
  | put i d o payload draw => exact c.step_put i d o payload draw
  | close i => exact step_close there i
  | commit => simp only [perform, event?, QueueManager.commit_eq there]; exact .committed
  | backout => simp only [perform, event?, QueueManager.backout_eq there]; exact .backedOut

/-- No operation loses the storage. -/
theorem Step.there {c c' : Connection} {e : Option Event} (step : c.Step e c')
    (there : c.manager.storageLost = false) : c'.manager.storageLost = false := by
  cases step <;> exact there

/-- The options of a queue manager never change. -/
theorem Step.options {c c' : Connection} {e : Option Event} (step : c.Step e c') :
    c'.manager.options = c.manager.options := by
  cases step <;> rfl

/-! ### Runs -/

/-- **What every step preserves, a run preserves.**  `I` may speak of the history so far. -/
theorem run_preserves {I : List Event → Connection → Prop}
    (step : ∀ {h c e c'}, I h c → c.Step e c' → I (h ++ e.toList) c') (ops : List Operation) :
    ∀ {h c}, c.manager.storageLost = false → I h c → I (h ++ c.history ops) (c.run ops) := by
  induction ops with
  | nil => intro h c _ hI; rw [history, List.append_nil]; exact hI
  | cons op ops ih =>
      intro h c there hI
      -- the history grows at its end while the operations go from the front
      have taken := step_perform there op
      have := ih (taken.there there) (step hI taken)
      rwa [List.append_assoc] at this

theorem run_there {c : Connection} (there : c.manager.storageLost = false)
    (ops : List Operation) : (c.run ops).manager.storageLost = false :=
  run_preserves (I := fun _ c => c.manager.storageLost = false) (fun h s => s.there h) ops
    (h := []) there there

theorem run_options {c : Connection} (there : c.manager.storageLost = false)
    (ops : List Operation) : (c.run ops).manager.options = c.manager.options :=
  run_preserves (I := fun _ c' => c'.manager.options = c.manager.options)
    (fun h s => s.options.trans h) ops (h := []) there rfl

end Connection

/-- A state that a new queue manager can be brought to by its clients. -/
def QueueManager.Reachable (qm : QueueManager) : Prop :=
  ∃ o ops, ((Connection.start o).run ops).manager = qm

theorem QueueManager.Reachable.there {qm : QueueManager} (h : qm.Reachable) :
    qm.storageLost = false := by
  obtain ⟨o, ops, rfl⟩ := h
  exact Connection.run_there rfl ops

end Courier
