import Courier.Proofs.QueueManager.Run

/-!
# Courier — Proofs — What becomes visible, and when

The history of a run (`Connection.history`) decides what its queues show.  A message put without
syncpoint becomes visible with its put.  A message put under syncpoint waits for the next commit
or backout: a commit makes it visible, together with all that wait, in put order; a backout drops
it.  `unsettled` are the messages that still wait, `shown` those that became visible, in the order
of becoming visible, and `visible` the shown messages of one queue.  None of these looks at a
queue manager.

**Faithfulness** (`browse_eq_visible`): after any run, browsing a queue gives exactly its visible
messages, and the unit of work is exactly what waits.  So no message is lost, stored twice, put
on another queue, moved within its unit of work, shown before its commit or after a backout.

A commit drops the messages whose queue is not there, and it must be shown that there are none.
That is the third part of the invariant (`Recorded.known`): a put names a defined queue, and
queues never disappear.  Nor does a commit or backout ever fail, so that the history has all of
them (`Connection.filter_history`).
-/

namespace Courier

/-! ### The messages of a history -/

/-- Whether this ends a unit of work. -/
def Event.settles : Event → Bool
  | .put ..            => false
  | .commit | .backout => true

/-- The messages put under syncpoint that no commit or backout follows, in put order. -/
def unsettled : List Event → List PendingMessage
  | []                   => []
  | .put m true :: later =>
    if later.any Event.settles then unsettled later else m :: unsettled later
  | _ :: later           => unsettled later

/-- The messages that an event after `earlier` makes visible.  The next commit or backout after a
put is this commit if the put is among `earlier` and none is between. -/
def Event.shows (earlier : List Event) : Event → List PendingMessage
  | .put m syncpoint => if syncpoint then [] else [m]
  | .commit          => unsettled earlier
  | .backout         => []

/-- The messages that become visible after `earlier`, in the order of becoming visible. -/
def shown (earlier : List Event) : List Event → List PendingMessage
  | []         => []
  | e :: later => e.shows earlier ++ shown (earlier ++ [e]) later

/-- The messages of a queue that a history makes visible, in the order of becoming visible. -/
def visible (h : List Event) (queue : String) : List StoredMessage :=
  addressed queue (shown [] h)

example (a b c d : PendingMessage) :
    shown [] [.put a true, .put b false, .put c true, .commit, .put d true, .backout] =
      [b, a, c] := rfl

/-! ### One more event -/

theorem unsettled_concat_of_settles (h : List Event) {e : Event} (he : e.settles) :
    unsettled (h ++ [e]) = [] := by
  induction h with
  | nil => cases e <;> first | rfl | cases he
  | cons f h ih =>
      cases f with
      | put m syncpoint => cases syncpoint <;> simp [unsettled, ih, he]
      | commit | backout => exact ih

theorem unsettled_concat_put (h : List Event) (m : PendingMessage) (syncpoint : Bool) :
    unsettled (h ++ [.put m syncpoint]) = unsettled h ++ if syncpoint then [m] else [] := by
  induction h with
  | nil => cases syncpoint <;> rfl
  | cons f h ih =>
      cases f with
      | put n waits =>
          cases waits with
          | false => exact ih
          | true =>
              -- the new put settles nothing, so what waited before still waits
              have : (h ++ [Event.put m syncpoint]).any Event.settles = h.any Event.settles := by
                simp [Event.settles]
              rw [List.cons_append, unsettled, unsettled, this, ih]
              split <;> rfl
      | commit | backout => exact ih

/-- What still waits was put under syncpoint. -/
theorem put_mem_of_mem_unsettled {h : List Event} {m : PendingMessage} (hm : m ∈ unsettled h) :
    .put m true ∈ h := by
  induction h with
  | nil => cases hm
  | cons e h ih =>
      have later (hm : m ∈ unsettled h) : .put m true ∈ e :: h := List.mem_cons_of_mem _ (ih hm)
      cases e with
      | put n waits =>
          cases waits with
          | false => exact later hm
          | true =>
              rw [unsettled] at hm
              split at hm
              · exact later hm
              · rcases List.mem_cons.mp hm with rfl | hm
                · exact List.mem_cons_self ..
                · exact later hm
      | commit | backout => exact later hm

theorem shown_concat (h : List Event) (e : Event) :
    ∀ earlier, shown earlier (h ++ [e]) = shown earlier h ++ e.shows (earlier ++ h) := by
  induction h with
  | nil => intro earlier; simp [shown]
  | cons f h ih => intro earlier; simp [shown, ih]

theorem visible_concat (h : List Event) (e : Event) (queue : String) :
    visible (h ++ [e]) queue = visible h queue ++ addressed queue (e.shows h) := by
  rw [visible, shown_concat, addressed_append, List.nil_append, visible]

/-! ### Commits and backouts -/

/-- What a commit or backout adds to the history if it succeeds. -/
def Operation.settling? : Operation → Option Event
  | .commit  => some .commit
  | .backout => some .backout
  | _        => none

theorem Connection.filter_event? {c : Connection} (there : c.manager.storageLost = false)
    (op : Operation) : (c.event? op).toList.filter Event.settles = op.settling?.toList := by
  cases op with
  | commit => rw [event?, QueueManager.commit_eq there]; rfl
  | backout => rw [event?, QueueManager.backout_eq there]; rfl
  | put i d o payload draw =>
      -- a put adds a put, which settles nothing
      rw [event?]
      split
      · split <;> rfl
      · rfl
  | _ => rfl

/-- The history has every commit and backout of a run, in order. -/
theorem Connection.filter_history (ops : List Operation) :
    ∀ {c : Connection}, c.manager.storageLost = false →
      (c.history ops).filter Event.settles = ops.filterMap Operation.settling? := by
  induction ops with
  | nil => exact fun _ => rfl
  | cons op ops ih =>
      intro c there
      have later := ih ((step_perform there op).there there)
      rw [history, List.filter_append, filter_event? there, later]
      cases added : op.settling? <;> simp [added]

/-! ### The queue manager shows what its history makes visible -/

/-- The queue manager holds what the history says, and the queue of every message put is there. -/
structure Recorded (h : List Event) (c : Connection) : Prop where
  committed   : ∀ queue, c.manager.committed queue = visible h queue
  uncommitted : c.manager.uncommitted = unsettled h
  known       : ∀ m syncpoint, .put m syncpoint ∈ h → c.manager.queues.defined m.queue

/-- A step that adds nothing to the history keeps the messages and the queues. -/
theorem Recorded.keep {h : List Event} {c c' : Connection} (r : Recorded h c)
    (committed : ∀ queue, c'.manager.committed queue = c.manager.committed queue)
    (uncommitted : c'.manager.uncommitted = c.manager.uncommitted)
    (defined : ∀ queue, c.manager.queues.defined queue → c'.manager.queues.defined queue) :
    Recorded (h ++ []) c' := by
  rw [List.append_nil]
  exact ⟨fun queue => (committed queue).trans (r.committed queue),
    uncommitted.trans r.uncommitted, fun m syncpoint hm => defined _ (r.known m syncpoint hm)⟩

theorem Recorded.waiting {h : List Event} {c : Connection} (r : Recorded h c) :
    c.manager.Waiting := by
  rw [QueueManager.Waiting, r.uncommitted]
  exact fun m hm => r.known m true (put_mem_of_mem_unsettled hm)

/-- An accepted put adds its message to the queue, or to the unit of work. -/
theorem Recorded.put {h : List Event} {c : Connection} (r : Recorded h c) {m : PendingMessage}
    (hm : c.manager.queues.defined m.queue) (o : PutOptions) (drawn : Bool) :
    Recorded (h ++ [.put m o.syncpoint])
      { c with manager := c.manager.store m.queue o drawn m.message } where
  committed queue := by
    rw [visible_concat, ← r.committed]
    exact QueueManager.committed_store hm o drawn m.message queue
  uncommitted := by
    rw [unsettled_concat_put, ← r.uncommitted]
    exact c.manager.uncommitted_store m.queue o drawn m.message
  known n syncpoint hn := by
    rw [QueueManager.defined_store]
    rcases List.mem_append.mp hn with hn | hn
    · exact r.known n syncpoint hn
    · obtain ⟨rfl, -⟩ := Event.put.inj (List.mem_singleton.mp hn)
      exact hm

theorem Recorded.step {h : List Event} {c c' : Connection} {e : Option Event}
    (r : Recorded h c) (step : c.Step e c') : Recorded (h ++ e.toList) c' := by
  cases step with
  | refused | quiesced | closed => exact r.keep (fun _ => rfl) rfl fun _ hn => hn
  | defined queue | @opened queue =>
      exact r.keep (QueueTable.messages_define _ queue) rfl fun n hn =>
        (QueueTable.defined_define _ queue n).mpr (.inr hn)
  | inhibited queue on =>
      exact r.keep (QueueTable.messages_inhibit _ queue · on) rfl fun n hn => by
        rw [QueueTable.defined_modify]; exact hn
  | put o draw hi ok => exact r.put (m := ⟨_, _⟩) ok.defined o _
  | committed =>
      refine ⟨fun queue => ?_, (unsettled_concat_of_settles h rfl).symm, fun m s hm => ?_⟩
      · -- the commit shows the unit of work, and no message of it lacks its queue
        rw [Option.toList_some, visible_concat, ← r.committed, Event.shows, ← r.uncommitted]
        exact QueueTable.messages_deliver r.waiting queue
      · have hm : .put m s ∈ h := by simpa using hm
        exact (QueueTable.defined_deliver ..).symm ▸ r.known m s hm
  | backedOut =>
      refine ⟨fun queue => ?_, (unsettled_concat_of_settles h rfl).symm, fun m s hm => ?_⟩
      · rw [Option.toList_some, visible_concat, ← r.committed]
        exact (List.append_nil _).symm
      · exact r.known m s (by simpa using hm)

theorem recorded_start (o : ManagerOptions) : Recorded [] (Connection.start o) :=
  ⟨QueueManager.committed_ofOptions o, rfl, fun _ _ hm => by cases hm⟩

theorem recorded_run (o : ManagerOptions) (ops : List Operation) :
    Recorded ((Connection.start o).history ops) ((Connection.start o).run ops) :=
  Connection.run_preserves Recorded.step ops rfl (recorded_start o)

/-- **Faithfulness.**  After any run, browsing a queue gives exactly the messages of its
successful puts without syncpoint and of its committed puts under syncpoint, in the order in
which they became visible; the unit of work holds exactly the successful puts under syncpoint
since the last commit or backout, in put order; the queue of every successful put is there; and
every commit and backout of the run is in its history, in order. -/
theorem browse_eq_visible (o : ManagerOptions) (ops : List Operation) :
    let c := (Connection.start o).run ops
    let h := (Connection.start o).history ops
    (∀ queue, c.manager.queues.defined queue → c.manager.browse queue = .ok (visible h queue)) ∧
      c.manager.uncommitted = unsettled h ∧
      (∀ m syncpoint, .put m syncpoint ∈ h → c.manager.queues.defined m.queue) ∧
      h.filter Event.settles = ops.filterMap Operation.settling? := by
  have r := recorded_run o ops
  refine ⟨fun queue hq => ?_, r.uncommitted, r.known, Connection.filter_history ops rfl⟩
  rw [QueueManager.browse_eq (Connection.run_there rfl ops) hq, r.committed]

end Courier
