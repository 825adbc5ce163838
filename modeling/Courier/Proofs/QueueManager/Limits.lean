import Courier.Proofs.QueueManager.Run

/-!
# Courier — Proofs — Limits

A put is checked against the depth of its queue and the length of its payload; a commit is not.
The depth stays within its limit all the same, because a put counts the messages that wait in the
unit of work beside those on the queue: what a commit moves has had its place reserved.  The bound
is therefore one over both stores (`WithinLimits.depth`), for each queue by itself, and a commit
or a backout never makes the sum larger.

**Limits** (`withinLimits_run`): in every state that clients can reach, the committed and the
waiting messages of a queue are at most `maxQueueDepth`, no payload is longer than
`maxMessageLength`, and no message has an expiry of zero tenths.
-/

namespace Courier

namespace QueueManager

/-- `m` is on a queue or in the unit of work. -/
def Holds (qm : QueueManager) (m : StoredMessage) : Prop :=
  (∃ queue, m ∈ qm.committed queue) ∨ ∃ queue, ⟨queue, m⟩ ∈ qm.uncommitted

/-- The limits that the options set for the queues and the messages. -/
structure WithinLimits (qm : QueueManager) : Prop where
  depth  : ∀ queue,
    (qm.committed queue).length + qm.uncommittedDepth queue ≤ qm.options.maxQueueDepth
  length : ∀ m, qm.Holds m → m.payload.size ≤ qm.options.maxMessageLength
  expiry : ∀ m, qm.Holds m → m.descriptor.expiry ≠ .tenths 0

/-- A change that adds no message keeps the limits. -/
theorem WithinLimits.mono {qm qm' : QueueManager} (w : qm.WithinLimits)
    (options : qm'.options = qm.options)
    (depth : ∀ queue, (qm'.committed queue).length + qm'.uncommittedDepth queue ≤
      (qm.committed queue).length + qm.uncommittedDepth queue)
    (holds : ∀ m, qm'.Holds m → qm.Holds m) : qm'.WithinLimits where
  depth queue := by rw [options]; exact Nat.le_trans (depth queue) (w.depth queue)
  length m hm := by rw [options]; exact w.length m (holds m hm)
  expiry m hm := w.expiry m (holds m hm)

/-- A change that keeps the committed messages and the unit of work keeps the limits. -/
theorem WithinLimits.keep {qm qm' : QueueManager} (w : qm.WithinLimits)
    (options : qm'.options = qm.options)
    (committed : ∀ queue, qm'.committed queue = qm.committed queue)
    (uncommitted : qm'.uncommitted = qm.uncommitted) : qm'.WithinLimits := by
  refine w.mono options (fun queue => ?_) fun m hm => ?_
  · rw [committed, uncommittedDepth, uncommitted]
    exact Nat.le_refl _
  · simpa only [Holds, committed, uncommitted] using hm

/-! ### Puts -/

/-- A put adds one message to its own queue and none to the others, wherever it is kept. -/
theorem depth_store {qm : QueueManager} {queue : String} (h : qm.queues.defined queue)
    (o : PutOptions) (drawn : Bool) (m : StoredMessage) (n : String) :
    ((qm.store queue o drawn m).committed n).length +
        (qm.store queue o drawn m).uncommittedDepth n =
      (qm.committed n).length + qm.uncommittedDepth n + if queue = n then 1 else 0 := by
  rw [committed_store h, uncommittedDepth_eq, uncommitted_store, uncommittedDepth_eq,
    addressed_append, List.length_append, List.length_append]
  have one : (addressed n [⟨queue, m⟩]).length = if queue = n then 1 else 0 := by
    rw [addressed_singleton]
    split <;> rfl
  cases o.syncpoint with
  | true => simp only [if_true, addressed_nil, List.length_nil, one]; omega
  | false => simp only [Bool.false_eq_true, if_false, addressed_nil, List.length_nil, one]; omega

theorem holds_store {qm : QueueManager} {queue : String} (h : qm.queues.defined queue)
    {o : PutOptions} {drawn : Bool} {m m' : StoredMessage}
    (hm : (qm.store queue o drawn m).Holds m') : qm.Holds m' ∨ m' = m := by
  rcases hm with ⟨n, hn⟩ | ⟨n, hn⟩
  · rw [committed_store h] at hn
    rcases List.mem_append.mp hn with hn | hn
    · exact .inl (.inl ⟨n, hn⟩)
    · cases hs : o.syncpoint with
      | true => rw [hs] at hn; cases hn
      | false =>
          rw [hs] at hn
          cases List.mem_singleton.mp (mem_addressed.mp hn)
          exact .inr rfl
  · rw [uncommitted_store] at hn
    rcases List.mem_append.mp hn with hn | hn
    · exact .inl (.inr ⟨n, hn⟩)
    · cases hs : o.syncpoint with
      | true =>
          rw [hs] at hn
          cases List.mem_singleton.mp hn
          exact .inr rfl
      | false => rw [hs] at hn; cases hn

/-- An accepted put finds a place that no committed or waiting message of its queue takes. -/
theorem WithinLimits.put {qm : QueueManager} (w : qm.WithinLimits) {h : Handle} {d : Descriptor}
    {payload : ByteArray} (ok : qm.Accepts h d payload) (o : PutOptions) (drawn : Bool)
    (draw : Draw) :
    (qm.store h.queue o drawn ⟨qm.stamp d o draw, payload⟩).WithinLimits where
  depth n := by
    rw [depth_store ok.defined]
    by_cases hn : h.queue = n
    · -- the put's own queue: the room that was found is for this message
      obtain ⟨q, hq, -, room⟩ := ok.room
      rw [if_pos hn, ← hn, committed, QueueTable.messages_of_find? hq]
      exact room
    · rw [if_neg hn]
      exact w.depth n
  length m hm := by
    rcases holds_store ok.defined hm with hm | rfl
    · exact w.length m hm
    · exact ok.length_le
  expiry m hm := by
    rcases holds_store ok.defined hm with hm | rfl
    · exact w.expiry m hm
    · exact ok.expiry

/-! ### The unit of work -/

theorem WithinLimits.commit {qm : QueueManager} (w : qm.WithinLimits) :
    qm.afterCommit.WithinLimits := by
  have moved (queue : String) := qm.queues.messages_deliver_sublist qm.uncommitted queue
  refine w.mono rfl (fun queue => ?_) fun m hm => ?_
  · have := (moved queue).length_le
    rw [List.length_append, ← uncommittedDepth_eq] at this
    exact this
  · rcases hm with ⟨queue, hm⟩ | ⟨_, hm⟩
    · rcases List.mem_append.mp ((moved queue).subset hm) with hm | hm
      · exact .inl ⟨queue, hm⟩
      · exact .inr ⟨queue, mem_addressed.mp hm⟩
    · cases hm

theorem WithinLimits.backout {qm : QueueManager} (w : qm.WithinLimits) :
    qm.afterBackout.WithinLimits := by
  refine w.mono rfl (fun queue => Nat.add_le_add_left (Nat.zero_le _) _) fun m hm => ?_
  rcases hm with hm | ⟨_, hm⟩
  · exact .inl hm
  · cases hm

end QueueManager

/-! ### Runs -/

theorem Connection.Step.withinLimits {c c' : Connection} {e : Option Event} (step : c.Step e c')
    (w : c.manager.WithinLimits) : c'.manager.WithinLimits := by
  cases step with
  | refused | quiesced | closed => exact w.keep rfl (fun _ => rfl) rfl
  | defined queue | @opened queue =>
      exact w.keep rfl (QueueTable.messages_define _ queue) rfl
  | inhibited queue on => exact w.keep rfl (QueueTable.messages_inhibit _ queue · on) rfl
  | put o draw hi ok => exact w.put ok o _ draw
  | committed => exact w.commit
  | backedOut => exact w.backout

theorem QueueManager.withinLimits_ofOptions (o : ManagerOptions) :
    (QueueManager.ofOptions o).WithinLimits := by
  have none (m : StoredMessage) : ¬ (QueueManager.ofOptions o).Holds m := by
    rintro (⟨queue, hm⟩ | ⟨_, hm⟩)
    · rw [committed_ofOptions] at hm
      cases hm
    · cases hm
  refine ⟨fun queue => ?_, fun m hm => absurd hm (none m), fun m hm => absurd hm (none m)⟩
  rw [committed_ofOptions]
  exact Nat.zero_le _

/-- **Limits.**  In every state that clients can bring a queue manager to, the committed messages
of a queue and those that wait for it in the unit of work are together at most `maxQueueDepth`;
every message on a queue or in the unit of work has a payload of at most `maxMessageLength` bytes
and an expiry other than zero tenths. -/
theorem withinLimits_run (o : ManagerOptions) (ops : List Operation) :
    let qm := ((Connection.start o).run ops).manager
    (∀ queue, (qm.committed queue).length + qm.uncommittedDepth queue ≤ o.maxQueueDepth) ∧
      ∀ m, qm.Holds m →
        m.payload.size ≤ o.maxMessageLength ∧ m.descriptor.expiry ≠ .tenths 0 := by
  have w : ((Connection.start o).run ops).manager.WithinLimits :=
    Connection.run_preserves (I := fun _ c => c.manager.WithinLimits)
      (fun w step => step.withinLimits w) ops (h := []) rfl
      (QueueManager.withinLimits_ofOptions o)
  have options : ((Connection.start o).run ops).manager.options = o :=
    Connection.run_options rfl ops
  refine ⟨fun queue => ?_, fun m hm => ⟨?_, w.expiry m hm⟩⟩
  · have depth := w.depth queue
    rwa [options] at depth
  · have length := w.length m hm
    rwa [options] at length

end Courier
