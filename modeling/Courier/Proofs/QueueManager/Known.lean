import Courier.Proofs.QueueManager.Balance

/-!
# Courier — Proofs — Which queues there are

A put looks up the queue of its handle, and a commit the queue of each message that waits.  Both
lookups can miss, as far as the code says: the put would then be refused for an unknown object, and
the commit would drop the message.  Neither ever happens, because a queue that is there stays there
(`Connection.Step.defined_mono`), a handle is made by an open, which leaves its queue there, and a
message waits after a put to such a queue.

So the state of a connection is `Known`: no two queues have one name, and the queues of all handles
and of all that waits are there.  Which queues these are can be told from the operations alone
(`Connection.defined_run`): an open makes one only if the options say so, and otherwise finds its
queue there.

**Queues stay** (`queuesKept_run`): in every state that clients reach, the queues are those of the
options, those that were defined, and those that were opened if opens define queues; every lookup
finds its queue, so a commit moves all that waits; and a queue that is there is not changed by
defining or opening it again.
-/

namespace Courier

namespace QueueTable

/-- Defining a queue that is there changes nothing. -/
theorem define_of_defined {t : QueueTable} {name : String} (h : t.defined name) :
    t.define name = t :=
  if_pos h

end QueueTable

namespace Connection

/-! ### Opened queues -/

/-- The queue that an operation opens, if it succeeds. -/
def opened? (c : Connection) : Operation → Option String
  | .openQueue queue o =>
    match c.manager.openQueue queue o with
    | (.ok _, _)    => some queue
    | (.error _, _) => none
  | _ => none

/-- The queues of the successful opens of a run, in order. -/
def openedQueues (c : Connection) : List Operation → List String
  | []        => []
  | op :: ops => (c.opened? op).toList ++ (c.perform op).openedQueues ops

/-! ### What a step keeps -/

section
variable {c c' : Connection} {e : Option Event}

/-- Queues never disappear. -/
theorem Step.defined_mono (step : c.Step e c') {name : String}
    (h : c.manager.queues.defined name) : c'.manager.queues.defined name := by
  cases step with
  | refused | quiesced | closed | backedOut => exact h
  | defined queue | @opened queue => exact (QueueTable.defined_define ..).mpr (.inr h)
  | inhibited queue on => rw [QueueTable.defined_modify]; exact h
  | put o draw hi ok => rw [QueueManager.defined_store]; exact h
  | committed => exact (QueueTable.defined_deliver ..).trans h

theorem Step.unique (step : c.Step e c') (h : c.manager.queues.names.Nodup) :
    c'.manager.queues.names.Nodup := by
  cases step with
  | refused | quiesced | closed | backedOut => exact h
  | defined queue | @opened queue => exact QueueTable.nodup_names_define h queue
  | inhibited queue on => rw [QueueTable.names_modify]; exact h
  | @put i handle d payload o draw hi ok =>
      rw [QueueManager.store]
      split
      · exact h
      · rw [QueueTable.append, QueueTable.names_modify]
        exact h
  | committed =>
      rw [QueueManager.afterCommit, QueueManager.settled, QueueTable.names_deliver]
      exact h

/-- What waits keeps its queue, and what comes to wait was put to a queue that is there. -/
theorem Step.waiting (step : c.Step e c') (h : c.manager.Waiting) : c'.manager.Waiting := by
  cases step with
  | refused | quiesced | closed => exact h
  | defined queue | @opened queue => exact h.define queue
  | inhibited queue on => exact h.inhibit queue on
  | put o draw hi ok => exact h.store ok.defined o _ _
  | committed | backedOut => exact QueueManager.waiting_of_empty rfl

end

/-- Every lookup finds its queue. -/
structure Known (c : Connection) : Prop where
  unique  : c.manager.queues.names.Nodup
  waiting : c.manager.Waiting
  handles : ∀ h ∈ c.handles, c.manager.queues.defined h.queue

theorem Known.step {c c' : Connection} {e : Option Event} (known : c.Known) (step : c.Step e c') :
    c'.Known := by
  refine ⟨step.unique known.unique, step.waiting known.waiting, fun h hh => ?_⟩
  have kept {h : Handle} (hh : h ∈ c.handles) : c'.manager.queues.defined h.queue :=
    step.defined_mono (known.handles h hh)
  cases step with
  | @opened queue =>
      rcases List.mem_append.mp hh with hh | hh
      · exact kept hh
      · cases List.mem_singleton.mp hh
        exact (QueueTable.defined_define ..).mpr (.inl rfl)
  | @closed i open_ hi =>
      -- a handle that is closed is still one to the same queue
      rcases List.mem_or_eq_of_mem_set hh with hh | rfl
      · exact kept hh
      · exact known.handles open_ (List.mem_of_getElem? hi)
  | _ => exact kept hh

theorem known_start (o : ManagerOptions) : (start o).Known := by
  have balanced := QueueManager.balanced_ofOptions o
  exact ⟨balanced.unique, balanced.waiting, fun _ hh => by cases hh⟩

theorem known_run (o : ManagerOptions) (ops : List Operation) : ((start o).run ops).Known :=
  run_preserves (I := fun _ c => c.Known) Known.step ops (h := []) rfl (known_start o)

/-! ### Which queues are there -/

/-- An open that succeeds leaves its queue there.  If opens define no queues, it was there. -/
theorem defined_openQueue {c : Connection} (there : c.manager.storageLost = false) (queue : String)
    (o : OpenOptions) (name : String) :
    (c.perform (.openQueue queue o)).manager.queues.defined name ↔
      c.manager.queues.defined name ∨
        c.manager.options.autoDefineQueues ∧ c.opened? (.openQueue queue o) = some name := by
  cases ok : c.manager.openRefusal? queue o with
  | some r => simp [perform, opened?, QueueManager.openQueue_eq_of_refused there ok]
  | none =>
      have found := (QueueManager.openRefusal?_eq_none_iff.mp ok).2
      simp only [perform, opened?, QueueManager.openQueue_eq there ok, Option.some_inj,
        QueueManager.afterOpen, QueueTable.defined_define]
      constructor
      · rintro (rfl | h)
        · exact found.imp id fun auto => ⟨auto, rfl⟩
        · exact .inl h
      · rintro (h | ⟨-, rfl⟩)
        · exact .inr h
        · exact .inl rfl

/-- Nothing but a definition or an open makes a queue. -/
theorem defined_perform {c : Connection} (there : c.manager.storageLost = false) (op : Operation)
    (name : String) :
    (c.perform op).manager.queues.defined name ↔
      c.manager.queues.defined name ∨ op = .defineQueue name ∨
        c.manager.options.autoDefineQueues ∧ c.opened? op = some name := by
  cases op with
  | defineQueue queue =>
      simp only [perform, QueueManager.defineQueue_eq there, QueueTable.defined_define, opened?,
        reduceCtorEq, and_false, or_false, Operation.defineQueue.injEq, eq_comm (a := name)]
      exact or_comm
  | openQueue queue o =>
      rw [defined_openQueue there]
      simp
  | setPutInhibited queue on =>
      by_cases h : c.manager.queues.defined queue
      · simp [perform, opened?, QueueManager.setPutInhibited_eq there h,
          QueueTable.defined_modify]
      · simp [perform, opened?, QueueManager.setPutInhibited_eq_of_not_defined there h]
  | quiesce => simp [perform, opened?, QueueManager.quiesce_eq there]
  | put i d o payload draw =>
      simp only [perform, opened?, reduceCtorEq, and_false, or_false]
      cases c.handles[i]? with
      | none => rfl
      | some h =>
          cases ok : c.manager.putRefusal? h d payload with
          | none => simp only [QueueManager.put_eq ok, QueueManager.defined_store]
          | some r => simp only [QueueManager.put_eq_of_refused ok]
  | close i =>
      simp only [perform, opened?, reduceCtorEq, and_false, or_false]
      cases c.handles[i]? with
      | none => rfl
      | some h =>
          cases isOpen : h.closed with
          | false => simp only [QueueManager.close_eq there isOpen]; rfl
          | true => simp only [QueueManager.close_eq_of_closed _ isOpen]
  | commit =>
      simp [perform, opened?, QueueManager.commit_eq there, QueueManager.afterCommit,
        QueueManager.settled, QueueTable.defined_deliver]
  | backout => simp [perform, opened?, QueueManager.backout_eq there, QueueManager.afterBackout]

/-- The operations tell which queues they make. -/
theorem defined_run (name : String) (ops : List Operation) : ∀ {c : Connection},
    c.manager.storageLost = false →
      ((c.run ops).manager.queues.defined name ↔
        c.manager.queues.defined name ∨ .defineQueue name ∈ ops ∨
          c.manager.options.autoDefineQueues ∧ name ∈ c.openedQueues ops) := by
  induction ops with
  | nil => intro c _; simp [run, openedQueues]
  | cons op ops ih =>
      intro c there
      have step := step_perform there op
      have later := ih (step.there there)
      rw [defined_perform there, step.options] at later
      simp only [show c.run (op :: ops) = (c.perform op).run ops from rfl, later, openedQueues,
        List.mem_append, Option.mem_toList, List.mem_cons, eq_comm (a := op)]
      tauto

/-- The handles are those that opens made, in order. -/
theorem handles_perform {c : Connection} (there : c.manager.storageLost = false) (op : Operation) :
    (c.perform op).handles.map (·.queue) =
      c.handles.map (·.queue) ++ (c.opened? op).toList := by
  cases op with
  | openQueue queue o =>
      cases ok : c.manager.openRefusal? queue o with
      | some r => simp [perform, opened?, QueueManager.openQueue_eq_of_refused there ok]
      | none => simp [perform, opened?, QueueManager.openQueue_eq there ok]
  | put i d o payload draw =>
      simp only [perform, opened?, Option.toList_none, List.append_nil]
      cases c.handles[i]? <;> rfl
  | close i =>
      simp only [perform, opened?, Option.toList_none, List.append_nil]
      cases hi : c.handles[i]? with
      | none => rfl
      | some h =>
          have same : (c.manager.close h).2.1.queue = h.queue := by
            rw [QueueManager.close]
            split_ifs <;> rfl
          obtain ⟨lt, rfl⟩ := List.getElem?_eq_some_iff.mp hi
          have bound : i < (c.handles.map (·.queue)).length := by simpa using lt
          have at_i : c.handles[i].queue = (c.handles.map (·.queue))[i] := by simp
          rw [List.map_set, same, at_i, List.set_getElem_self]
  | _ => simp [perform, opened?]

theorem handles_run (ops : List Operation) : ∀ {c : Connection}, c.manager.storageLost = false →
    (c.run ops).handles.map (·.queue) = c.handles.map (·.queue) ++ c.openedQueues ops := by
  induction ops with
  | nil => intro c _; simp [run, openedQueues]
  | cons op ops ih =>
      intro c there
      rw [show c.run (op :: ops) = (c.perform op).run ops from rfl,
        ih ((step_perform there op).there there), handles_perform there, openedQueues,
        List.append_assoc]

end Connection

/-! ### What the calls find -/

namespace QueueManager

/-- After `qm`, a commit leaves `next`: all that waited is on its queue, behind what was there. -/
structure MovesAll (qm next : QueueManager) : Prop where
  uncommitted : next.uncommitted = []
  committed   : ∀ n, next.committed n = qm.committed n ++ addressed n qm.uncommitted
  stored      : next.stored = qm.stored + qm.uncommitted.length

theorem movesAll_afterCommit {qm : QueueManager} (unique : qm.queues.names.Nodup)
    (waiting : qm.Waiting) : qm.MovesAll qm.afterCommit where
  uncommitted := rfl
  committed n := QueueTable.messages_deliver waiting n
  stored := QueueTable.total_deliver unique waiting

/-- A put whose queue is there is not refused for an unknown object. -/
theorem put_ne_unknownObjectName {qm : QueueManager} {h : Handle}
    (found : qm.queues.defined h.queue) (d : Descriptor) (o : PutOptions) (payload : ByteArray)
    (draw : Draw) {e : TransportError} (no : (qm.put h d o payload draw).1 = .error e) :
    e.reason ≠ .unknownObjectName := by
  obtain ⟨q, hq⟩ := QueueTable.defined_iff.mp found
  cases refused : qm.putRefusal? h d payload with
  | none => rw [put_eq refused] at no; cases no
  | some r =>
      rw [put_eq_of_refused refused] at no
      cases no
      rintro (rfl : r = _)
      rw [putRefusal?] at refused
      simp only [hq] at refused
      repeat' split at refused
      all_goals exact absurd refused (by decide)

/-- Opening a queue that is there changes no queue, whether or not it succeeds. -/
theorem queues_openQueue {qm : QueueManager} (there : qm.storageLost = false) {queue : String}
    (found : qm.queues.defined queue) (o : OpenOptions) :
    (qm.openQueue queue o).2.queues = qm.queues := by
  cases ok : qm.openRefusal? queue o with
  | some r => rw [openQueue_eq_of_refused there ok]
  | none =>
      rw [openQueue_eq there ok]
      exact QueueTable.define_of_defined found

end QueueManager

/-- What holds of the queues after operations `ops` on a new queue manager with options `o`; the
queues `opened` are those that were opened successfully. -/
structure QueuesKept (o : ManagerOptions) (ops : List Operation) (opened : List String)
    (c : Connection) : Prop where
  defined  : ∀ name, c.manager.queues.defined name ↔
    name ∈ o.queues ∨ .defineQueue name ∈ ops ∨ o.autoDefineQueues ∧ name ∈ opened
  /-- The handles are those of the opens, and their queues are there. -/
  handles  : c.handles.map (·.queue) = opened ∧
    ∀ h ∈ c.handles, c.manager.queues.defined h.queue
  waiting  : ∀ m ∈ c.manager.uncommitted, c.manager.queues.defined m.queue
  puts     : ∀ h ∈ c.handles, ∀ d po payload draw e,
    (c.manager.put h d po payload draw).1 = .error e → e.reason ≠ .unknownObjectName
  /-- The commit counts what waits and moves all of it. -/
  commit   : ∃ next, c.manager.commit = (.ok c.manager.uncommitted.length, next) ∧
    c.manager.MovesAll next
  redefine : ∀ queue, c.manager.queues.defined queue →
    c.manager.defineQueue queue = (.ok (), c.manager)
  reopen   : ∀ queue oo, c.manager.queues.defined queue →
    (c.manager.openQueue queue oo).2.queues = c.manager.queues

/-- **Queues stay.**  After any operations on a new queue manager, the queues are those of its
options, those that were defined and, if opens define queues, those that were opened; the queue of
every handle and of all that waits is there, so that no put is refused for an unknown object and a
commit drops nothing; and defining or opening a queue again leaves it as it is. -/
theorem queuesKept_run (o : ManagerOptions) (ops : List Operation) :
    QueuesKept o ops ((Connection.start o).openedQueues ops) ((Connection.start o).run ops) := by
  have there := Connection.run_there (c := .start o) rfl ops
  have known := Connection.known_run o ops
  refine ⟨fun name => ?_, ⟨?_, known.handles⟩, known.waiting, ?_, ?_, ?_, ?_⟩
  · rw [Connection.defined_run name ops rfl, ← QueueManager.defined_ofOptions]
    rfl
  · exact Connection.handles_run ops rfl
  · exact fun h hh d po payload draw e no =>
      QueueManager.put_ne_unknownObjectName (known.handles h hh) d po payload draw no
  · exact ⟨_, QueueManager.commit_eq there,
      QueueManager.movesAll_afterCommit known.unique known.waiting⟩
  · intro queue found
    rw [QueueManager.defineQueue_eq there, QueueTable.define_of_defined found]
  · exact fun queue oo found => QueueManager.queues_openQueue there found oo

end Courier
