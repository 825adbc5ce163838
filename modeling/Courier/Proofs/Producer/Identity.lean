import Courier.Proofs.MessageId
import Courier.Proofs.Producer.Requests
import Mathlib.Data.List.Nodup

/-!
# Courier — Proofs — Each message has an identifier of its own

A put that is accepted makes an identifier if it asks for a new one or brings none; a send always
asks for one.  The random part of an identifier tells nothing, since any bytes may be drawn.  What
tells two apart is the put sequence number in the last 8 bytes: the queue manager counts on by one
for each identifier that it makes and never counts back, neither for a put that it refuses nor
when it backs out what was put (`Connection.Counts`).

So the identifiers made in a run carry the numbers from 1 on, in order (`Numbered`).  With fewer
than 2 ^ 64 puts no number is too long for its 8 bytes, and then no two are alike.

**Identity** (`identifiers_distinct`): for any mixture of calls and sends, the numbers of the
identifiers that are made, and that no two sends that succeed leave the same one, nor the same
header, on their messages.
-/

namespace Courier

namespace Request

/-- Whether a message is put. -/
def isPut : Request → Bool
  | .call (.put ..) => true
  | .call _         => false
  | .send ..        => true

/-- Whether a new identifier is asked for, or none is brought. -/
def drawsId : Request → Bool
  | .call (.put _ d o _ _) => QueueManager.drawsId d o
  | .call _                => false
  | .send ..               => true

end Request

namespace Connection

/-- The answer to a put, with the descriptor that comes back if it is accepted. -/
def putAnswer? (c : Connection) : Request → Option (Except TransportError Descriptor)
  | .call (.put i d o payload draw) =>
    (c.handles[i]?).map fun h =>
      let (r, after, _) := c.manager.put h d o payload draw
      r.map fun _ => after
  | .call _ => none
  | .send p queue m draw =>
    let sent := p.send queue m draw c.manager
    some (sent.result.map fun _ => sent.message.descriptorOrNew)

/-- The identifier that is made for a request, if one is. -/
def identifier? (c : Connection) (r : Request) : Option MessageId :=
  match c.putAnswer? r, r.drawsId with
  | some (.ok d), true => d.messageId
  | _, _               => none

/-- The message as a send leaves it, if that succeeds. -/
def sent? (c : Connection) : Request → Option Message
  | .call _ => none
  | .send p queue m draw =>
    let sent := p.send queue m draw c.manager
    match sent.answer with
    | .ok ()   => some sent.message
    | .error _ => none

/-! ### One request -/

/-- What a request does to the two counters, with the identifier that is made for it. -/
inductive Counts (qm next : QueueManager) : Option MessageId → Prop where
  | none (sequence : next.sequence = qm.sequence)
      (puts : qm.statistics.puts ≤ next.statistics.puts) : Counts qm next none
  | made (entropy : Entropy) (sequence : next.sequence = qm.sequence + 1)
      (puts : next.statistics.puts = qm.statistics.puts + 1) :
      Counts qm next (some (.generate entropy (qm.sequence + 1)))

/-- What is no put leaves both counters alone. -/
theorem Step.counts {c c' : Connection} {e : Option Event} (step : c.Step e c')
    (noPut : ∀ m syncpoint, e ≠ some (.put m syncpoint)) : Counts c.manager c'.manager none := by
  cases step with
  | put => exact absurd rfl (noPut _ _)
  | _ => exact .none rfl (Nat.le_refl _)

theorem counts_put (c : Connection) (i : Nat) (d : Descriptor) (o : PutOptions)
    (payload : ByteArray) (draw : Draw) :
    Counts c.manager (c.serve (.call (.put i d o payload draw))).manager
      (c.identifier? (.call (.put i d o payload draw))) := by
  simp only [serve, perform, identifier?, putAnswer?, Request.drawsId]
  cases c.handles[i]? with
  | none => exact .none rfl (Nat.le_refl _)
  | some h =>
      cases ok : c.manager.putRefusal? h d payload with
      | some r =>
          simp only [Option.map_some, QueueManager.put_eq_of_refused ok]
          exact .none rfl (Nat.le_refl _)
      | none =>
          simp only [Option.map_some, QueueManager.put_eq ok, Except.map]
          cases drawn : QueueManager.drawsId d o with
          | true =>
              have made : (c.manager.stamp d o draw).messageId =
                  some (.generate draw.entropy (c.manager.sequence + 1)) := if_pos drawn
              simp only [made]
              exact .made draw.entropy rfl rfl
          | false => exact .none rfl (Nat.le_succ _)

theorem counts_serve {c : Connection} (there : c.manager.storageLost = false) (r : Request) :
    Counts c.manager (c.serve r).manager (c.identifier? r) := by
  cases r with
  | call op =>
      have step := step_perform there op
      cases op with
      | put i d o payload draw => exact c.counts_put i d o payload draw
      | commit =>
          simp only [event?, QueueManager.commit_eq there] at step
          exact step.counts fun _ _ h => by cases h
      | backout =>
          simp only [event?, QueueManager.backout_eq there] at step
          exact step.counts fun _ _ h => by cases h
      | _ => exact step.counts fun _ _ h => by cases h
  | send p queue m draw =>
      have ending := p.ending_send queue m draw c.manager
      simp only [serve, identifier?, putAnswer?, Request.drawsId]
      generalize p.send queue m draw c.manager = sent at ending
      cases ending with
      | notOpened | refused => exact .none rfl (Nat.le_refl _)
      | stored => exact .made draw.entropy rfl rfl

/-- A send that succeeds leaves the identifier that was made for it. -/
theorem identifier?_of_sent? {c : Connection} {r : Request} {m : Message} (h : c.sent? r = some m) :
    ∃ id, c.identifier? r = some id ∧ m.descriptor.bind (·.messageId) = some id := by
  cases r with
  | call op => cases h
  | send p queue m' draw =>
      have ending := p.ending_send queue m' draw c.manager
      simp only [sent?] at h
      simp only [identifier?, putAnswer?, Request.drawsId]
      generalize p.send queue m' draw c.manager = sent at ending h
      cases ending with
      | notOpened | refused => cases h
      | stored =>
          cases h
          exact ⟨_, rfl, rfl⟩

theorem isPut_of_identifier? {c : Connection} {r : Request} {id : MessageId}
    (h : c.identifier? r = some id) : r.isPut := by
  cases r with
  | send => rfl
  | call op => cases op <;> first | rfl | cases h

end Connection

/-! ### Runs -/

/-- The identifiers made so far carry the numbers from 1 on, and the queue manager goes on from the
last. -/
structure Numbered (ids : List MessageId) (qm : QueueManager) : Prop where
  sequence : qm.sequence = ids.length
  puts     : ids.length ≤ qm.statistics.puts
  made     : ∀ k id, ids[k]? = some id → ∃ entropy, id = MessageId.generate entropy (k + 1)

theorem Numbered.step {ids : List MessageId} {qm next : QueueManager} {made : Option MessageId}
    (h : Numbered ids qm) (counts : Connection.Counts qm next made) :
    Numbered (ids ++ made.toList) next := by
  cases counts with
  | none sequence puts =>
      rw [Option.toList_none, List.append_nil]
      exact ⟨sequence.trans h.sequence, Nat.le_trans h.puts puts, h.made⟩
  | made entropy sequence puts =>
      refine ⟨?_, ?_, fun k id hk => ?_⟩
      · rw [sequence, h.sequence]
        simp
      · have := h.puts
        rw [puts]
        simpa using this
      · -- the new identifier stands behind the others
        rw [Option.toList_some, List.getElem?_append] at hk
        split at hk
        · exact h.made k id hk
        · rename_i behind
          rw [List.getElem?_singleton] at hk
          split at hk <;> cases hk
          have number : k = qm.sequence := by rw [h.sequence]; omega
          rw [number]
          exact ⟨entropy, rfl⟩

theorem numbered_serveAll (o : ManagerOptions) (rs : List Request) :
    Numbered ((Connection.start o).collect Connection.identifier? rs)
      ((Connection.start o).serveAll rs).manager :=
  Connection.serveAll_preserves (I := fun ids c => Numbered ids c.manager)
    (fun r there h => h.step (Connection.counts_serve there r)) rs [] (.start o) rfl
    ⟨rfl, Nat.le_refl 0, fun _ _ h => by cases h⟩

/-- Numbers of fewer than 2 ^ 64 identifiers fit into their 8 bytes. -/
theorem Numbered.number {ids : List MessageId} {qm : QueueManager} (h : Numbered ids qm)
    (few : ids.length < 2 ^ 64) (k : Nat) (id : MessageId) (hk : ids[k]? = some id) :
    id.number = k + 1 := by
  obtain ⟨entropy, rfl⟩ := h.made k id hk
  obtain ⟨lt, -⟩ := List.getElem?_eq_some_iff.mp hk
  exact MessageId.number_generate_of_lt entropy (by omega)

/-- Numbers that all differ tell all identifiers apart. -/
theorem nodup_of_number {ids : List MessageId}
    (h : ∀ k id, ids[k]? = some id → id.number = k + 1) : ids.Nodup := by
  have numbers : ids.map MessageId.number = List.range' 1 ids.length := by
    refine List.ext_getElem? fun k => ?_
    rw [List.getElem?_map]
    cases hk : ids[k]? with
    | none =>
        have := List.getElem?_eq_none_iff.mp hk
        simp [this]
    | some id =>
        obtain ⟨lt, -⟩ := List.getElem?_eq_some_iff.mp hk
        simp [h k id hk, lt, Nat.add_comm]
  have distinct : (ids.map MessageId.number).Nodup := numbers ▸ List.nodup_range'
  exact distinct.of_map

/-- A request that a put is refused for makes no identifier. -/
theorem Connection.identifier?_of_refused {c : Connection} {r : Request} {e : TransportError}
    (no : c.putAnswer? r = some (.error e)) : c.identifier? r = none := by
  rw [identifier?, no]

/-- What a run leaves: the identifiers that were made, the messages of the sends that succeeded, and
the queue manager with its handles. -/
structure Identified (ids : List MessageId) (sent : List Message) (c : Connection) : Prop where
  /-- The identifiers carry the numbers from 1 on, and none is the identifier of zeros. -/
  numbers  : ∀ k id, ids[k]? = some id → id.number = k + 1 ∧ id.isNone = false
  /-- A put that is refused takes no number. -/
  refused  : ∀ r e, c.putAnswer? r = some (.error e) →
    (c.serve r).manager.sequence = c.manager.sequence
  sequence : c.manager.sequence = ids.length
  puts     : c.manager.sequence ≤ c.manager.statistics.puts
  /-- Each message has one of the identifiers, and no two have the same. -/
  made     : ∀ m ∈ sent, ∃ id ∈ ids, m.descriptor.bind (·.messageId) = some id
  distinct : (sent.map fun m => m.descriptor.bind (·.messageId)).Nodup
  headers  : (sent.map (·.messageId?)).Nodup

/-- If the identifiers are numbered, it is enough that what the sends leave is found among them, in
order. -/
theorem identified_of_numbered {ids : List MessageId} {sent : List Message} {c : Connection}
    (numbered : Numbered ids c.manager) (few : ids.length < 2 ^ 64)
    (there : c.manager.storageLost = false)
    (left : (sent.map fun m => m.descriptor.bind (·.messageId)).Sublist (ids.map some)) :
    Identified ids sent c := by
  have number := numbered.number few
  have distinct : ids.Nodup := nodup_of_number number
  have headers : (sent.map (·.messageId?)).Sublist (ids.map fun id => some id.header) := by
    have same := left.map (Option.map MessageId.header)
    rwa [List.map_map, List.map_map] at same
  refine ⟨fun k id hk => ⟨number k id hk, ?_⟩, fun r e no => ?_, numbered.sequence, ?_,
    fun m hm => ?_, ?_, ?_⟩
  · exact MessageId.isNone_eq_false (by rw [number k id hk]; omega)
  · have counts := Connection.counts_serve there r
    rw [Connection.identifier?_of_refused no] at counts
    cases counts with
    | none sequence puts => exact sequence
  · exact numbered.sequence ▸ numbered.puts
  · have among := left.subset (List.mem_map_of_mem hm)
    obtain ⟨id, hid, same⟩ := List.mem_map.mp among
    exact ⟨id, hid, same.symm⟩
  · exact left.nodup (distinct.map fun _ _ => Option.some.inj)
  · exact headers.nodup (distinct.map fun _ _ same =>
      MessageId.header_injective (Option.some.inj same))

/-- **Identity.**  After any run of fewer than 2 ^ 64 puts on a new queue manager, whatever random
bytes were drawn, the identifiers that were made carry the numbers from 1 on, in order, and the
sends that succeeded left different ones. -/
theorem identifiers_distinct (o : ManagerOptions) (rs : List Request)
    (few : rs.countP Request.isPut < 2 ^ 64) :
    Identified ((Connection.start o).collect Connection.identifier? rs)
      ((Connection.start o).collect Connection.sent? rs) ((Connection.start o).serveAll rs) := by
  -- only a put makes an identifier
  have most : ((Connection.start o).collect Connection.identifier? rs).length ≤
      rs.countP Request.isPut :=
    Connection.length_collect_le (fun _ _ _ h => Connection.isPut_of_identifier? h) rs _
  refine identified_of_numbered (numbered_serveAll o rs) (Nat.lt_of_le_of_lt most few)
    (Connection.serveAll_there rs rfl) ?_
  exact Connection.collect_sublist _ some
    (fun _ _ _ _ h => Connection.identifier?_of_sent? h) rs (.start o) rfl

/-- A message sent under syncpoint and backed out, then sent again, and refused the third time, with
a put in between that keeps the identifier it brings, which is all zeros.  Two identifiers are made,
and the message had both. -/
theorem identifiers_distinct_resent :
    let o : ManagerOptions := { maxQueueDepth := 2 }
    let draw : Draw := ⟨⟨0, 0, by decide, by decide⟩, Vector.replicate 16 7⟩
    let p : Producer := { session := .transacted }
    let q : Producer := { session := .autoAcknowledge }
    let zeros : Descriptor := { messageId := some ⟨Vector.replicate 24 0⟩ }
    let first := p.send "DEV.QUEUE.1" (.ofText "hello") draw (.ofOptions o)
    let rs : List Request :=
      [.send p "DEV.QUEUE.1" (.ofText "hello") draw, .call .backout,
        .call (.openQueue "DEV.QUEUE.1" .forSend), .call (.put 0 zeros ⟨false, false⟩ .empty draw),
        .send q "DEV.QUEUE.1" first.message draw, .send q "DEV.QUEUE.1" first.message draw]
    let c := (Connection.start o).serveAll rs
    let ids := (Connection.start o).collect Connection.identifier? rs
    let sent := (Connection.start o).collect Connection.sent? rs
    rs.countP Request.isPut < 2 ^ 64 ∧ ids.length = 2 ∧ sent.length = 2 ∧
      c.manager.statistics.puts = 3 ∧ Identified ids sent c :=
  ⟨by decide, by decide +kernel, by decide +kernel, by decide +kernel,
    identifiers_distinct _ _ (by decide)⟩

end Courier
