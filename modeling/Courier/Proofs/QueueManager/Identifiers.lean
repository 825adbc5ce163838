import Courier.Proofs.MessageId
import Courier.Proofs.QueueManager.Put

/-!
# Courier — Proofs — Which identifiers are stored

A stored message has an identifier: the one that was made for it, or the one that its descriptor
brought.  One that is made carries the number of its put among those that made one, which is never
zero, so it is not the identifier of zeros, as long as 8 bytes hold the number
(`MessageId.isNone_generate`).  No more numbers are used than puts are counted
(`QueueManager.Reachable.sequence_le_puts`), so fewer than 2 ^ 64 puts are enough for that.

One that is brought is kept as it is.  The descriptor is asked only whether it brings one, and the
identifier of zeros, which stands for none, counts as one.

**Identifiers of stored messages** (`identifier_of_put_ok`): the identifier that a put stores is the
one that comes back to the caller, and it is the identifier of zeros exactly if the caller brought
that and asked for no new one.  `zeros_stored` is such a put.
-/

namespace Courier

/-! ### Numbers and puts -/

theorem Connection.Step.sequence_le_puts {c c' : Connection} {e : Option Event}
    (step : c.Step e c') (h : c.manager.sequence ≤ c.manager.statistics.puts) :
    c'.manager.sequence ≤ c'.manager.statistics.puts := by
  cases step with
  | put o draw hi ok =>
      -- the put is counted, whether or not it makes an identifier
      simp only [QueueManager.store]
      split
      · exact Nat.succ_le_succ h
      · exact Nat.le_succ_of_le h
  | _ => exact h

/-- No more identifiers were made than messages were put. -/
theorem QueueManager.Reachable.sequence_le_puts {qm : QueueManager} (h : qm.Reachable) :
    qm.sequence ≤ qm.statistics.puts := by
  obtain ⟨o, ops, rfl⟩ := h
  exact Connection.run_preserves
    (I := fun _ c => c.manager.sequence ≤ c.manager.statistics.puts)
    (fun h step => step.sequence_le_puts h) ops (h := []) rfl (Nat.le_refl 0)

/-! ### The identifier of a put -/

section
variable {qm next : QueueManager} {h : Handle} {d after : Descriptor} {o : PutOptions}
  {payload : ByteArray} {draw : Draw}

/-- A put that succeeds is one that nothing refuses. -/
theorem QueueManager.accepts_of_put_ok
    (ok : qm.put h d o payload draw = (.ok (), after, next)) :
    qm.Accepts h d payload ∧ after = qm.stamp d o draw ∧
      next = qm.store h.queue o (drawsId d o) ⟨after, payload⟩ := by
  cases refused : qm.putRefusal? h d payload with
  | some r => rw [put_eq_of_refused refused] at ok; cases ok
  | none =>
      rw [put_eq refused] at ok
      cases ok
      exact ⟨putRefusal?_eq_none_iff.mp refused, rfl, rfl⟩

/-- A put makes no identifier if none is asked for and the descriptor brings one. -/
theorem QueueManager.drawsId_eq_false_iff :
    drawsId d o = false ↔ o.newMessageId = false ∧ ∃ brought, d.messageId = some brought := by
  rw [drawsId, Bool.or_eq_false_iff, Option.isNone_eq_false_iff, Option.isSome_iff_exists]

/-- **Identifiers of stored messages.**  In a state that clients can reach, a put succeeds, and it
is one of fewer than 2 ^ 64.  Then the message that it stores has the descriptor that comes back,
with one identifier, and that is the identifier of zeros exactly if no new one was asked for and the
descriptor brought the identifier of zeros. -/
theorem identifier_of_put_ok (reachable : qm.Reachable)
    (ok : qm.put h d o payload draw = (.ok (), after, next))
    (few : next.statistics.puts < 2 ^ 64) :
    ∃ id, after.messageId = some id ∧
      qm.Takes next h.queue o.syncpoint (QueueManager.drawsId d o) ⟨after, payload⟩ ∧
      (id.isNone = true ↔
        o.newMessageId = false ∧
          ∃ brought, d.messageId = some brought ∧ brought.isNone = true) := by
  obtain ⟨accepts, rfl, rfl⟩ := QueueManager.accepts_of_put_ok ok
  have takes := QueueManager.takes_store accepts.defined o (QueueManager.drawsId d o)
    ⟨qm.stamp d o draw, payload⟩
  cases drawn : QueueManager.drawsId d o with
  | true =>
      -- the number of this put, which `few` bounds through the count of puts
      have made : (qm.stamp d o draw).messageId =
          some (.generate draw.entropy (qm.sequence + 1)) := if_pos drawn
      have number : qm.sequence + 1 < 2 ^ 64 :=
        Nat.lt_of_le_of_lt (Nat.succ_le_succ reachable.sequence_le_puts) few
      have real := MessageId.isNone_generate draw.entropy (Nat.succ_pos _) number
      refine ⟨_, made, drawn ▸ takes, ?_⟩
      constructor
      · intro zeros
        rw [real] at zeros
        cases zeros
      · rintro ⟨old, brought, given, -⟩
        have kept := QueueManager.drawsId_eq_false_iff.mpr ⟨old, brought, given⟩
        rw [drawn] at kept
        cases kept
  | false =>
      -- whatever was brought is kept
      obtain ⟨old, brought, given⟩ := QueueManager.drawsId_eq_false_iff.mp drawn
      have kept : (qm.stamp d o draw).messageId = some brought := by
        rw [QueueManager.stamp, drawn]
        exact given
      refine ⟨brought, kept, drawn ▸ takes, ?_⟩
      constructor
      · exact fun zeros => ⟨old, brought, given, zeros⟩
      · rintro ⟨-, other, same, zeros⟩
        cases given.symm.trans same
        exact zeros

end

/-- A descriptor that brings the identifier of zeros, put with a new one asked for: the identifier
that is stored and comes back is not that of zeros. -/
theorem identifier_of_new_put :
    let d : Descriptor := { messageId := some ⟨Vector.replicate 24 0⟩ }
    let h : Handle := ⟨"DEV.QUEUE.1", .forSend, false⟩
    let draw : Draw := ⟨⟨0, 0, by decide, by decide⟩, Vector.replicate 16 0⟩
    let qm := QueueManager.ofOptions {}
    let put := qm.put h d ⟨true, true⟩ "hello".toUTF8 draw
    qm.Reachable ∧ put.1 = .ok () ∧ put.2.2.statistics.puts = 1 ∧
      ∃ id, put.2.1.messageId = some id ∧
        qm.Takes put.2.2 h.queue true true ⟨put.2.1, "hello".toUTF8⟩ ∧ id.isNone = false := by
  intro d h draw qm put
  have reachable : qm.Reachable := ⟨{}, [], rfl⟩
  have ok : put = (.ok (), put.2.1, put.2.2) := rfl
  obtain ⟨id, back, takes, zeros⟩ := identifier_of_put_ok reachable ok (by decide)
  refine ⟨reachable, rfl, rfl, id, back, takes, ?_⟩
  rw [← Bool.not_eq_true, zeros]
  rintro ⟨old, -⟩
  cases old

/-- A descriptor that brings the identifier of zeros, put through an open handle with no new one
asked for: the put succeeds, and the identifier of zeros comes back and is on the queue. -/
theorem zeros_stored :
    let zeros : MessageId := ⟨Vector.replicate 24 0⟩
    let c := (Connection.start {}).run [.openQueue "DEV.QUEUE.1" .forSend]
    let h : Handle := ⟨"DEV.QUEUE.1", .forSend, false⟩
    let draw : Draw := ⟨⟨0, 0, by decide, by decide⟩, Vector.replicate 16 7⟩
    let put := c.manager.put h { messageId := some zeros } ⟨false, false⟩ "hello".toUTF8 draw
    c.manager.Reachable ∧ c.handles = [h] ∧ put.1 = .ok () ∧ put.2.2.statistics.puts = 1 ∧
      put.2.1.messageId = some zeros ∧
      (put.2.2.committed "DEV.QUEUE.1").map (·.descriptor.messageId) = [some zeros] ∧
      zeros.isNone = true := by
  refine ⟨⟨{}, [.openQueue "DEV.QUEUE.1" .forSend], rfl⟩, rfl, rfl, rfl, rfl, rfl, by decide⟩

end Courier
