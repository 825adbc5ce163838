import Courier.Proofs.QueueManager.Run

/-!
# Courier — Proofs — What a put is refused for, and what it stores

Nine things can be wrong with a put (`PutFault`).  Three are found in the handle and the descriptor,
before the storage is needed; the storage can be lost; and five are found in it.  Each is a fact
about the state before the put, whatever else is wrong, and the put is refused for the first one
that applies (`putRefusal?_eq_first`).  A storage that is there leaves the eight others.

**A put is all or nothing** (`put_eq_first`): a put that is refused gives the caller's descriptor
back and leaves the state, both as they were.  A put that is not refused stores one copy of the
message (`QueueManager.Takes`), and writes the put time and, if one is called for, a new identifier.
-/

namespace Courier

/-! ### Faults -/

/-- What can be wrong with a put. -/
inductive PutFault where
  | closed
  | notForOutput
  | noLifetime
  | storageLost
  | quiescing
  | tooLong
  | notDefined
  | inhibited
  | full
  deriving DecidableEq

namespace PutFault

/-- The faults that are found without the storage, first to last. -/
def ofCall : List PutFault := [closed, notForOutput, noLifetime]

/-- The faults that are found in the storage, first to last. -/
def ofStorage : List PutFault := [quiescing, tooLong, notDefined, inhibited, full]

def all : List PutFault := ofCall ++ storageLost :: ofStorage

def reason : PutFault → Reason
  | closed       => .objectHandleError
  | notForOutput => .notOpenForOutput
  | noLifetime   => .expiryError
  | storageLost  => .resourceProblem
  | quiescing    => .managerQuiescing
  | tooLong      => .messageTooBig
  | notDefined   => .unknownObjectName
  | inhibited    => .putInhibited
  | full         => .queueFull

example : all.map (·.reason.code) = [2019, 2039, 2013, 2102, 2161, 2030, 2085, 2051, 2053] := rfl

/-- The fault is there when the message is put through the handle. -/
def Applies (qm : QueueManager) (h : Handle) (d : Descriptor) (payload : ByteArray) :
    PutFault → Prop
  | closed       => h.closed
  | notForOutput => ¬ h.options.output
  | noLifetime   => d.expiry = .tenths 0
  | storageLost  => qm.storageLost
  | quiescing    => qm.quiescing
  | tooLong      => qm.options.maxMessageLength < payload.size
  | notDefined   => ¬ qm.queues.defined h.queue
  | inhibited    => qm.inhibits h.queue
  | full         =>
    qm.options.maxQueueDepth ≤ (qm.committed h.queue).length + qm.uncommittedDepth h.queue

instance (qm : QueueManager) (h : Handle) (d : Descriptor) (payload : ByteArray) :
    DecidablePred (Applies qm h d payload)
  | closed | notForOutput | noLifetime | storageLost | quiescing | tooLong | notDefined | inhibited
  | full => by unfold Applies; infer_instance

/-- The first of the faults `fs` that applies. -/
def firstOf? (fs : List PutFault) (qm : QueueManager) (h : Handle) (d : Descriptor)
    (payload : ByteArray) : Option PutFault :=
  fs.find? fun f => f.Applies qm h d payload

/-- The first fault that applies. -/
def first? (qm : QueueManager) (h : Handle) (d : Descriptor) (payload : ByteArray) :
    Option PutFault :=
  firstOf? all qm h d payload

/-- A storage that is there is looked into right after the call itself. -/
theorem first?_of_there {qm : QueueManager} (there : qm.storageLost = false) (h : Handle)
    (d : Descriptor) (payload : ByteArray) :
    first? qm h d payload = firstOf? (ofCall ++ ofStorage) qm h d payload := by
  have found : ¬ storageLost.Applies qm h d payload := by simp [Applies, there]
  simp only [first?, firstOf?, all, List.find?_append, List.find?_cons, found, decide_false]

end PutFault

/-- A search looks at the first item before the others. -/
theorem map_find?_cons {α β : Type} (tell : α → β) (p : α → Prop) [DecidablePred p] (a : α)
    (as : List α) :
    ((a :: as).find? fun x => p x).map tell =
      if p a then some (tell a) else (as.find? fun x => p x).map tell := by
  by_cases h : p a <;> simp [h]

namespace QueueManager

/-- The checks of a put find the first fault. -/
theorem putRefusal?_eq_first (qm : QueueManager) (h : Handle) (d : Descriptor)
    (payload : ByteArray) :
    qm.putRefusal? h d payload = (PutFault.first? qm h d payload).map (·.reason) := by
  simp only [PutFault.first?, PutFault.firstOf?, PutFault.all, PutFault.ofCall, PutFault.ofStorage,
    List.cons_append, List.nil_append, map_find?_cons]
  cases found : qm.queues.find? h.queue with
  | none =>
      simp [putRefusal?, found, PutFault.Applies, QueueTable.defined, PutFault.reason]
  | some q =>
      simp [putRefusal?, found, PutFault.Applies, QueueTable.defined, inhibits, committed,
        QueueTable.messages, PutFault.reason]

/-! ### What is stored -/

/-- After `qm` comes `next`, which has taken one message that was put to the queue: at the end of
the queue, or of the unit of work under syncpoint.  The other queues, and whether the queue allows
puts, are as before; one put more is counted, one number is used if an identifier was made, and
everything else is as before. -/
structure Takes (qm next : QueueManager) (queue : String) (syncpoint made : Bool)
    (m : StoredMessage) : Prop where
  destination : next.queues.find? queue =
    some ⟨qm.committed queue ++ (if syncpoint then [] else [m]), qm.inhibits queue⟩
  others      : ∀ n, n ≠ queue → next.queues.find? n = qm.queues.find? n
  uncommitted : next.uncommitted = qm.uncommitted ++ if syncpoint then [⟨queue, m⟩] else []
  rest        : next =
    { qm with
      queues      := next.queues
      uncommitted := next.uncommitted
      sequence    := if made then qm.sequence + 1 else qm.sequence
      statistics  := { qm.statistics with puts := qm.statistics.puts + 1 } }

theorem takes_store {qm : QueueManager} {queue : String} (h : qm.queues.defined queue)
    (o : PutOptions) (made : Bool) (m : StoredMessage) :
    qm.Takes (qm.store queue o made m) queue o.syncpoint made m := by
  obtain ⟨q, hq⟩ := QueueTable.defined_iff.mp h
  have before : (⟨qm.committed queue, qm.inhibits queue⟩ : LocalQueue) = q := by
    simp [committed, QueueTable.messages, inhibits, hq]
  refine ⟨?_, fun n hn => ?_, qm.uncommitted_store queue o made m, rfl⟩
  · rw [store]
    cases o.syncpoint with
    | true => simp [hq, ← before]
    | false => simp [QueueTable.find?_append, hq, ← before]
  · rw [store]
    cases o.syncpoint with
    | true => rfl
    | false => exact (qm.queues.find?_append queue n m).trans (if_neg hn)

end QueueManager

/-! ### All or nothing -/

/-- A put that nothing is wrong with finds its queue. -/
theorem PutFault.defined_of_first? {qm : QueueManager} {h : Handle} {d : Descriptor}
    {payload : ByteArray} (none : first? qm h d payload = .none) : qm.queues.defined h.queue := by
  have ok : qm.putRefusal? h d payload = .none := by rw [qm.putRefusal?_eq_first, none]; rfl
  exact (QueueManager.putRefusal?_eq_none_iff.mp ok).defined

/-- **A put is all or nothing.**  For every state, handle, descriptor, payload and way of putting:
if anything is wrong, the put is refused for the first fault that applies, and the descriptor and
the state are as they were.  Otherwise the put succeeds; of the descriptor it changes the put time
and, if a new identifier was asked for or there was none, the identifier; and it stores the payload
with that descriptor once, under syncpoint in the unit of work and else on the queue.  As long as
the storage is there, the fault is the first of eight, none of which is that the storage is lost. -/
theorem put_eq_first (qm : QueueManager) (h : Handle) (d : Descriptor) (o : PutOptions)
    (payload : ByteArray) (draw : Draw) :
    let made := decide (o.newMessageId = true ∨ d.messageId = none)
    let after : Descriptor := { d with
      messageId := if made then some (.generate draw.entropy (qm.sequence + 1)) else d.messageId
      putTime   := some draw.now }
    (match PutFault.first? qm h d payload with
      | some f => qm.put h d o payload draw = (.error (.failed .put f.reason), d, qm)
      | none   =>
        ∃ next, qm.put h d o payload draw = (.ok (), after, next) ∧
          qm.Takes next h.queue o.syncpoint made ⟨after, payload⟩) ∧
    (qm.storageLost = false →
      PutFault.first? qm h d payload =
        PutFault.firstOf? (PutFault.ofCall ++ PutFault.ofStorage) qm h d payload) := by
  intro made after
  have drawn : QueueManager.drawsId d o = made := by
    cases asked : o.newMessageId <;> cases given : d.messageId <;>
      simp [made, QueueManager.drawsId, asked, given]
  have stamped : qm.stamp d o draw = after := by rw [QueueManager.stamp, drawn]
  refine ⟨?_, fun there => PutFault.first?_of_there there h d payload⟩
  have refusal := qm.putRefusal?_eq_first h d payload
  cases first : PutFault.first? qm h d payload with
  | some f =>
      rw [first] at refusal
      exact QueueManager.put_eq_of_refused refusal o draw
  | none =>
      have found := PutFault.defined_of_first? first
      rw [first] at refusal
      refine ⟨_, ?_, QueueManager.takes_store found o made ⟨after, payload⟩⟩
      rw [QueueManager.put_eq refusal o draw, stamped, drawn]

end Courier
