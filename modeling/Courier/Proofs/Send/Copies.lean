import Courier.Proofs.Producer.Accepted
import Courier.Proofs.Producer.Refused
import Courier.Proofs.Producer.Transacted
import Courier.Send.Command

/-!
# Courier — Proofs — Sending copies

The send command sends copies of one message until it has sent them all or one is refused.
`Sends` is a run of sends that are all accepted, with the messages as the sends leave them, and
there are two facts about the loop.

* `sendCopies_append`: after a run of accepted sends, the loop goes on with the copies that are
  left, from the state that the run leads to.
* `sendCopies_ends`: the loop ends in one of two ways (`CopiesEnd`).  It has sent all copies, or
  the copy after an accepted run is refused and the state is the one that the refused send leaves.

`Grows` says what a run does to a queue manager: the messages that were sent are added to the queue,
or to the unit of work, and every handle that was opened is closed (`Sends.grows`).  A refused send
adds none (`grows_send_of_error`), so the two ends of the loop need one argument.
-/

namespace Courier

/-! ### Runs of accepted sends -/

/-- Sends of `m` with the draws from number `i` on, all accepted, lead from one state to another
and leave these messages. -/
inductive Sends (p : Producer) (queue : String) (m : Message) (draws : Nat → Draw) :
    Nat → List Message → QueueManager → QueueManager → Prop where
  | none (i : Nat) (qm : QueueManager) : Sends p queue m draws i [] qm qm
  | more {i : Nat} {sent : List Message} {qm last : QueueManager}
      (ok : (p.send queue m (draws i) qm).answer = .ok ())
      (rest : Sends p queue m draws (i + 1) sent (p.send queue m (draws i) qm).state last) :
      Sends p queue m draws i ((p.send queue m (draws i) qm).message :: sent) qm last

/-! ### The loop -/

section
variable {p : Producer} {queue : String} {m : Message} {draws : Nat → Draw}

/-- The two ways in which sending `n` copies from number `i` on ends. -/
inductive CopiesEnd (p : Producer) (queue : String) (m : Message) (draws : Nat → Draw)
    (n i : Nat) (qm : QueueManager) (copies : Copies) : Prop where
  | all {sent : List Message} {last : QueueManager} (sends : Sends p queue m draws i sent qm last)
      (length : sent.length = n) (report : copies.sent = sent.map .ofMessage)
      (failure : copies.failure = none) (manager : copies.manager = last)
  | refused {sent : List Message} {last : QueueManager} {x : SendException}
      (sends : Sends p queue m draws i sent qm last) (length : sent.length < n)
      (report : copies.sent = sent.map .ofMessage)
      (no : (p.send queue m (draws (i + sent.length)) last).answer = .error x)
      (failure : copies.failure = some x)
      (manager : copies.manager = (p.send queue m (draws (i + sent.length)) last).state)

theorem sendCopies_of_error {i : Nat} {qm : QueueManager} {x : SendException}
    (no : (p.send queue m (draws i) qm).answer = .error x) (n : Nat) :
    sendCopies p queue m draws (n + 1) i qm =
      { failure := some x
        manager := (p.send queue m (draws i) qm).state
        events  := (p.send queue m (draws i) qm).events } := by
  simp only [sendCopies, no]

theorem sendCopies_of_ok {i : Nat} {qm : QueueManager}
    (ok : (p.send queue m (draws i) qm).answer = .ok ()) (n : Nat) :
    sendCopies p queue m draws (n + 1) i qm =
      let sent := p.send queue m (draws i) qm
      let rest := sendCopies p queue m draws n (i + 1) sent.state
      { rest with
        sent   := .ofMessage sent.message :: rest.sent
        events := sent.events ++ rest.events } := by
  simp only [sendCopies, ok]

/-- After accepted sends the loop goes on from the state that they lead to. -/
theorem sendCopies_append {i : Nat} {sent : List Message} {qm last : QueueManager}
    (sends : Sends p queue m draws i sent qm last) (n : Nat) :
    let all := sendCopies p queue m draws (n + sent.length) i qm
    let rest := sendCopies p queue m draws n (i + sent.length) last
    all.sent = sent.map .ofMessage ++ rest.sent ∧ all.failure = rest.failure ∧
      all.manager = rest.manager := by
  induction sends with
  | none i qm => exact ⟨rfl, rfl, rfl⟩
  | @more i sent qm last ok rest ih =>
      obtain ⟨report, failure, manager⟩ := ih
      rw [show i + 1 + sent.length = i + (sent.length + 1) by omega] at report failure manager
      have step := sendCopies_of_ok ok (n + sent.length)
      simp only [List.length_cons, ← Nat.add_assoc n, step]
      exact ⟨congrArg _ report, failure, manager⟩

/-- Every loop of sends ends in one of the two ways. -/
theorem sendCopies_ends (n : Nat) : ∀ (i : Nat) (qm : QueueManager),
    CopiesEnd p queue m draws n i qm (sendCopies p queue m draws n i qm) := by
  induction n with
  | zero => exact fun i qm => .all (.none i qm) rfl rfl rfl rfl
  | succ n ih =>
      intro i qm
      cases answer : (p.send queue m (draws i) qm).answer with
      | error x =>
          rw [sendCopies_of_error answer]
          exact .refused (.none i qm) (Nat.succ_pos n) rfl answer rfl rfl
      | ok u =>
          rw [sendCopies_of_ok answer]
          have later := ih (i + 1) (p.send queue m (draws i) qm).state
          -- one accepted send more in front, whichever way the rest ends
          cases later with
          | all sends length report failure manager =>
              exact .all (.more answer sends) (congrArg (· + 1) length)
                (congrArg (SentMessage.ofMessage _ :: ·) report) failure manager
          | @refused sent last x sends length report no failure manager =>
              have number : i + 1 + sent.length = i + (sent.length + 1) := by omega
              rw [number] at no manager
              exact .refused (.more answer sends) (Nat.succ_lt_succ length)
                (congrArg (SentMessage.ofMessage _ :: ·) report) no failure manager

end

/-! ### What sends do to a queue manager -/

/-- After `qm` comes `next`, with the messages `stored` added to the queue, or waiting for it in the
unit of work if the session is transacted, and with every handle closed that was opened. -/
structure QueueManager.Grows (qm next : QueueManager) (mode : SessionMode) (queue : String)
    (stored : List StoredMessage) : Prop where
  committed   : ∀ n, next.committed n =
    qm.committed n ++ if mode.isTransacted ∨ n ≠ queue then [] else stored
  uncommitted : next.uncommitted =
    qm.uncommitted ++ if mode.isTransacted then stored.map (⟨queue, ·⟩) else []
  balance     : (next.statistics.opens : Int) - next.statistics.closes =
    qm.statistics.opens - qm.statistics.closes
  commits     : next.statistics.commits = qm.statistics.commits
  backouts    : next.statistics.backouts = qm.statistics.backouts

namespace QueueManager

variable {qm next last : QueueManager} {mode : SessionMode} {queue : String}

theorem Grows.refl (qm : QueueManager) (mode : SessionMode) (queue : String) :
    qm.Grows qm mode queue [] := by
  refine ⟨fun n => ?_, ?_, rfl, rfl, rfl⟩
  · simp
  · simp

theorem Grows.trans {stored more : List StoredMessage} (h : qm.Grows next mode queue stored)
    (h' : next.Grows last mode queue more) : qm.Grows last mode queue (stored ++ more) where
  committed n := by
    rw [h'.committed, h.committed, List.append_assoc]
    split <;> rfl
  uncommitted := by
    rw [h'.uncommitted, h.uncommitted, List.append_assoc, List.map_append]
    split <;> rfl
  balance := h'.balance.trans h.balance
  commits := h'.commits.trans h.commits
  backouts := h'.backouts.trans h.backouts

/-- One message stored is growth by one message. -/
theorem StoresOne.grows {stored : StoredMessage} (h : qm.StoresOne next mode queue stored) :
    qm.Grows next mode queue [stored] := by
  obtain ⟨destination, others, uncommitted, rest⟩ := h
  refine ⟨fun n => ?_, uncommitted, ?_, ?_, ?_⟩
  · by_cases hn : n = queue
    · subst hn
      rw [QueueManager.committed, QueueTable.messages_of_find? destination]
      simp
    · rw [QueueManager.committed, QueueTable.messages, others n hn]
      simp [hn, QueueManager.committed, QueueTable.messages]
  · rw [rest]
    simp only
    omega
  · rw [rest]
  · rw [rest]

/-- What stores nothing and closes what it opens is growth by no message. -/
theorem StoresNothing.grows (h : qm.StoresNothing next)
    (balance : (next.statistics.opens : Int) - next.statistics.closes =
      qm.statistics.opens - qm.statistics.closes) (mode : SessionMode) (queue : String) :
    qm.Grows next mode queue [] := by
  refine ⟨fun n => ?_, ?_, balance, h.commits, h.backouts⟩
  · rw [h.committed]; simp
  · rw [h.uncommitted]; simp

end QueueManager

/-- A message that was sent, as its queue manager keeps it. -/
def Message.asStored (m : Message) : StoredMessage := ⟨m.descriptorOrNew, m.payload⟩

section
variable {p : Producer} {queue : String} {m : Message} {draws : Nat → Draw}

theorem grows_send_of_ok {draw : Draw} {qm : QueueManager}
    (ok : (p.send queue m draw qm).answer = .ok ()) :
    qm.Grows (p.send queue m draw qm).state p.session queue
      [(p.send queue m draw qm).message.asStored] := by
  rw [Producer.answer_eq_ok_iff] at ok
  have ending := p.ending_send queue m draw qm
  generalize p.send queue m draw qm = sent at ok ending
  cases ending with
  | notOpened | refused => cases ok
  | stored => exact (p.storesOne_afterSend queue (p.sent m draw qm) qm).grows

theorem grows_send_of_error {draw : Draw} {qm : QueueManager} {x : SendException}
    (no : (p.send queue m draw qm).answer = .error x) :
    qm.Grows (p.send queue m draw qm).state p.session queue [] := by
  have ending := p.ending_send queue m draw qm
  generalize p.send queue m draw qm = sent at no ending
  cases ending with
  | notOpened => exact .refl qm p.session queue
  | refused ok =>
      have opened := QueueManager.opensOnly_afterOpen ok
      have balance := opened.rest
      refine opened.storesNothing.grows ?_ p.session queue
      rw [balance]
      simp only
      omega
  | stored => cases no

/-- Accepted sends add the messages that were sent, in order. -/
theorem Sends.grows {i : Nat} {sent : List Message} {qm last : QueueManager}
    (sends : Sends p queue m draws i sent qm last) :
    qm.Grows last p.session queue (sent.map (·.asStored)) := by
  induction sends with
  | none i qm => exact .refl qm p.session queue
  | more ok rest ih => exact (grows_send_of_ok ok).trans ih

/-- Sends keep the storage, and what waits keeps its queue. -/
theorem Sends.ready {i : Nat} {sent : List Message} {qm last : QueueManager}
    (sends : Sends p queue m draws i sent qm last) (there : qm.storageLost = false)
    (waiting : qm.Waiting) : last.storageLost = false ∧ last.Waiting := by
  induction sends with
  | none i qm => exact ⟨there, waiting⟩
  | more ok rest ih =>
      obtain ⟨there, waiting⟩ := p.send_ready there waiting queue m (draws _)
      exact ih there waiting

end

end Courier
