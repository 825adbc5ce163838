import Courier.Proofs.Producer.Send
import Courier.Proofs.QueueManager.Settled

/-!
# Courier — Proofs — A transacted session and one that is not

A session sends messages, and while it does its queue manager may be administered
(`SessionStep`).  It runs in one of two modes.  In auto-acknowledge mode a message is on its
queue as soon as it is sent; in transacted mode it waits for a commit.

The two runs are compared step by step.  Whenever the transacted run is at a state, the other run
is at that state `settled`, its unit of work put on the queues: the next step refuses the same
send for the same reason in both, draws the same identifier, and ends in states that are again
one the settled form of the other (`perform_settled`).  What has to be kept besides is that no
message waits for a queue that is not defined, for such a message a later definition would
treat differently.

**One commit makes up for it** (`sameAfterCommit`): from a state that clients can reach, with
nothing in the unit of work, a transacted run followed by a commit ends as the auto-acknowledge
run does.
-/

namespace Courier

/-! ### Sessions -/

/-- What happens in a session.  A send names the message by its number, as a message may be sent
again. -/
inductive SessionStep where
  | send (producer : Producer) (queue : String) (message : Nat) (draw : Draw)
  | defineQueue (queue : String)
  | setPutInhibited (queue : String) (inhibited : Bool)
  | quiesce

/-- What a step answers. -/
inductive Reply where
  | sent (answer : Except SendException Unit)
  | administered (answer : Except TransportError Unit)

/-- A queue manager and the messages that the sender holds. -/
structure Session where
  manager  : QueueManager
  messages : Nat → Message

/-- The producer with the same options in a session of that mode. -/
def Producer.inSession (mode : SessionMode) (p : Producer) : Producer := { p with session := mode }

namespace Session

def perform (mode : SessionMode) (s : Session) : SessionStep → Reply × Session
  | .send p queue i draw =>
    let sent := (p.inSession mode).send queue (s.messages i) draw s.manager
    (.sent sent.answer,
      ⟨sent.state, fun j => if j = i then sent.message else s.messages j⟩)
  | .defineQueue queue =>
    let (r, manager) := s.manager.defineQueue queue
    (.administered r, { s with manager })
  | .setPutInhibited queue inhibited =>
    let (r, manager) := s.manager.setPutInhibited queue inhibited
    (.administered r, { s with manager })
  | .quiesce =>
    let (r, manager) := s.manager.quiesce
    (.administered r, { s with manager })

/-- The replies to the steps, in order, and what they leave behind. -/
def run (mode : SessionMode) (s : Session) : List SessionStep → List Reply × Session
  | [] => ([], s)
  | step :: steps =>
    let (reply, s) := s.perform mode step
    let (replies, s) := s.run mode steps
    (reply :: replies, s)

/-- The session whose unit of work is on the queues already. -/
def settled (s : Session) : Session := { s with manager := s.manager.settled }

/-- What the comparison keeps: the storage is there, and what waits has its queue. -/
structure Ready (s : Session) : Prop where
  there   : s.manager.storageLost = false
  waiting : s.manager.Waiting

end Session

/-! ### One send -/

namespace Producer

section
variable {qm : QueueManager} (there : qm.storageLost = false) (waiting : qm.Waiting)
include waiting

theorem putRefusal?_settled (p : Producer) (mode mode' : SessionMode) (queue : String)
    (m : Message) :
    (p.inSession mode).putRefusal? queue m qm.settled =
      (p.inSession mode').putRefusal? queue m qm := by
  rw [putRefusal?, ← QueueManager.settled_afterOpen waiting, QueueManager.putRefusal?_settled]
  rfl

theorem afterSend_settled (p : Producer) (queue : String) (m : StoredMessage) :
    (p.inSession .autoAcknowledge).afterSend queue m qm.settled =
      ((p.inSession .transacted).afterSend queue m qm).settled := by
  have stored := QueueManager.settled_store (qm.afterOpen queue) queue true true m
  rw [QueueManager.settled_afterOpen waiting] at stored
  rw [afterSend, afterSend, QueueManager.settled_afterClose]
  exact congrArg QueueManager.afterClose stored.symm

include there

/-- **A send before and after settling.**  Without syncpoint on the settled state, it answers and
logs what it does under syncpoint on the state itself, and leaves the same message; the states
it ends in are again one the settled form of the other. -/
theorem send_settled (p : Producer) (queue : String) (m : Message) (draw : Draw) :
    (p.inSession .autoAcknowledge).send queue m draw qm.settled =
      { (p.inSession .transacted).send queue m draw qm with
        state := ((p.inSession .transacted).send queue m draw qm).state.settled } := by
  have there' : qm.settled.storageLost = false := there
  have openings := qm.openRefusal?_settled queue .forSend
  have puts := p.putRefusal?_settled waiting .autoAcknowledge .transacted queue m
  -- what refuses the one refuses the other, so both end in the same of the three ways
  cases ok : qm.openRefusal? queue .forSend with
  | some r =>
      rw [send_eq_of_openRefusal there ok, send_eq_of_openRefusal there' (openings.trans ok)]
  | none =>
      cases accepted : (p.inSession .transacted).putRefusal? queue m qm with
      | some r =>
          rw [send_eq_of_putRefusal there ok accepted,
            send_eq_of_putRefusal there' (openings.trans ok) (puts.trans accepted),
            ← QueueManager.settled_afterOpen waiting, ← QueueManager.settled_afterClose]
          rfl
      | none =>
          rw [send_eq there ok accepted,
            send_eq there' (openings.trans ok) (puts.trans accepted),
            p.afterSend_settled waiting]
          rfl

/-- A send keeps what the comparison needs. -/
theorem send_ready (p : Producer) (queue : String) (m : Message) (draw : Draw) :
    (p.send queue m draw qm).state.storageLost = false ∧
      (p.send queue m draw qm).state.Waiting := by
  have opened : (qm.afterOpen queue).Waiting := waiting.define queue
  have ending := p.ending_send queue m draw qm
  generalize p.send queue m draw qm = sent at ending
  cases ending with
  | notOpened => exact ⟨there, waiting⟩
  | refused => exact ⟨there, opened⟩
  | stored =>
      have defined : (qm.afterOpen queue).queues.defined queue :=
        (QueueTable.defined_define ..).mpr (.inl rfl)
      exact ⟨there, opened.store defined p.putOptions true _⟩

end

end Producer

namespace Session

/-! ### One step -/

/-- **One step, settled.**  The step on the settled session, without syncpoint, replies as the
step under syncpoint does and ends in its settled form. -/
theorem perform_settled {s : Session} (ready : s.Ready) (step : SessionStep) :
    s.settled.perform .autoAcknowledge step =
      ((s.perform .transacted step).1, (s.perform .transacted step).2.settled) := by
  obtain ⟨there, waiting⟩ := ready
  have there' : s.manager.settled.storageLost = false := there
  cases step with
  | send p queue i draw =>
      simp only [perform, settled, p.send_settled there waiting]
      rfl
  | defineQueue queue =>
      simp only [perform, settled, QueueManager.defineQueue_eq there,
        QueueManager.defineQueue_eq there', QueueManager.settled_define waiting]
  | setPutInhibited queue inhibited =>
      have same : s.manager.settled.queues.defined queue = s.manager.queues.defined queue :=
        QueueTable.defined_deliver ..
      by_cases h : s.manager.queues.defined queue
      · have h' := same.trans h
        simp only [perform, settled, QueueManager.setPutInhibited_eq there h,
          QueueManager.setPutInhibited_eq there' h', QueueManager.settled_inhibit]
      · have h' : ¬ s.manager.settled.queues.defined queue := by rwa [same]
        simp only [perform, settled, QueueManager.setPutInhibited_eq_of_not_defined there h,
          QueueManager.setPutInhibited_eq_of_not_defined there' h']
  | quiesce =>
      simp only [perform, settled, QueueManager.quiesce_eq there, QueueManager.quiesce_eq there']
      rfl

theorem Ready.perform {s : Session} (ready : s.Ready) (mode : SessionMode) (step : SessionStep) :
    (s.perform mode step).2.Ready := by
  obtain ⟨there, waiting⟩ := ready
  cases step with
  | send p queue i draw =>
      obtain ⟨h₁, h₂⟩ := (p.inSession mode).send_ready there waiting queue (s.messages i) draw
      exact ⟨h₁, h₂⟩
  | defineQueue queue =>
      simp only [Session.perform, QueueManager.defineQueue_eq there]
      exact ⟨there, waiting.define queue⟩
  | setPutInhibited queue inhibited =>
      by_cases h : s.manager.queues.defined queue
      · simp only [Session.perform, QueueManager.setPutInhibited_eq there h]
        exact ⟨there, waiting.inhibit queue inhibited⟩
      · simp only [Session.perform, QueueManager.setPutInhibited_eq_of_not_defined there h]
        exact ⟨there, waiting⟩
  | quiesce =>
      simp only [Session.perform, QueueManager.quiesce_eq there]
      exact ⟨there, waiting⟩

/-! ### Runs -/

/-- The steps of a run, settled one by one. -/
theorem run_settled (steps : List SessionStep) :
    ∀ {s : Session}, s.Ready →
      s.settled.run .autoAcknowledge steps =
          ((s.run .transacted steps).1, (s.run .transacted steps).2.settled) ∧
        (s.run .transacted steps).2.Ready := by
  induction steps with
  | nil => exact fun ready => ⟨rfl, ready⟩
  | cons step steps ih =>
      intro s ready
      obtain ⟨same, ready'⟩ := ih (ready.perform .transacted step)
      refine ⟨?_, ready'⟩
      simp only [run, perform_settled ready, same]

/-- The two states differ, as far as senders can tell, in one commit counted. -/
structure OneCommitAhead (qm other : QueueManager) : Prop where
  browse       : ∀ queue, qm.browse queue = other.browse queue
  sequence     : qm.sequence = other.sequence
  uncommitted  : qm.uncommitted = []
  uncommitted' : other.uncommitted = []
  statistics   :
    qm.statistics = { other.statistics with commits := other.statistics.commits + 1 }

/-- The first run, once committed, has done what the second has done. -/
structure SameAfterCommit (transacted acknowledged : List Reply × Session) : Prop where
  replies  : transacted.1 = acknowledged.1
  messages : transacted.2.messages = acknowledged.2.messages
  commit   : ∃ final, QueueManager.transport.commit transacted.2.manager = (.ok (), final) ∧
    OneCommitAhead final acknowledged.2.manager

/-- **One commit makes up for it.**  From a state that clients can reach, with nothing in the unit
of work, a transacted session and a commit do what the session in auto-acknowledge mode does:
the steps are answered alike, the messages are left alike, and the final states differ in one
commit counted. -/
theorem sameAfterCommit {qm : QueueManager} (reachable : qm.Reachable)
    (empty : qm.uncommitted = []) (messages : Nat → Message) (steps : List SessionStep) :
    SameAfterCommit (run .transacted ⟨qm, messages⟩ steps)
      (run .autoAcknowledge ⟨qm, messages⟩ steps) := by
  have ready : Ready ⟨qm, messages⟩ := by
    refine ⟨reachable.there, fun m hm => ?_⟩
    rw [show (⟨qm, messages⟩ : Session).manager.uncommitted = [] from empty] at hm
    cases hm
  -- with nothing in the unit of work, the two runs start from one session
  have start : settled ⟨qm, messages⟩ = ⟨qm, messages⟩ := by
    rw [settled, QueueManager.settled_eq_self empty]
  obtain ⟨same, last⟩ := run_settled steps ready
  rw [start] at same
  rw [same]
  have commit : QueueManager.transport.commit (run .transacted ⟨qm, messages⟩ steps).2.manager =
      (.ok (), (run .transacted ⟨qm, messages⟩ steps).2.manager.afterCommit) := by
    simp only [QueueManager.transport, QueueManager.commit_eq last.there]
    rfl
  exact ⟨rfl, rfl, _, commit, fun _ => rfl, rfl, rfl, rfl, rfl⟩

/-- A new queue manager, a message that is sent twice, and its queue inhibited in between: the
first send is accepted and the second is not, and the runs are the same after a commit. -/
theorem sameAfterCommit_resent :
    let qm := QueueManager.ofOptions {}
    let draw : Draw := ⟨⟨0, 0, by decide, by decide⟩, Vector.replicate 16 7⟩
    let steps : List SessionStep :=
      [.send ⟨.transacted, .persistent, 5000⟩ "DEV.QUEUE.1" 0 draw,
        .setPutInhibited "DEV.QUEUE.1" true,
        .send ⟨.transacted, .nonPersistent, 0⟩ "DEV.QUEUE.1" 0 draw]
    let first : Session := ⟨qm, fun _ => .ofText "hello"⟩
    qm.Reachable ∧ qm.uncommitted = [] ∧
      (first.run .transacted steps).1 =
        [.sent (.ok ()), .administered (.ok ()),
          .sent (.error (.ofTransport (.failed .put .putInhibited)))] ∧
      SameAfterCommit (first.run .transacted steps) (first.run .autoAcknowledge steps) := by
  have reachable : (QueueManager.ofOptions {}).Reachable := ⟨{}, [], rfl⟩
  exact ⟨reachable, rfl, rfl, sameAfterCommit reachable rfl _ _⟩

end Session

end Courier
