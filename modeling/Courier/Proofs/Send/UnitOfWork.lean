import Courier.Proofs.Except
import Courier.Proofs.Queue
import Courier.Proofs.Send.Copies

/-!
# Courier — Proofs — The unit of work of a send command

A send command is given a queue manager with nothing in the unit of work, and leaves it so.  What
becomes of the copies depends on the session.  Where it is transacted, the copies are stored
together or not at all: the last one is followed by a commit, and one that is refused by a backout
of those before it.  Where it is not, every copy is on the queue as soon as it is sent, and the
copies before a refused one stay there.

A command ends in one of three ways (`SendOptions.Ending`): its options are refused and nothing is
done, there is a first copy whose send fails (`SendOptions.FailsAt`), or all copies are sent.  The
last two are runs of accepted sends, so what they add is known (`Sends.grows`), and it only remains
to say what becomes of it when the unit of work ends (`QueueManager.Adds`).

**The unit of work** (`unitOfWork_sendMessages`): for all options, configurations and states with
an empty unit of work, what the command stores and counts, in each of these ways
(`SendOptions.KeepsUnits`).
-/

namespace Courier

namespace SendOptions

/-! ### Options -/

/-- The session is transacted, because the options or the configuration say so. -/
def IsTransacted (c : Configuration) (o : SendOptions) : Prop :=
  o.transacted = true ∨ c.sessionMode = .transacted

instance (c : Configuration) (o : SendOptions) : Decidable (o.IsTransacted c) := by
  unfold IsTransacted; infer_instance

theorem isTransacted_session (c : Configuration) (o : SendOptions) :
    (o.session c).isTransacted = true ↔ o.IsTransacted c := by
  unfold session IsTransacted
  cases o.transacted with
  | true => simp [SessionMode.isTransacted]
  | false => cases c.sessionMode <;> simp [SessionMode.isTransacted]

/-- The calls that give the command's producer its options. -/
def optionCalls (c : Configuration) (o : SendOptions) : List OptionCall :=
  .configure c.producer :: (if o.persistent then [.setMode .persistent] else []) ++
    (o.timeToLive.map .setTimeToLive).toList

theorem producer_eq_configured (c : Configuration) (o : SendOptions) :
    o.producer c = .configured (o.session c) (o.optionCalls c) := by
  unfold producer baseProducer optionCalls
  cases o.persistent <;> cases o.timeToLive <;> rfl

theorem session_producer (c : Configuration) (o : SendOptions) :
    (o.producer c).session = o.session c := by
  rw [producer_eq_configured, Producer.session_configured]

theorem queueOf_eq_ok_iff {argument name : String} {q : Queue} :
    queueOf argument name = .ok q ↔ q.name = name := by
  rw [← Queue.ofName_eq_ok_iff, queueOf]
  cases Queue.ofName name with
  | ok q' => simp only [Except.ok.injEq]
  | error e => constructor <;> intro h <;> cases h

theorem map_some_queueOf_eq_ok_iff {argument name : String} {q? : Option Queue} :
    (queueOf argument name).map some = .ok q? ↔ q?.map Queue.name = some name := by
  have each (q : Queue) : queueOf argument name = .ok q ↔ q.name = name := queueOf_eq_ok_iff
  simp only [Option.map_eq_some_iff, ← each]
  cases queueOf argument name with
  | ok q =>
      constructor
      · rintro ⟨⟩
        exact ⟨q, rfl, rfl⟩
      · rintro ⟨q, rfl, ⟨⟩⟩
        rfl
  | error e =>
      constructor
      · rintro ⟨⟩
      · rintro ⟨q, -, ⟨⟩⟩

/-- **What is sent where.**  Options that are not refused name queues and a body, and ask for no
more copies than a queue holds. -/
theorem plan_eq_ok_iff {files : Files} {c : Configuration} {o : SendOptions} {plan : Plan} :
    o.plan files c = .ok plan ↔
      o.count ≤ c.manager.maxQueueDepth ∧ plan.queue.name = o.queue ∧
        ∃ replyTo body, replyTo.map Queue.name = o.replyTo ∧ o.body.resolve files = .ok body ∧
          plan.message = o.messageOf body replyTo := by
  unfold SendOptions.plan
  dsimp only
  by_cases few : o.count ≤ c.manager.maxQueueDepth
  · rw [if_neg (Nat.not_lt.mpr few)]
    -- the queue for replies is looked for only if there is a name
    have noReply (q? : Option Queue) : (.ok none : Except CommandError _) = .ok q? ↔
        q?.map Queue.name = none := by
      cases q? <;> simp
    cases o.replyTo <;>
      simp only [bind_eq_ok_iff, queueOf_eq_ok_iff, map_some_queueOf_eq_ok_iff, noReply, few,
        true_and]
    all_goals
      constructor
      · rintro ⟨queue, named, replyTo, asked, body, resolved, ⟨⟩⟩
        exact ⟨named, replyTo, body, asked, resolved, rfl⟩
      · rintro ⟨named, replyTo, body, asked, resolved, message⟩
        exact ⟨plan.queue, named, replyTo, asked, body, resolved, by rw [← message]; rfl⟩
  · rw [if_pos (Nat.lt_of_not_le few)]
    constructor
    · intro h
      cases h
    · exact fun h => absurd h.1 few

/-- What is sent goes to the queue that the options name. -/
theorem plan_queue {files : Files} {c : Configuration} {o : SendOptions} {plan : Plan}
    (h : o.plan files c = .ok plan) : plan.queue.name = o.queue :=
  (plan_eq_ok_iff.mp h).2.1

/-! ### Where a command fails -/

/-- With `k` copies sent and more to send, the next one is refused. -/
inductive FailsAt (o : SendOptions) (c : Configuration) (files : Files) (draws : Nat → Draw)
    (qm : QueueManager) (k : Nat) (x : SendException) : Prop where
  | intro {plan : Plan} {sent : List Message} {last : QueueManager}
      (planned : o.plan files c = .ok plan)
      (sends : Sends (o.producer c) o.queue plan.message draws 0 sent qm last)
      (length : sent.length = k) (more : k < o.count)
      (no : ((o.producer c).send o.queue plan.message (draws k) last).answer = .error x)

end SendOptions

/-! ### What becomes of a unit of work -/

theorem addressed_map_self (queue : String) (stored : List StoredMessage) :
    addressed queue (stored.map (⟨queue, ·⟩)) = stored := by
  induction stored with
  | nil => rfl
  | cons m stored ih =>
      rw [List.map_cons, addressed_cons, ih, addressed_singleton, if_pos rfl]
      rfl

theorem addressed_map_of_ne {queue n : String} (h : queue ≠ n) (stored : List StoredMessage) :
    addressed n (stored.map (⟨queue, ·⟩)) = [] := by
  refine addressed_eq_nil fun p hp => ?_
  obtain ⟨m, -, rfl⟩ := List.mem_map.mp hp
  exact h

/-- After `qm` comes `done`, with nothing in the unit of work: the messages `stored` were added to
the queue, so many commits and backouts were made, and every handle is closed that was opened. -/
structure QueueManager.Adds (qm done : QueueManager) (queue : String)
    (stored : List StoredMessage) (commits backouts : Nat) : Prop where
  uncommitted : done.uncommitted = []
  destination : done.committed queue = qm.committed queue ++ stored
  others      : ∀ n, n ≠ queue → done.committed n = qm.committed n
  balance     : (done.statistics.opens : Int) - done.statistics.closes =
    qm.statistics.opens - qm.statistics.closes
  commits     : done.statistics.commits = qm.statistics.commits + commits
  backouts    : done.statistics.backouts = qm.statistics.backouts + backouts

namespace QueueManager

section
variable {qm next : QueueManager} {mode : SessionMode} {queue : String}
  {stored : List StoredMessage}

theorem adds_refl (empty : qm.uncommitted = []) (queue : String) : qm.Adds qm queue [] 0 0 :=
  ⟨empty, (List.append_nil _).symm, fun _ _ => rfl, rfl, rfl, rfl⟩

/-- What is not sent under syncpoint is on the queue. -/
theorem Grows.adds (h : qm.Grows next mode queue stored) (empty : qm.uncommitted = [])
    (single : ¬ mode.isTransacted) : qm.Adds next queue stored 0 0 where
  uncommitted := by rw [h.uncommitted, if_neg single, empty]; rfl
  destination := by rw [h.committed, if_neg (by simpa using single)]
  others n hn := by rw [h.committed, if_pos (.inr hn), List.append_nil]
  balance := h.balance
  commits := h.commits
  backouts := h.backouts

/-- A backout drops what was sent under syncpoint. -/
theorem Grows.adds_afterBackout (h : qm.Grows next mode queue stored)
    (transacted : mode.isTransacted) : qm.Adds next.afterBackout queue [] 0 1 := by
  have committed (n : String) : next.afterBackout.committed n = qm.committed n := by
    have kept := h.committed n
    rw [if_pos (.inl transacted), List.append_nil] at kept
    exact kept
  exact ⟨rfl, (committed queue).trans (List.append_nil _).symm, fun n _ => committed n, h.balance,
    h.commits, congrArg (· + 1) h.backouts⟩

/-- A commit puts what was sent under syncpoint on the queue. -/
theorem Grows.adds_afterCommit (h : qm.Grows next mode queue stored) (empty : qm.uncommitted = [])
    (waiting : next.Waiting) (transacted : mode.isTransacted) :
    qm.Adds next.afterCommit queue stored 1 0 := by
  have pending : next.uncommitted = stored.map (⟨queue, ·⟩) := by
    rw [h.uncommitted, if_pos transacted, empty]
    rfl
  have committed (n : String) : next.afterCommit.committed n =
      qm.committed n ++ addressed n (stored.map (⟨queue, ·⟩)) := by
    have kept := h.committed n
    rw [if_pos (.inl transacted), List.append_nil] at kept
    rw [← kept, ← pending]
    exact QueueTable.messages_deliver waiting n
  refine ⟨rfl, ?_, fun n hn => ?_, h.balance, congrArg (· + 1) h.commits, h.backouts⟩
  · rw [committed, addressed_map_self]
  · rw [committed, addressed_map_of_ne hn.symm, List.append_nil]

end

end QueueManager

/-! ### The end of a command -/

theorem manager_discard {qm : QueueManager} (there : qm.storageLost = false) (sent : Nat) :
    (discard sent qm).1 = qm.afterBackout := by
  simp only [discard, QueueManager.backout_eq there]

section
variable {queue : Queue} {mode : SessionMode} {copies : Copies}

/-- Once all copies are sent, the unit of work is ended and the report is on what is there then. -/
theorem finishSend_eq (there : copies.manager.storageLost = false) :
    finishSend queue mode copies =
      let next := if mode.isTransacted then copies.manager.afterCommit else copies.manager
      { result  := (reportOn queue mode copies.sent next).mapError fun e => .send (.ofTransport e)
        manager := next } := by
  unfold finishSend
  cases mode.isTransacted with
  | true => simp only [if_true, QueueManager.commit_eq there]; rfl
  | false => rfl

theorem manager_finishSend (there : copies.manager.storageLost = false) :
    (finishSend queue mode copies).manager =
      if mode.isTransacted then copies.manager.afterCommit else copies.manager := by
  rw [finishSend_eq there]

/-- Once all copies are sent, a command fails only as a send does. -/
theorem exists_of_finishSend_error {e : CommandError}
    (h : (finishSend queue mode copies).result = .error e) : ∃ x, e = .send x := by
  simp only [finishSend] at h
  -- whether the commit or the report fails, it is a call to the queue manager that does
  generalize Except.bind _ _ = report at h
  cases report with
  | ok report => cases h
  | error failed => cases h; exact ⟨_, rfl⟩

end

namespace SendOptions

variable {o : SendOptions} {c : Configuration} {files : Files} {draws : Nat → Draw}
  {qm : QueueManager}

section
variable {plan : Plan} (planned : o.plan files c = .ok plan)
include planned

theorem sendMessages_of_all {copies : Copies}
    (same : sendCopies (o.producer c) o.queue plan.message draws o.count 0 qm = copies)
    (all : copies.failure = none) :
    (sendMessages o c files draws qm).result =
        (finishSend plan.queue (o.session c) copies).result ∧
      (sendMessages o c files draws qm).manager =
        (finishSend plan.queue (o.session c) copies).manager := by
  constructor <;> simp only [sendMessages, planned, plan_queue planned, same, all, session_producer]

theorem sendMessages_of_refused {copies : Copies} {x : SendException}
    (same : sendCopies (o.producer c) o.queue plan.message draws o.count 0 qm = copies)
    (refused : copies.failure = some x) (there : copies.manager.storageLost = false) :
    (sendMessages o c files draws qm).result = .error (.send x) ∧
      (sendMessages o c files draws qm).manager =
        if (o.session c).isTransacted then copies.manager.afterBackout else copies.manager := by
  simp only [sendMessages, planned, plan_queue planned, same, refused, session_producer]
  cases (o.session c).isTransacted with
  | true => simp only [if_true, manager_discard there, and_self]
  | false => simp only [Bool.false_eq_true, if_false, and_self]

end

/-- **A refused copy.**  The command fails as the send did.  It leaves what the copies before it
lead to, without what they added to the unit of work. -/
theorem sendMessages_of_failsAt {k : Nat} {x : SendException}
    (fails : o.FailsAt c files draws qm k x) (there : qm.storageLost = false)
    (waiting : qm.Waiting) :
    let done := sendMessages o c files draws qm
    done.result = .error (.send x) ∧
      ∃ next stored, qm.Grows next (o.session c) o.queue stored ∧ stored.length = k ∧
        done.manager =
          if (o.session c).isTransacted then next.afterBackout else next := by
  obtain @⟨plan, sent, last, planned, sends, rfl, more, no⟩ := fails
  obtain ⟨left, count⟩ := Nat.exists_eq_add_of_lt more
  -- the loop goes on at the refused copy, with some others left
  have loop := sendCopies_append sends (left + 1)
  rw [show left + 1 + sent.length = o.count by omega, Nat.zero_add, sendCopies_of_error no] at loop
  obtain ⟨-, failure, manager⟩ := loop
  -- the refused send adds nothing to what the ones before it added
  have grows := sends.grows.trans (grows_send_of_error no)
  rw [session_producer, List.append_nil] at grows
  obtain ⟨there, waiting⟩ := sends.ready there waiting
  have ready := (o.producer c).send_ready there waiting o.queue plan.message (draws sent.length)
  have ended := sendMessages_of_refused planned rfl failure (manager ▸ ready.1)
  rw [manager] at ended
  exact ⟨ended.1, _, _, grows, List.length_map _, ended.2⟩

/-- The ways in which a command ends: nothing is sent, a copy is refused, or all are sent. -/
inductive Ending (o : SendOptions) (c : Configuration) (files : Files) (draws : Nat → Draw)
    (qm : QueueManager) (done : Outcome SendReport) : Prop where
  | notPlanned {e : CommandError} (no : o.plan files c = .error e) (result : done.result = .error e)
      (manager : done.manager = qm)
  | refused {k : Nat} {x : SendException} (fails : o.FailsAt c files draws qm k x)
  | sent {next : QueueManager} {stored : List StoredMessage}
      (grows : qm.Grows next (o.session c) o.queue stored) (length : stored.length = o.count)
      (waiting : next.Waiting) (result : ∀ e, done.result = .error e → ∃ x, e = .send x)
      (manager : done.manager = if (o.session c).isTransacted then next.afterCommit else next)

theorem ending_sendMessages (o : SendOptions) (c : Configuration) (files : Files)
    (draws : Nat → Draw) {qm : QueueManager} (there : qm.storageLost = false)
    (waiting : qm.Waiting) : Ending o c files draws qm (sendMessages o c files draws qm) := by
  cases planned : o.plan files c with
  | error e =>
      have ended : sendMessages o c files draws qm = { result := .error e, manager := qm } := by
        simp only [sendMessages, planned]
      exact .notPlanned planned (by rw [ended]) (by rw [ended])
  | ok plan =>
      have ends : CopiesEnd (o.producer c) o.queue plan.message draws o.count 0 qm _ :=
        sendCopies_ends o.count 0 qm
      cases ends with
      | refused sends length report no =>
          rw [Nat.zero_add] at no
          exact .refused (.intro planned sends rfl length no)
      | all sends length report failure manager =>
          have grows := sends.grows
          rw [session_producer] at grows
          obtain ⟨there, waiting⟩ := sends.ready there waiting
          have ended := sendMessages_of_all planned rfl failure
          rw [manager_finishSend (manager ▸ there), manager] at ended
          refine .sent grows ((List.length_map _).trans length) waiting (fun e he => ?_) ended.2
          rw [ended.1] at he
          exact exists_of_finishSend_error he

section
variable (there : qm.storageLost = false) (empty : qm.uncommitted = [])
include there empty

theorem adds_of_failsAt {k : Nat} {x : SendException} (transacted : o.IsTransacted c)
    (fails : o.FailsAt c files draws qm k x) :
    (sendMessages o c files draws qm).result = .error (.send x) ∧
      qm.Adds (sendMessages o c files draws qm).manager o.queue [] 0 1 := by
  rw [← isTransacted_session] at transacted
  obtain ⟨result, next, stored, grows, -, manager⟩ :=
    sendMessages_of_failsAt fails there (QueueManager.waiting_of_empty empty)
  rw [manager, if_pos transacted]
  exact ⟨result, grows.adds_afterBackout transacted⟩

theorem adds_of_failsAt_single {k : Nat} {x : SendException} (single : ¬ o.IsTransacted c)
    (fails : o.FailsAt c files draws qm k x) :
    (sendMessages o c files draws qm).result = .error (.send x) ∧
      ∃ stored, stored.length = k ∧
        qm.Adds (sendMessages o c files draws qm).manager o.queue stored 0 0 := by
  rw [← isTransacted_session] at single
  obtain ⟨result, next, stored, grows, length, manager⟩ :=
    sendMessages_of_failsAt fails there (QueueManager.waiting_of_empty empty)
  rw [manager, if_neg single]
  exact ⟨result, stored, length, grows.adds empty single⟩

omit there in
/-- What all copies lead to, with the unit of work ended as the session says. -/
theorem adds_of_grows {next done : QueueManager} {stored : List StoredMessage}
    (grows : qm.Grows next (o.session c) o.queue stored) (waiting : next.Waiting)
    (manager : done = if (o.session c).isTransacted then next.afterCommit else next) :
    qm.Adds done o.queue stored (if o.IsTransacted c then 1 else 0) 0 := by
  by_cases transacted : (o.session c).isTransacted
  · rw [manager, if_pos transacted, if_pos ((isTransacted_session c o).mp transacted)]
    exact grows.adds_afterCommit empty waiting transacted
  · have single : ¬ o.IsTransacted c := fun h => transacted ((isTransacted_session c o).mpr h)
    rw [manager, if_neg transacted, if_neg single]
    exact grows.adds empty transacted

end

/-- What a command makes of a queue manager with nothing in the unit of work. -/
structure KeepsUnits (o : SendOptions) (c : Configuration) (files : Files) (draws : Nat → Draw)
    (qm : QueueManager) (done : Outcome SendReport) : Prop where
  /-- Whatever happens, nothing is left in the unit of work, the other queues are as they were and
  every handle is closed. -/
  always     : ∃ stored commits backouts, qm.Adds done.manager o.queue stored commits backouts
  /-- An argument or a file that is refused changes nothing. -/
  notSent    : ∀ e, done.result = .error e → (∀ x, e ≠ .send x) → done.manager = qm
  /-- In a transacted session a refused copy takes those before it with it. -/
  rolledBack : ∀ k x, o.IsTransacted c → o.FailsAt c files draws qm k x →
    done.result = .error (.send x) ∧ qm.Adds done.manager o.queue [] 0 1
  /-- In a session that is not transacted they stay on the queue. -/
  partSent   : ∀ k x, ¬ o.IsTransacted c → o.FailsAt c files draws qm k x →
    done.result = .error (.send x) ∧
      ∃ stored, stored.length = k ∧ qm.Adds done.manager o.queue stored 0 0
  /-- A command that succeeds sent all copies. -/
  sent       : ∀ report, done.result = .ok report →
    ∃ stored, stored.length = o.count ∧
      qm.Adds done.manager o.queue stored (if o.IsTransacted c then 1 else 0) 0

/-- **The unit of work of a send command.**  Whatever the options and the configuration, a command
on a queue manager that clients can reach, with nothing in the unit of work, leaves it so.  A
transacted command adds all its copies with one commit, or none and one backout is counted; one that
is not transacted adds the copies before the first refused one. -/
theorem unitOfWork_sendMessages (o : SendOptions) (c : Configuration) (files : Files)
    (draws : Nat → Draw) {qm : QueueManager} (reachable : qm.Reachable)
    (empty : qm.uncommitted = []) :
    o.KeepsUnits c files draws qm (sendMessages o c files draws qm) := by
  have there := reachable.there
  have ending := ending_sendMessages o c files draws there (QueueManager.waiting_of_empty empty)
  have failed {k : Nat} {x : SendException} (fails : o.FailsAt c files draws qm k x) :
      (sendMessages o c files draws qm).result = .error (.send x) :=
    (sendMessages_of_failsAt fails there (QueueManager.waiting_of_empty empty)).1
  refine ⟨?always, fun e he other => ?notSent, fun k x => adds_of_failsAt there empty,
    fun k x => adds_of_failsAt_single there empty, fun report ok => ?sent⟩
  case always =>
    cases ending with
    | notPlanned no result manager =>
        rw [manager]
        exact ⟨_, _, _, QueueManager.adds_refl empty o.queue⟩
    | refused fails =>
        by_cases transacted : o.IsTransacted c
        · exact ⟨_, _, _, (adds_of_failsAt there empty transacted fails).2⟩
        · obtain ⟨-, stored, -, adds⟩ := adds_of_failsAt_single there empty transacted fails
          exact ⟨_, _, _, adds⟩
    | sent grows length waiting result manager =>
        exact ⟨_, _, _, adds_of_grows empty grows waiting manager⟩
  case notSent =>
    cases ending with
    | notPlanned no result manager => exact manager
    | refused fails =>
        rw [failed fails] at he
        cases he
        exact absurd rfl (other _)
    | sent grows length waiting result manager =>
        obtain ⟨x, rfl⟩ := result e he
        exact absurd rfl (other x)
  case sent =>
    cases ending with
    | notPlanned no result manager => rw [result] at ok; cases ok
    | refused fails =>
        rw [failed fails] at ok
        cases ok
    | sent grows length waiting result manager =>
        exact ⟨_, length, adds_of_grows empty grows waiting manager⟩

/-- A transacted command to send two copies to a queue with room for one: the second is refused,
and the first is not on the queue. -/
theorem unitOfWork_secondRefused :
    let o : SendOptions :=
      { queue := "DEV.QUEUE.1", body := { text := some "hello" }, count := 2, transacted := true }
    let files : Files := fun _ => .ok .empty
    let draws : Nat → Draw := fun _ => ⟨⟨0, 0, by decide, by decide⟩, Vector.replicate 16 7⟩
    let qm := QueueManager.ofOptions { maxQueueDepth := 1 }
    let full : SendException := .ofTransport (.failed .put .queueFull)
    let done := sendMessages o {} files draws qm
    qm.Reachable ∧ qm.uncommitted = [] ∧ o.IsTransacted {} ∧
      o.FailsAt {} files draws qm 1 full ∧ done.result = .error (.send full) ∧
      done.manager.committed "DEV.QUEUE.1" = [] ∧ done.manager.statistics.backouts = 1 ∧
      o.KeepsUnits {} files draws qm done := by
  have reachable : (QueueManager.ofOptions { maxQueueDepth := 1 }).Reachable := ⟨_, [], rfl⟩
  refine ⟨reachable, rfl, .inl rfl, ?_, rfl, rfl, rfl,
    unitOfWork_sendMessages _ _ _ _ reachable rfl⟩
  exact .intro rfl (.more rfl (.none ..)) rfl (by decide) rfl

end SendOptions

end Courier
