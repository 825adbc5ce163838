import Courier.Proofs.Send.Progress
import Courier.Proofs.Send.UnitOfWork

/-!
# Courier — Proofs — What a send command reports

A send command that succeeds reports the headers of its messages, as it read them off before the
unit of work ended, and the depth of the queue afterwards.  Both are compared here with what a
browse of the queue finds then.

What was asked for comes from three places, the defaults of a producer, the configuration and the
options of the command, and a negative time to live counts as none given
(`SendOptions.lifetime`).  `StoredMessage.Delivers` says what one copy is like, and
`Course` in which ways a command comes to its result.

**Reports** (`report_sendMessages`): a command that succeeds put the copies that it was asked for at
the end of the queue, in order, and its report agrees with the queue (`SendOptions.Reported`).
-/

namespace Courier

namespace SendOptions

/-! ### What the options ask for -/

/-- The time to live of the configuration, if that is taken. -/
def configuredLifetime (c : Configuration) : Int :=
  if 0 ≤ c.producer.timeToLive then c.producer.timeToLive else 0

/-- The time to live of the options, if that is taken, and else of the configuration. -/
def lifetime (c : Configuration) (o : SendOptions) : Int :=
  match o.timeToLive with
  | some millis => if 0 ≤ millis then millis else configuredLifetime c
  | none        => configuredLifetime c

theorem timeToLive_producer (c : Configuration) (o : SendOptions) :
    (o.producer c).timeToLive = o.lifetime c := by
  rw [producer_eq_configured, Producer.configured_timeToLive]
  unfold OptionCall.lastTime optionCalls lifetime configuredLifetime
  by_cases configured : 0 ≤ c.producer.timeToLive
  all_goals
    cases o.timeToLive with
    | none =>
        cases o.persistent <;> simp [OptionCall.acceptedTime?, List.filterMap_cons, configured]
    | some millis =>
        by_cases taken : 0 ≤ millis <;> cases o.persistent <;>
          simp [OptionCall.acceptedTime?, List.filterMap_cons, configured, taken]

theorem persistence_producer (c : Configuration) (o : SendOptions) :
    (o.producer c).deliveryMode.persistence = .persistent ↔
      o.persistent = true ∨ c.producer.deliveryMode = .persistent := by
  have mode : (o.producer c).deliveryMode =
      if o.persistent then .persistent else c.producer.deliveryMode := by
    rw [producer_eq_configured, Producer.configured_deliveryMode]
    unfold OptionCall.lastMode optionCalls
    cases o.persistent <;> cases o.timeToLive <;> rfl
  rw [mode]
  cases o.persistent <;> cases c.producer.deliveryMode <;> decide

theorem body_messageOf (body : Body) (replyTo : Option Queue) (o : SendOptions) :
    (o.messageOf body replyTo).body = body := by
  unfold messageOf
  cases replyTo <;> cases o.correlationId <;> rfl

theorem descriptorOrNew_messageOf (body : Body) (replyTo : Option Queue) (o : SendOptions) :
    (o.messageOf body replyTo).descriptorOrNew =
      { correlationId := o.correlationId, replyToQueue := replyTo.map (·.name) } := by
  unfold messageOf
  cases replyTo <;> cases o.correlationId <;> rfl

end SendOptions

/-! ### One copy -/

/-- `s` is a copy of the body that the options give, with the properties that they and the
configuration ask for. -/
structure StoredMessage.Delivers (s : StoredMessage) (o : SendOptions) (c : Configuration)
    (body : Body) (id : MessageId) (now : Instant) : Prop where
  body                : body.Encoded s.payload s.descriptor.format
  format              : s.descriptor.format = .string ↔ o.body.text.isSome
  persistence         : s.descriptor.persistence = .persistent ↔
    o.persistent = true ∨ c.producer.deliveryMode = .persistent
  expiry              : s.descriptor.expiry = .ofTimeToLive (o.lifetime c).toNat
  messageId           : s.descriptor.messageId = some id
  putTime             : s.descriptor.putTime = some now
  correlationId       : s.descriptor.correlationId = o.correlationId
  replyToQueue        : s.descriptor.replyToQueue = o.replyTo
  replyToQueueManager : s.descriptor.replyToQueueManager = none

namespace SendOptions

variable {o : SendOptions} {c : Configuration} {files : Files} {body : Body}
  {replyTo : Option Queue}

/-- A text is given as a text; digits and files give bytes. -/
theorem format_of_resolve (resolved : o.body.resolve files = .ok body) {m : Message}
    (same : m.body = body) : m.format = .string ↔ o.body.text.isSome := by
  unfold BodySources.resolve at resolved
  repeat' split at resolved
  all_goals cases resolved
  all_goals simp_all [Message.format]

/-- The descriptor that every copy is put with. -/
theorem descriptorFor_messageOf (c : Configuration) (o : SendOptions) (body : Body)
    (replyTo : Option Queue) :
    (o.producer c).descriptorFor (o.messageOf body replyTo) =
      { format        := (o.messageOf body replyTo).format
        persistence   := (o.producer c).deliveryMode.persistence
        expiry        := .ofTimeToLive (o.lifetime c).toNat
        correlationId := o.correlationId
        replyToQueue  := replyTo.map (·.name) } := by
  -- the message brings no expiry, which is that of no time to live
  have expiry : (if 0 < o.lifetime c then .ofTimeToLive (o.lifetime c).toNat else .unlimited) =
      Expiry.ofTimeToLive (o.lifetime c).toNat := by
    split
    · rfl
    · rename_i none
      rw [Int.toNat_of_nonpos (Int.not_lt.mp none)]
      rfl
  rw [Producer.descriptorFor_eq, descriptorOrNew_messageOf, timeToLive_producer]
  simp only [expiry]

theorem delivers_copy (resolved : o.body.resolve files = .ok body)
    (asked : replyTo.map Queue.name = o.replyTo) (draw : Draw) (n : Nat) :
    ((o.producer c).copy (o.messageOf body replyTo) draw n).Delivers o c body
      (.generate draw.entropy n) draw.now := by
  have same := body_messageOf body replyTo o
  have encoded := (o.messageOf body replyTo).encoded
  rw [same] at encoded
  rw [Producer.copy, descriptorFor_messageOf]
  exact
    { body                := encoded
      format              := format_of_resolve resolved same
      persistence         := persistence_producer c o
      expiry              := rfl
      messageId           := rfl
      putTime             := rfl
      correlationId       := rfl
      replyToQueue        := asked
      replyToQueueManager := rfl }

/-! ### The end of a command -/

end SendOptions

/-- What is reported on messages that were sent. -/
theorem reportOn_eq {qm : QueueManager} (there : qm.storageLost = false) (queue : Queue)
    (mode : SessionMode) (sent : List SentMessage) :
    reportOn queue mode sent qm =
      if qm.queues.defined queue.name then
        .ok ⟨qm.name, queue.name, mode, sent, (qm.committed queue.name).length, qm.statistics⟩
      else .error (.failed .opening .unknownObjectName) := by
  by_cases defined : qm.queues.defined queue.name
  · have depth : qm.depth queue.name = .ok (qm.committed queue.name).length := by
      rw [QueueManager.depth, QueueManager.browse_eq there defined]
      rfl
    have statistics : qm.readStatistics = .ok qm.statistics := by
      simp [QueueManager.readStatistics, QueueManager.look, there]
    rw [reportOn, depth, statistics, if_pos defined]
    rfl
  · have missing : qm.queues.find? queue.name = none := by
      simpa [QueueTable.defined] using defined
    have depth : qm.depth queue.name = .error (.failed .opening .unknownObjectName) := by
      simp [QueueManager.depth, QueueManager.browse, QueueManager.look, there, missing, Except.map]
    rw [reportOn, depth, if_neg defined]
    rfl

namespace SendOptions

variable {o : SendOptions} {c : Configuration} {files : Files} {draws : Nat → Draw}
  {qm last : QueueManager} {sent : List Message}

/-- The state in which a command ends that sent all its copies. -/
def ended (c : Configuration) (o : SendOptions) (last : QueueManager) : QueueManager :=
  if (o.session c).isTransacted then last.afterCommit else last

theorem ended_there (c : Configuration) (o : SendOptions) (there : last.storageLost = false) :
    (o.ended c last).storageLost = false := by
  unfold ended
  split <;> exact there

/-- **All copies sent.**  What can still go wrong is that there is no queue to report on. -/
theorem sendMessages_of_sends {plan : Plan} (planned : o.plan files c = .ok plan)
    (sends : Sends (o.producer c) o.queue plan.message draws 0 sent qm last)
    (length : sent.length = o.count) (there : qm.storageLost = false) (waiting : qm.Waiting) :
    let next := o.ended c last
    let done := sendMessages o c files draws qm
    done.manager = next ∧
      done.result =
        if next.queues.defined o.queue then
          .ok ⟨next.name, o.queue, o.session c, sent.map .ofMessage,
            (next.committed o.queue).length, next.statistics⟩
        else .error (.send (.ofTransport (.failed .opening .unknownObjectName))) := by
  have loop := sendCopies_append sends 0
  -- after these there is no copy left to send
  simp only [Nat.zero_add, length, sendCopies, List.append_nil] at loop
  obtain ⟨report, failure, manager⟩ := loop
  obtain ⟨there, -⟩ := sends.ready there waiting
  have all := sendMessages_of_all planned rfl failure
  rw [finishSend_eq (manager ▸ there), manager, report] at all
  have reported :=
    reportOn_eq (o.ended_there c there) plan.queue (o.session c) (sent.map .ofMessage)
  rw [plan_queue planned] at reported
  refine ⟨all.2, all.1.trans ?_⟩
  refine (congrArg (Except.mapError _) reported).trans ?_
  split <;> rfl

/-- How a command comes to its result: its options are refused, or a copy is, or all copies are sent
and then there is a queue to report on or not. -/
inductive Course (o : SendOptions) (c : Configuration) (files : Files) (draws : Nat → Draw)
    (qm : QueueManager) : Except CommandError SendReport → Prop where
  | notPlanned {e : CommandError} (no : o.plan files c = .error e) :
      Course o c files draws qm (.error e)
  | refused {plan : Plan} {sent : List Message} {last : QueueManager} {x : SendException}
      (planned : o.plan files c = .ok plan)
      (sends : Sends (o.producer c) o.queue plan.message draws 0 sent qm last)
      (more : sent.length < o.count)
      (no : ((o.producer c).send o.queue plan.message (draws sent.length) last).answer = .error x) :
      Course o c files draws qm (.error (.send x))
  | unreported {plan : Plan} {sent : List Message} {last : QueueManager}
      (planned : o.plan files c = .ok plan)
      (sends : Sends (o.producer c) o.queue plan.message draws 0 sent qm last)
      (length : sent.length = o.count)
      (missing : ¬ (o.ended c last).queues.defined o.queue) :
      Course o c files draws qm
        (.error (.send (.ofTransport (.failed .opening .unknownObjectName))))
  | reported {plan : Plan} {sent : List Message} {last : QueueManager}
      (planned : o.plan files c = .ok plan)
      (sends : Sends (o.producer c) o.queue plan.message draws 0 sent qm last)
      (length : sent.length = o.count)
      (defined : (o.ended c last).queues.defined o.queue)
      (manager : (sendMessages o c files draws qm).manager = o.ended c last) :
      Course o c files draws qm
        (.ok ⟨(o.ended c last).name, o.queue, o.session c, sent.map .ofMessage,
          ((o.ended c last).committed o.queue).length, (o.ended c last).statistics⟩)

theorem course_sendMessages (o : SendOptions) (c : Configuration) (files : Files)
    (draws : Nat → Draw) (there : qm.storageLost = false) (waiting : qm.Waiting) :
    Course o c files draws qm (sendMessages o c files draws qm).result := by
  cases planned : o.plan files c with
  | error e =>
      simp only [sendMessages, planned]
      exact .notPlanned planned
  | ok plan =>
      have ends : CopiesEnd (o.producer c) o.queue plan.message draws o.count 0 qm _ :=
        sendCopies_ends o.count 0 qm
      cases ends with
      | refused sends length report no =>
          rw [Nat.zero_add] at no
          have failed := sendMessages_of_failsAt (.intro planned sends rfl length no) there waiting
          rw [failed.1]
          exact .refused planned sends length no
      | @all sent last sends length =>
          obtain ⟨manager, result⟩ := sendMessages_of_sends planned sends length there waiting
          rw [result]
          split
          · exact .reported planned sends length ‹_› manager
          · exact .unreported planned sends length ‹_›

/-! ### Reports -/

/-- What a command that succeeded leaves behind in `done`, and says of it: the copies `stored` were
added to the queue, and the report shows them and the depth that the queue has now. -/
structure Reported (o : SendOptions) (c : Configuration) (files : Files) (draws : Nat → Draw)
    (qm done : QueueManager) (stored : List StoredMessage) (report : SendReport) : Prop where
  browse   : done.browse o.queue = .ok (qm.committed o.queue ++ stored)
  length   : stored.length = o.count
  copies   : ∃ body, o.body.resolve files = .ok body ∧ ∀ (i : Nat) s, stored[i]? = some s →
    s.Delivers o c body (.generate (draws i).entropy (qm.sequence + i + 1)) (draws i).now
  messages : report.messages = stored.map StoredMessage.shown
  depth    : done.depth o.queue = .ok report.depth

/-- **Reports.**  Whatever the options and the configuration, a command that succeeds on a queue
manager that clients can reach, with nothing in the unit of work, has put the copies that it was
asked for at the end of the queue, in order.  Its report shows these messages, in that order, and
the depth of the queue. -/
theorem report_sendMessages (o : SendOptions) (c : Configuration) (files : Files)
    (draws : Nat → Draw) {qm : QueueManager} (reachable : qm.Reachable)
    (empty : qm.uncommitted = []) {report : SendReport}
    (ok : (sendMessages o c files draws qm).result = .ok report) :
    ∃ stored, o.Reported c files draws qm (sendMessages o c files draws qm).manager stored
      report := by
  have there := reachable.there
  have waiting := QueueManager.waiting_of_empty empty
  have course := course_sendMessages o c files draws there waiting
  rw [ok] at course
  cases course with
  | @reported plan sent last planned sends length defined manager =>
    obtain ⟨-, -, replyTo, body, asked, resolved, message⟩ := plan_eq_ok_iff.mp planned
    have grows := sends.grows
    rw [session_producer] at grows
    obtain ⟨there, waiting⟩ := sends.ready there waiting
    have adds : qm.Adds (o.ended c last) o.queue _ _ 0 := adds_of_grows empty grows waiting rfl
    have browse := QueueManager.browse_eq (o.ended_there c there) defined
    rw [manager]
    refine ⟨sent.map (·.asStored), ?browse, (List.length_map _).trans length,
      ⟨body, resolved, fun i s hs => ?copy⟩, sends.shown, ?depth⟩
    case browse => rw [browse, adds.destination]
    case copy =>
      rw [sends.stored hs, message, Nat.zero_add]
      exact delivers_copy resolved asked (draws i) (qm.sequence + i + 1)
    case depth =>
      rw [QueueManager.depth, browse]
      rfl

/-- Two copies behind a message that was there before, sent together.  The time to live of the
options is negative, so that of the configuration holds. -/
theorem report_behindAnother :
    let o : SendOptions :=
      { queue := "DEV.QUEUE.1", body := { text := some "hello" }, count := 2, transacted := true
        timeToLive := some (-5), replyTo := some "DEV.QUEUE.2" }
    let c : Configuration := { producer := { deliveryMode := .persistent, timeToLive := 5000 } }
    let files : Files := fun _ => .ok .empty
    let draws : Nat → Draw := fun _ => ⟨⟨0, 0, by decide, by decide⟩, Vector.replicate 16 7⟩
    let p : Producer := { session := .autoAcknowledge }
    let qm := (p.send "DEV.QUEUE.1" (.ofText "first") (draws 0) (.ofOptions {})).state
    let done := sendMessages o c files draws qm
    qm.Reachable ∧ qm.uncommitted = [] ∧ (qm.committed "DEV.QUEUE.1").length = 1 ∧
      o.lifetime c = 5000 ∧ ∃ report, done.result = .ok report ∧ report.depth = 3 ∧
        ∃ stored, o.Reported c files draws qm done.manager stored report := by
  have fresh : (QueueManager.ofOptions {}).Reachable := ⟨_, [], rfl⟩
  have reachable := fresh.send { session := .autoAcknowledge } "DEV.QUEUE.1" (.ofText "first")
    ⟨⟨0, 0, by decide, by decide⟩, Vector.replicate 16 7⟩
  exact ⟨reachable, rfl, rfl, rfl, _, rfl, rfl, report_sendMessages _ _ _ _ reachable rfl rfl⟩

end SendOptions

end Courier
