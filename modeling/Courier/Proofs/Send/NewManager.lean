import Courier.Proofs.Except
import Courier.Proofs.MessageId
import Courier.Proofs.Send.Report

/-!
# Courier — Proofs — Sends through a new queue manager

The program sends through a queue manager that it makes for the command.  There a command meets
few of the faults of a send: nothing is inhibited or quiescing, the message brings no expiry, and
the check of the number of copies leaves room for all of them, in the unit of work or out of it.
So a copy is refused only if its queue is not there or it is too long, and then the first one is
(`fault_of_refused_ofOptions`).  A command without copies never opens its queue, which must be
there all the same for the report.

**Outcomes** (`outcome_executeSend`): for all options and configurations, valid or not, when a
command succeeds (`SendOptions.Feasible`), what it then counts (`SendOptions.Tallied`), and that
no command is refused for a full queue or an expiry.
-/

namespace Courier

namespace SendOptions

/-! ### What a command needs -/

/-- What a command needs of a new queue manager to succeed. -/
structure Feasible (o : SendOptions) (c : Configuration) (files : Files) : Prop where
  count   : o.count ≤ c.manager.maxQueueDepth
  queue   : ValidQueueName o.queue
  replyTo : ∀ name, o.replyTo = some name → ValidQueueName name
  body    : ∃ body, o.body.resolve files = .ok body ∧
    (o.count = 0 ∧ o.queue ∈ c.manager.queues ∨
      1 ≤ o.count ∧ (o.queue ∈ c.manager.queues ∨ c.manager.autoDefineQueues = true) ∧
        (Message.mk body none).payload.size ≤ c.manager.maxMessageLength)

/-- What is counted after a command on a new queue manager that succeeded. -/
structure Tallied (o : SendOptions) (c : Configuration) (report : SendReport) : Prop where
  length     : report.messages.length = o.count
  numbers    : ∀ (k : Nat) m, report.messages[k]? = some m →
    ∃ id, m.messageId = some (MessageId.header id) ∧ id.number = k + 1
  depth      : report.depth = o.count
  statistics : report.statistics =
    { opens := o.count, closes := o.count, puts := o.count
      commits := if o.IsTransacted c then 1 else 0, backouts := 0 }

variable {o : SendOptions} {c : Configuration} {files : Files} {draws : Nat → Draw}
  {plan : Plan} {sent : List Message} {last : QueueManager}

theorem payload_messageOf (body : Body) (replyTo : Option Queue) (o : SendOptions) :
    (o.messageOf body replyTo).payload = (Message.mk body none).payload := by
  rw [Message.payload, Message.payload, body_messageOf]

/-- The options can be checked without anything being sent. -/
theorem exists_plan_iff :
    (∃ plan, o.plan files c = .ok plan) ↔
      o.count ≤ c.manager.maxQueueDepth ∧ ValidQueueName o.queue ∧
        (∀ name, o.replyTo = some name → ValidQueueName name) ∧
          ∃ body, o.body.resolve files = .ok body := by
  simp only [plan_eq_ok_iff]
  constructor
  · rintro ⟨plan, count, queue, replyTo, body, asked, resolved, -⟩
    refine ⟨count, queue ▸ plan.queue.valid, fun name hn => ?_, body, resolved⟩
    obtain ⟨q, -, named⟩ := Option.map_eq_some_iff.mp (asked.trans hn)
    exact named ▸ q.valid
  · rintro ⟨count, queue, replyTo, body, resolved⟩
    have asked : ∃ q? : Option Queue, q?.map Queue.name = o.replyTo := by
      cases given : o.replyTo with
      | none => exact ⟨none, rfl⟩
      | some name => exact ⟨some ⟨name, replyTo name given⟩, rfl⟩
    obtain ⟨q?, asked⟩ := asked
    exact ⟨⟨⟨o.queue, queue⟩, o.messageOf body q?⟩, count, rfl, q?, body, asked, resolved, rfl⟩

theorem queueOf_ne_send (argument name : String) (x : SendException) :
    queueOf argument name ≠ .error (.send x) := by
  unfold queueOf
  split <;> simp

theorem resolve_ne_send (sources : BodySources) (files : Files) (x : SendException) :
    sources.resolve files ≠ .error (.send x) := by
  unfold BodySources.resolve
  repeat' split
  all_goals simp

/-- The checks before the first copy fail in their own ways. -/
theorem plan_ne_send (o : SendOptions) (c : Configuration) (files : Files) (x : SendException) :
    o.plan files c ≠ .error (.send x) := by
  unfold SendOptions.plan
  dsimp only
  split
  · simp
  · refine bind_ne_error (queueOf_ne_send _ _ x) fun queue => ?_
    have rest (replyTo : Option Queue) :
        (o.body.resolve files >>= fun body => pure ⟨queue, o.messageOf body replyTo⟩) ≠
          (.error (.send x) : Except CommandError Plan) :=
      bind_ne_error (resolve_ne_send o.body files x) fun body => nofun
    split
    · exact bind_ne_error (map_ne_error (queueOf_ne_send _ _ x) some) rest
    · exact bind_ne_error nofun rest

/-! ### Refused copies -/

/-- **What refuses a copy.**  It is the first one, and the queue is not there or the copy is too
long. -/
theorem fault_of_refused_ofOptions (planned : o.plan files c = .ok plan)
    (sends : Sends (o.producer c) o.queue plan.message draws 0 sent (.ofOptions c.manager) last)
    (more : sent.length < o.count) {draw : Draw} {x : SendException}
    (no : ((o.producer c).send o.queue plan.message draw last).answer = .error x) :
    x = .ofTransport SendFault.notDefined.failure ∧ o.queue ∉ c.manager.queues ∧
        ¬ c.manager.autoDefineQueues ∨
      x = .ofTransport SendFault.tooLong.failure ∧
        c.manager.maxMessageLength < plan.message.payload.size := by
  obtain ⟨count, -, replyTo, body, -, -, message⟩ := plan_eq_ok_iff.mp planned
  obtain ⟨f, told, applies, first⟩ :=
    sends.fault_of_refused rfl (QueueManager.waiting_of_empty rfl) no
  have room : f ≠ .full := by
    rintro rfl
    have depth := sends.grows.depth
    rw [QueueManager.committed_ofOptions, List.length_map] at depth
    have full : last.options.maxQueueDepth ≤ _ := applies
    have empty : (QueueManager.ofOptions c.manager).uncommittedDepth o.queue = 0 := rfl
    have most : (QueueManager.ofOptions c.manager).options.maxQueueDepth =
      c.manager.maxQueueDepth := rfl
    rw [sends.advances.options, depth, empty, List.length_nil, most] at full
    omega
  cases sends with
  | more => exact absurd (first (List.cons_ne_nil _ _)) room
  | none =>
      cases f with
      | full => exact absurd rfl room
      | quiescing => cases applies
      | inhibited =>
          rw [SendFault.Applies, QueueManager.inhibits_ofOptions] at applies
          cases applies
      | noLifetime =>
          rw [SendFault.Applies, message, descriptorFor_messageOf] at applies
          exact absurd applies (Expiry.ofTimeToLive_ne_tenths_zero _)
      | tooLong => exact .inr ⟨told, applies⟩
      | notDefined =>
          rw [SendFault.Applies, QueueManager.defined_ofOptions] at applies
          exact .inl ⟨told, applies⟩

theorem defined_ended (c : Configuration) (o : SendOptions) (last : QueueManager) (n : String) :
    (o.ended c last).queues.defined n = last.queues.defined n := by
  unfold ended
  split
  · exact QueueTable.defined_deliver ..
  · rfl

/-! ### Outcomes -/

/-- How a command on a new queue manager comes to its result. -/
theorem course_executeSend (o : SendOptions) (c : Configuration) (files : Files)
    (draws : Nat → Draw) :
    Course o c files draws (.ofOptions c.manager) (executeSend o c files draws).result :=
  course_sendMessages o c files draws rfl (QueueManager.waiting_of_empty rfl)

/-- Once the options are checked, a command succeeds if its queue is there, or will be, and the
copies are not too long. -/
theorem exists_report_iff_of_plan (planned : o.plan files c = .ok plan) :
    (∃ report, (executeSend o c files draws).result = .ok report) ↔
      o.count = 0 ∧ o.queue ∈ c.manager.queues ∨
        1 ≤ o.count ∧ (o.queue ∈ c.manager.queues ∨ c.manager.autoDefineQueues = true) ∧
          plan.message.payload.size ≤ c.manager.maxMessageLength := by
  have course := course_executeSend o c files draws
  generalize (executeSend o c files draws).result = result at course
  cases course with
  | notPlanned no => rw [planned] at no; cases no
  | refused planned' sends more no =>
      obtain rfl := Except.ok.inj (planned.symm.trans planned')
      constructor
      · rintro ⟨report, ⟨⟩⟩
      · rintro (⟨none, -⟩ | ⟨-, found, short⟩)
        · omega
        · rcases fault_of_refused_ofOptions planned sends more no with
            ⟨-, absent, fixed⟩ | ⟨-, long⟩
          · exact (found.elim absent fixed).elim
          · omega
  | unreported planned' sends length missing =>
      rw [defined_ended, sends.advances.defined, QueueManager.defined_ofOptions, length] at missing
      constructor
      · rintro ⟨report, ⟨⟩⟩
      · rintro (⟨-, listed⟩ | ⟨some, -⟩)
        · exact absurd (.inl listed) missing
        · exact absurd (.inr some) missing
  | reported planned' sends length defined =>
      obtain rfl := Except.ok.inj (planned.symm.trans planned')
      refine ⟨fun _ => ?_, fun _ => ⟨_, rfl⟩⟩
      rw [defined_ended] at defined
      cases sends with
      | none => exact .inl ⟨length.symm, (QueueManager.defined_ofOptions ..).mp defined⟩
      | more accepted =>
          have free := (Producer.send_ok_iff rfl _).mp accepted
          have found := free .notDefined
          rw [SendFault.Applies, QueueManager.defined_ofOptions] at found
          refine .inr ⟨length ▸ Nat.succ_pos _, ?_, Nat.not_lt.mp (free .tooLong)⟩
          by_cases listed : o.queue ∈ c.manager.queues
          · exact .inl listed
          · exact .inr (Decidable.of_not_not fun no => found ⟨listed, no⟩)

theorem exists_report_iff :
    (∃ report, (executeSend o c files draws).result = .ok report) ↔ o.Feasible c files := by
  constructor
  · intro succeeds
    obtain ⟨plan, planned⟩ : ∃ plan, o.plan files c = .ok plan := by
      obtain ⟨report, ok⟩ := succeeds
      have course := course_executeSend o c files draws
      rw [ok] at course
      cases course with
      | reported planned => exact ⟨_, planned⟩
    obtain ⟨count, queue, replyTo, -⟩ := exists_plan_iff.mp ⟨plan, planned⟩
    obtain ⟨-, -, q?, body, -, resolved, message⟩ := plan_eq_ok_iff.mp planned
    rw [exists_report_iff_of_plan planned, message, payload_messageOf] at succeeds
    exact ⟨count, queue, replyTo, body, resolved, succeeds⟩
  · rintro ⟨count, queue, replyTo, body, resolved, fits⟩
    obtain ⟨plan, planned⟩ := exists_plan_iff.mpr ⟨count, queue, replyTo, body, resolved⟩
    obtain ⟨-, -, q?, body', -, resolved', message⟩ := plan_eq_ok_iff.mp planned
    obtain rfl : body' = body := Except.ok.inj (resolved'.symm.trans resolved)
    rw [exists_report_iff_of_plan planned, message, payload_messageOf]
    exact fits

/-- A command that fails in a send found no queue or sent a message that is too long. -/
theorem reasonCode_of_error {x : SendException}
    (no : (executeSend o c files draws).result = .error (.send x)) :
    x.reasonCode = some .unknownObjectName ∨ x.reasonCode = some .messageTooBig := by
  have course := course_executeSend o c files draws
  rw [no] at course
  cases course with
  | notPlanned no => exact absurd no (o.plan_ne_send c files x)
  | unreported => exact .inl rfl
  | refused planned sends more no =>
      rcases fault_of_refused_ofOptions planned sends more no with ⟨rfl, -⟩ | ⟨rfl, -⟩
      · exact .inl rfl
      · exact .inr rfl

theorem statistics_ended (c : Configuration) (o : SendOptions) (last : QueueManager) :
    (o.ended c last).statistics =
      { last.statistics with
        commits := last.statistics.commits + if o.IsTransacted c then 1 else 0 } := by
  unfold ended
  by_cases transacted : (o.session c).isTransacted
  · rw [if_pos transacted, if_pos ((isTransacted_session c o).mp transacted)]
    rfl
  · rw [if_neg transacted, if_neg fun h => transacted ((isTransacted_session c o).mpr h)]
    rfl

/-- What a command that succeeds counts on a new queue manager. -/
theorem tallied_of_ok (few : o.count < 2 ^ 64) {report : SendReport}
    (ok : (executeSend o c files draws).result = .ok report) : o.Tallied c report := by
  have course := course_executeSend o c files draws
  rw [ok] at course
  cases course with
  | @reported plan sent last planned sends length =>
    have waiting : (QueueManager.ofOptions c.manager).Waiting := QueueManager.waiting_of_empty rfl
    have grows := sends.grows
    rw [session_producer] at grows
    have adds : (QueueManager.ofOptions c.manager).Adds (o.ended c last) o.queue _ _ 0 :=
      adds_of_grows rfl grows (sends.ready rfl waiting).2 rfl
    refine ⟨(List.length_map _).trans length, fun k m hm => ?numbers, ?depth, ?statistics⟩
    case numbers =>
      obtain ⟨behind, -⟩ := List.getElem?_eq_some_iff.mp hm
      rw [List.length_map, length] at behind
      rw [sends.shown, List.getElem?_map] at hm
      obtain ⟨s, hs, rfl⟩ := Option.map_eq_some_iff.mp hm
      -- a new queue manager counts from 0
      have first : (QueueManager.ofOptions c.manager).sequence + k + 1 = k + 1 :=
        congrArg (· + 1) (Nat.zero_add k)
      rw [sends.stored hs, first]
      exact ⟨_, rfl, MessageId.number_generate_of_lt _ (by omega)⟩
    case depth =>
      rw [adds.destination, QueueManager.committed_ofOptions, List.nil_append, List.length_map,
        length]
    case statistics =>
      rw [statistics_ended, sends.advances.statistics, length]
      simp [QueueManager.ofOptions]

/-- **Outcomes.**  For all options and configurations, a command on a new queue manager succeeds
just if it is feasible, and then counts what it was asked for.  Where a send of it fails, that is
not for a full queue or an expiry.  (The option for the number of copies takes 32 bits.) -/
theorem outcome_executeSend (o : SendOptions) (c : Configuration) (files : Files)
    (draws : Nat → Draw) (few : o.count < 2 ^ 64) :
    let done := executeSend o c files draws
    ((∃ report, done.result = .ok report) ↔ o.Feasible c files) ∧
      (∀ report, done.result = .ok report → o.Tallied c report) ∧
      ∀ x, done.result = .error (.send x) →
        x.reasonCode ≠ some .queueFull ∧ x.reasonCode ≠ some .expiryError := by
  refine ⟨exists_report_iff, fun report ok => tallied_of_ok few ok, fun x no => ?_⟩
  obtain reason | reason := reasonCode_of_error no <;> rw [reason] <;> decide

/-- As many copies as the queue holds, each as long as it may be, to a queue that is not there. -/
theorem outcome_fullQueue :
    let o : SendOptions :=
      { queue := "NEW.QUEUE", body := { text := some "hi" }, count := 2, transacted := true }
    let c : Configuration :=
      { manager := { autoDefineQueues := true, maxQueueDepth := 2, maxMessageLength := 2 } }
    let files : Files := fun _ => .ok .empty
    let draws : Nat → Draw := fun _ => ⟨⟨0, 0, by decide, by decide⟩, Vector.replicate 16 7⟩
    let done := executeSend o c files draws
    o.count < 2 ^ 64 ∧ (∃ report, done.result = .ok report) ∧
      ((∃ report, done.result = .ok report) ↔ o.Feasible c files) ∧
      (∀ report, done.result = .ok report → o.Tallied c report) ∧
      ∀ x, done.result = .error (.send x) →
        x.reasonCode ≠ some .queueFull ∧ x.reasonCode ≠ some .expiryError :=
  ⟨by decide, ⟨_, rfl⟩, outcome_executeSend _ _ _ _ (by decide)⟩

end SendOptions

end Courier
