import Courier.Producer
import Courier.Send.Report

/-!
# Courier — The send command

Sends copies of one message and reports them.  The options are checked before anything is sent:
the number of copies against the depth of a queue, the names of the queues, and the body.  In a
transacted session the copies are committed together after the last one, and a failed send
discards the ones before it.
-/

namespace Courier

/-! ### Copies -/

/-- What sending some copies leaves behind. -/
structure Copies where
  sent    : List SentMessage := []
  failure : Option SendException := none
  manager : QueueManager
  events  : List LogEvent := []

/-- Sends `n` copies, up to the first that fails; `draws` gives what each put takes from
outside, from number `i` on. -/
def sendCopies (p : Producer) (queue : String) (m : Message) (draws : Nat → Draw) :
    Nat → Nat → QueueManager → Copies
  | 0, _, qm     => { manager := qm }
  | n + 1, i, qm =>
    let s := p.send queue m (draws i) qm
    match s.answer with
    | .error e => { failure := some e, manager := s.state, events := s.events }
    | .ok ()   =>
      let rest := sendCopies p queue m draws n (i + 1) s.state
      { rest with
        sent   := .ofMessage s.message :: rest.sent
        events := s.events ++ rest.events }

namespace SendOptions

/-! ### Checks -/

/-- The queue of a name that an argument gives. -/
def queueOf (argument name : String) : Except CommandError Queue :=
  match Queue.ofName name with
  | .ok q    => .ok q
  | .error e => .error (.invalidArgument argument e.display)

/-- What is sent where. -/
structure Plan where
  queue   : Queue
  message : Message

/-- The message that is sent. -/
def messageOf (body : Body) (replyTo : Option Queue) (o : SendOptions) : Message :=
  let m : Message := ⟨body, none⟩
  let m := match replyTo with
    | some q => m.setReplyTo q
    | none   => m
  match o.correlationId with
  | some id => m.setCorrelationId id
  | none    => m

/-- The first thing wrong with the options, or what they ask for. -/
def plan (files : Files) (c : Configuration) (o : SendOptions) : Except CommandError Plan := do
  let most := c.manager.maxQueueDepth
  if most < o.count then
    .error (.invalidArgument "count"
      (toString o.count ++ " exceeds the maximum queue depth of " ++ toString most))
  else
    let queue ← queueOf "queue" o.queue
    let replyTo ← match o.replyTo with
      | some name => (queueOf "reply-to" name).map some
      | none      => .ok none
    let body ← o.body.resolve files
    return ⟨queue, o.messageOf body replyTo⟩

def session (c : Configuration) (o : SendOptions) : SessionMode :=
  if o.transacted then .transacted else c.sessionMode

/-- The configured producer, with the delivery mode of the options. -/
def baseProducer (c : Configuration) (o : SendOptions) : Producer :=
  let p : Producer := { session := o.session c }
  let p := p.configure c.producer
  if o.persistent then p.setDeliveryMode .persistent else p

def producer (c : Configuration) (o : SendOptions) : Producer :=
  match o.timeToLive with
  | some millis => (o.baseProducer c).setTimeToLive millis
  | none        => o.baseProducer c

/-- What is logged while the producer is made. -/
def producerEvents (c : Configuration) (o : SendOptions) : List LogEvent :=
  Producer.configureEvents c.producer { session := o.session c } ++
    match o.timeToLive with
    | some millis => (o.baseProducer c).timeToLiveEvents millis
    | none        => []

end SendOptions

/-! ### The command -/

/-- What a command leaves behind. -/
structure Outcome (α : Type) where
  result  : Except CommandError α
  manager : QueueManager
  events  : List LogEvent := []

/-- Discards the unit of work after a failed send. -/
def discard (sent : Nat) (qm : QueueManager) : QueueManager × LogEvent :=
  match qm.backout with
  | (.ok _, qm)    => (qm, .rolledBack sent)
  | (.error e, qm) => (qm, .rollbackFailed (.ofTransport e))

/-- The report on messages that were sent. -/
def reportOn (queue : Queue) (mode : SessionMode) (sent : List SentMessage) (qm : QueueManager) :
    Except TransportError SendReport := do
  let depth ← qm.depth queue.name
  let statistics ← qm.readStatistics
  return ⟨qm.name, queue.name, mode, sent, depth, statistics⟩

/-- Ends a send in which every copy was put: commits if the session is transacted, and
reports. -/
def finishSend (queue : Queue) (mode : SessionMode) (copies : Copies) : Outcome SendReport :=
  let (committed, qm) : Except TransportError Unit × QueueManager :=
    if mode.isTransacted then
      let (r, qm) := copies.manager.commit
      (r.map fun _ => (), qm)
    else (.ok (), copies.manager)
  let report := committed.bind fun _ => reportOn queue mode copies.sent qm
  { result := report.mapError fun e => .send (.ofTransport e), manager := qm }

/-- Sends through a queue manager. -/
def sendMessages (o : SendOptions) (c : Configuration) (files : Files) (draws : Nat → Draw)
    (qm : QueueManager) : Outcome SendReport :=
  match o.plan files c with
  | .error e => { result := .error e, manager := qm }
  | .ok plan =>
    let p := o.producer c
    let copies := sendCopies p plan.queue.name plan.message draws o.count 0 qm
    let events := o.producerEvents c ++
      .sending plan.queue o.count p.deliveryMode p.timeToLive p.session :: copies.events
    match copies.failure with
    | none =>
      let done := finishSend plan.queue p.session copies
      { done with events := events ++ done.events }
    | some e =>
      if p.session.isTransacted then
        let (qm, event) := discard copies.sent.length copies.manager
        { result := .error (.send e), manager := qm, events := events ++ [event] }
      else { result := .error (.send e), manager := copies.manager, events }

/-- Sends through a new queue manager. -/
def executeSend (o : SendOptions) (c : Configuration) (files : Files) (draws : Nat → Draw) :
    Outcome SendReport :=
  let done := sendMessages o c files draws (.ofOptions c.manager)
  { done with events := .managerStarted c.manager :: done.events }

end Courier
