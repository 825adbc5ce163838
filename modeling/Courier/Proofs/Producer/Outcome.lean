import Courier.Proofs.Expiry
import Courier.Proofs.Producer.Accepted
import Courier.Proofs.QueueManager.Put

/-!
# Courier — Proofs — Which sends are refused, and why

Six things can be wrong with a send (`SendFault`).  Two are found when the queue is opened and four
when the message is put, each in a fixed order, and what the sender is told is the first that
applies.  All six can be read off the state before the send: opening a queue that is not there
defines it, with no message on it and puts allowed, and what was read off its absence stays true.

The other reasons that queue managers know for an open or a put do not come up.  The handle of a
send is new and was opened for output; the queue is there once it is open; and a queue manager that
is quiescing refuses the open, so that there is no put.

**The first fault decides** (`answer_eq_first`): whatever the state, the producer, the queue and the
message, a send is answered with the first fault, and succeeds if there is none.
-/

namespace Courier

/-! ### Faults -/

/-- What can be wrong with a send. -/
inductive SendFault where
  | quiescing
  | notDefined
  | noLifetime
  | tooLong
  | inhibited
  | full
  deriving DecidableEq

namespace SendFault

/-- The faults that an open finds, first to last. -/
def atOpen : List SendFault := [quiescing, notDefined]

/-- The faults that a put finds, first to last. -/
def atPut : List SendFault := [noLifetime, tooLong, inhibited, full]

def all : List SendFault := atOpen ++ atPut

/-- The call that finds the fault. -/
def verb : SendFault → Verb
  | quiescing | notDefined                   => .opening
  | noLifetime | tooLong | inhibited | full => .put

def reason : SendFault → Reason
  | quiescing  => .managerQuiescing
  | notDefined => .unknownObjectName
  | noLifetime => .expiryError
  | tooLong    => .messageTooBig
  | inhibited  => .putInhibited
  | full       => .queueFull

theorem verb_of_mem_atOpen : ∀ f ∈ atOpen, f.verb = .opening := by decide

theorem verb_of_mem_atPut : ∀ f ∈ atPut, f.verb = .put := by decide

/-- The refused call behind the exception that the sender gets. -/
def failure (f : SendFault) : TransportError := .failed f.verb f.reason

example : all.map (fun f => (f.verb.display, f.reason.code)) =
    [("MQOPEN", 2161), ("MQOPEN", 2085), ("MQPUT", 2013), ("MQPUT", 2030), ("MQPUT", 2051),
      ("MQPUT", 2053)] := rfl

/-- The fault is there when the producer sends the message to the queue. -/
def Applies (p : Producer) (queue : String) (m : Message) (qm : QueueManager) : SendFault → Prop
  | quiescing  => qm.quiescing
  | notDefined => ¬ qm.queues.defined queue ∧ ¬ qm.options.autoDefineQueues
  | noLifetime => (p.descriptorFor m).expiry = .tenths 0
  | tooLong    => qm.options.maxMessageLength < m.payload.size
  | inhibited  => qm.inhibits queue
  | full       =>
    qm.options.maxQueueDepth ≤ (qm.committed queue).length + qm.uncommittedDepth queue

instance (p : Producer) (queue : String) (m : Message) (qm : QueueManager) :
    DecidablePred (Applies p queue m qm)
  | quiescing | notDefined | noLifetime | tooLong | inhibited | full => by
    unfold Applies; infer_instance

/-- The first fault that applies. -/
def first? (p : Producer) (queue : String) (m : Message) (qm : QueueManager) : Option SendFault :=
  all.find? fun f => f.Applies p queue m qm

section
variable {p : Producer} {queue : String} {m : Message} {qm : QueueManager}

/-- The fault found at the open comes first, if there is one. -/
theorem first?_eq (p : Producer) (queue : String) (m : Message) (qm : QueueManager) :
    first? p queue m qm =
      (atOpen.find? fun f => f.Applies p queue m qm).or
        (atPut.find? fun f => f.Applies p queue m qm) :=
  List.find?_append

theorem first?_eq_none_iff :
    first? p queue m qm = none ↔ ∀ f : SendFault, ¬ f.Applies p queue m qm := by
  have complete (f : SendFault) : f ∈ all := by cases f <;> decide
  simp [first?, complete]

end

end SendFault

namespace Producer

/-! ### The two calls -/

section
variable {p : Producer} {queue : String} {m : Message} {qm : QueueManager}

theorem openRefusal?_forSend (p : Producer) (queue : String) (m : Message) (qm : QueueManager) :
    qm.openRefusal? queue .forSend =
      (SendFault.atOpen.find? fun f => f.Applies p queue m qm).map (·.reason) := by
  rw [SendFault.atOpen, map_find?_cons, map_find?_cons,
    QueueManager.openRefusal?]
  simp only [OpenOptions.forSend, and_true]
  rfl

/-- Once the queue is open, the put finds it there, as it was or empty. -/
theorem putRefusal?_eq (there : qm.storageLost = false) (running : qm.quiescing = false) :
    p.putRefusal? queue m qm =
      (SendFault.atPut.find? fun f => f.Applies p queue m qm).map (·.reason) := by
  have opened : (qm.afterOpen queue).queues.find? (sendHandle queue).queue =
      some ⟨qm.committed queue, qm.inhibits queue⟩ :=
    (qm.find?_afterOpen queue queue).trans (if_pos rfl)
  have there' : (qm.afterOpen queue).storageLost = false := there
  have running' : (qm.afterOpen queue).quiescing = false := running
  rw [putRefusal?, QueueManager.putRefusal?, opened]
  simp only [there', running', sendHandle, OpenOptions.forSend, Bool.false_eq_true, not_true,
    if_false, SendFault.atPut, map_find?_cons]
  rfl

theorem answer_send (there : qm.storageLost = false) (draw : Draw) :
    (p.send queue m draw qm).answer =
      match SendFault.first? p queue m qm with
      | some f => .error (.ofTransport f.failure)
      | none   => .ok () := by
  have opening := openRefusal?_forSend p queue m qm
  rw [SendFault.first?_eq]
  cases atOpen : SendFault.atOpen.find? fun f => f.Applies p queue m qm with
  | some f =>
      have verb := SendFault.verb_of_mem_atOpen f (List.mem_of_find?_eq_some atOpen)
      rw [atOpen] at opening
      rw [send_eq_of_openRefusal there opening]
      simp only [Sent.answer, Option.some_or, SendFault.failure, verb]
      rfl
  | none =>
      have running : ¬ SendFault.quiescing.Applies p queue m qm := by
        simpa only [decide_eq_true_eq] using
          List.find?_eq_none.mp atOpen .quiescing (List.mem_cons_self ..)
      have putting : p.putRefusal? queue m qm = _ :=
        putRefusal?_eq there (eq_false_of_ne_true running)
      rw [atOpen] at opening
      cases atPut : SendFault.atPut.find? fun f => f.Applies p queue m qm with
      | some f =>
          have verb := SendFault.verb_of_mem_atPut f (List.mem_of_find?_eq_some atPut)
          rw [atPut] at putting
          rw [send_eq_of_putRefusal there opening putting]
          simp only [Sent.answer, Option.none_or, SendFault.failure, verb]
          rfl
      | none =>
          rw [atPut] at putting
          rw [send_eq there opening putting]
          rfl

theorem send_ok_iff (there : qm.storageLost = false) (draw : Draw) :
    (p.send queue m draw qm).answer = .ok () ↔ ∀ f : SendFault, ¬ f.Applies p queue m qm := by
  rw [answer_send there, ← SendFault.first?_eq_none_iff]
  cases SendFault.first? p queue m qm with
  | none => exact ⟨fun _ => rfl, fun _ => rfl⟩
  | some f => constructor <;> intro h <;> cases h

/-- What a sender is told of is one of the faults. -/
theorem exists_fault_of_send_error (there : qm.storageLost = false) {draw : Draw}
    {x : SendException} (no : (p.send queue m draw qm).answer = .error x) :
    ∃ f : SendFault, f.Applies p queue m qm ∧ x = .ofTransport f.failure := by
  rw [answer_send there] at no
  cases first : SendFault.first? p queue m qm with
  | none => rw [first] at no; cases no
  | some f =>
      rw [first] at no
      cases no
      exact ⟨f, by simpa only [decide_eq_true_eq] using List.find?_some first, rfl⟩

end

/-! ### Messages without a lifetime -/

/-- A message is put without a lifetime only if it brings that from its sender, and its producer
has no time to live. -/
theorem noLifetime_applies_iff {p : Producer} (nonneg : 0 ≤ p.timeToLive) (queue : String)
    (m : Message) (qm : QueueManager) :
    SendFault.noLifetime.Applies p queue m qm ↔
      p.timeToLive = 0 ∧ m.descriptor.map (·.expiry) = some (.tenths 0) := by
  rw [SendFault.Applies, descriptorFor_eq]
  by_cases h : 0 < p.timeToLive
  · simp only [if_pos h]
    exact ⟨fun e => absurd e (Expiry.ofTimeToLive_ne_tenths_zero _), fun ⟨z, _⟩ => by omega⟩
  · have zero : p.timeToLive = 0 := by omega
    simp only [zero, true_and, Message.descriptorOrNew]
    cases m.descriptor <;> simp

/-! ### The first fault -/

/-- **The first fault decides.**  In every state that clients can reach, a send is answered with
the first fault that applies, and succeeds if there is none.  A message has no lifetime only if it
carries an expiry of zero tenths and its producer has no time to live.  So no send is told of its
handle, nor of a put to an unknown queue or to a queue manager that is quiescing. -/
theorem answer_eq_first {qm : QueueManager} (reachable : qm.Reachable) (mode : SessionMode)
    (calls : List OptionCall) (queue : String) (m : Message) (draw : Draw) :
    let p := configured mode calls
    let answer := (p.send queue m draw qm).answer
    (answer =
      match SendFault.first? p queue m qm with
      | some f => .error (.ofTransport f.failure)
      | none   => .ok ()) ∧
    (SendFault.noLifetime.Applies p queue m qm ↔
      p.timeToLive = 0 ∧ m.descriptor.map (·.expiry) = some (.tenths 0)) ∧
    ∀ e, answer = .error (.ofTransport e) →
      e.reason ≠ .objectHandleError ∧ e.reason ≠ .notOpenForOutput ∧
        (e.verb = .put → e.reason ≠ .unknownObjectName ∧ e.reason ≠ .managerQuiescing) := by
  have nonneg : 0 ≤ (configured mode calls).timeToLive := by
    rw [configured_timeToLive]
    exact OptionCall.lastTime_nonneg calls
  refine ⟨answer_send reachable.there draw, noLifetime_applies_iff nonneg queue m qm,
    fun e no => ?_⟩
  obtain ⟨f, -, told⟩ := exists_fault_of_send_error reachable.there no
  have failed : e = f.failure := Option.some.inj (congrArg SendException.linked told)
  subst failed
  cases f <;> decide

/-- A message with an expiry of zero tenths and a long body, sent to a queue that is not there but
may be defined: of the two faults the first is told. -/
theorem answer_withoutLifetime :
    let m : Message := ⟨.text (some "hello"), some { expiry := .tenths 0 }⟩
    let draw : Draw := ⟨⟨0, 0, by decide, by decide⟩, Vector.replicate 16 7⟩
    let qm := QueueManager.ofOptions { autoDefineQueues := true, maxMessageLength := 4 }
    let p := configured .transacted [.setTimeToLive (-5)]
    let answer := (p.send "NEW.QUEUE" m draw qm).answer
    qm.Reachable ∧ SendFault.tooLong.Applies p "NEW.QUEUE" m qm ∧
      answer = .error (.ofTransport SendFault.noLifetime.failure) ∧
      (SendFault.noLifetime.Applies p "NEW.QUEUE" m qm ↔
        p.timeToLive = 0 ∧ m.descriptor.map (·.expiry) = some (.tenths 0)) ∧
      ∀ e, answer = .error (.ofTransport e) →
        e.reason ≠ .objectHandleError ∧ e.reason ≠ .notOpenForOutput ∧
          (e.verb = .put → e.reason ≠ .unknownObjectName ∧ e.reason ≠ .managerQuiescing) := by
  have reachable : (QueueManager.ofOptions
      { autoDefineQueues := true, maxMessageLength := 4 }).Reachable := ⟨_, [], rfl⟩
  exact ⟨reachable, by decide, answer_eq_first reachable .transacted [.setTimeToLive (-5)]
    "NEW.QUEUE" ⟨.text (some "hello"), some { expiry := .tenths 0 }⟩
    ⟨⟨0, 0, by decide, by decide⟩, Vector.replicate 16 7⟩⟩

end Producer

end Courier
