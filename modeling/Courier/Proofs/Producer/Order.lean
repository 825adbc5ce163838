import Courier.Proofs.Producer.Transacted
import Courier.Proofs.QueueManager.Share
import Mathlib.Data.List.Nodup

/-!
# Courier — Proofs — Sends in another order

A session sends messages to several queues.  The queues share the unit of work, the sequence of
identifiers and the statistics, and a send may define its queue; even so, what becomes of a send
depends on its queue's share of the manager only (`send_of_share`), and it leaves the shares of the
other queues as they were (`share_send_of_ne`).

So a queue is where its own sends bring it.  A run has the same share of a queue, and answers the
sends to that queue alike, when the sends to other queues are left out (`alikeAt_sendAll`).  The
counters do not say which send came first: they are sums over what the sends were answered
(`counters_sendAll`).

**The order across queues does not matter** (`sendAll_reordered`): sends of distinct messages are
answered alike, and end alike up to stamps, in any order in which the sends to one queue stay in
theirs.
-/

namespace Courier

/-! ### Lists in another order -/

/-- Lists that have the same elements of each key, in the same order, have the same elements. -/
theorem perm_of_filter_eq {α κ : Type} [DecidableEq κ] {key : α → κ} {xs ys : List α}
    (same : ∀ k, xs.filter (key · = k) = ys.filter (key · = k)) : xs.Perm ys := by
  classical
  rw [List.perm_iff_count]
  intro a
  have counts := congrArg (List.count a) (same (key a))
  rwa [List.count_filter (by simp), List.count_filter (by simp)] at counts

/-! ### Messages without stamps -/

def Message.unstamped (m : Message) : Message :=
  { m with descriptor := m.descriptor.map (·.unstamped) }

theorem Message.unstamped_setDescriptor (m : Message) (d : Descriptor) :
    (m.setDescriptor d).unstamped = m.unstamped.setDescriptor d.unstamped := rfl

namespace Producer

/-- A producer reads no stamp and writes none. -/
theorem unstamped_descriptorFor (p : Producer) (m : Message) :
    (p.descriptorFor m).unstamped = p.descriptorFor m.unstamped := by
  have carried : m.unstamped.descriptorOrNew = m.descriptorOrNew.unstamped := by
    obtain ⟨body, descriptor⟩ := m
    cases descriptor <;> rfl
  have format : m.unstamped.format = m.format := rfl
  rw [descriptorFor_eq, descriptorFor_eq, carried, format]
  rfl

/-- Of the queue manager and the draw, a stored message has the stamps only. -/
theorem unstamped_sent (p : Producer) (m : Message) (draw : Draw) (qm : QueueManager) :
    (p.sent m draw qm).unstamped = ⟨p.descriptorFor m.unstamped, m.unstamped.payload⟩ :=
  congrArg (StoredMessage.mk · m.payload) (p.unstamped_descriptorFor m)

/-! ### One send -/

theorem share_afterSend (p : Producer) (queue : String) (m : StoredMessage) (qm : QueueManager) :
    (p.afterSend queue m qm).share queue =
      (qm.share queue).define.store p.putOptions.syncpoint m.unstamped := by
  rw [← QueueManager.share_afterOpen]
  exact (qm.afterOpen queue).share_store queue p.putOptions true m

/-- The shares of the other queues stay. -/
theorem share_send_of_ne {queue n : String} (elsewhere : n ≠ queue) (p : Producer) (m : Message)
    (draw : Draw) (qm : QueueManager) :
    (p.send queue m draw qm).state.share n = qm.share n := by
  have opened := qm.share_afterOpen_of_ne elsewhere
  have ending := p.ending_send queue m draw qm
  generalize p.send queue m draw qm = sent at ending
  cases ending with
  | notOpened => rfl
  | refused => exact opened
  | stored =>
      exact ((qm.afterOpen queue).share_store_of_ne elsewhere p.putOptions true _).trans opened

section
variable {qm other : QueueManager} {queue : String} {m m' : Message}
  (same : other.share queue = qm.share queue) (alike : m'.unstamped = m.unstamped)

include same in
theorem share_opened_of_share :
    (other.afterOpen queue).share queue = (qm.afterOpen queue).share queue := by
  rw [QueueManager.share_afterOpen, QueueManager.share_afterOpen, same]

include alike

theorem descriptorFor_of_alike (p : Producer) :
    (p.descriptorFor m').unstamped = (p.descriptorFor m).unstamped := by
  rw [unstamped_descriptorFor, unstamped_descriptorFor, alike]

include same

theorem putRefusal?_of_share (p : Producer) :
    p.putRefusal? queue m' other = p.putRefusal? queue m qm := by
  have payload : m'.payload = m.payload := congrArg (·.payload) alike
  rw [putRefusal?, putRefusal?, payload]
  exact QueueManager.putRefusal?_of_share (share_opened_of_share same) rfl
    (descriptorFor_of_alike alike p) _

/-- **A send reads its own queue's share.**  Where that share is the same, a send of the same
message is answered alike, and leaves the same share and the same message. -/
theorem send_of_share (p : Producer) (draw draw' : Draw) :
    let sent := p.send queue m draw qm
    let sent' := p.send queue m' draw' other
    sent'.answer = sent.answer ∧ sent'.state.share queue = sent.state.share queue ∧
      sent'.message.unstamped = sent.message.unstamped := by
  intro sent sent'
  -- what refuses the one refuses the other, so both end in the same of the ways
  cases there : qm.storageLost with
  | true =>
      have there' : other.storageLost = true := (congrArg Share.storageLost same).trans there
      simp only [sent, sent', send_eq_of_not_opened (if_pos there),
        send_eq_of_not_opened (if_pos there')]
      exact ⟨rfl, same, alike⟩
  | false =>
      have there' : other.storageLost = false := (congrArg Share.storageLost same).trans there
      have openings := QueueManager.openRefusal?_of_share same .forSend
      have puts := putRefusal?_of_share same alike p
      cases ok : qm.openRefusal? queue .forSend with
      | some r =>
          simp only [sent, sent', send_eq_of_openRefusal there ok,
            send_eq_of_openRefusal there' (openings.trans ok)]
          exact ⟨rfl, same, alike⟩
      | none =>
          cases accepted : p.putRefusal? queue m qm with
          | some r =>
              simp only [sent, sent', send_eq_of_putRefusal there ok accepted,
                send_eq_of_putRefusal there' (openings.trans ok) (puts.trans accepted)]
              refine ⟨rfl, share_opened_of_share same, ?_⟩
              rw [Message.unstamped_setDescriptor, Message.unstamped_setDescriptor, alike,
                descriptorFor_of_alike alike]
          | none =>
              have stored : (p.sent m' draw' other).unstamped = (p.sent m draw qm).unstamped := by
                rw [unstamped_sent, unstamped_sent, alike]
              simp only [sent, sent', send_eq there ok accepted,
                send_eq there' (openings.trans ok) (puts.trans accepted)]
              refine ⟨rfl, ?_, ?_⟩
              · rw [share_afterSend, share_afterSend, same, stored]
              · rw [Message.unstamped_setDescriptor, Message.unstamped_setDescriptor, alike]
                exact congrArg (m.unstamped.setDescriptor ·.descriptor) stored

end

end Producer

/-! ### What is counted -/

/-- What a queue manager counts. -/
structure Counters where
  sequence   : Nat
  statistics : Statistics

def QueueManager.counters (qm : QueueManager) : Counters := ⟨qm.sequence, qm.statistics⟩

namespace Counters

/-- A queue was opened and closed again. -/
def opened (c : Counters) : Counters :=
  { c with statistics := { c.statistics with
      opens  := c.statistics.opens + 1
      closes := c.statistics.closes + 1 } }

/-- An identifier was drawn for a message that was put. -/
def put (c : Counters) : Counters where
  sequence   := c.sequence + 1
  statistics := { c.statistics with puts := c.statistics.puts + 1 }

/-- What was counted for a send is told by its reply. -/
def told (c : Counters) : Reply → Counters
  | .sent (.ok ())   => c.opened.put
  | .sent (.error x) => if x.linked.map (·.verb) = some .opening then c else c.opened
  | .administered _  => c

/-- Counting does not ask which send came first. -/
theorem told_comm (c : Counters) (r r' : Reply) : (c.told r).told r' = (c.told r').told r := by
  cases r with
  | administered => rfl
  | sent answer =>
      cases r' with
      | administered => rfl
      | sent answer' =>
          -- an error counts by the call that failed, hence the splits
          cases answer with
          | ok => cases answer' with
            | ok => rfl
            | error => simp only [told]; split <;> rfl
          | error => cases answer' with
            | ok => simp only [told]; split <;> rfl
            | error => simp only [told]; split <;> split <;> rfl

end Counters

theorem Producer.counters_send (p : Producer) (queue : String) (m : Message) (draw : Draw)
    (qm : QueueManager) :
    (p.send queue m draw qm).state.counters =
      qm.counters.told (.sent (p.send queue m draw qm).answer) := by
  have ending := p.ending_send queue m draw qm
  generalize p.send queue m draw qm = sent at ending
  cases ending with
  | notOpened | refused | stored => rfl

/-! ### Sends of a session -/

/-- Which message a session sends, where and by which producer. -/
structure Dispatch where
  producer : Producer
  queue    : String
  message  : Nat

/-- The step of the session, with what is drawn for it. -/
def Dispatch.step (d : Dispatch) (draw : Draw) : SessionStep :=
  .send d.producer d.queue d.message draw

namespace Session

/-- Sends one message after the other; every send comes with its reply. -/
def sendAll (mode : SessionMode) (s : Session) (sends : List (Dispatch × Draw)) :
    List (Dispatch × Reply) × Session :=
  let (replies, last) := s.run mode (sends.map fun x => x.1.step x.2)
  ((sends.map (·.1)).zip replies, last)

theorem sendAll_cons (mode : SessionMode) (s : Session) (x : Dispatch × Draw)
    (xs : List (Dispatch × Draw)) :
    s.sendAll mode (x :: xs) =
      let (reply, next) := s.perform mode (x.1.step x.2)
      let (told, last) := next.sendAll mode xs
      ((x.1, reply) :: told, last) := rfl

/-- Every send has its reply. -/
theorem sends_of_sendAll (mode : SessionMode) (xs : List (Dispatch × Draw)) : ∀ s : Session,
    (s.sendAll mode xs).1.map (·.1) = xs.map (·.1) := by
  induction xs with
  | nil => exact fun _ => rfl
  | cons x xs ih =>
      intro s
      rw [sendAll_cons, List.map_cons, List.map_cons]
      exact congrArg (x.1 :: ·) (ih _)

/-! ### One queue -/

/-- The sessions are at the same point as far as a queue and these messages are concerned. -/
structure AlikeAt (queue : String) (here : Nat → Prop) (s other : Session) : Prop where
  share    : other.manager.share queue = s.manager.share queue
  messages : ∀ i, here i → (other.messages i).unstamped = (s.messages i).unstamped

theorem alikeAt_refl (queue : String) (here : Nat → Prop) (s : Session) :
    AlikeAt queue here s s :=
  ⟨rfl, fun _ _ => rfl⟩

section
variable {queue : String} {here : Nat → Prop} {s other : Session}
  (alike : AlikeAt queue here s other) (mode : SessionMode) {d : Dispatch}
include alike

/-- A send to the queue, in both sessions. -/
theorem AlikeAt.send (hits : d.queue = queue) (isHere : here d.message) (draw draw' : Draw) :
    (other.perform mode (d.step draw')).1 = (s.perform mode (d.step draw)).1 ∧
      AlikeAt queue here (s.perform mode (d.step draw)).2
        (other.perform mode (d.step draw')).2 := by
  subst hits
  obtain ⟨answer, share, message⟩ := Producer.send_of_share alike.share
    (alike.messages d.message isHere) (d.producer.inSession mode) draw draw'
  refine ⟨congrArg Reply.sent answer, share, fun i hi => ?_⟩
  by_cases h : i = d.message
  · simpa only [perform, Dispatch.step, if_pos h] using message
  · simpa only [perform, Dispatch.step, if_neg h] using alike.messages i hi

/-- A send to another queue, in one session only. -/
theorem AlikeAt.send_elsewhere (elsewhere : d.queue ≠ queue) (notHere : ¬ here d.message)
    (draw : Draw) : AlikeAt queue here (s.perform mode (d.step draw)).2 other := by
  refine ⟨?_, fun i hi => ?_⟩
  · exact alike.share.trans (Producer.share_send_of_ne (Ne.symm elsewhere) ..).symm
  · have others : i ≠ d.message := fun h => notHere (h ▸ hi)
    simpa only [perform, Dispatch.step, if_neg others] using alike.messages i hi

end

/-- **A queue is where its own sends bring it.**  The sends to other queues, which are of other
messages, can be left out: the replies to the others, and the queue's share, stay the same. -/
theorem alikeAt_sendAll (mode : SessionMode) (queue : String) (here : Nat → Prop)
    (xs : List (Dispatch × Draw)) :
    ∀ {ys : List (Dispatch × Draw)} {s other : Session},
      (∀ d ∈ xs.map (·.1), here d.message ↔ d.queue = queue) →
      ys.map (·.1) = (xs.map (·.1)).filter (·.queue = queue) →
      AlikeAt queue here s other →
        (other.sendAll mode ys).1 = (s.sendAll mode xs).1.filter (·.1.queue = queue) ∧
          AlikeAt queue here (s.sendAll mode xs).2 (other.sendAll mode ys).2 := by
  induction xs with
  | nil =>
      intro ys s other _ left alike
      obtain rfl : ys = [] := List.map_eq_nil_iff.mp left
      exact ⟨rfl, alike⟩
  | cons x xs ih =>
      obtain ⟨d, draw⟩ := x
      intro ys s other apart left alike
      obtain ⟨whose, apart⟩ := List.forall_mem_cons.mp apart
      by_cases hits : d.queue = queue
      · -- both runs make this send, each with a draw of its own
        rw [List.map_cons, List.filter_cons_of_pos (by simpa using hits)] at left
        obtain ⟨⟨e, draw'⟩, ys, rfl, same, rest⟩ := List.map_eq_cons_iff.mp left
        obtain rfl : d = e := same.symm
        obtain ⟨reply, next⟩ := alike.send mode hits (whose.mpr hits) draw draw'
        obtain ⟨replies, last⟩ := ih apart rest next
        refine ⟨?_, last⟩
        simp only [sendAll_cons, reply, replies]
        rw [List.filter_cons_of_pos (by simpa using hits)]
      · -- the shorter run waits while the other one sends elsewhere
        rw [List.map_cons, List.filter_cons_of_neg (by simpa using hits)] at left
        have next := alike.send_elsewhere mode hits (fun h => hits (whose.mp h)) draw
        obtain ⟨replies, last⟩ := ih apart left next
        refine ⟨?_, last⟩
        simp only [sendAll_cons, replies]
        rw [List.filter_cons_of_neg (by simpa using hits)]

theorem counters_sendAll (mode : SessionMode) (xs : List (Dispatch × Draw)) : ∀ s : Session,
    (s.sendAll mode xs).2.manager.counters =
      (s.sendAll mode xs).1.foldl (fun c x => c.told x.2) s.manager.counters := by
  induction xs with
  | nil => exact fun _ => rfl
  | cons x xs ih =>
      intro s
      have sent : (s.perform mode (x.1.step x.2)).2.manager.counters =
          s.manager.counters.told (s.perform mode (x.1.step x.2)).1 :=
        Producer.counters_send ..
      rw [sendAll_cons, List.foldl_cons, ← sent]
      exact ih _

theorem counters_of_perm {told told' : List (Dispatch × Reply)} (perm : told'.Perm told)
    (c : Counters) :
    told'.foldl (fun c x => c.told x.2) c = told.foldl (fun c x => c.told x.2) c :=
  perm.foldl_eq' (fun x _ y _ c => c.told_comm x.2 y.2) c

/-! ### Another order -/

/-- The same sends in another order, where the sends to one queue stay in theirs. -/
def Reorders (later sends : List Dispatch) : Prop :=
  ∀ queue, later.filter (·.queue = queue) = sends.filter (·.queue = queue)

theorem Reorders.perm {later sends : List Dispatch} (reorders : Reorders later sends) :
    later.Perm sends :=
  perm_of_filter_eq reorders

/-- The message goes to that queue, if it is sent at all.  A message that is not sent goes to any
queue, so that what is said of the messages of all queues is said of every message. -/
def GoesTo (queue : String) (sends : List Dispatch) (i : Nat) : Prop :=
  ∀ d ∈ sends, d.message = i → d.queue = queue

section
variable {sends : List Dispatch} (distinct : (sends.map (·.message)).Nodup)
include distinct

theorem goesTo_iff {d : Dispatch} (hd : d ∈ sends) (queue : String) :
    GoesTo queue sends d.message ↔ d.queue = queue := by
  refine ⟨fun h => h d hd rfl, fun hits e he same => ?_⟩
  rw [List.inj_on_of_nodup_map distinct he hd same, hits]

theorem exists_goesTo (i : Nat) : ∃ queue, GoesTo queue sends i := by
  by_cases sent : ∃ d ∈ sends, d.message = i
  · obtain ⟨d, hd, rfl⟩ := sent
    exact ⟨d.queue, (goesTo_iff distinct hd _).mpr rfl⟩
  · exact ⟨"", fun d hd same => absurd ⟨d, hd, same⟩ sent⟩

end

/-- Two sessions that nothing but the stamps of messages tells apart: the same queues are defined,
with the same messages and the same messages waiting for them, and the counters are the same. -/
structure SameUnstamped (s other : Session) : Prop where
  share      : ∀ queue, other.manager.share queue = s.manager.share queue
  sequence   : other.manager.sequence = s.manager.sequence
  statistics : other.manager.statistics = s.manager.statistics
  messages   : ∀ i, (other.messages i).unstamped = (s.messages i).unstamped

section
variable (mode : SessionMode) (s : Session) {sends later : List (Dispatch × Draw)}
  (distinct : (sends.map (·.1.message)).Nodup)
  (reorders : Reorders (later.map (·.1)) (sends.map (·.1)))
include distinct reorders

/-- Both orders bring a queue where its own sends bring it. -/
theorem alikeAt_reordered (queue : String) :
    (s.sendAll mode later).1.filter (·.1.queue = queue) =
        (s.sendAll mode sends).1.filter (·.1.queue = queue) ∧
      AlikeAt queue (GoesTo queue (sends.map (·.1))) (s.sendAll mode sends).2
        (s.sendAll mode later).2 := by
  -- either order is compared with the sends to this queue alone, in their one order
  let own := sends.filter (·.1.queue = queue)
  have distinct' : ((sends.map (·.1)).map (·.message)).Nodup := by rwa [List.map_map]
  have left : own.map (·.1) = (sends.map (·.1)).filter (·.queue = queue) := by
    rw [List.filter_map]
    rfl
  have here : ∀ d ∈ sends.map (·.1), GoesTo queue (sends.map (·.1)) d.message ↔ d.queue = queue :=
    fun d hd => goesTo_iff distinct' hd queue
  obtain ⟨told, alike⟩ := alikeAt_sendAll mode queue _ sends here left (alikeAt_refl _ _ s)
  obtain ⟨told', alike'⟩ := alikeAt_sendAll mode queue _ later
    (fun d hd => here d (reorders.perm.mem_iff.mp hd)) (left.trans (reorders queue).symm)
    (alikeAt_refl _ _ s)
  exact ⟨told'.symm.trans told, alike'.share.symm.trans alike.share,
    fun i hi => (alike'.messages i hi).symm.trans (alike.messages i hi)⟩

/-- **The order across queues does not matter.**  Sends of distinct messages, whatever the clock
says and whatever is drawn for them, are answered alike in any order in which the sends to one queue
stay in theirs, and end in the same state up to stamps. -/
theorem sendAll_reordered :
    let (told, last) := s.sendAll mode sends
    let (told', last') := s.sendAll mode later
    told.map (·.1) = sends.map (·.1) ∧ told'.Perm told ∧ SameUnstamped last last' := by
  have alike := alikeAt_reordered mode s distinct reorders
  have told : (s.sendAll mode later).1.Perm (s.sendAll mode sends).1 :=
    perm_of_filter_eq fun queue => (alike queue).1
  -- equal replies were counted equally, in whatever order
  have counters : (s.sendAll mode later).2.manager.counters =
      (s.sendAll mode sends).2.manager.counters := by
    rw [counters_sendAll, counters_sendAll, counters_of_perm told]
  have distinct' : ((sends.map (·.1)).map (·.message)).Nodup := by rwa [List.map_map]
  refine ⟨sends_of_sendAll mode sends s, told, fun queue => (alike queue).2.share,
    congrArg Counters.sequence counters, congrArg Counters.statistics counters, fun i => ?_⟩
  obtain ⟨queue, goesTo⟩ := exists_goesTo distinct' i
  exact (alike queue).2.messages i goesTo

end

/-- A queue with room for one message, and one that is not there yet: the second send to the first
queue fails, also when the send that defines the other queue is made before it. -/
theorem sendAll_reordered_full :
    let p : Producer := ⟨.transacted, .persistent, 5000⟩
    let q : Producer := ⟨.transacted, .nonPersistent, 0⟩
    let early : Draw := ⟨⟨0, 0, by decide, by decide⟩, Vector.replicate 16 7⟩
    let late : Draw := ⟨⟨9, 0, by decide, by decide⟩, Vector.replicate 16 8⟩
    let s : Session :=
      ⟨.ofOptions { autoDefineQueues := true, maxQueueDepth := 1 }, fun _ => .ofText "hello"⟩
    let sends : List (Dispatch × Draw) :=
      [(⟨p, "DEV.QUEUE.1", 0⟩, early), (⟨q, "DEV.QUEUE.1", 1⟩, early), (⟨p, "NEW.QUEUE", 2⟩, late)]
    let later : List (Dispatch × Draw) :=
      [(⟨p, "NEW.QUEUE", 2⟩, early), (⟨p, "DEV.QUEUE.1", 0⟩, late), (⟨q, "DEV.QUEUE.1", 1⟩, late)]
    (sends.map (·.1.message)).Nodup ∧ Reorders (later.map (·.1)) (sends.map (·.1)) ∧
      (s.sendAll .transacted sends).1.map (·.2) =
        [.sent (.ok ()), .sent (.error (.ofTransport (.failed .put .queueFull))), .sent (.ok ())] ∧
      let (told, last) := s.sendAll .transacted sends
      let (told', last') := s.sendAll .transacted later
      told.map (·.1) = sends.map (·.1) ∧ told'.Perm told ∧ SameUnstamped last last' := by
  intro p q early late s sends later
  have distinct : (sends.map (·.1.message)).Nodup := by decide
  have reorders : Reorders (later.map (·.1)) (sends.map (·.1)) := by
    intro queue
    by_cases one : "DEV.QUEUE.1" = queue
    · subst one
      rfl
    · by_cases new : "NEW.QUEUE" = queue
      · subst new
        rfl
      · simp [sends, later, one, new]
  refine ⟨distinct, reorders, ?_, sendAll_reordered .transacted s distinct reorders⟩
  simp only [s, sends, p, q, early, late]
  rfl

end Session

end Courier
