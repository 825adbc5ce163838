import Courier.Proofs.Producer.Send
import Courier.Proofs.Queue
import Mathlib.Data.List.DropRight

/-!
# Courier — Proofs — The reply-to header

The queue for replies is a text in the descriptor, and the header is the queue that the text names.
The text may be padded: `Queue.Padded` is the name of a queue with nothing but white space behind
it.  No character of a name is white space, so taking the white space off the end leaves the name,
and no text is the padded name of two queues.

Setting the header writes the two reply-to fields of the descriptor and nothing else
(`Message.RepliesTo`).  What is done to the message afterwards writes other fields.  A send takes
the descriptor from the message, writes the producer's fields, hands it to a transport, and puts
what comes back on the message, whether or not the put was accepted; a transport is meant to write
no field but the identifier and the put time (`Transport.WritesOutputsOnly`), and the in-memory
queue manager writes no other.  So each use of a message leaves its reply-to fields
(`Message.replyFields_apply`), and any number of them do (`Message.replyFields_foldl`).

**The reply-to header** (`replyTo_header`): what it is read as, what setting it does, and that it
stays through any further uses of the message.
-/

namespace Courier

/-! ### Padded names -/

namespace Text

/-- A text without white space is what is left of another one if only white space follows it. -/
theorem trimEndChars_eq_iff {cs name : List Char} (plain : ∀ c ∈ name, isBlank c = false) :
    trimEndChars cs = name ↔ ∃ blanks, cs = name ++ blanks ∧ ∀ c ∈ blanks, isBlank c = true := by
  constructor
  · rintro rfl
    exact ⟨cs.rtakeWhile isBlank, List.rdropWhile_append_rtakeWhile.symm,
      fun c => List.mem_rtakeWhile_imp⟩
  · rintro ⟨blanks, rfl, all⟩
    rw [trimEndChars_append_blank (List.all_eq_true.mpr all)]
    have kept : name.rdropWhile isBlank = name :=
      List.rdropWhile_eq_self_iff.mpr fun nonempty => by
        simp [plain _ (List.getLast_mem nonempty)]
    exact kept

end Text

theorem IsNameChar.not_blank {c : Char} (h : IsNameChar c) : Text.isBlank c = false := by
  have bounds : 0x25 ≤ c.toNat ∧ c.toNat ≤ 0x7A := by
    rcases h with ⟨low, high⟩ | ⟨low, high⟩ | ⟨low, high⟩ | mark
    · exact ⟨Nat.le_trans (by decide) low, Nat.le_trans high (by decide)⟩
    · exact ⟨Nat.le_trans (by decide) low, Nat.le_trans high (by decide)⟩
    · exact ⟨Nat.le_trans (by decide) low, Nat.le_trans high (by decide)⟩
    · simp only [List.mem_cons, List.not_mem_nil, or_false] at mark
      rcases mark with rfl | rfl | rfl | rfl <;> decide
  simp only [Text.isBlank, Bool.or_eq_false_iff, Bool.and_eq_false_iff, decide_eq_false_iff_not,
    beq_eq_false_iff_ne]
  omega

namespace Queue

/-- `s` is the name of the queue with nothing but white space behind it. -/
def Padded (q : Queue) (s : String) : Prop :=
  ∃ blanks : String, s = q.name ++ blanks ∧ ∀ c ∈ blanks.toList, Text.isBlank c = true

theorem trimEnd_eq_name_iff {q : Queue} {s : String} : Text.trimEnd s = q.name ↔ q.Padded s := by
  have plain : ∀ c ∈ q.name.toList, Text.isBlank c = false := fun c hc =>
    ((validQueueName_iff.mp q.valid).chars c hc).not_blank
  rw [Text.trimEnd, ← String.toList_inj, String.toList_ofList, Text.trimEndChars_eq_iff plain]
  constructor
  · rintro ⟨blanks, split, all⟩
    refine ⟨String.ofList blanks, String.toList_inj.mp ?_, ?_⟩
    · rw [String.toList_append, String.toList_ofList, split]
    · rwa [String.toList_ofList]
  · rintro ⟨blanks, rfl, all⟩
    exact ⟨blanks.toList, String.toList_append, all⟩

theorem ofName_trimEnd_iff {q : Queue} {s : String} :
    ofName (Text.trimEnd s) = .ok q ↔ q.Padded s := by
  rw [ofName_eq_ok_iff, eq_comm, trimEnd_eq_name_iff]

/-- A text is the padded name of one queue at most. -/
theorem Padded.unique {q q' : Queue} {s : String} (h : q.Padded s) (h' : q'.Padded s) : q = q' := by
  rw [← ofName_trimEnd_iff] at h h'
  rw [h] at h'
  exact Except.ok.inj h'

end Queue

/-! ### Reading and setting the header -/

namespace Message

theorem replyTo?_eq_some_iff {m : Message} {q : Queue} :
    m.replyTo? = some q ↔ ∃ s, m.descriptor.bind (·.replyToQueue) = some s ∧ q.Padded s := by
  have read (s : String) : (Queue.ofName (Text.trimEnd s)).toOption = some q ↔ q.Padded s := by
    rw [← Queue.ofName_trimEnd_iff]
    cases Queue.ofName (Text.trimEnd s) <;> simp [Except.toOption]
  simp only [replyTo?, Option.bind_eq_some_iff, read]

/-- The reply-to fields of a message: those of its descriptor. -/
def replyFields (m : Message) : Option String × Option String :=
  (m.descriptor.bind (·.replyToQueue), m.descriptor.bind (·.replyToQueueManager))

/-- The header is read from the reply-to fields. -/
theorem replyTo?_of_replyFields {m m' : Message} (same : m'.replyFields = m.replyFields) :
    m'.replyTo? = m.replyTo? := by
  have field : m'.descriptor.bind (·.replyToQueue) = m.descriptor.bind (·.replyToQueue) :=
    congrArg Prod.fst same
  rw [replyTo?, replyTo?, field]

theorem replyFields_descriptorOrNew (m : Message) :
    (m.descriptorOrNew.replyToQueue, m.descriptorOrNew.replyToQueueManager) = m.replyFields := by
  rw [Producer.field_descriptorOrNew (·.replyToQueue) rfl,
    Producer.field_descriptorOrNew (·.replyToQueueManager) rfl, replyFields]

/-- After its reply-to queue was set to `q`, the message `m` is `after`: but for the reply-to fields
its descriptor is the one that `m` has, or a new one. -/
structure RepliesTo (m after : Message) (q : Queue) : Prop where
  header  : after.replyTo? = some q
  fields  : after.replyFields = (some q.name, none)
  others  :
    after.descriptor.map (fun d =>
      { d with
        replyToQueue        := m.descriptorOrNew.replyToQueue
        replyToQueueManager := m.descriptorOrNew.replyToQueueManager }) = some m.descriptorOrNew
  body    : after.body = m.body

theorem repliesTo_setReplyTo (m : Message) (q : Queue) : m.RepliesTo (m.setReplyTo q) q where
  header := replyTo?_eq_some_iff.mpr ⟨q.name, rfl, "", (String.append_empty).symm, by simp⟩
  fields := rfl
  others := rfl
  body   := rfl

end Message

/-! ### Transports -/

/-- A put writes no field of the descriptor but the identifier and the put time. -/
def Transport.WritesOutputsOnly {σ η : Type} (t : Transport σ η) : Prop :=
  ∀ h d o payload draw s, ∃ id time,
    (t.put h d o payload draw s).2.1 = { d with messageId := id, putTime := time }

theorem QueueManager.writesOutputsOnly_transport :
    QueueManager.transport.WritesOutputsOnly := by
  intro h d o payload draw qm
  cases refused : qm.putRefusal? h d payload with
  | some r =>
      exact ⟨d.messageId, d.putTime,
        congrArg (·.2.1) (QueueManager.put_eq_of_refused refused o draw)⟩
  | none => exact ⟨_, _, congrArg (·.2.1) (QueueManager.put_eq refused o draw)⟩

/-- A fault takes the place of the put, and then nothing is written. -/
theorem Rehearsal.writesOutputsOnly_transport : Rehearsal.transport.WritesOutputsOnly := by
  intro h d o payload draw s
  cases fault : s.takeFault .put with
  | mk fault? after =>
    cases fault? with
    | some e => exact ⟨d.messageId, d.putTime, by simp only [Rehearsal.transport, fault]⟩
    | none =>
        obtain ⟨id, time, written⟩ :=
          QueueManager.writesOutputsOnly_transport h d o payload draw after.manager
        have made : (Rehearsal.transport.put h d o payload draw s).2.1 =
            (after.manager.put h d o payload draw).2.1 := by
          simp only [Rehearsal.transport, fault]
        exact ⟨id, time, made.trans written⟩

/-! ### Uses of a message -/

namespace Message

/-- What is done to a message after its reply-to queue was set: its correlation identifier is
changed, its body is written, or it is sent, through any transport that writes no more than its
fields and in any state of it. -/
inductive Use : Type 1 where
  | setCorrelationId (id : String)
  | setText (content : String)
  | append (more : ByteArray)
  | send {σ η : Type} (t : Transport σ η) (fair : t.WritesOutputsOnly) (p : Producer)
      (queue : String) (draw : Draw) (s : σ)

/-- The message after a use.  A body of the other kind has no such write. -/
def apply (m : Message) : Use → Message
  | .setCorrelationId id         => m.setCorrelationId id
  | .setText content             => (m.setText? content).getD m
  | .append more                 => (m.append? more).getD m
  | .send t _ p queue draw state => (p.sendVia t queue m draw state).message

/-- A send ends with the message as it was, or with the descriptor that a put handed back. -/
theorem replyFields_sendVia {σ η : Type} {t : Transport σ η} (fair : t.WritesOutputsOnly)
    (p : Producer) (queue : String) (m : Message) (draw : Draw) (s : σ) :
    (p.sendVia t queue m draw s).message.replyFields = m.replyFields := by
  rw [Producer.sendVia]
  split
  · rfl
  · rename_i g s' opened
    obtain ⟨id, time, written⟩ :=
      fair g.handle (p.descriptorFor m) p.putOptions m.payload draw s'
    have back : (g.put t (p.descriptorFor m) p.putOptions m.payload draw s').2.1 =
        { p.descriptorFor m with messageId := id, putTime := time } := written
    simp only [replyFields, setDescriptor, Option.bind_some, back]
    rw [Producer.descriptorFor_eq]
    exact m.replyFields_descriptorOrNew

/-- **A use leaves the reply-to fields.** -/
theorem replyFields_apply (m : Message) (u : Use) : (m.apply u).replyFields = m.replyFields := by
  cases u with
  | setCorrelationId id => exact m.replyFields_descriptorOrNew
  | setText content =>
      obtain ⟨body, descriptor⟩ := m
      cases body <;> rfl
  | append more =>
      obtain ⟨body, descriptor⟩ := m
      cases body <;> rfl
  | send t fair p queue draw s => exact replyFields_sendVia fair p queue m draw s

theorem replyFields_foldl (uses : List Use) (m : Message) :
    (uses.foldl apply m).replyFields = m.replyFields := by
  induction uses generalizing m with
  | nil => rfl
  | cons u uses ih => rw [List.foldl_cons, ih, replyFields_apply]

end Message

/-- **The reply-to header.**  A text in the reply-to field is read as the queue whose padded name it
is, which is one at most, and as none if it is the padded name of no queue; without such a text
there is no queue either.  Setting the header to `q` writes the reply-to fields and nothing else,
and after any uses of the message the header is still `q`.  The in-memory queue manager and its
rehearsals are transports that the message may be sent through. -/
theorem replyTo_header :
    (∀ (m : Message) (d : Descriptor) (s : String), m.descriptor = some d →
      d.replyToQueue = some s →
        (∀ q, m.replyTo? = some q ↔ q.Padded s) ∧ (m.replyTo? = none ↔ ∀ q, ¬ Queue.Padded q s)) ∧
    (∀ m : Message, m.descriptor.bind (·.replyToQueue) = none → m.replyTo? = none) ∧
    (∀ (s : String) (q q' : Queue), q.Padded s → q'.Padded s → q = q') ∧
    (∀ (m : Message) (q : Queue), m.RepliesTo (m.setReplyTo q) q) ∧
    (∀ (m : Message) (q : Queue) (uses : List Message.Use),
      (uses.foldl Message.apply (m.setReplyTo q)).replyTo? = some q ∧
      (uses.foldl Message.apply (m.setReplyTo q)).replyFields = (some q.name, none)) ∧
    QueueManager.transport.WritesOutputsOnly ∧ Rehearsal.transport.WritesOutputsOnly := by
  refine ⟨fun m d s has field => ?_, fun m absent => ?_, fun s q q' => Queue.Padded.unique,
    Message.repliesTo_setReplyTo, fun m q uses => ?_, QueueManager.writesOutputsOnly_transport,
    Rehearsal.writesOutputsOnly_transport⟩
  · have read (q : Queue) : m.replyTo? = some q ↔ q.Padded s := by
      rw [Message.replyTo?_eq_some_iff, has, Option.bind_some, field]
      exact ⟨fun ⟨_, same, padded⟩ => Option.some.inj same ▸ padded, fun padded => ⟨s, rfl, padded⟩⟩
    refine ⟨read, ?_⟩
    simp only [Option.eq_none_iff_forall_ne_some, ne_eq, read]
  · rw [Message.replyTo?, absent, Option.bind_none]
  · have set := m.repliesTo_setReplyTo q
    have kept := Message.replyFields_foldl uses (m.setReplyTo q)
    exact ⟨(Message.replyTo?_of_replyFields kept).trans set.header, kept.trans set.fields⟩

/-- A message whose reply-to field is padded, with white space of another script: the field is read
as its queue.  Then the header is set, a full queue refuses the message, a second queue is not
there, a third one takes the message, and it is changed: the header is what it was set to. -/
theorem replyTo_header_resent :
    let old : Queue := ⟨"OLD.REPLIES", by decide⟩
    let q : Queue := ⟨"REPLY.Q", by decide⟩
    let d : Descriptor :=
      { replyToQueue := some "OLD.REPLIES \u3000", replyToQueueManager := some "QM2" }
    let m : Message := ⟨.text (some "hello"), some d⟩
    let p : Producer := ⟨.transacted, .persistent, 5000⟩
    let draw : Draw := ⟨⟨0, 0, by decide, by decide⟩, Vector.replicate 16 7⟩
    let full := QueueManager.ofOptions { maxQueueDepth := 0 }
    let send (queue : String) (qm : QueueManager) : Message.Use :=
      .send QueueManager.transport QueueManager.writesOutputsOnly_transport p queue draw qm
    let one := p.send "DEV.QUEUE.1" (m.setReplyTo q) draw full
    let two := p.send "NO.QUEUE" one.message draw full
    let three := p.send "DEV.QUEUE.2" two.message draw (.ofOptions {})
    let after := [send "DEV.QUEUE.1" full, send "NO.QUEUE" full, send "DEV.QUEUE.2" (.ofOptions {}),
      .setCorrelationId "c-1", .setText "bye"].foldl Message.apply (m.setReplyTo q)
    m.descriptor = some d ∧ d.replyToQueue = some "OLD.REPLIES \u3000" ∧ m.replyTo? = some old ∧
      one.result = .error (.failed .put .queueFull) ∧
      two.result = .error (.failed .opening .unknownObjectName) ∧ three.result = .ok () ∧
      after.body = .text (some "bye") ∧ after.correlationId? = some "c-1" ∧
      after.replyTo? = some q ∧ after.replyFields = (some "REPLY.Q", none) := by
  obtain ⟨read, -, -, -, kept, -⟩ := replyTo_header
  have padded : Queue.Padded ⟨"OLD.REPLIES", by decide⟩ "OLD.REPLIES \u3000" :=
    ⟨" \u3000", rfl, List.all_eq_true.mp rfl⟩
  exact ⟨rfl, rfl, ((read _ _ _ rfl rfl).1 _).mpr padded, rfl, rfl, rfl, rfl, rfl, kept _ _ _⟩

end Courier
