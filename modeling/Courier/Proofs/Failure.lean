import Courier.Proofs.Producer.Lifetime
import Courier.Proofs.Text.Numeral

/-!
# Courier — Proofs — What an exception tells

A sender never sees the refused call itself.  It gets an exception that links the call's error and
has two texts made from the reason alone: the name of the reason and its number.

The number reads back, so it tells which reason it was.  So does the name, although most reasons
have none of their own and one of those that have one, `MQRC_UNKNOWN_OBJECT_NAME`, starts like the
names that are made from numbers: a made name ends in a digit, and no other name does
(`Reason.madeName_not_mem`).

**Nothing is lost** (`failures_told_apart`): for every refused call the exception has all of it, and
two sends that failed for two reasons are told apart by the name as well as by the number.
-/

namespace Courier

/-! ### Names of reasons -/

namespace Reason

/-- The name that is made from the number, for a reason without a name of its own. -/
def madeName (r : Reason) : String := "MQRC_UNKNOWN_" ++ toString r.code

theorem madeName_injective : Function.Injective madeName := by
  intro r s same
  have codes : (toString r.code).toList = (toString s.code).toList := by
    simpa [madeName, ← String.toList_inj] using same
  obtain ⟨n⟩ := r
  obtain ⟨k⟩ := s
  exact congrArg mk (Text.toString_injective (String.toList_inj.mp codes))

/-- A made name ends in a digit. -/
theorem getLast?_madeName (r : Reason) : (r.madeName.toList.getLast?).any Char.isDigit := by
  have digits : Nat.toDigits 10 r.code.natAbs ≠ [] := Nat.toDigits_ne_nil
  have last := Text.isDigit_of_mem_toDigits (List.getLast_mem digits)
  rw [madeName, String.toList_append, Text.toList_toString, ← List.append_assoc,
    List.getLast?_append_of_ne_nil _ digits, List.getLast?_eq_getLast_of_ne_nil digits]
  exact last

/-- No reason's own name looks like a made one. -/
theorem madeName_not_mem (r : Reason) : r.madeName ∉ names.map (·.2) := by
  have letters : ∀ n ∈ names.map (·.2), (n.toList.getLast?).any Char.isDigit = false := by decide
  intro listed
  have digit := getLast?_madeName r
  rw [letters _ listed] at digit
  cases digit

theorem mem_names_of_name? {r : Reason} {n : String} (h : r.name? = some n) : (r, n) ∈ names := by
  obtain ⟨before, after, listed, -⟩ := List.lookup_eq_some_iff.mp h
  rw [listed]
  exact List.mem_append_right _ (List.mem_cons_self ..)

/-- A reason has a name of its own or a made one. -/
theorem name_cases (r : Reason) : (r, r.name) ∈ names ∨ r.name = r.madeName := by
  cases own : r.name? with
  | some n => exact .inl (by rw [name, own]; exact mem_names_of_name? own)
  | none => exact .inr (by rw [name, own]; rfl)

/-- **The name tells the reason.** -/
theorem name_injective : Function.Injective name := by
  have distinct : (names.map (·.2)).Nodup := by decide
  have listed {r : Reason} {n : String} (h : (r, n) ∈ names) : n ∈ names.map (·.2) :=
    List.mem_map_of_mem h
  intro r s same
  rcases name_cases r with own | made <;> rcases name_cases s with own' | made'
  · rw [← same] at own'
    exact congrArg Prod.fst (List.inj_on_of_nodup_map distinct own own' rfl)
  · rw [same, made'] at own
    exact absurd (listed own) (madeName_not_mem s)
  · rw [← same, made] at own'
    exact absurd (listed own') (madeName_not_mem r)
  · exact madeName_injective (made.symm.trans (same.trans made'))

end Reason

/-! ### Exceptions -/

namespace SendException

/-- The exception has all that there is to tell of the refused call `e`: the error itself, its
reason, whether it may pass, and the number of the reason in decimals, which reads back as far as
it is one of 32 bits. -/
structure TellsOf (x : SendException) (e : TransportError) : Prop where
  linked     : x.linked = some e
  reasonCode : x.reasonCode = some e.reason
  transient  : x.isTransient = e.isTransient
  name       : x.reason = e.reason.name
  numeral    : x.errorCode.toList =
    (if e.reason.code < 0 then ['-'] else []) ++ Nat.toDigits 10 e.reason.code.natAbs
  readBack   : Text.signed? 32 10 x.errorCode.toList =
    if Text.fitsSigned 32 e.reason.code then some e.reason.code else none

theorem tellsOf_ofTransport (e : TransportError) : (ofTransport e).TellsOf e :=
  ⟨rfl, rfl, rfl, rfl, Text.toList_toString _, Text.signed?_toString 32 _⟩

end SendException

/-- The sender of `m` is told that the send failed. -/
def Sending.FailsWith (s : Sending) (m : Message) (x : SendException) : Prop :=
  (s.producer.send s.queue m s.draw s.manager).answer = .error x

/-- **Nothing is lost.**  An exception has the refused call that it was made from.  No name that is
made from a number is the name of another reason, or one that a reason has of its own, so the name
tells the number.  Two sends that failed, whatever the queue managers, are told apart by their
reasons' names and by their error codes exactly if they failed for two reasons. -/
theorem failures_told_apart :
    (∀ e : TransportError, (SendException.ofTransport e).TellsOf e) ∧
    Function.Injective Reason.name ∧
    (∀ r : Reason, (r, r.name) ∈ Reason.names ∨ r.name = "MQRC_UNKNOWN_" ++ toString r.code) ∧
    (∀ (n : Int) (r : Reason) (name : String), (r, name) ∈ Reason.names →
      "MQRC_UNKNOWN_" ++ toString n ≠ name) ∧
    (Reason.unknownObjectName, "MQRC_UNKNOWN_OBJECT_NAME") ∈ Reason.names ∧
    ∀ (s s' : Sending) (m m' : Message) (x x' : SendException),
      s.FailsWith m x → s'.FailsWith m' x' →
        (x.reason = x'.reason ↔ x.reasonCode = x'.reasonCode) ∧
        (x.errorCode = x'.errorCode ↔ x.reasonCode = x'.reasonCode) := by
  refine ⟨SendException.tellsOf_ofTransport, Reason.name_injective, Reason.name_cases,
    fun n r name own made => ?_, by decide, fun s s' m m' x x' fails fails' => ?_⟩
  · subst made
    exact Reason.madeName_not_mem ⟨n⟩ (List.mem_map_of_mem own)
  · obtain ⟨e, -, rfl⟩ := Producer.answer_eq_error_iff.mp fails
    obtain ⟨e', -, rfl⟩ := Producer.answer_eq_error_iff.mp fails'
    have reasons : (SendException.ofTransport e).reasonCode =
        (SendException.ofTransport e').reasonCode ↔ e.reason = e'.reason :=
      Option.some_inj
    rw [reasons]
    refine ⟨Reason.name_injective.eq_iff, ?_⟩
    exact ⟨fun same => congrArg Reason.mk (Text.toString_injective same),
      fun same => by rw [SendException.ofTransport, SendException.ofTransport, same]⟩

/-- A send to a queue that is not there and one of a body that is too long: the name of the first
reason looks like one made from a number, and yet names and codes tell the two apart. -/
theorem failures_told_apart_unknown :
    let draw : Draw := ⟨⟨0, 0, by decide, by decide⟩, Vector.replicate 16 7⟩
    let p : Producer := ⟨.autoAcknowledge, .nonPersistent, 0⟩
    let s : Sending := ⟨p, "NO.QUEUE", draw, .ofOptions {}⟩
    let s' : Sending := ⟨p, "DEV.QUEUE.1", draw, .ofOptions { maxMessageLength := 4 }⟩
    let x := SendException.ofTransport (.failed .opening .unknownObjectName)
    let x' := SendException.ofTransport (.failed .put .messageTooBig)
    s.FailsWith (.ofText "hello") x ∧ s'.FailsWith (.ofText "hello") x' ∧
      x.reason = "MQRC_UNKNOWN_OBJECT_NAME" ∧ x.errorCode = "2085" ∧
      (x.reason = x'.reason ↔ x.reasonCode = x'.reasonCode) ∧
      (x.errorCode = x'.errorCode ↔ x.reasonCode = x'.reasonCode) ∧
      x.reasonCode ≠ x'.reasonCode := by
  intro draw p s s' x x'
  obtain ⟨-, -, -, -, -, sends⟩ := failures_told_apart
  obtain ⟨reasons, codes⟩ := sends s s' (.ofText "hello") (.ofText "hello") x x' rfl rfl
  exact ⟨rfl, rfl, rfl, rfl, reasons, codes, by decide⟩

end Courier
