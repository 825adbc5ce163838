import Courier.Descriptor.Json
import Courier.Proofs.Json

/-!
# Courier — Proofs — Descriptors read back

Every part of a descriptor is read back from its JSON form: named variants by their names, an expiry
by the one member that tells its tenths, an identifier from its 24 bytes, and missing texts from
null.  The put time is written as text, so a descriptor is read back exactly if that text is read as
the same instant (`Descriptor.ofJson?_toJson_iff`).
-/

namespace Courier

open Json

/-! ### Parts -/

theorem Format.ofJson?_toJson (f : Format) : ofJson? f.toJson = some f := by cases f <;> rfl

theorem Persistence.ofJson?_toJson (p : Persistence) : ofJson? p.toJson = some p := by
  cases p <;> rfl

theorem DeliveryMode.ofJson?_toJson (m : DeliveryMode) : ofJson? m.toJson = some m := by
  cases m <;> rfl

theorem Expiry.ofJson?_toJson (e : Expiry) : ofJson? e.toJson = some e := by
  cases e with
  | unlimited => rfl
  | tenths count =>
      have read : unsigned? 32 (.int count.toNat) = some count.toNat := unsigned?_int count.toNat_lt
      rw [toJson, ofJson?]
      simp only [variant?, read, Option.map_some, UInt32.ofNat_toNat]

theorem MessageId.ofBytes?_bytes (id : MessageId) : ofBytes? id.bytes.toList = some id := by
  rw [ofBytes?, dif_pos (by simp)]
  obtain ⟨⟨bytes, size⟩⟩ := id
  rfl

theorem MessageId.ofJson?_toJson (id : MessageId) : ofJson? id.toJson = some id := by
  let write (n : Nat) : Json := .int n
  have bytes : id.toJson = .arr ((id.bytes.toList.map UInt8.toNat).map write) := by
    rw [toJson, List.map_map]
    rfl
  have read : list? (unsigned? 8) id.toJson = some (id.bytes.toList.map UInt8.toNat) := by
    rw [bytes]
    refine list?_map fun n hn => ?_
    obtain ⟨b, -, rfl⟩ := List.mem_map.mp hn
    exact unsigned?_int b.toNat_lt
  have back : (id.bytes.toList.map UInt8.toNat).map UInt8.ofNat = id.bytes.toList := by
    rw [List.map_map]
    exact List.map_id'' (fun _ => UInt8.ofNat_toNat) _
  rw [ofJson?, read, Option.bind_some, back, ofBytes?_bytes]

theorem MessageId.optional?_toJson (id : Option MessageId) :
    optional? ofJson? ((id.map toJson).getD .null) = some id := by
  cases id with
  | none => rfl
  | some id =>
      have read : optional? ofJson? id.toJson = (ofJson? id.toJson).map some :=
        optional?_of_some nofun
      rw [Option.map_some, Option.getD_some, read, ofJson?_toJson, Option.map_some]

theorem Instant.optional?_toJson (t : Instant) :
    optional? ofJson? t.toJson = (ofRfc3339? t.toRfc3339).map some := by
  have text : Json.str t.toRfc3339 ≠ .null := nofun
  rw [toJson, optional?_of_some text, ofJson?, text?, Option.bind_some]

/-! ### The descriptor -/

namespace Descriptor

/-- Of a descriptor's JSON form only the put time may be read as another. -/
theorem ofJson?_toJson (d : Descriptor) :
    ofJson? d.toJson =
      (optional? Instant.ofJson? ((d.putTime.map Instant.toJson).getD .null)).map fun t =>
        { d with putTime := t } := by
  have fields : ofJson? d.toJson =
      (do
        return {
          format              := ← Format.ofJson? d.format.toJson
          persistence         := ← Persistence.ofJson? d.persistence.toJson
          expiry              := ← Expiry.ofJson? d.expiry.toJson
          messageId           :=
            ← optional? MessageId.ofJson? ((d.messageId.map MessageId.toJson).getD .null)
          correlationId       := ← optional? text? (ofText? d.correlationId)
          replyToQueue        := ← optional? text? (ofText? d.replyToQueue)
          replyToQueueManager := ← optional? text? (ofText? d.replyToQueueManager)
          putTime             :=
            ← optional? Instant.ofJson? ((d.putTime.map Instant.toJson).getD .null) }) := rfl
  rw [fields, Format.ofJson?_toJson, Persistence.ofJson?_toJson, Expiry.ofJson?_toJson,
    MessageId.optional?_toJson, optional?_ofText?, optional?_ofText?, optional?_ofText?]
  cases optional? Instant.ofJson? ((d.putTime.map Instant.toJson).getD .null) <;> rfl

/-- **A descriptor is read back** exactly if the text of its put time is. -/
theorem ofJson?_toJson_iff (d : Descriptor) :
    ofJson? d.toJson = some d ↔
      ∀ t, d.putTime = some t → Instant.ofRfc3339? t.toRfc3339 = some t := by
  rw [ofJson?_toJson]
  obtain ⟨format, persistence, expiry, messageId, correlationId, queue, manager, putTime⟩ := d
  cases putTime with
  | none => simp [optional?]
  | some t =>
      simp only [Option.map_some, Option.getD_some, Instant.optional?_toJson]
      cases read : Instant.ofRfc3339? t.toRfc3339 with
      | none => simp [read]
      | some u => simp [read]

end Descriptor

end Courier
