import Courier.Configuration.Json
import Courier.Proofs.Configuration.Leaf
import Courier.Proofs.Descriptor.Json
import Courier.Proofs.Instant.Rfc3339

/-!
# Courier — Proofs — Configurations read back

A configuration is written as an object of a mode and two sections, and each section as an object of
its settings.  Keys may be taken out of any of the three and others added that no record has fields
for (`Configuration.Edited`).  What is read then has every setting that is still there, and the
others are the built-in ones, also when their whole section is gone (`Configuration.remaining`).

**JSON forms** (`json_forms`): which descriptors are read back, and what is read from the edited
form of a configuration.
-/

namespace Courier

open Json

/-- The value at the end of a path of member names. -/
def Json.at? : List String → Json → Option Json
  | [],           v => some v
  | name :: path, v => (v.member? name).bind (at? path)

namespace Configuration

/-! ### Settings -/

namespace Leaf

/-- The JSON form of a value of the setting. -/
def toJson : (l : Leaf) → l.Value → Json
  | sessionMode,      m  => m.toJson
  | deliveryMode,     m  => m.toJson
  | timeToLive,       n  => .int n
  | name,             s  => .str s
  | queues,           qs => .arr (qs.map .str)
  | autoDefineQueues, b  => .bool b
  | maxQueueDepth,    n  => .ofNat n
  | maxMessageLength, n  => .ofNat n

/-- The value of the setting that the JSON stands for. -/
def ofJson? : (l : Leaf) → Json → Option l.Value
  | sessionMode      => SessionMode.ofJson?
  | deliveryMode     => DeliveryMode.ofJson?
  | timeToLive       => Json.signed? 64
  | name             => Json.text?
  | queues           => Json.list? Json.text?
  | autoDefineQueues => Json.flag?
  | maxQueueDepth    => Json.unsigned? 64
  | maxMessageLength => Json.unsigned? 64

end Leaf

/-- The numbers of the configuration are of 64 bits, the time to live with a sign. -/
structure FitsFields (c : Configuration) : Prop where
  timeToLive : Text.fitsSigned 64 c.producer.timeToLive
  depth      : c.manager.maxQueueDepth < 2 ^ 64
  length     : c.manager.maxMessageLength < 2 ^ 64

theorem Leaf.ofJson?_toJson {c : Configuration} (fits : c.FitsFields) (l : Leaf) :
    l.ofJson? (l.toJson (l.get c)) = some (l.get c) := by
  have limit {n : Nat} (h : n < 2 ^ 64) : unsigned? 64 (.ofNat n) = some n := unsigned?_int h
  cases l with
  | sessionMode =>
      have read (m : SessionMode) : SessionMode.ofJson? m.toJson = some m := by cases m <;> rfl
      exact read c.sessionMode
  | deliveryMode => exact DeliveryMode.ofJson?_toJson c.producer.deliveryMode
  | timeToLive => exact signed?_int fits.timeToLive
  | name => rfl
  | queues => exact list?_map fun _ _ => rfl
  | autoDefineQueues => rfl
  | maxQueueDepth =>
      simp only [ofJson?, toJson, get]
      exact limit fits.depth
  | maxMessageLength =>
      simp only [ofJson?, toJson, get]
      exact limit fits.length

/-! ### Edited configurations -/

def rootFields : List String := ["session_mode", "producer", "queue_manager"]

def producerFields : List String := ["delivery_mode", "time_to_live_ms"]

/-- `v` is the JSON form of the configuration after keys were taken out of its object and of the
objects of its sections, and unknown keys put into them. -/
def Edited (c : Configuration) (v : Json) : Prop :=
  ∃ producer manager,
    Json.Edited producerFields c.producer.toJson producer ∧
    Json.Edited ManagerOptions.fields c.manager.toJson manager ∧
    Json.Edited rootFields
      (.obj [("session_mode", c.sessionMode.toJson), ("producer", producer),
        ("queue_manager", manager)]) v

/-- The JSON form of the configuration with the keys that `left` tells by their paths, and others
behind them. -/
def reworked (c : Configuration) (left : List String → Bool)
    (more producerMore managerMore : List (String × Json)) : Json :=
  Json.reworked (fun name => left [name]) more
    (.obj [("session_mode", c.sessionMode.toJson),
      ("producer",
        Json.reworked (fun name => left ["producer", name]) producerMore c.producer.toJson),
      ("queue_manager",
        Json.reworked (fun name => left ["queue_manager", name]) managerMore c.manager.toJson)])

/-- Every choice of the keys that are left, with any unknown ones, is an edit. -/
theorem edited_reworked (c : Configuration) (left : List String → Bool)
    {more producerMore managerMore : List (String × Json)} (root : Unknown rootFields more)
    (producer : Unknown producerFields producerMore)
    (manager : Unknown ManagerOptions.fields managerMore) :
    c.Edited (c.reworked left more producerMore managerMore) := by
  have rootOnce : rootFields.Nodup := by decide
  have producerOnce : producerFields.Nodup := by decide
  have managerOnce : ManagerOptions.fields.Nodup := by decide
  let inSection (name field : String) : Bool := left [name, field]
  exact ⟨_, _, Json.edited_reworked producerOnce rfl producer (inSection "producer"),
    Json.edited_reworked managerOnce rfl manager (inSection "queue_manager"),
    Json.edited_reworked rootOnce rfl root fun name => left [name]⟩

/-- The settings of `c` that are still there in its edited form `v`, and else the built-in ones. -/
def remaining (c : Configuration) (v : Json) : Configuration :=
  let setting (l : Leaf) : l.Value := if (v.at? l.place).isSome then l.get c else l.get {}
  { sessionMode := setting .sessionMode
    producer    :=
      { deliveryMode := setting .deliveryMode
        timeToLive   := setting .timeToLive }
    manager     :=
      { name             := setting .name
        queues           := setting .queues
        autoDefineQueues := setting .autoDefineQueues
        maxQueueDepth    := setting .maxQueueDepth
        maxMessageLength := setting .maxMessageLength } }

theorem get_remaining (c : Configuration) (v : Json) (l : Leaf) :
    l.get (c.remaining v) = if (v.at? l.place).isSome then l.get c else l.get {} := by
  cases l <;> rfl

section
variable {c : Configuration} (fits : c.FitsFields)
include fits

/-- A setting of an edited record that has it under that name. -/
theorem getOr?_leaf {fields : List String} {members members' : List (String × Json)}
    (kept : ∀ e ∈ members', e.1 ∈ fields → e ∈ members) (once : (members.map (·.1)).Nodup)
    (l : Leaf) {field : String} (known : field ∈ fields)
    (written : members.lookup field = some (l.toJson (l.get c))) :
    getOr? members' field (l.get {}) l.ofJson? =
      some (if (members'.lookup field).isSome then l.get c else l.get {}) :=
  getOr?_of_kept kept once known written (l.ofJson?_toJson fits) _

/-- A section is read with the settings that are still in it. -/
theorem producer_of_edited {v : Json} (h : Json.Edited producerFields c.producer.toJson v) :
    let setting (l : Leaf) (field : String) : l.Value :=
      if (v.member? field).isSome then l.get c else l.get {}
    ProducerOptions.ofJson? v = some
      { deliveryMode := setting .deliveryMode "delivery_mode"
        timeToLive   := setting .timeToLive "time_to_live_ms" } := by
  obtain ⟨members, rfl, -, kept⟩ := edited_obj_iff.mp h
  have once : producerFields.Nodup := by decide
  have read : ProducerOptions.ofJson? (.obj members) =
      (do
        return {
          deliveryMode := ← getOr? members "delivery_mode" (Leaf.deliveryMode.get {})
            Leaf.deliveryMode.ofJson?
          timeToLive   := ← getOr? members "time_to_live_ms" (Leaf.timeToLive.get {})
            Leaf.timeToLive.ofJson? }) := rfl
  rw [read, getOr?_leaf fits kept once .deliveryMode (by decide) rfl,
    getOr?_leaf fits kept once .timeToLive (by decide) rfl]
  rfl

theorem manager_of_edited {v : Json} (h : Json.Edited ManagerOptions.fields c.manager.toJson v) :
    let setting (l : Leaf) (field : String) : l.Value :=
      if (v.member? field).isSome then l.get c else l.get {}
    ManagerOptions.ofJson? v = some
      { name             := setting .name "name"
        queues           := setting .queues "queues"
        autoDefineQueues := setting .autoDefineQueues "auto_define_queues"
        maxQueueDepth    := setting .maxQueueDepth "max_queue_depth"
        maxMessageLength := setting .maxMessageLength "max_message_length" } := by
  obtain ⟨members, rfl, -, kept⟩ := edited_obj_iff.mp h
  have once : ManagerOptions.fields.Nodup := by decide
  have read : ManagerOptions.ofJson? (.obj members) =
      (do
        return {
          name             := ← getOr? members "name" (Leaf.name.get {}) Leaf.name.ofJson?
          queues           := ← getOr? members "queues" (Leaf.queues.get {}) Leaf.queues.ofJson?
          autoDefineQueues := ← getOr? members "auto_define_queues" (Leaf.autoDefineQueues.get {})
            Leaf.autoDefineQueues.ofJson?
          maxQueueDepth    := ← getOr? members "max_queue_depth" (Leaf.maxQueueDepth.get {})
            Leaf.maxQueueDepth.ofJson?
          maxMessageLength := ← getOr? members "max_message_length" (Leaf.maxMessageLength.get {})
            Leaf.maxMessageLength.ofJson? }) := rfl
  rw [read, getOr?_leaf fits kept once .name (by decide) rfl,
    getOr?_leaf fits kept once .queues (by decide) rfl,
    getOr?_leaf fits kept once .autoDefineQueues (by decide) rfl,
    getOr?_leaf fits kept once .maxQueueDepth (by decide) rfl,
    getOr?_leaf fits kept once .maxMessageLength (by decide) rfl]
  rfl

end

/-- A setting of a section is there if the section is and has it. -/
theorem at?_of_kept {fields : List String} {members members' : List (String × Json)}
    (kept : ∀ e ∈ members', e.1 ∈ fields → e ∈ members) (once : (members.map (·.1)).Nodup)
    {name : String} (known : name ∈ fields) {v : Json} (written : members.lookup name = some v)
    (field : String) :
    (Json.at? [name, field] (.obj members')).isSome =
      ((members'.lookup name).isSome && (v.member? field).isSome) := by
  have path : Json.at? [name, field] (.obj members') =
      (members'.lookup name).bind fun v' => (v'.member? field).bind some := rfl
  rw [path]
  cases there : members'.lookup name with
  | none => rfl
  | some v' =>
      have same := lookup_of_kept kept once known there
      cases Option.some.inj (written.symm.trans same)
      rw [Option.bind_some, Option.bind_fun_some, Option.isSome_some, Bool.true_and]

/-- **What is left is read.**  The edited form of a configuration is read as the configuration that
has the settings that are still there, and else the built-in ones. -/
theorem ofJson?_of_edited {c : Configuration} (fits : c.FitsFields) {v : Json} (h : c.Edited v) :
    ofJson? v = some (c.remaining v) := by
  obtain ⟨producer, manager, editedProducer, editedManager, edited⟩ := h
  obtain ⟨members, rfl, -, kept⟩ := edited_obj_iff.mp edited
  have once : rootFields.Nodup := by decide
  have modeKnown : "session_mode" ∈ rootFields := by decide
  have producerKnown : "producer" ∈ rootFields := by decide
  have managerKnown : "queue_manager" ∈ rootFields := by decide
  have mode := getOr?_leaf fits kept once .sessionMode modeKnown rfl
  have producerRead := getOr?_of_kept kept once producerKnown rfl
    (producer_of_edited fits editedProducer) {}
  have managerRead := getOr?_of_kept kept once managerKnown rfl
    (manager_of_edited fits editedManager) {}
  have inProducer := at?_of_kept kept once producerKnown rfl
  have inManager := at?_of_kept kept once managerKnown rfl
  have read : ofJson? (.obj members) =
      (do
        return {
          sessionMode := ← getOr? members "session_mode" (Leaf.sessionMode.get {})
            Leaf.sessionMode.ofJson?
          producer    := ← getOr? members "producer" {} ProducerOptions.ofJson?
          manager     := ← getOr? members "queue_manager" {} ManagerOptions.ofJson? }) := rfl
  have root : Json.at? ["session_mode"] (.obj members) =
      (members.lookup "session_mode").bind some := rfl
  rw [read, mode, producerRead, managerRead]
  simp only [remaining, Leaf.place, root, inProducer, inManager, Option.bind_fun_some]
  cases (members.lookup "producer").isSome <;> cases (members.lookup "queue_manager").isSome <;> rfl

/-- Nothing taken out and nothing added. -/
theorem ofJson?_toJson {c : Configuration} (fits : c.FitsFields) : ofJson? c.toJson = some c := by
  have edited := c.edited_reworked (fun _ => true) (unknown_nil _) (unknown_nil _) (unknown_nil _)
  have same : c.reworked (fun _ => true) [] [] [] = c.toJson := rfl
  rw [same] at edited
  rw [ofJson?_of_edited fits edited]
  exact congrArg some (Leaf.ext_get fun l => by cases l <;> rfl)

end Configuration

/-! ### JSON forms -/

/-- **JSON forms.**  A descriptor is read back exactly if its put time, if it has one, is read back
from its text, and that is so but for leap seconds in the middle of a minute.  A configuration is
read back, and of one whose keys were partly taken out, with any unknown ones put in, every setting
that is still there is read and the others have their defaults. -/
theorem json_forms :
    (∀ d : Descriptor, Descriptor.ofJson? d.toJson = some d ↔
      ∀ t, d.putTime = some t → Instant.ofRfc3339? t.toRfc3339 = some t) ∧
    (∀ t : Instant, Instant.ofRfc3339? t.toRfc3339 = some t ↔
      (t.isLeap → t.seconds % 60 = 59)) ∧
    ∀ c : Configuration, c.FitsFields →
      Configuration.ofJson? c.toJson = some c ∧
      ∀ v, c.Edited v → ∃ c', Configuration.ofJson? v = some c' ∧
        ∀ l : Configuration.Leaf,
          l.get c' = if (v.at? l.place).isSome then l.get c else l.get {} := by
  refine ⟨Descriptor.ofJson?_toJson_iff, fun t => Instant.ofRfc3339?_toRfc3339_iff, ?_⟩
  intro c fits
  refine ⟨Configuration.ofJson?_toJson fits, fun v edited => ⟨c.remaining v, ?_, ?_⟩⟩
  · exact Configuration.ofJson?_of_edited fits edited
  · exact c.get_remaining v

/-- A descriptor put in a leap second before the epoch, and a configuration with numbers at the ends
of their ranges of which the name of the manager and the whole section of the producer are gone. -/
theorem json_forms_edited :
    let d : Descriptor :=
      { expiry  := .tenths 4294967295
        putTime := some ⟨-1, 1999999999, by decide, by decide⟩ }
    let c : Configuration :=
      { sessionMode := .transacted
        producer    := { timeToLive := -9223372036854775808 }
        manager     := { name := "", queues := [], maxQueueDepth := 18446744073709551615 } }
    let left (path : List String) : Bool :=
      path != ["producer"] && path != ["queue_manager", "name"]
    let v := c.reworked left [("comment", .null)] [] [("NAME", .str "QM9")]
    Descriptor.ofJson? d.toJson = some d ∧ c.FitsFields ∧ c.Edited v ∧
      Configuration.ofJson? v = some
        { sessionMode := .transacted
          manager     := { queues := [], maxQueueDepth := 18446744073709551615 } } := by
  intro d c left v
  obtain ⟨descriptors, instants, configurations⟩ := json_forms
  have fits : c.FitsFields := ⟨by decide, by decide, by decide⟩
  have edited : c.Edited v :=
    c.edited_reworked left ⟨by decide, by decide⟩ (Json.unknown_nil _) ⟨by decide, by decide⟩
  obtain ⟨c', read, settings⟩ := (configurations c fits).2 v edited
  refine ⟨(descriptors d).mpr ?_, fits, edited, ?_⟩
  · rintro t ⟨⟩
    exact (instants _).mpr fun _ => by decide
  · rw [read]
    refine congrArg some (Configuration.Leaf.ext_get fun l => (settings l).trans ?_)
    cases l <;> rfl

end Courier
