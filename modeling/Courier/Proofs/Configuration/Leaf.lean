import Courier.Configuration.Load
import Courier.Proofs.Setting.Overlay

/-!
# Courier — Proofs — The settings one by one

A configuration has eight settings (`Leaf`), each with its place in a source, the type of its
value, and a reading of what a source says.  A setting that no source says anything about has its
default (`Leaf.resolve?`).

`ofSetting?` reads a whole table at once, section by section.  As long as the sections are tables
it reads each setting by itself: the result is a configuration if and only if every setting
resolves, and then it has the values they resolve to (`ofSetting?_eq_some_iff`).
-/

namespace Courier.Configuration

inductive Leaf where
  | sessionMode
  | deliveryMode
  | timeToLive
  | name
  | queues
  | autoDefineQueues
  | maxQueueDepth
  | maxMessageLength
  deriving DecidableEq

namespace Leaf

def all : List Leaf :=
  [sessionMode, deliveryMode, timeToLive, name, queues, autoDefineQueues, maxQueueDepth,
   maxMessageLength]

/-- Where a source has the setting. -/
def place : Leaf → List String
  | sessionMode      => ["session_mode"]
  | deliveryMode     => ["producer", "delivery_mode"]
  | timeToLive       => ["producer", "time_to_live_ms"]
  | name             => ["queue_manager", "name"]
  | queues           => ["queue_manager", "queues"]
  | autoDefineQueues => ["queue_manager", "auto_define_queues"]
  | maxQueueDepth    => ["queue_manager", "max_queue_depth"]
  | maxMessageLength => ["queue_manager", "max_message_length"]

/-- The place as one name. -/
def dotted (l : Leaf) : String := ".".intercalate l.place

abbrev Value : Leaf → Type
  | sessionMode      => SessionMode
  | deliveryMode     => DeliveryMode
  | timeToLive       => Int
  | name             => String
  | queues           => List String
  | autoDefineQueues => Bool
  | maxQueueDepth    => Nat
  | maxMessageLength => Nat

def get : (l : Leaf) → Configuration → l.Value
  | sessionMode,      c => c.sessionMode
  | deliveryMode,     c => c.producer.deliveryMode
  | timeToLive,       c => c.producer.timeToLive
  | name,             c => c.manager.name
  | queues,           c => c.manager.queues
  | autoDefineQueues, c => c.manager.autoDefineQueues
  | maxQueueDepth,    c => c.manager.maxQueueDepth
  | maxMessageLength, c => c.manager.maxMessageLength

/-- The value that a source means, if the setting can have it. -/
def read : (l : Leaf) → Setting → Option l.Value
  | sessionMode      => SessionMode.ofSetting?
  | deliveryMode     => DeliveryMode.ofSetting?
  | timeToLive       => Setting.signed?
  | name             => Setting.text?
  | queues           => Setting.texts?
  | autoDefineQueues => Setting.flag?
  | maxQueueDepth    => Setting.unsigned?
  | maxMessageLength => Setting.unsigned?

/-- What the setting is, if that is what the sources say. -/
def resolve? (l : Leaf) : Option Setting → Option l.Value
  | none   => some (l.get {})
  | some v => l.read v

theorem mem_all (l : Leaf) : l ∈ all := by cases l <;> decide

/-- A configuration is known from its settings. -/
theorem ext_get {c c' : Configuration} (h : ∀ l : Leaf, l.get c = l.get c') : c = c' := by
  obtain ⟨session, ⟨mode, ttl⟩, ⟨name, queues, auto, depth, length⟩⟩ := c
  obtain ⟨session', ⟨mode', ttl'⟩, ⟨name', queues', auto', depth', length'⟩⟩ := c'
  obtain rfl : session = session' := h sessionMode
  obtain rfl : mode = mode' := h deliveryMode
  obtain rfl : ttl = ttl' := h timeToLive
  obtain rfl : name = name' := h Leaf.name
  obtain rfl : queues = queues' := h Leaf.queues
  obtain rfl : auto = auto' := h autoDefineQueues
  obtain rfl : depth = depth' := h maxQueueDepth
  obtain rfl : length = length' := h maxMessageLength
  rfl

/-- A name that is a setting's is the path to its place. -/
theorem pathOf_dotted (l : Leaf) : Setting.pathOf l.dotted = Setting.entryPath l.place := by
  cases l <;> decide +kernel

/-- No setting is inside another. -/
theorem diverge {l l' : Leaf} (h : l ≠ l') : Setting.Diverge l.place l'.place := by
  cases l <;> cases l' <;> first | exact absurd rfl h | decide

end Leaf

/-! ### Reading a table -/

/-- The sections of a configuration. -/
def sections : List String := ["producer", "queue_manager"]

/-- Every section that is there is a table. -/
def Sectioned (es : List (String × Setting)) : Prop :=
  ∀ s ∈ sections, ∀ v, es.lookup s = some v → ∃ fs, v = .table fs

/-- Each setting resolves to what the configuration has. -/
def Resolved (value : Leaf → Option Setting) (c : Configuration) : Prop :=
  ∀ l : Leaf, l.resolve? (value l) = some (l.get c)

theorem fieldOr?_eq (l : Leaf) (es : List (String × Setting)) (name : String) :
    Setting.fieldOr? es name (l.get {}) l.read = l.resolve? (es.lookup name) := by
  rw [Setting.fieldOr?]
  cases es.lookup name <;> rfl

/-- A setting at the root of a table, and one in a section of it. -/
theorem at?_root (es : List (String × Setting)) (n : String) :
    Setting.at? [n] (.table es) = es.lookup n := by
  rw [Setting.at?_cons]
  cases es.lookup n <;> rfl

theorem at?_section {es fs : List (String × Setting)} {s : String}
    (h : es.lookup s = some (.table fs)) (n : String) :
    Setting.at? [s, n] (.table es) = fs.lookup n := by
  rw [Setting.at?_cons, h]
  exact at?_root fs n

theorem at?_absent {es : List (String × Setting)} {s : String} (h : es.lookup s = none)
    (n : String) : Setting.at? [s, n] (.table es) = none := by
  rw [Setting.at?_cons, h]
  rfl

/-- A section is read as its default or from its table. -/
theorem fieldOr?_section {α : Type} {es : List (String × Setting)} (h : Sectioned es) {s : String}
    (hs : s ∈ sections) (default : α) (read : Setting → Option α) :
    es.lookup s = none ∧ Setting.fieldOr? es s default read = some default ∨
      ∃ fs, es.lookup s = some (.table fs) ∧
        Setting.fieldOr? es s default read = read (.table fs) := by
  rw [Setting.fieldOr?]
  cases hv : es.lookup s with
  | none => exact .inl ⟨rfl, rfl⟩
  | some v =>
      obtain ⟨fs, rfl⟩ := h s hs v hv
      exact .inr ⟨fs, rfl, rfl⟩

/-- The sections from what their settings resolve to. -/
def producerOf? (value : Leaf → Option Setting) : Option ProducerOptions := do
  return {
    deliveryMode := ← Leaf.deliveryMode.resolve? (value .deliveryMode)
    timeToLive   := ← Leaf.timeToLive.resolve? (value .timeToLive) }

def managerOf? (value : Leaf → Option Setting) : Option ManagerOptions := do
  return {
    name             := ← Leaf.name.resolve? (value .name)
    queues           := ← Leaf.queues.resolve? (value .queues)
    autoDefineQueues := ← Leaf.autoDefineQueues.resolve? (value .autoDefineQueues)
    maxQueueDepth    := ← Leaf.maxQueueDepth.resolve? (value .maxQueueDepth)
    maxMessageLength := ← Leaf.maxMessageLength.resolve? (value .maxMessageLength) }

theorem producer_eq {es : List (String × Setting)} (h : Sectioned es) :
    Setting.fieldOr? es "producer" {} ProducerOptions.ofSetting? =
      producerOf? fun l => Setting.at? l.place (.table es) := by
  rcases fieldOr?_section h (s := "producer") (by decide) ({} : ProducerOptions)
    ProducerOptions.ofSetting? with ⟨absent, read⟩ | ⟨fs, there, read⟩
  · simp only [read, producerOf?, Leaf.place, at?_absent absent]
    rfl
  · simp only [read, producerOf?, Leaf.place, at?_section there, ← fieldOr?_eq]
    rfl

theorem manager_eq {es : List (String × Setting)} (h : Sectioned es) :
    Setting.fieldOr? es "queue_manager" {} ManagerOptions.ofSetting? =
      managerOf? fun l => Setting.at? l.place (.table es) := by
  rcases fieldOr?_section h (s := "queue_manager") (by decide) ({} : ManagerOptions)
    ManagerOptions.ofSetting? with ⟨absent, read⟩ | ⟨fs, there, read⟩
  · simp only [read, managerOf?, Leaf.place, at?_absent absent]
    rfl
  · simp only [read, managerOf?, Leaf.place, at?_section there, ← fieldOr?_eq]
    rfl

theorem producerOf?_eq_some_iff {value : Leaf → Option Setting} {o : ProducerOptions} :
    producerOf? value = some o ↔
      Leaf.deliveryMode.resolve? (value .deliveryMode) = some o.deliveryMode ∧
        Leaf.timeToLive.resolve? (value .timeToLive) = some o.timeToLive := by
  obtain ⟨mode, ttl⟩ := o
  cases h₁ : Leaf.deliveryMode.resolve? (value .deliveryMode) <;>
    cases h₂ : Leaf.timeToLive.resolve? (value .timeToLive) <;>
    simp [producerOf?, h₁, h₂]

theorem managerOf?_eq_some_iff {value : Leaf → Option Setting} {o : ManagerOptions} :
    managerOf? value = some o ↔
      Leaf.name.resolve? (value .name) = some o.name ∧
        Leaf.queues.resolve? (value .queues) = some o.queues ∧
        Leaf.autoDefineQueues.resolve? (value .autoDefineQueues) = some o.autoDefineQueues ∧
        Leaf.maxQueueDepth.resolve? (value .maxQueueDepth) = some o.maxQueueDepth ∧
        Leaf.maxMessageLength.resolve? (value .maxMessageLength) = some o.maxMessageLength := by
  obtain ⟨name, queues, auto, depth, length⟩ := o
  constructor
  · intro h
    simp only [managerOf?, Option.bind_eq_bind, Option.bind_eq_some_iff] at h
    obtain ⟨_, h₁, _, h₂, _, h₃, _, h₄, _, h₅, same⟩ := h
    cases same
    exact ⟨h₁, h₂, h₃, h₄, h₅⟩
  · rintro ⟨h₁, h₂, h₃, h₄, h₅⟩
    simp only [managerOf?, h₁, h₂, h₃, h₄, h₅]
    rfl

/-- **Setting by setting.**  A table whose sections are tables gives a configuration exactly if
each of its settings resolves, and then the one with these values. -/
theorem ofSetting?_eq_some_iff {es : List (String × Setting)} (h : Sectioned es)
    {c : Configuration} :
    ofSetting? (.table es) = some c ↔ Resolved (fun l => Setting.at? l.place (.table es)) c := by
  have session := fieldOr?_eq .sessionMode es "session_mode"
  simp only [Leaf.get, Leaf.read] at session
  have read : ofSetting? (.table es) = some c ↔
      Leaf.sessionMode.resolve? (es.lookup "session_mode") = some c.sessionMode ∧
        producerOf? (fun l => Setting.at? l.place (.table es)) = some c.producer ∧
        managerOf? (fun l => Setting.at? l.place (.table es)) = some c.manager := by
    obtain ⟨mode, producer, manager⟩ := c
    rw [← session, ← producer_eq h, ← manager_eq h]
    constructor
    · intro h
      simp only [ofSetting?, Setting.fields?, Option.bind_eq_bind, Option.bind_some,
        Option.bind_eq_some_iff] at h
      obtain ⟨_, h₁, _, h₂, _, h₃, same⟩ := h
      cases same
      exact ⟨h₁, h₂, h₃⟩
    · rintro ⟨h₁, h₂, h₃⟩
      simp only [ofSetting?, Setting.fields?, Option.bind_eq_bind, Option.bind_some, h₁, h₂, h₃]
      rfl
  rw [read, producerOf?_eq_some_iff, managerOf?_eq_some_iff, ← at?_root]
  constructor
  · rintro ⟨h₁, ⟨h₂, h₃⟩, h₄, h₅, h₆, h₇, h₈⟩ l
    cases l <;> assumption
  · intro h
    exact ⟨h .sessionMode, ⟨h .deliveryMode, h .timeToLive⟩, h .name, h .queues,
      h .autoDefineQueues, h .maxQueueDepth, h .maxMessageLength⟩

end Courier.Configuration
