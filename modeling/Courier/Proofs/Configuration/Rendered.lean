import Courier.Configuration.Yaml
import Courier.Proofs.Queue
import Courier.Proofs.Yaml.Nodes

/-!
# Courier — Proofs — Rendered configurations as YAML values

A configuration that is shown in YAML or JSON is a YAML text with one document.  The value of the
document has the settings in their places (`Configuration.shown`); names may have become something
else there.
-/

namespace Courier

open Yaml

namespace Configuration

/-- The value of a rendered configuration; `text` tells what became of the names. -/
def shown (text : String → Node) (c : Configuration) : Node :=
  .mapping [(.text "session_mode", .text c.sessionMode.name),
    (.text "producer", .mapping [(.text "delivery_mode", .text c.producer.deliveryMode.name),
      (.text "time_to_live_ms", .ofPlain (toString c.producer.timeToLive))]),
    (.text "queue_manager", .mapping [(.text "name", text c.manager.name),
      (.text "queues", .sequence (c.manager.queues.map text)),
      (.text "auto_define_queues", .flag c.manager.autoDefineQueues),
      (.text "max_queue_depth", .ofPlain (toString c.manager.maxQueueDepth)),
      (.text "max_message_length", .ofPlain (toString c.manager.maxMessageLength))])]

/-! ### Words of the program -/

/-- The names of the settings and the modes. -/
def words : List String :=
  ["session_mode", "producer", "delivery_mode", "time_to_live_ms", "queue_manager", "name",
    "queues", "auto_define_queues", "max_queue_depth", "max_message_length", "auto_acknowledge",
    "transacted", "NON_PERSISTENT", "PERSISTENT"]

theorem styleOf_word : ∀ w ∈ words, styleOf w = .plain := by decide +kernel

theorem isKey_word {w : String} (h : w ∈ words) : IsKey w.toList := by
  have letters : ∀ w ∈ words, w.toList ≠ [] ∧ w.toList.all isKeyChar ∧ w.toList.length ≤ 1024 := by
    decide
  obtain ⟨nonempty, letters, short⟩ := letters w h
  exact ⟨⟨nonempty, letters⟩, short⟩

theorem ofPlain_word {w : String} (h : w ∈ words) : Node.ofPlain w = .text w := by
  simp only [words, List.mem_cons, List.not_mem_nil, or_false] at h
  rcases h with rfl | rfl | rfl | rfl | rfl | rfl | rfl | rfl | rfl | rfl | rfl | rfl | rfl | rfl
  all_goals rfl

theorem textNode_word {w : String} (h : w ∈ words) (n : Nat) : textNode n w = .text w := by
  rw [textNode, styleOf_word w h]
  exact ofPlain_word h

theorem writeKey_word {w : String} (h : w ∈ words) : Node.writeKey (.text w) = w.toList := by
  rw [Node.writeKey, writeText, styleOf_word w h]
  simp

theorem sessionMode_mem_words (m : SessionMode) : m.name ∈ words := by cases m <;> decide

theorem deliveryMode_mem_words (m : DeliveryMode) : m.name ∈ words := by cases m <;> decide

theorem isWord_toString {k : Int} (h : 0 ≤ k) : IsWord (toString k).toList := by
  rw [Text.toList_toString_of_nonneg h]
  refine ⟨Nat.toDigits_ne_nil, List.all_eq_true.mpr fun c hc => ?_⟩
  have digit := Text.isDigit_of_mem_toDigits hc
  simp [isKeyChar, Char.isAlphanum, digit]

theorem readsAs_flag {block indentless : Bool} (b : Bool) :
    ReadsAs block indentless [.scalar true (if b then "true" else "false")] (.flag b) := by
  cases b
  · exact readsAs_scalar true "false"
  · exact readsAs_scalar true "true"

/-! ### In YAML -/

/-- After a key in column `n`, `v` is written so that it is read as `v'`. -/
def Reread (n : Nat) (v v' : Node) : Prop :=
  ∃ tokens, IsValue n (Node.afterKey n v) tokens ∧ ReadsAs true true tokens v'

/-- The same for entries in column `n`. -/
def EntriesReread (n : Nat) (es : List (Key × Node)) (es' : List (String × Node)) : Prop :=
  ∃ tokens, List.Forall₂ (IsEntry n) es tokens ∧ List.Forall₂ EntryReads es' tokens

section
variable {n : Nat}

theorem EntriesReread.nil : EntriesReread n [] [] := ⟨[], .nil, .nil⟩

theorem EntriesReread.cons {w : String} {v v' : Node} {es : List (Key × Node)}
    {es' : List (String × Node)} (h : w ∈ words) (value : Reread n v v')
    (later : EntriesReread n es es') : EntriesReread n ((.text w, v) :: es) ((w, v') :: es') := by
  obtain ⟨tokens, isValue, reads⟩ := value
  obtain ⟨others, entries, later⟩ := later
  refine ⟨entryTokens w tokens :: others, .cons ?_ entries, .cons ?_ later⟩
  · exact ⟨w.toList, tokens, writeKey_word h, isKey_word h, isValue, by rw [String.ofList_toList]⟩
  · exact ⟨tokens, rfl, ofPlain_word h, reads⟩

theorem reread_number {k : Int} (h : 0 ≤ k) : Reread n (.int k) (.ofPlain (toString k)) := by
  have read := isValue_word (n := n) (isWord_toString h)
  rw [String.ofList_toList] at read
  refine ⟨_, ?_, readsAs_scalar true (toString k)⟩
  rw [Node.afterKey]
  exact read

theorem reread_flag (b : Bool) : Reread n (.flag b) (.flag b) := by
  refine ⟨_, ?_, readsAs_flag b⟩
  rw [Node.afterKey]
  cases b
  · exact isValue_word (w := "false".toList) ⟨by decide, by decide⟩
  · exact isValue_word (w := "true".toList) ⟨by decide, by decide⟩

/-- A text that the writer shows so that it ends where the reader thinks it does. -/
structure Placed (s : String) : Prop where
  solid  : ∃ x ∈ s.toList, x ≠ '\n'
  placed : styleOf s = .block → separatorsAtEnds true s.toList

theorem placed_of_isQueueName {q : String} (named : IsQueueName q) : Placed q := by
  have feed : '\n' ∉ q.toList := named.not_mem (by decide)
  refine ⟨?_, fun block => absurd (printable_of_block block).2 feed⟩
  obtain ⟨x, hx⟩ := List.exists_mem_of_ne_nil q.toList (by
    simpa using utf8ByteSize_pos_iff.mp named.nonempty)
  exact ⟨x, hx, fun same => feed (same ▸ hx)⟩

theorem reread_text {s : String} (h : Placed s) : Reread n (.text s) (textNode n s) := by
  refine ⟨_, ?_, readsAs_text n s⟩
  rw [Node.afterKey]
  exact isValue_text (isText_writeText h.solid h.placed)

theorem reread_word {w : String} (h : w ∈ words) : Reread n (.text w) (.text w) := by
  have solid : ∃ x ∈ w.toList, x ≠ '\n' := by
    obtain ⟨x, w', same⟩ := List.exists_cons_of_ne_nil (isKey_word h).nonempty
    have first : isKeyChar x := List.all_eq_true.mp (isKey_word h).letters x (by simp [same])
    exact ⟨x, by simp [same], ne_of_isKeyChar first rfl⟩
  have placed : Placed w := ⟨solid, fun block => by
    rw [styleOf_word w h] at block
    cases block⟩
  have read := reread_text (n := n) placed
  rwa [textNode_word h] at read

theorem reread_texts {names : List String} (margin : n ≠ 0) (h : ∀ s ∈ names, Placed s) :
    Reread n (.sequence (names.map .text)) (.sequence (names.map (textNode n))) :=
  ⟨_, isValue_texts margin fun s hs => isText_writeText (h s hs).solid (h s hs).placed,
    readsAs_texts n names⟩

theorem EntriesReread.mapping {es : List (Key × Node)} {es' : List (String × Node)}
    (h : EntriesReread (n + 2) es es') (some : es ≠ []) (once : (es'.map (·.1)).Nodup) :
    Reread n (.mapping es) (.mapping (es'.map fun e => (.text e.1, e.2))) := by
  obtain ⟨tokens, entries, reads⟩ := h
  exact ⟨_, isValue_mapping some entries, readsAs_blockMapping once reads⟩

theorem EntriesReread.document {es : List (Key × Node)} {es' : List (String × Node)}
    (h : EntriesReread 0 es es') (some : es ≠ []) (once : (es'.map (·.1)).Nodup) :
    Node.documents? (Node.writeEntries 0 es) =
      .some [.mapping (es'.map fun e => (.text e.1, e.2))] := by
  obtain ⟨tokens, entries, reads⟩ := h
  exact documents?_of_reads (.inl rfl) (ofText?_writeEntries some entries)
    (readsAs_blockMapping once reads)

end

theorem reread_producer {o : ProducerOptions} (time : 0 ≤ o.timeToLive) :
    Reread 0 o.toYaml (.mapping [(.text "delivery_mode", .text o.deliveryMode.name),
      (.text "time_to_live_ms", .ofPlain (toString o.timeToLive))]) := by
  have mode := reread_word (n := 2) (deliveryMode_mem_words o.deliveryMode)
  have entries : EntriesReread 2 _ [("delivery_mode", _), ("time_to_live_ms", _)] :=
    .cons (by decide) mode (.cons (by decide) (reread_number time) .nil)
  exact entries.mapping (List.cons_ne_nil _ _)
    (by decide : ["delivery_mode", "time_to_live_ms"].Nodup)

/-- The settings of a queue manager after its name. -/
def afterName (o : ManagerOptions) : List (Key × Node) :=
  [(.text "queues", .sequence (o.queues.map .text)),
    (.text "auto_define_queues", .flag o.autoDefineQueues),
    (.text "max_queue_depth", .int o.maxQueueDepth),
    (.text "max_message_length", .int o.maxMessageLength)]

theorem reread_afterName {o : ManagerOptions} (queues : ∀ q ∈ o.queues, Placed q) :
    EntriesReread 2 (afterName o) [("queues", .sequence (o.queues.map (textNode 2))),
      ("auto_define_queues", .flag o.autoDefineQueues),
      ("max_queue_depth", .ofPlain (toString o.maxQueueDepth)),
      ("max_message_length", .ofPlain (toString o.maxMessageLength))] :=
  .cons (by decide) (reread_texts (by decide) queues)
    (.cons (by decide) (reread_flag o.autoDefineQueues)
      (.cons (by decide) (reread_number (Int.natCast_nonneg o.maxQueueDepth))
        (.cons (by decide) (reread_number (Int.natCast_nonneg o.maxMessageLength)) .nil)))

theorem reread_manager {o : ManagerOptions} (name : Placed o.name)
    (queues : ∀ q ∈ o.queues, Placed q) :
    Reread 0 o.toYaml (.mapping [(.text "name", textNode 2 o.name),
      (.text "queues", .sequence (o.queues.map (textNode 2))),
      (.text "auto_define_queues", .flag o.autoDefineQueues),
      (.text "max_queue_depth", .ofPlain (toString o.maxQueueDepth)),
      (.text "max_message_length", .ofPlain (toString o.maxMessageLength))]) := by
  have entries : EntriesReread 2 ((.text "name", .text o.name) :: afterName o) (("name", _) :: _) :=
    .cons (by decide) (reread_text name) (reread_afterName queues)
  exact entries.mapping (List.cons_ne_nil _ _)
    (by decide : ["name", "queues", "auto_define_queues", "max_queue_depth",
      "max_message_length"].Nodup)

/-- **In YAML** the configuration is one document. -/
theorem documents?_toYaml {c : Configuration} (time : 0 ≤ c.producer.timeToLive)
    (name : Placed c.manager.name) (queues : ∀ q ∈ c.manager.queues, Placed q) :
    Node.documents? c.toYaml.toList = some [c.shown (textNode 2)] := by
  have mode := reread_word (n := 0) (sessionMode_mem_words c.sessionMode)
  have entries : EntriesReread 0 _ [("session_mode", _), ("producer", _), ("queue_manager", _)] :=
    .cons (by decide) mode (.cons (by decide) (reread_producer time)
      (.cons (by decide) (reread_manager name queues) .nil))
  rw [toYaml, Node.writeDocument, String.toList_ofList]
  exact entries.document (List.cons_ne_nil _ _)
    (by decide : ["session_mode", "producer", "queue_manager"].Nodup)

/-! ### In JSON -/

/-- In a flow collection `v` is written so that it is read as `v'`. -/
def JsonReread (d level : Nat) (v : Json) (v' : Node) : Prop :=
  ∃ tokens, IsPart false d (v.prettyAt level).toList tokens ∧ ReadsAs false false tokens v'

/-- The same for the members of an object. -/
def MembersReread (d level : Nat) (ms : List (String × Json)) (es : List (String × Node)) : Prop :=
  ∃ tokens, ArePart true d (Json.prettyMembers level ms) tokens ∧ List.Forall₂ MemberReads es tokens

section
variable {d level : Nat}

theorem MembersReread.nil : MembersReread d level [] [] := by
  refine ⟨[], ?_, .nil⟩
  rw [Json.prettyMembers]
  exact .nil

theorem MembersReread.cons {name : String} {v : Json} {v' : Node} {ms : List (String × Json)}
    {es : List (String × Node)} (value : JsonReread d level v v')
    (later : MembersReread d level ms es) :
    MembersReread d level ((name, v) :: ms) ((name, v') :: es) := by
  obtain ⟨tokens, part, reads⟩ := value
  obtain ⟨others, parts, later⟩ := later
  refine ⟨memberTokens name tokens :: others, ?_, .cons ⟨tokens, rfl, reads⟩ later⟩
  rw [Json.prettyMembers]
  refine .cons ?_ parts
  have text : (Json.quoted name ++ ": " ++ v.prettyAt level).toList =
      (Json.quoted name).toList ++ ':' :: ' ' :: (v.prettyAt level).toList := by simp
  rw [text]
  exact isPart_member part

theorem jsonReread_text (s : String) : JsonReread d level (.str s) (.text s) := by
  refine ⟨_, ?_, readsAs_scalar false s⟩
  rw [Json.prettyAt]
  exact isPart_string s

theorem jsonReread_number {k : Int} (h : 0 ≤ k) :
    JsonReread d level (.int k) (.ofPlain (toString k)) := by
  have part := isPart_word (d := d) (isWord_toString h)
  rw [String.ofList_toList] at part
  refine ⟨_, ?_, readsAs_scalar true (toString k)⟩
  rw [Json.prettyAt]
  exact part

theorem jsonReread_flag (b : Bool) : JsonReread d level (.bool b) (.flag b) := by
  refine ⟨_, ?_, readsAs_flag b⟩
  cases b
  · rw [Json.prettyAt]
    exact isPart_word (w := "false".toList) ⟨by decide, by decide⟩
  · rw [Json.prettyAt]
    exact isPart_word (w := "true".toList) ⟨by decide, by decide⟩

theorem jsonReread_texts (names : List String) :
    JsonReread (d + 1) level (.arr (names.map .str)) (.sequence (names.map .text)) := by
  obtain ⟨items, reads⟩ : ArePart false d (Json.prettyItems (level + 1) (names.map .str))
        (names.map fun s => [.scalar false s]) ∧
      List.Forall₂ (fun v ts => ReadsAs false false ts v) (names.map .text)
        (names.map fun s => [.scalar false s]) := by
    induction names with
    | nil =>
        rw [List.map_nil, Json.prettyItems]
        exact ⟨.nil, .nil⟩
    | cons s names ih =>
        rw [List.map_cons, Json.prettyItems, Json.prettyAt]
        exact ⟨.cons (isPart_string s) ih.1, .cons (readsAs_scalar false s) ih.2⟩
  refine ⟨_, ?_, readsAs_flowSequence reads⟩
  rw [Json.prettyAt, toList_block]
  exact isPart_block areMarks_square items level

theorem MembersReread.object {ms : List (String × Json)} {es : List (String × Node)}
    (h : MembersReread d (level + 1) ms es) (once : (es.map (·.1)).Nodup) :
    JsonReread (d + 1) level (.obj ms) (.mapping (es.map fun e => (.text e.1, e.2))) := by
  obtain ⟨tokens, parts, reads⟩ := h
  refine ⟨_, ?_, readsAs_flowMapping once reads⟩
  rw [Json.prettyAt, toList_block]
  exact isPart_block areMarks_curly parts level

theorem MembersReread.document {ms : List (String × Json)} {es : List (String × Node)}
    (h : MembersReread d 1 ms es) (room : d < Lexer.maxDepth) (once : (es.map (·.1)).Nodup) :
    Node.documents? (Json.pretty (.obj ms)).toList =
      some [.mapping (es.map fun e => (.text e.1, e.2))] := by
  obtain ⟨tokens, parts, reads⟩ := h
  rw [Json.pretty, Json.prettyAt]
  exact documents?_of_reads (.inr rfl) (ofText?_object parts 0 room)
    (readsAs_flowMapping once reads)

end

/-- **In JSON** the configuration is one document, with all names in it. -/
theorem documents?_toJson {c : Configuration} (time : 0 ≤ c.producer.timeToLive) :
    Node.documents? c.toJson.pretty.toList = some [c.shown .text] := by
  have producer : MembersReread 1 2 _ [("delivery_mode", _), ("time_to_live_ms", _)] :=
    .cons (jsonReread_text c.producer.deliveryMode.name) (.cons (jsonReread_number time) .nil)
  have manager : MembersReread 1 2 _ [("name", _), ("queues", _), ("auto_define_queues", _),
      ("max_queue_depth", _), ("max_message_length", _)] :=
    .cons (jsonReread_text c.manager.name) (.cons (jsonReread_texts c.manager.queues)
      (.cons (jsonReread_flag c.manager.autoDefineQueues)
        (.cons (jsonReread_number (Int.natCast_nonneg c.manager.maxQueueDepth))
          (.cons (jsonReread_number (Int.natCast_nonneg c.manager.maxMessageLength)) .nil))))
  have members : MembersReread 2 1 _ [("session_mode", _), ("producer", _), ("queue_manager", _)] :=
    .cons (jsonReread_text c.sessionMode.name)
      (.cons (producer.object (by decide : ["delivery_mode", "time_to_live_ms"].Nodup))
        (.cons (manager.object (by decide : ["name", "queues", "auto_define_queues",
          "max_queue_depth", "max_message_length"].Nodup)) .nil))
  exact members.document (by decide)
    (by decide : ["session_mode", "producer", "queue_manager"].Nodup)

end Configuration

end Courier
