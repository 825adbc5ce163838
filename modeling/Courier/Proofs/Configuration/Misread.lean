import Courier.Configuration.Load
import Courier.Proofs.Configuration.Rendered
import Courier.Proofs.Configuration.Valid
import Courier.Proofs.Setting.Texts
import Courier.Proofs.Yaml.Misread
import Courier.Proofs.Yaml.Texts

/-!
# Courier — Proofs — Rendered names that are lost

A block may have a separator where the reader takes it for the end of a line although the writer did
not.  A configuration whose queue manager has such a name is not what its YAML is read as
(`name_ne_of_settingsOfText?`): the name is none of the tokens (`not_mem_of_toYaml`), and neither
the reader of values nor the settings make a text of several lines (`name_of_ofSetting?`).
-/

namespace Courier

open Yaml

namespace Configuration

/-! ### The rendered text -/

section
variable {c : Configuration} {w : String}

theorem weight_writeKey_word (h : w ∈ words) : weight (Node.writeKey (.text w)) = 0 := by
  rw [writeKey_word h]
  exact weight_word (isKey_word h).toIsWord

theorem weight_afterKey_text (h : w ∈ words) (n : Nat) :
    weight (Node.afterKey n (.text w)) = 0 := by
  have word := weight_afterKey_word (isKey_word h).toIsWord
  rw [Node.afterKey, writeText, styleOf_word w h]
  exact word

theorem weight_afterKey_number {k : Int} (h : 0 ≤ k) (n : Nat) :
    weight (Node.afterKey n (.int k)) = 0 := by
  rw [Node.afterKey]
  exact weight_afterKey_word (isWord_toString h)

theorem weight_afterKey_flag (b : Bool) (n : Nat) : weight (Node.afterKey n (.flag b)) = 0 := by
  rw [Node.afterKey]
  cases b <;> rfl

/-- The characters of queue names need no escapes. -/
theorem writeEscaped_of_isNameChar {x : Char} (h : IsNameChar x) : writeEscaped x = [x] := by
  have small : x.toNat < 128 := by
    rcases h with ⟨-, h⟩ | ⟨-, h⟩ | ⟨-, h⟩ | h
    · exact Nat.lt_of_le_of_lt h (by decide)
    · exact Nat.lt_of_le_of_lt h (by decide)
    · exact Nat.lt_of_le_of_lt h (by decide)
    · simp only [List.mem_cons, List.not_mem_nil, or_false] at h
      rcases h with rfl | rfl | rfl | rfl <;> decide
  have same : ∀ n < 128, isQueueNameChar (Char.ofNat n) →
      writeEscaped (Char.ofNat n) = [Char.ofNat n] := by decide +kernel
  rw [← isQueueNameChar_iff] at h
  have := same x.toNat small
  rw [Char.ofNat_toNat] at this
  exact this h

theorem weight_producer (time : 0 ≤ c.producer.timeToLive) :
    weight (Node.afterKey 0 c.producer.toYaml) = 0 := by
  have mode := deliveryMode_mem_words c.producer.deliveryMode
  refine weight_afterKey_mapping ?_
  simp only [List.forall_mem_cons]
  exact ⟨⟨weight_writeKey_word (by decide), weight_afterKey_text mode 2⟩,
    ⟨weight_writeKey_word (by decide), weight_afterKey_number time 2⟩, List.forall_mem_nil _⟩

theorem weight_afterName {o : ManagerOptions} (names : ∀ q ∈ o.queues, IsQueueName q) :
    weight (Node.writeEntries 2 (afterName o)) = 0 := by
  have queues := weight_afterKey_texts (n := 2) fun q hq =>
    weight_writeText fun x hx => writeEscaped_of_isNameChar ((names q hq).chars x hx)
  refine weight_writeEntries ?_
  simp only [afterName, List.forall_mem_cons]
  exact ⟨⟨weight_writeKey_word (by decide), queues⟩,
    ⟨weight_writeKey_word (by decide), weight_afterKey_flag o.autoDefineQueues 2⟩,
    ⟨weight_writeKey_word (by decide),
      weight_afterKey_number (Int.natCast_nonneg o.maxQueueDepth) 2⟩,
    ⟨weight_writeKey_word (by decide),
      weight_afterKey_number (Int.natCast_nonneg o.maxMessageLength) 2⟩, List.forall_mem_nil _⟩

/-- The settings before those of the queue manager. -/
def beforeManager (c : Configuration) : List (Key × Node) :=
  [(.text "session_mode", .text c.sessionMode.name), (.text "producer", c.producer.toYaml)]

theorem weight_beforeManager (time : 0 ≤ c.producer.timeToLive) :
    weight (Node.writeEntries 0 (beforeManager c)) = 0 := by
  have mode := sessionMode_mem_words c.sessionMode
  refine weight_writeEntries ?_
  simp only [beforeManager, List.forall_mem_cons]
  exact ⟨⟨weight_writeKey_word (by decide), weight_afterKey_text mode 0⟩,
    ⟨weight_writeKey_word (by decide), weight_producer time⟩, List.forall_mem_nil _⟩

/-- The rendered name of the queue manager is none of the tokens if it has a misplaced separator. -/
theorem not_mem_of_toYaml (valid : c.fault? = none) (block : styleOf c.manager.name = .block)
    (misplaced : separatorsAtEnds true c.manager.name.toList = false) {ts : List Token}
    (read : Token.ofText? c.toYaml.toList = some ts) (plain : Bool) :
    .scalar plain c.manager.name ∉ ts := by
  have rules := fault?_eq_none_iff.mp valid
  have mode := reread_word (n := 0) (sessionMode_mem_words c.sessionMode)
  have reread : EntriesReread 0 (beforeManager c) [("session_mode", _), ("producer", _)] :=
    .cons (by decide) mode (.cons (by decide) (reread_producer rules.timeToLive) .nil)
  obtain ⟨tokens, before, -⟩ := reread
  obtain ⟨tokens', later, -⟩ :=
    reread_afterName fun q hq => placed_of_isQueueName (rules.queues q hq)
  rw [toYaml, Node.writeDocument, String.toList_ofList] at read
  exact not_mem_of_ofText? (List.cons_ne_nil _ _) before (writeKey_word (by decide))
    (isKey_word (by decide)) (writeKey_word (by decide)) (isKey_word (by decide))
    (List.cons_ne_nil _ _) block misplaced (weight_beforeManager rules.timeToLive)
    (weight_afterName rules.queues) (writeEntries_clean later) read plain

end

/-! ### The settings -/

section
variable {P : String → Prop} {c : Configuration} {v : Setting}

theorem texts_settingsOfText? {cs : List Char} {es : List (String × Setting)} (empty : P "")
    (known : ∀ ts, Token.ofText? cs = some ts → ∀ plain s, .scalar plain s ∈ ts → P s)
    (read : settingsOfText? cs = some es) : ∀ e ∈ es, e.2.Texts P := by
  simp only [settingsOfText?, Option.bind_eq_bind, Option.bind_eq_some_iff] at read
  obtain ⟨nodes, documents, read⟩ := read
  have texts := texts_of_documents? empty known documents
  split at read
  · cases read
    exact List.forall_mem_nil _
  · rename_i node
    obtain ⟨v, value, read⟩ := Option.bind_eq_some_iff.mp read
    split at read
    · cases read
      exact (Setting.texts_ofYaml? (texts node (List.mem_singleton_self _)) value).entries
    · cases read
  · cases read

/-- A name is a text of the settings or has one line. -/
theorem name_of_managerSetting? {o : ManagerOptions} (texts : v.Texts P)
    (h : ManagerOptions.ofSetting? v = some o) : P o.name ∨ '\n' ∉ o.name.toList := by
  simp only [ManagerOptions.ofSetting?, Option.bind_eq_bind, Option.bind_eq_some_iff] at h
  obtain ⟨fs, fields, name, read, queues, -, auto, -, depth, -, length, -, same⟩ := h
  cases same
  refine Setting.of_fieldOr? (P := fun s => P s ∨ '\n' ∉ s.toList) read (.inr (by decide)) ?_
  intro w found read
  have text := Setting.texts_fields? texts fields _ (mem_of_lookup found)
  exact (Setting.of_text? text read).imp_right fun number feed =>
    absurd (number _ feed) (by decide)

theorem name_of_ofSetting? (texts : v.Texts P) (h : ofSetting? v = some c) :
    P c.manager.name ∨ '\n' ∉ c.manager.name.toList := by
  simp only [ofSetting?, Option.bind_eq_bind, Option.bind_eq_some_iff] at h
  obtain ⟨fs, fields, mode, -, producer, -, manager, read, same⟩ := h
  cases same
  refine Setting.of_fieldOr? (P := fun o => P o.name ∨ '\n' ∉ o.name.toList) read
    (.inr (by decide)) ?_
  intro w found
  exact name_of_managerSetting? (Setting.texts_fields? texts fields _ (mem_of_lookup found))

/-- **Lost names.** -/
theorem name_ne_of_settingsOfText? {c' : Configuration} {es : List (String × Setting)}
    (valid : c.fault? = none) (block : styleOf c.manager.name = .block)
    (misplaced : separatorsAtEnds true c.manager.name.toList = false)
    (read : settingsOfText? c.toYaml.toList = some es)
    (h : ofSetting? ((Setting.table []).overlay es) = some c') :
    c'.manager.name ≠ c.manager.name := by
  have feed := (printable_of_block block).2
  have empty : "" ≠ c.manager.name := by
    intro same
    rw [← same] at feed
    cases feed
  have known := texts_settingsOfText? (P := (· ≠ c.manager.name)) empty
    (fun ts tokens plain s mem same => not_mem_of_toYaml valid block misplaced tokens plain
      (same ▸ mem)) read
  have none : (Setting.table []).Texts (· ≠ c.manager.name) := .table (List.forall_mem_nil _)
  intro same
  rcases name_of_ofSetting? (Setting.texts_overlay known none) h with other | one
  · exact other same
  · rw [same] at one
    exact one feed

end

end Configuration

end Courier
