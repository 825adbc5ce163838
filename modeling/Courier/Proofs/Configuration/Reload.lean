import Courier.Proofs.Configuration.Misread
import Courier.Proofs.Configuration.Variables
import Courier.Proofs.Text.Utf8

/-!
# Courier — Proofs — Loading a rendered configuration

A configuration that was loaded and shown is a configuration file.  Loading that gives the same
configuration again unless a limit is rounded, or a name is read as something else in YAML
(`Reloads`, `load_rendered`).  Names aside whose blocks have a separator inside a line (`Bounded`),
the settings of the file are known (`settingsOfText?_render`); a name with such a separator is lost,
and the file may be none at all.
-/

namespace Courier.Configuration

open Yaml

/-! ### What the values mean -/

theorem markedInt?_toDigits (n : Nat) : Node.markedInt? (Nat.toDigits 10 n) = none := by
  have digit {c : Char} (hc : c ∈ Nat.toDigits 10 n) : c.isDigit := Text.isDigit_of_mem_toDigits hc
  unfold Node.markedInt?
  split
  · rename_i same
    exact absurd (digit (same ▸ List.mem_cons_of_mem _ (List.mem_cons_self ..))) (by decide)
  · rename_i same
    exact absurd (digit (same ▸ List.mem_cons_of_mem _ (List.mem_cons_self ..))) (by decide)
  · rename_i same
    exact absurd (digit (same ▸ List.mem_cons_self ..)) (by decide)
  · rfl

/-- A numeral is the same flag or number in YAML as in a variable. -/
theorem ofYaml?_toString (n : Nat) :
    Setting.ofYaml? (.ofPlain (toString n)) = guess? (toString n) := by
  have digits : (toString n).toList = Nat.toDigits 10 n := Nat.toList_repr
  obtain ⟨c, hc⟩ := List.exists_mem_of_ne_nil _ (Nat.toDigits_ne_nil (n := n) (b := 10))
  have digit := Text.isDigit_of_mem_toDigits hc
  have other {w : String} (no : w.toList.all (!·.isDigit)) : toString n ≠ w := fun same => by
    have := List.all_eq_true.mp no c (by rw [← same, digits]; exact hc)
    rw [digit] at this
    cases this
  have word : Node.nulls.contains (toString n) = false := by
    have no : Node.nulls.all fun w => w.toList.all (!·.isDigit) := by decide
    rw [← Bool.not_eq_true, List.contains_iff_mem]
    exact fun mem => other (List.all_eq_true.mp no _ mem) rfl
  have flag : Node.flags.lookup (toString n) = none := by
    rw [List.lookup_eq_none_iff]
    intro p hp
    have no : Node.flags.all fun p => p.1.toList.all (!·.isDigit) := by decide
    simpa using other (List.all_eq_true.mp no p hp)
  have real : Node.isReal (toString n) = true := by
    rw [Node.isReal, digits, Binary64.ofText?_toDigits]
    simp [List.any_of_mem hc digit]
  rw [Node.ofPlain, guess?_toString, digits, markedInt?_toDigits]
  simp only [word, flag, Text.signed?_toDigits, real, Bool.false_eq_true, if_false, if_true]
  by_cases small : n < 2 ^ 63
  · simp only [if_pos small]
    rfl
  · simp only [if_neg small]
    rw [Setting.ofYaml?, digits, Binary64.ofText?_toDigits]
    rfl

/-- The setting that the numeral of an integer stands for. -/
def numeral (k : Int) : Setting := (guess? (toString k)).getD .null

theorem ofYaml?_number {k : Int} (h : 0 ≤ k) :
    Setting.ofYaml? (.ofPlain (toString k)) = some (numeral k) := by
  lift k to Nat using h
  have same : toString (k : Int) = toString k := rfl
  rw [numeral, same, ofYaml?_toString, guess?_toString]
  rfl

/-- What becomes of a text that is written in YAML. -/
def textSetting (s : String) : Setting := (Setting.ofYaml? (textNode 2 s)).getD .null

/-- A plain text that is no number without a numeral. -/
theorem exists_ofYaml?_ofPlain {s : String} (other : readsAsOther s = false) :
    ∃ v, Setting.ofYaml? (.ofPlain s) = some v := by
  have special : Node.specialReals.contains s = false := by
    have named : Node.specialReals.all fun w => looksReal w.toList := by decide +kernel
    rw [← Bool.not_eq_true, List.contains_iff_mem]
    intro mem
    simp [readsAsOther, List.all_eq_true.mp named s mem] at other
  rw [Node.ofPlain]
  split
  · exact ⟨_, rfl⟩
  · split
    · exact ⟨_, rfl⟩
    · split
      · exact ⟨_, rfl⟩
      · exact ⟨_, rfl⟩
      · split
        · rename_i real
          rw [Node.isReal, special, Bool.false_or, Bool.and_eq_true] at real
          obtain ⟨x, hx⟩ := Option.isSome_iff_exists.mp real.2
          exact ⟨.real x, by rw [Setting.ofYaml?, hx]; rfl⟩
        · exact ⟨_, rfl⟩

theorem ofYaml?_textNode (s : String) : Setting.ofYaml? (textNode 2 s) = some (textSetting s) := by
  obtain ⟨v, hv⟩ : ∃ v, Setting.ofYaml? (textNode 2 s) = some v := by
    rw [textNode]
    rcases styleOf_cases s with ⟨style, -, other, -⟩ | ⟨style, -⟩ | style | ⟨style, -⟩
    · rw [style]
      exact exists_ofYaml?_ofPlain other
    all_goals
      rw [style]
      exact ⟨_, rfl⟩
  rw [textSetting, hv]
  rfl

/-- A text that stands for itself in YAML: if it is plain, what it reads as is displayed like that;
between single quotes there is no line break, which the writer would put white space after; and in a
block what the writer takes for a line break stands only at the ends of lines. -/
def Legible (s : String) : Prop :=
  match styleOf s with
  | .plain        => ∀ v, Setting.ofYaml? (.ofPlain s) = some v → v.text? = some s
  | .singleQuoted => s.toList.any breaksLine = false
  | .doubleQuoted => True
  | .block        => separatorsAtEnds true s.toList

theorem text?_textSetting_iff {s : String} (h : Placed s) :
    (textSetting s).text? = some s ↔ Legible s := by
  have same := ofYaml?_textNode s
  rw [Legible]
  rw [textNode] at same
  cases style : styleOf s
  · rw [style] at same
    dsimp only at same ⊢
    rw [same]
    simp
  · rw [style] at same
    rw [← Option.some.inj same, Setting.text?, Option.some_inj]
    have kept : padded (pad 4) false s.toList = s.toList ↔ _ := padded_eq_self_iff (by decide)
    rw [← kept, ← String.toList_inj, String.toList_ofList]
  · rw [style] at same
    rw [← Option.some.inj same, Setting.text?]
    simp
  · rw [style] at same
    rw [← Option.some.inj same, Setting.text?]
    simp [h.placed style]

/-! ### The file -/

/-- The settings of a rendered configuration; `text` tells what became of the names. -/
def shownEntries (text : String → Setting) (c : Configuration) : List (String × Setting) :=
  [("session_mode", .text c.sessionMode.name),
    ("producer", .table [("delivery_mode", .text c.producer.deliveryMode.name),
      ("time_to_live_ms", numeral c.producer.timeToLive)]),
    ("queue_manager", .table [("name", text c.manager.name),
      ("queues", .list (c.manager.queues.map text)),
      ("auto_define_queues", .flag c.manager.autoDefineQueues),
      ("max_queue_depth", numeral c.manager.maxQueueDepth),
      ("max_message_length", numeral c.manager.maxMessageLength)])]

section
variable {node : String → Node} {text : String → Setting} {c : Configuration}

theorem ofYamlItems?_map (h : ∀ s, Setting.ofYaml? (node s) = some (text s)) (names : List String) :
    Setting.ofYamlItems? (names.map node) = some (names.map text) := by
  induction names with
  | nil => rw [List.map_nil, Setting.ofYamlItems?, List.map_nil]
  | cons s names ih =>
      rw [List.map_cons, Setting.ofYamlItems?, h, ih]
      rfl

theorem ofYaml?_shown (h : ∀ s, Setting.ofYaml? (node s) = some (text s))
    (time : 0 ≤ c.producer.timeToLive) :
    Setting.ofYaml? (c.shown node) = some (.table (shownEntries text c)) := by
  have depth := ofYaml?_number (Int.natCast_nonneg c.manager.maxQueueDepth)
  have length := ofYaml?_number (Int.natCast_nonneg c.manager.maxMessageLength)
  have natural (n : Nat) : toString (n : Int) = toString n := rfl
  rw [natural] at depth length
  simp only [shown, Setting.ofYaml?, Setting.ofYamlEntries?, Setting.updateEntry, Key.name, depth,
    length, ofYaml?_number time, h, ofYamlItems?_map h, Option.bind_eq_bind, Option.bind_some,
    Option.map_some]
  rfl

theorem settingsOfText?_shown {cs : List Char} (h : ∀ s, Setting.ofYaml? (node s) = some (text s))
    (time : 0 ≤ c.producer.timeToLive) (read : Node.documents? cs = some [c.shown node]) :
    settingsOfText? cs = some (shownEntries text c) := by
  rw [settingsOfText?, read]
  simp only [Option.bind_eq_bind, Option.bind_some, ofYaml?_shown h time]
  rfl

end

/-- What becomes of a name in each format. -/
def restored : ConfigurationFormat → String → Setting
  | .yaml => textSetting
  | .json => .text

/-- The name of the queue manager ends in YAML where the reader thinks it does. -/
def Bounded (format : ConfigurationFormat) (c : Configuration) : Prop :=
  format = .yaml → styleOf c.manager.name = .block → separatorsAtEnds true c.manager.name.toList

section
variable {format : ConfigurationFormat} {c : Configuration}

theorem placed_name (valid : c.fault? = none) (bounded : Bounded format c)
    (yaml : format = .yaml) : Placed c.manager.name where
  solid := by
    have solid : ¬ Text.isBlankText c.manager.name :=
      mt isBlankText_iff.mp (fault?_eq_none_iff.mp valid).name
    rw [Text.isBlankText, List.all_eq_true, not_forall] at solid
    obtain ⟨x, hx⟩ := solid
    rw [Classical.not_imp] at hx
    refine ⟨x, hx.1, ?_⟩
    rintro rfl
    exact hx.2 rfl
  placed := bounded yaml

theorem placed_queue (valid : c.fault? = none) {q : String} (h : q ∈ c.manager.queues) :
    Placed q :=
  placed_of_isQueueName ((fault?_eq_none_iff.mp valid).queues q h)

theorem settingsOfText?_render (valid : c.fault? = none) (bounded : Bounded format c) :
    settingsOfText? (c.render format).toList = some (shownEntries (restored format) c) := by
  have time := (fault?_eq_none_iff.mp valid).timeToLive
  cases format with
  | yaml =>
      exact settingsOfText?_shown ofYaml?_textNode time
        (documents?_toYaml time (placed_name valid bounded rfl) fun q hq => placed_queue valid hq)
  | json =>
      have texts (s : String) : Setting.ofYaml? (.text s) = some (.text s) := by
        rw [Setting.ofYaml?]
      exact settingsOfText?_shown texts time (documents?_toJson time)

theorem head?_render : ∀ x ∈ (c.render format).toList.head?, x.toNat ≠ 0xFEFF := by
  have other {t : List Char} {y : Char} (h : ∃ u, t = y :: u) (no : y.toNat ≠ 0xFEFF) :
      ∀ x ∈ t.head?, x.toNat ≠ 0xFEFF := by
    obtain ⟨u, rfl⟩ := h
    rintro x ⟨⟩
    exact no
  cases format with
  | yaml =>
      refine other (y := 's') ?_ (by decide)
      rw [render, toYaml, Node.writeDocument, String.toList_ofList, writeEntries_cons_cons,
        writeKey_word (by decide)]
      exact ⟨_, rfl⟩
  | json =>
      refine other (y := '\x7b') ?_ (by decide)
      rw [render, Json.pretty, toJson, Json.prettyAt, toList_block]
      exact ⟨_, rfl⟩

theorem fileSettings_eq_ok_iff {files : Files} {path : String} {es : List (String × Setting)}
    (stored : files path = .ok (c.render format).toUTF8) :
    fileSettings files path = .ok es ↔ settingsOfText? (c.render format).toList = some es := by
  have first : firstFile? files (filePaths path) = some (c.render format).toUTF8 := by
    rw [filePaths, firstFile?, stored]
  simp only [fileSettings, first, Text.decodeFile_toUTF8 head?_render]
  cases settingsOfText? (c.render format).toList <;> simp

theorem fileSettings_render {files : Files} {path : String} (valid : c.fault? = none)
    (bounded : Bounded format c) (stored : files path = .ok (c.render format).toUTF8) :
    fileSettings files path = .ok (shownEntries (restored format) c) :=
  (fileSettings_eq_ok_iff stored).mpr (settingsOfText?_render valid bounded)

/-! ### Loading it -/

theorem layers_of_rendered {files : Files} {path : String} {env : Environment}
    (valid : c.fault? = none) (bounded : Bounded format c)
    (stored : files path = .ok (c.render format).toUTF8) (clear : overrides env = []) :
    Layers files (some path) env (shownEntries (restored format) c) where
  file     := fileSettings_render valid bounded stored
  plain    := by
    have names : ∀ n ∈ ["session_mode", "producer", "queue_manager"], Setting.IsPlain n := by
      decide +kernel
    intro e he
    exact names e.1 (List.mem_map_of_mem he)
  sections := by
    intro s hs v hv
    rcases List.mem_pair.mp hs with rfl | rfl
    · exact ⟨_, (Option.some.inj hv).symm⟩
    · exact ⟨_, (Option.some.inj hv).symm⟩
  leaf     := by
    rw [overridden_eq, clear]
    exact fun _ no => by cases no
  once     := by
    rw [overridden_eq, clear]
    exact List.nodup_nil

/-- The configuration is the same after it was shown and loaded again. -/
structure Reloads (format : ConfigurationFormat) (c : Configuration) : Prop where
  depth  : KeptLimit c.manager.maxQueueDepth
  length : KeptLimit c.manager.maxMessageLength
  names  : format = .yaml → ∀ s ∈ c.manager.name :: c.manager.queues, Legible s

theorem settingOfValue_number {k : Int} (h : 0 ≤ k) (name : String) :
    settingOfValue name (toString k) = numeral k := by
  lift k to Nat using h
  have same : toString (k : Int) = toString k := rfl
  rw [numeral, settingOfValue_eq, same, guess?_toString]
  rfl

theorem signed?_numeral {k : Int} (low : 0 ≤ k) (high : k < 2 ^ 63) :
    (numeral k).signed? = some k := by
  have reread := reread?_timeToLive low high
  rwa [Leaf.reread?, Leaf.write, settingOfValue_number low] at reread

theorem unsigned?_numeral_iff {n : Nat} (h : n < 2 ^ 64) :
    (numeral n).unsigned? = some n ↔ KeptLimit n := by
  rw [← settingOfValue_number (Int.natCast_nonneg n) ""]
  exact unsigned?_settingOfValue_iff h ""

theorem allTexts?_map_iff {text : String → Setting} {names : List String} :
    Setting.allTexts? (names.map text) = some names ↔ ∀ s ∈ names, (text s).text? = some s := by
  induction names with
  | nil => simp [Setting.allTexts?]
  | cons s names ih =>
      rw [List.forall_mem_cons, ← ih, List.map_cons, Setting.allTexts?]
      cases (text s).text? <;> cases Setting.allTexts? (names.map text) <;> simp

theorem text?_restored_iff (format : ConfigurationFormat) {s : String}
    (h : format = .yaml → Placed s) :
    (restored format s).text? = some s ↔ (format = .yaml → Legible s) := by
  cases format with
  | yaml =>
      rw [restored, text?_textSetting_iff (h rfl)]
      simp
  | json => simp [restored, Setting.text?]

/-- The settings of a rendered configuration are those it was rendered from, if it reloads. -/
theorem resolved_shown_iff (valid : c.fault? = none) (bounded : Bounded format c)
    (range : InRange c) {env : Environment} (clear : overrides env = []) :
    Resolved (layered env (shownEntries (restored format) c)) c ↔ Reloads format c := by
  have time := (fault?_eq_none_iff.mp valid).timeToLive
  have file (l : Leaf) : layered env (shownEntries (restored format) c) l =
      fileValue? (shownEntries (restored format) c) l := by
    rw [layered, override?, environmentSettings_eq, clear]
    rfl
  have depth := unsigned?_numeral_iff range.depth
  have length := unsigned?_numeral_iff range.length
  have name := text?_restored_iff format (placed_name valid bounded)
  have queue {s : String} (hs : s ∈ c.manager.queues) :=
    text?_restored_iff format fun _ => placed_queue valid hs
  have queues : Setting.texts? (.list (c.manager.queues.map (restored format))) =
      some c.manager.queues ↔ ∀ s ∈ c.manager.queues, (restored format s).text? = some s :=
    allTexts?_map_iff
  constructor
  · intro h
    have read (l : Leaf) := (congrArg l.resolve? (file l)).symm.trans (h l)
    refine ⟨depth.mp (read .maxQueueDepth), length.mp (read .maxMessageLength), fun yaml => ?_⟩
    refine List.forall_mem_cons.mpr ⟨name.mp (read .name) yaml, fun s hs => ?_⟩
    exact (queue hs).mp (queues.mp (read .queues) s hs) yaml
  · intro h l
    refine (congrArg l.resolve? (file l)).trans ?_
    cases l with
    | sessionMode =>
        change SessionMode.ofSetting? (.text c.sessionMode.name) = some c.sessionMode
        cases c.sessionMode <;> decide +kernel
    | deliveryMode =>
        change DeliveryMode.ofSetting? (.text c.producer.deliveryMode.name) =
          some c.producer.deliveryMode
        cases c.producer.deliveryMode <;> decide +kernel
    | timeToLive => exact signed?_numeral time range.timeToLive
    | name => exact name.mpr fun yaml => h.names yaml _ (List.mem_cons_self ..)
    | queues =>
        exact queues.mpr fun s hs =>
          (queue hs).mpr fun yaml => h.names yaml s (List.mem_cons_of_mem _ hs)
    | autoDefineQueues => rfl
    | maxQueueDepth => exact depth.mpr h.depth
    | maxMessageLength => exact length.mpr h.length

/-! ### What is loaded -/

theorem roundAway_mem {low high : Int} (h : low ≤ 0 ∧ 0 ≤ high) (x : Binary64) :
    low ≤ x.roundAway low high ∧ x.roundAway low high ≤ high := by
  cases x with
  | nan => exact h
  | infinite negative => cases negative <;> simp [Binary64.roundAway] <;> omega
  | finite negative m e =>
      simp only [Binary64.roundAway]
      omega

theorem mem_of_integer? {low high n : Int} {read : List Char → Option Int} {v : Setting}
    (zero : low ≤ 0 ∧ 1 ≤ high) (bound : ∀ {cs n}, read cs = some n → low ≤ n ∧ n ≤ high)
    (h : Setting.integer? low high read v = some n) : low ≤ n ∧ n ≤ high := by
  have flag (b : Bool) : low ≤ (if b then 1 else 0) ∧ (if b then 1 else 0) ≤ high := by
    cases b <;> simp <;> omega
  cases v with
  | int m =>
      rw [Setting.integer?] at h
      split_ifs at h with inside
      cases h
      exact inside
  | flag b =>
      cases h
      exact flag b
  | real x =>
      cases h
      exact roundAway_mem ⟨zero.1, by omega⟩ x
  | text s =>
      rw [Setting.integer?, Setting.numberOfText?] at h
      split_ifs at h
      · cases h
        exact flag true
      · cases h
        exact flag false
      · exact bound h
  | _ => cases h

theorem signed?_lt {v : Setting} {n : Int} (h : v.signed? = some n) : n < 2 ^ 63 := by
  have bounds := mem_of_integer? (by decide)
    (fun {cs n} (read : Text.signed? 64 10 cs = some n) => by
      rw [Text.signed?, Option.filter_eq_some_iff] at read
      have fits := read.2
      simp only [Text.fitsSigned, Bool.and_eq_true, decide_eq_true_eq] at fits
      exact ⟨fits.1, Int.le_sub_one_of_lt fits.2⟩) h
  have top : Int.pow 2 63 - 1 = 2 ^ 63 - 1 := rfl
  omega

theorem unsigned?_lt {v : Setting} {n : Nat} (h : v.unsigned? = some n) : n < 2 ^ 64 := by
  obtain ⟨m, hm, rfl⟩ := Option.map_eq_some_iff.mp h
  have bounds := mem_of_integer? (by decide)
    (fun {cs n} (read : (Text.unsigned? 64 10 cs).map Int.ofNat = some n) => by
      obtain ⟨k, hk, rfl⟩ := Option.map_eq_some_iff.mp read
      have below := Text.lt_of_unsigned? hk
      have top : Int.pow 2 64 = (Nat.pow 2 64 : Nat) := rfl
      have value : Int.ofNat k = (k : Int) := rfl
      omega) hm
  have top : Int.pow 2 64 - 1 = 2 ^ 64 - 1 := rfl
  omega

theorem timeToLive_of_ofSetting? {v : Setting} {o : ProducerOptions}
    (h : ProducerOptions.ofSetting? v = some o) : o.timeToLive < 2 ^ 63 := by
  simp only [ProducerOptions.ofSetting?, Option.bind_eq_bind, Option.bind_eq_some_iff] at h
  obtain ⟨fs, -, mode, -, time, read, same⟩ := h
  cases same
  exact Setting.of_fieldOr? (P := (· < 2 ^ 63)) read (by decide) fun _ => signed?_lt

theorem limits_of_ofSetting? {v : Setting} {o : ManagerOptions}
    (h : ManagerOptions.ofSetting? v = some o) :
    o.maxQueueDepth < 2 ^ 64 ∧ o.maxMessageLength < 2 ^ 64 := by
  simp only [ManagerOptions.ofSetting?, Option.bind_eq_bind, Option.bind_eq_some_iff] at h
  obtain ⟨fs, -, name, -, queues, -, auto, -, depth, read, length, read', same⟩ := h
  cases same
  exact ⟨Setting.of_fieldOr? (P := (· < 2 ^ 64)) read (by decide) fun _ => unsigned?_lt,
    Setting.of_fieldOr? (P := (· < 2 ^ 64)) read' (by decide) fun _ => unsigned?_lt⟩

theorem inRange_of_ofSetting? {v : Setting} (h : ofSetting? v = some c) : InRange c := by
  simp only [ofSetting?, Option.bind_eq_bind, Option.bind_eq_some_iff] at h
  obtain ⟨fs, -, mode, -, producer, read, manager, read', same⟩ := h
  cases same
  have limits := Setting.of_fieldOr?
    (P := fun o => o.maxQueueDepth < 2 ^ 64 ∧ o.maxMessageLength < 2 ^ 64) read' (by decide)
    fun _ => limits_of_ofSetting?
  exact ⟨Setting.of_fieldOr? (P := fun o => o.timeToLive < 2 ^ 63) read (by decide)
    fun _ => timeToLive_of_ofSetting?, limits.1, limits.2⟩

/-- A configuration that is loaded is made from the settings. -/
theorem exists_of_load {files : Files} {path : Option String} {env : Environment}
    (h : load files path env = .ok c) :
    ∃ v, settings files path env = .ok v ∧ ofSetting? v = some c ∧ c.fault? = none := by
  rw [load] at h
  cases merged : settings files path env with
  | error e =>
      rw [merged] at h
      cases h
  | ok v =>
      rw [merged] at h
      simp only [bind, Except.bind] at h
      split at h
      · rename_i read
        obtain ⟨rfl, valid⟩ := validate_eq_ok_iff.mp h
        exact ⟨v, rfl, read, valid⟩
      · cases h

/-- Without variables these are the settings of the file. -/
theorem exists_of_settings {files : Files} {path : String} {env : Environment} {v : Setting}
    (clear : overrides env = []) (h : settings files (some path) env = .ok v) :
    ∃ es, fileSettings files path = .ok es ∧ v = (Setting.table []).overlay es := by
  rw [settings, environmentSettings_eq, clear] at h
  cases file : fileSettings files path with
  | error e =>
      rw [file] at h
      cases h
  | ok es =>
      rw [file] at h
      cases h
      exact ⟨es, rfl, rfl⟩

/-- A name that is out of bounds is lost. -/
theorem load_ne_of_not_bounded {files : Files} {path : String} {env : Environment}
    (valid : c.fault? = none) (out : ¬ Bounded format c)
    (stored : files path = .ok (c.render format).toUTF8) (clear : overrides env = []) :
    load files (some path) env ≠ .ok c := by
  intro loaded
  simp only [Bounded, Classical.not_imp, Bool.not_eq_true] at out
  obtain ⟨rfl, block, misplaced⟩ := out
  obtain ⟨v, merged, read, -⟩ := exists_of_load loaded
  obtain ⟨es, file, rfl⟩ := exists_of_settings clear merged
  have shown := (fileSettings_eq_ok_iff stored).mp file
  exact name_ne_of_settingsOfText? valid block misplaced shown read rfl

theorem Reloads.bounded (h : Reloads format c) : Bounded format c := by
  intro yaml block
  have legible := h.names yaml _ (List.mem_cons_self ..)
  rw [Legible, block] at legible
  exact legible

/-- **A rendered configuration** that was loaded is loaded from the file it is stored in, without
variables, exactly if it reloads. -/
theorem load_rendered {files files' : Files} {path : Option String} {path' : String}
    {env env' : Environment} (loaded : load files path env = .ok c)
    (stored : files' path' = .ok (c.render format).toUTF8) (clear : overrides env' = []) :
    load files' (some path') env' = .ok c ↔ Reloads format c := by
  obtain ⟨v, -, read, valid⟩ := exists_of_load loaded
  by_cases bounded : Bounded format c
  · rw [(layers_of_rendered valid bounded stored clear).load_eq_ok_iff, and_iff_left valid]
    exact resolved_shown_iff valid bounded (inRange_of_ofSetting? read) clear
  · exact iff_of_false (load_ne_of_not_bounded valid bounded stored clear)
      fun reloads => bounded reloads.bounded

end

/-! A limit that a file has as a text, so that it is not rounded there, is shown without quotes, and
rounded when that is loaded. -/

def quotedLimitText : String :=
  "queue_manager:\n  max_queue_depth: \x229223372036854775809\x22\n"

def quotedLimitEntries : List (String × Setting) :=
  [("queue_manager", .table [("max_queue_depth", .text "9223372036854775809")])]

theorem tokens_quotedLimitText :
    Token.ofText? quotedLimitText.toList = some
      [.blockMapping, .key, .scalar true "queue_manager", .value, .blockMapping, .key,
        .scalar true "max_queue_depth", .value, .scalar false "9223372036854775809", .blockEnd,
        .blockEnd] := by
  decide +kernel

theorem load_rendered_rounded :
    let c : Configuration := { manager := { maxQueueDepth := 2 ^ 63 + 1 } }
    let files : Files := fun path =>
      if path = "a.yaml" then .ok quotedLimitText.toUTF8 else .error .notFound
    let shown (format : ConfigurationFormat) : Files := fun path =>
      if path = "c.yaml" then .ok (c.render format).toUTF8 else .error .notFound
    load files (some "a.yaml") [] = .ok c ∧
      (∀ format, load (shown format) (some "c.yaml") [] =
        .ok { manager := { maxQueueDepth := 2 ^ 63 } }) := by
  intro c files shown
  have given : Layers files (some "a.yaml") [] quotedLimitEntries :=
    { file     := by
        have there : firstFile? files (filePaths "a.yaml") = some quotedLimitText.toUTF8 := rfl
        have decoded : Text.decodeFile quotedLimitText.toUTF8 = quotedLimitText.toList := by
          decide +kernel
        have read : settingsOfText? quotedLimitText.toList = some quotedLimitEntries := by
          rw [settingsOfText?, Node.documents?, tokens_quotedLimitText]
          rfl
        simp only [fileEntries, fileSettings, there, decoded, read]
      plain    := by decide +kernel
      sections := by
        intro s hs v hv
        rcases List.mem_pair.mp hs with rfl | rfl
        · cases hv
        · exact ⟨_, (Option.some.inj hv).symm⟩
      leaf     := fun _ no => by cases no
      once     := List.nodup_nil }
  refine ⟨(given.load_eq_ok_iff c).mpr ⟨fun l => ?_, by decide +kernel⟩, fun format => ?_⟩
  · cases l <;> decide +kernel
  · have bounded : Bounded format c := fun _ block => by
      have plain : styleOf "QM1" = .plain := by decide +kernel
      cases plain.symm.trans block
    refine ((layers_of_rendered (by decide +kernel) bounded rfl rfl).load_eq_ok_iff _).mpr
      ⟨fun l => ?_, by decide +kernel⟩
    cases format <;> cases l <;> decide +kernel

/-- A name that YAML would take for null, a queue that is a number, and the greatest limit. -/
theorem load_rendered_again :
    let c : Configuration :=
      { manager := { name := "null", queues := ["12", "A/B"], maxQueueDepth := 2 ^ 64 - 1 } }
    let files : Files := fun path =>
      if path = "c.yaml" then .ok (c.render .yaml).toUTF8
      else if path = "c.json" then .ok (c.render .json).toUTF8
      else .error .notFound
    load files none (environmentOf c) = .ok c ∧ files "c.yaml" = .ok (c.render .yaml).toUTF8 ∧
      files "c.json" = .ok (c.render .json).toUTF8 ∧ overrides [("PATH", "/bin")] = [] ∧
      load files (some "c.yaml") [("PATH", "/bin")] = .ok c ∧
      load files (some "c.json") [("PATH", "/bin")] = .ok c := by
  intro c files
  have same : (overrides (environmentOf c)).Perm (written c) := by
    rw [overrides_environmentOf]
  have loaded : load files none (environmentOf c) = .ok c := by
    refine ((layers_of_written same).load_eq_ok_iff _).mpr ⟨fun l => ?_, by decide +kernel⟩
    rw [resolve?_of_written same]
    cases l <;> decide +kernel
  have clear : overrides [("PATH", "/bin")] = [] := by decide +kernel
  have named : ∀ s ∈ c.manager.name :: c.manager.queues, ValidQueueName s := by decide +kernel
  have texts : ∀ s ∈ c.manager.name :: c.manager.queues, (textSetting s).text? = some s := by
    decide +kernel
  have legible : ∀ s ∈ c.manager.name :: c.manager.queues, Legible s := fun s hs =>
    (text?_textSetting_iff (placed_of_isQueueName (validQueueName_iff.mp (named s hs)))).mp
      (texts s hs)
  have reloads (format : ConfigurationFormat) : Reloads format c :=
    ⟨.inr (.inr rfl), .inl (by decide), fun _ => legible⟩
  exact ⟨loaded, rfl, rfl, clear, (load_rendered loaded rfl clear).mpr (reloads .yaml),
    (load_rendered loaded rfl clear).mpr (reloads .json)⟩

end Courier.Configuration
