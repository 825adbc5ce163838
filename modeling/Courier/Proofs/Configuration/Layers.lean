import Courier.Proofs.Configuration.Leaf
import Courier.Proofs.Configuration.Valid

/-!
# Courier — Proofs — Layers of a configuration

A configuration is loaded from a file and the environment.  For each setting by itself, the
environment's word counts if it has one, else the file's, else the default (`Layers.value`); no
setting looks at the sources of another, and a value that is overridden is never read.

That is shown for files whose root keys are plain, so that none of them is a path into a section,
and whose sections are tables, and for environments in which every variable overrides one of the
eight settings and no two the same (`Layers`).  A file must be one that can be read at all, which
a YAML number without a numeral, such as an infinity, prevents wherever it stands.

**Layers** (`load_layered`): such sources load exactly if every setting resolves and the
configuration of the resolved values breaks no rule; which of the two fails tells the error; and
sources that differ in other settings give the same value to this one.
-/

namespace Courier.Configuration

/-! ### What a file gives -/

/-- The settings of the file, if one is given. -/
def fileEntries (files : Files) :
    Option String → Except ConfigurationError (List (String × Setting))
  | some path => fileSettings files path
  | none      => .ok []

theorem distinct_settingsOfText? {text : List Char} {entries : List (String × Setting)}
    (h : settingsOfText? text = some entries) : (Setting.table entries).Distinct := by
  obtain ⟨nodes, hn, h⟩ := Option.bind_eq_some_iff.mp h
  split at h
  · cases h
    exact .table List.nodup_nil fun _ he => by cases he
  · obtain ⟨v, hv, h⟩ := Option.bind_eq_some_iff.mp h
    split at h
    · cases h
      exact Setting.distinct_ofYaml? _ hv
    · cases h
  · cases h

theorem distinct_fileEntries {files : Files} {path : Option String}
    {entries : List (String × Setting)} (h : fileEntries files path = .ok entries) :
    (Setting.table entries).Distinct := by
  cases path with
  | none =>
      cases h
      exact .table List.nodup_nil fun _ he => by cases he
  | some path =>
      rw [fileEntries, fileSettings] at h
      split at h
      · cases h
      · split at h
        · cases h
        · rename_i settings read
          cases h
          exact distinct_settingsOfText? read

/-! ### What the environment gives -/

/-- The settings that the variables override. -/
def overridden (env : Environment) : List String := env.filterMap (settingName? ·.1)

theorem names_environmentSettings (env : Environment) :
    (environmentSettings env).map (·.1) = overridden env := by
  rw [environmentSettings, overridden, List.map_filterMap]
  refine List.filterMap_congr fun e _ => ?_
  rw [Option.map_map]
  cases settingName? e.1 <;> rfl

/-- A value in the environment is never a table. -/
theorem settingOfValue_ne_table (name value : String) (es : List (String × Setting)) :
    settingOfValue name value ≠ .table es := by
  rw [settingOfValue]
  repeat' split
  all_goals simp

theorem environmentSettings_ne_table {env : Environment} {e : String × Setting}
    (he : e ∈ environmentSettings env) (es : List (String × Setting)) : e.2 ≠ .table es := by
  obtain ⟨v, -, hv⟩ := List.mem_filterMap.mp he
  obtain ⟨name, -, rfl⟩ := Option.map_eq_some_iff.mp hv
  exact settingOfValue_ne_table name v.2 es

/-! ### Laying one over the other -/

/-- Putting a value in the place of a setting keeps the sections tables. -/
theorem sectioned_put {es : List (String × Setting)} (h : Sectioned es) (l : Leaf)
    (value : Setting) :
    ∃ es', Setting.put value (Setting.entryPath l.place) (.table es) = .table es' ∧
      Sectioned es' := by
  cases l with
  | sessionMode =>
      refine ⟨_, rfl, fun s hs v hv => h s hs v ?_⟩
      have other : s ≠ "session_mode" := by rintro rfl; revert hs; decide
      rwa [Setting.lookup_updateEntry, if_neg other] at hv
  | _ =>
      refine ⟨_, rfl, fun s hs v hv => ?_⟩
      rw [Setting.lookup_updateEntry] at hv
      split at hv
      · cases hv
        exact ⟨_, rfl⟩
      · exact h s hs v hv

theorem sectioned_overlay {source : List (String × Setting)}
    (leaf : ∀ e ∈ source, ∃ l : Leaf, e.1 = l.dotted) :
    ∀ {es : List (String × Setting)}, Sectioned es →
      ∃ es', Setting.overlay source (.table es) = .table es' ∧ Sectioned es' := by
  induction source with
  | nil => exact fun h => ⟨_, rfl, h⟩
  | cons e source ih =>
      intro es h
      obtain ⟨name, value⟩ := e
      obtain ⟨l, rfl⟩ : ∃ l : Leaf, name = l.dotted := leaf _ (List.mem_cons_self ..)
      obtain ⟨es', put, h'⟩ := sectioned_put h l value
      rw [Setting.overlay_cons, l.pathOf_dotted, put]
      exact ih (fun e he => leaf e (List.mem_cons_of_mem _ he)) h'

/-- Sources with the shape that is described above; `entries` is what the file gives. -/
structure Layers (files : Files) (path : Option String) (env : Environment)
    (entries : List (String × Setting)) : Prop where
  file     : fileEntries files path = .ok entries
  plain    : ∀ e ∈ entries, Setting.IsPlain e.1
  sections : Sectioned entries
  /-- Every variable overrides one of the settings. -/
  leaf     : ∀ name ∈ overridden env, ∃ l : Leaf, name = l.dotted
  /-- No setting has two variables. -/
  once     : (overridden env).Nodup

/-- What the environment says about a setting. -/
def override? (env : Environment) (l : Leaf) : Option Setting :=
  (environmentSettings env).lookup l.dotted

/-- What the file says about it. -/
def fileValue? (entries : List (String × Setting)) (l : Leaf) : Option Setting :=
  Setting.at? l.place (.table entries)

/-- What counts: the environment's word, else the file's. -/
def layered (env : Environment) (entries : List (String × Setting)) (l : Leaf) : Option Setting :=
  (override? env l).or (fileValue? entries l)

section
variable {files : Files} {path : Option String} {env : Environment}
  {entries : List (String × Setting)}

/-- The place of a setting by its dotted name. -/
def placeOf (name : String) : List String :=
  ((Leaf.all.find? fun l => l.dotted = name).map Leaf.place).getD []

theorem placeOf_dotted (l : Leaf) : placeOf l.dotted = l.place := by
  cases l <;> decide +kernel

/-- The merged settings hold at every place what counts there. -/
theorem Layers.settings_eq (h : Layers files path env entries) :
    ∃ es, settings files path env = .ok (.table es) ∧ Sectioned es ∧
      ∀ l : Leaf, Setting.at? l.place (.table es) = layered env entries l := by
  have names := names_environmentSettings env
  have leaf : ∀ e ∈ environmentSettings env, ∃ l : Leaf, e.1 = l.dotted := fun e he =>
    h.leaf e.1 (names ▸ List.mem_map_of_mem he)
  have base := Setting.overlay_table h.plain (distinct_fileEntries h.file)
  obtain ⟨es, merged, sectioned⟩ := sectioned_overlay leaf h.sections
  refine ⟨es, ?_, sectioned, fun l => ?_⟩
  · have file := h.file
    cases path with
    | none =>
        cases file
        rw [← merged]
        rfl
    | some path =>
        rw [fileEntries] at file
        rw [settings, file, ← merged, ← base]
        rfl
  · have at_place := Setting.at?_overlay (environmentSettings env) placeOf
      (n := l.dotted) ?paths (fun e he => environmentSettings_ne_table he) ?apart
      (names ▸ h.once) (.table entries)
    · rwa [merged, placeOf_dotted] at at_place
    case paths =>
      intro e he
      obtain ⟨l', same⟩ := leaf e he
      rw [same, placeOf_dotted, l'.pathOf_dotted]
    case apart =>
      intro e he other
      obtain ⟨l', same⟩ := leaf e he
      rw [same, placeOf_dotted, placeOf_dotted]
      refine Leaf.diverge ?_
      rintro rfl
      exact other same

/-! ### Loading -/

/-- The error for a setting with a value that it cannot have. -/
def wrongType : ConfigurationError := .parsing "a setting has a value of the wrong type"

theorem Layers.load_eq_of_resolved (h : Layers files path env entries) {c : Configuration}
    (hc : Resolved (layered env entries) c) : load files path env = c.validate := by
  obtain ⟨es, merged, sectioned, value⟩ := h.settings_eq
  have read : ofSetting? (.table es) = some c :=
    (ofSetting?_eq_some_iff sectioned).mpr fun l => (congrArg l.resolve? (value l)).trans (hc l)
  rw [load, merged]
  simp only [bind, Except.bind, read]

theorem Layers.load_eq_of_not_resolved (h : Layers files path env entries)
    (no : ∀ c, ¬ Resolved (layered env entries) c) :
    load files path env = .error wrongType := by
  obtain ⟨es, merged, sectioned, value⟩ := h.settings_eq
  have read : ofSetting? (.table es) = none := by
    rw [Option.eq_none_iff_forall_ne_some]
    intro c hc
    have resolved := (ofSetting?_eq_some_iff sectioned).mp hc
    exact no c fun l => (congrArg l.resolve? (value l)).symm.trans (resolved l)
  rw [load, merged]
  simp only [bind, Except.bind, read, wrongType]

/-- Settings that all resolve make a configuration. -/
theorem exists_resolved_iff {value : Leaf → Option Setting} :
    (∃ c, Resolved value c) ↔ ∀ l : Leaf, l.resolve? (value l) ≠ none := by
  constructor
  · rintro ⟨c, hc⟩ l none
    rw [hc l] at none
    cases none
  · intro h
    choose v hv using fun l => Option.ne_none_iff_exists'.mp (h l)
    refine ⟨⟨v .sessionMode, ⟨v .deliveryMode, v .timeToLive⟩, ⟨v .name, v .queues,
      v .autoDefineQueues, v .maxQueueDepth, v .maxMessageLength⟩⟩, fun l => ?_⟩
    rw [hv]
    cases l <;> rfl

theorem Resolved.unique {value : Leaf → Option Setting} {c c' : Configuration}
    (h : Resolved value c) (h' : Resolved value c') : c = c' :=
  Leaf.ext_get fun l => Option.some.inj ((h l).symm.trans (h' l))

theorem Layers.load_eq_ok_iff (h : Layers files path env entries) (c : Configuration) :
    load files path env = .ok c ↔ Resolved (layered env entries) c ∧ c.fault? = none := by
  by_cases some : ∃ c, Resolved (layered env entries) c
  · obtain ⟨c₀, h₀⟩ := some
    rw [h.load_eq_of_resolved h₀, validate_eq_ok_iff]
    constructor
    · rintro ⟨rfl, valid⟩
      exact ⟨h₀, valid⟩
    · rintro ⟨hc, valid⟩
      cases h₀.unique hc
      exact ⟨rfl, valid⟩
  · rw [h.load_eq_of_not_resolved fun c hc => some ⟨c, hc⟩]
    constructor
    · exact fun ok => by cases ok
    · exact fun hc => absurd ⟨c, hc.1⟩ some

theorem Layers.load_eq_error_iff (h : Layers files path env entries) (e : ConfigurationError) :
    load files path env = .error e ↔
      (e = wrongType ∧ ∃ l : Leaf, l.resolve? (layered env entries l) = none) ∨
        ∃ c, Resolved (layered env entries) c ∧ c.fault? = some e := by
  by_cases some : ∃ c, Resolved (layered env entries) c
  · have every := exists_resolved_iff.mp some
    obtain ⟨c₀, h₀⟩ := some
    rw [h.load_eq_of_resolved h₀, validate_eq_error_iff]
    constructor
    · exact fun fault => .inr ⟨c₀, h₀, fault⟩
    · rintro (⟨-, l, none⟩ | ⟨c, hc, fault⟩)
      · exact absurd none (every l)
      · cases h₀.unique hc
        exact fault
  · rw [h.load_eq_of_not_resolved fun c hc => some ⟨c, hc⟩]
    have missing : ∃ l : Leaf, l.resolve? (layered env entries l) = none := by
      by_contra every
      exact some (exists_resolved_iff.mpr fun l none => every ⟨l, none⟩)
    constructor
    · rintro ⟨⟩
      exact .inl ⟨rfl, missing⟩
    · rintro (⟨rfl, -⟩ | ⟨c, hc, -⟩)
      · rfl
      · exact absurd ⟨c, hc⟩ some

/-- **Layers.**  Sources load a configuration exactly if each of its settings is what the
environment says, else the file, else the default, and it breaks no rule.  They fail exactly if
some setting does not resolve, or if the configuration of the resolved settings breaks a rule, and
that is the error then.  And environments that say the same about a setting give it the same
value, whatever they say about others. -/
theorem load_layered (h : Layers files path env entries) :
    (∀ c, load files path env = .ok c ↔
        Resolved (layered env entries) c ∧ c.fault? = none) ∧
      (∀ e, load files path env = .error e ↔
        (e = wrongType ∧ ∃ l : Leaf, l.resolve? (layered env entries l) = none) ∨
          ∃ c, Resolved (layered env entries) c ∧ c.fault? = some e) ∧
      ∀ env' l c c', Layers files path env' entries → override? env' l = override? env l →
        load files path env = .ok c → load files path env' = .ok c' → l.get c = l.get c' := by
  refine ⟨h.load_eq_ok_iff, h.load_eq_error_iff, fun env' l c c' h' same hc hc' => ?_⟩
  have here := ((h.load_eq_ok_iff c).mp hc).1 l
  have there := ((h'.load_eq_ok_iff c').mp hc').1 l
  rw [layered, same] at there
  rw [layered] at here
  exact Option.some.inj (here.symm.trans there)

end

/-! A file with a list in the place of a number, which the environment overrides, and with a
queue list, which it replaces. -/

def overriddenText : String :=
  "other: 1\nproducer: \x7btime_to_live_ms: [1]\x7d\nqueue_manager:\n  queues: [A]\n"

def overriddenEntries : List (String × Setting) :=
  [("other", .int 1), ("producer", .table [("time_to_live_ms", .list [.int 1])]),
    ("queue_manager", .table [("queues", .list [.text "A"])])]

theorem tokens_overriddenText :
    Yaml.Token.ofText? overriddenText.toList = some
      [.blockMapping, .key, .scalar true "other", .value, .scalar true "1",
        .key, .scalar true "producer", .value, .flowMapping, .key, .scalar true "time_to_live_ms",
        .value, .flowSequence, .scalar true "1", .flowSequenceEnd, .flowMappingEnd,
        .key, .scalar true "queue_manager", .value, .blockMapping, .key, .scalar true "queues",
        .value, .flowSequence, .scalar true "A", .flowSequenceEnd, .blockEnd, .blockEnd] := by
  decide +kernel

theorem decodeFile_overriddenText :
    Text.decodeFile overriddenText.toUTF8 = overriddenText.toList := by
  decide +kernel

theorem settingsOfText?_overriddenText :
    settingsOfText? overriddenText.toList = some overriddenEntries := by
  rw [settingsOfText?, Yaml.Node.documents?, tokens_overriddenText]
  rfl

theorem load_layered_overridden :
    let files : Files := fun path =>
      if path = "c.yaml" then .ok overriddenText.toUTF8 else .error .notFound
    let env : Environment := [("PATH", "/bin"), ("MQJMS__PRODUCER__TIME_TO_LIVE_MS", "5"),
      ("mqjms__queue_manager__queues", "B,C")]
    Layers files (some "c.yaml") env overriddenEntries ∧
      load files (some "c.yaml") env =
        .ok { producer := { timeToLive := 5 }, manager := { queues := ["B", "C"] } } := by
  intro files env
  have h : Layers files (some "c.yaml") env overriddenEntries :=
    { file     := by
        have there : firstFile? files (filePaths "c.yaml") = some overriddenText.toUTF8 := rfl
        simp only [fileEntries, fileSettings, there, decodeFile_overriddenText,
          settingsOfText?_overriddenText]
      plain    := by decide +kernel
      sections := by
        intro s hs v hv
        rcases List.mem_pair.mp hs with rfl | rfl
        · exact ⟨_, (Option.some.inj hv).symm⟩
        · exact ⟨_, (Option.some.inj hv).symm⟩
      leaf     := by
        have names : overridden env = [Leaf.timeToLive.dotted, Leaf.queues.dotted] := by
          decide +kernel
        intro name hn
        rw [names] at hn
        rcases List.mem_pair.mp hn with rfl | rfl
        · exact ⟨_, rfl⟩
        · exact ⟨_, rfl⟩
      once     := by decide +kernel }
  exact ⟨h, ((load_layered h).1 _).mpr ⟨fun l => by cases l <;> rfl, by decide +kernel⟩⟩

end Courier.Configuration
