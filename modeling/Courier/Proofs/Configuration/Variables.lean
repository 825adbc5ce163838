import Courier.Proofs.Binary64.Integer
import Courier.Proofs.Configuration.Layers
import Courier.Proofs.Send.UnitOfWork

/-!
# Courier — Proofs — A configuration from its variables

Every setting can be written as the value of a variable (`Leaf.write`).  What a value stands for
is settled before it is known which setting it is for: it is a flag or a number if it reads as one
(`guess?`), and the conversion to the type of the field has to undo that.

For the modes, the flag and the time to live it always does.  For the name of the queue manager it
does if the flag or the number is displayed as it was written; for a list of two queues or more,
whose commas are in no number, always, but a single queue must not read as a flag or a number; for
a limit unless it is so large that only a binary64 number is near it (`Carried`).

**Variables** (`load_written`): an environment with these eight overrides, one for each setting of
a valid configuration with a queue, loads that configuration without a file if and only if it is
carried.
-/

namespace Courier.Configuration

/-! ### What a value reads as -/

/-- The flag or the number that a value stands for, whatever it is for. -/
def guess? (value : String) : Option Setting :=
  ((flagOf? value).map .flag).or
    (((Text.signed? 64 10 value.toList).map .int).or
      ((Binary64.ofText? value.toList).map .real))

theorem settingOfValue_eq (name value : String) :
    settingOfValue name value = (guess? value).getD
      (if name = listSetting then .list ((splitAtCommas value).map .text) else .text value) := by
  rw [settingOfValue, guess?]
  cases flagOf? value with
  | some b => rfl
  | none =>
      cases Text.signed? 64 10 value.toList with
      | some n => rfl
      | none => cases Binary64.ofText? value.toList <;> rfl

theorem flagOf?_eq_none_of_mem {value : String} {c : Char} (hc : c ∈ value.toList)
    (h : c.isAlpha = false) : flagOf? value = none := by
  rw [flagOf?, if_neg (Text.lower_ne_of_mem hc h (by decide)),
    if_neg (Text.lower_ne_of_mem hc h (by decide))]

/-- A value with a character that is in no number reads as none. -/
theorem guess?_eq_none_of_mem {value : String} {c : Char} (hc : c ∈ value.toList)
    (h : Binary64.isNumberChar c = false) : guess? value = none := by
  have integer : Text.signed? 64 10 value.toList = none := by
    rw [Text.signed?, Text.integer?_eq_none_of_mem hc (Binary64.not_isDigit h)
      (Binary64.ne_of_isNumberChar h (by decide)) (Binary64.ne_of_isNumberChar h (by decide))]
    rfl
  rw [guess?, flagOf?_eq_none_of_mem hc (Binary64.not_isAlpha h), integer,
    Binary64.ofText?_eq_none_of_mem hc h]
  rfl

/-- The numeral of a natural number: an integer below 2^63, else a binary64 number. -/
theorem guess?_toString (n : Nat) :
    guess? (toString n) = some (if n < 2 ^ 63 then .int n
      else .real (Binary64.ofDecimal false n (Nat.toDigits 10 n).length 0)) := by
  have digits : (toString n).toList = Nat.toDigits 10 n := Nat.toList_repr
  obtain ⟨c, hc⟩ := List.exists_mem_of_ne_nil _ (Nat.toDigits_ne_nil (n := n) (b := 10))
  have flag : flagOf? (toString n) = none :=
    flagOf?_eq_none_of_mem (digits ▸ hc) (Text.isAlpha_of_isDigit (Text.isDigit_of_mem_toDigits hc))
  rw [guess?, flag, digits, Text.signed?_toDigits, Binary64.ofText?_toDigits]
  split <;> rfl

/-! ### Lists -/

theorem splitFrom_of_no_comma {cs : List Char} (h : ',' ∉ cs) (part : List Char) :
    splitFrom part cs = [String.ofList (part.reverse ++ cs)] := by
  induction cs generalizing part with
  | nil => rw [splitFrom, List.append_nil]
  | cons c cs ih =>
      rw [List.mem_cons, not_or] at h
      rw [splitFrom, ih h.2, List.reverse_cons, List.append_assoc]
      · rfl
      · exact fun same => h.1 same.symm

theorem splitFrom_append_comma {cs : List Char} (h : ',' ∉ cs) (part rest : List Char) :
    splitFrom part (cs ++ ',' :: rest) =
      String.ofList (part.reverse ++ cs) :: splitFrom [] rest := by
  induction cs generalizing part with
  | nil => rw [List.nil_append, splitFrom, List.append_nil]
  | cons c cs ih =>
      rw [List.mem_cons, not_or] at h
      rw [List.cons_append, splitFrom, ih h.2, List.reverse_cons, List.append_assoc]
      · rfl
      · exact fun same => h.1 same.symm

/-- Names without commas are found again in their list. -/
theorem splitAtCommas_intercalate {names : List String} (some : names ≠ [])
    (h : ∀ n ∈ names, ',' ∉ n.toList) : splitAtCommas (",".intercalate names) = names := by
  induction names with
  | nil => exact absurd rfl some
  | cons n names ih =>
      have first := h n (List.mem_cons_self ..)
      rw [splitAtCommas]
      cases names with
      | nil => simp [splitFrom_of_no_comma first]
      | cons m names =>
          have rest := ih (List.cons_ne_nil _ _) fun n hn => h n (List.mem_cons_of_mem _ hn)
          rw [splitAtCommas] at rest
          have comma : (",".intercalate (n :: m :: names)).toList =
              n.toList ++ ',' :: (",".intercalate (m :: names)).toList := by
            simp [String.intercalate_cons_cons]
          rw [comma, splitFrom_append_comma first, rest]
          simp

theorem comma_mem_intercalate (n m : String) (names : List String) :
    ',' ∈ (",".intercalate (n :: m :: names)).toList := by
  simp [String.intercalate_cons_cons]

theorem allTexts?_map_text (names : List String) :
    Setting.allTexts? (names.map .text) = some names := by
  induction names with
  | nil => rfl
  | cons n names ih =>
      rw [List.map_cons, Setting.allTexts?, ih]
      rfl

/-! ### Every setting from its value -/

/-- The value of a variable for a setting. -/
def Leaf.write : (l : Leaf) → l.Value → String
  | sessionMode,      m     => m.name
  | deliveryMode,     m     => m.name
  | timeToLive,       ms    => toString ms
  | name,             s     => s
  | queues,           names => ",".intercalate names
  | autoDefineQueues, b     => if b then "true" else "false"
  | maxQueueDepth,    n     => toString n
  | maxMessageLength, n     => toString n

/-- What is left of a setting that went through a variable. -/
def Leaf.reread? (l : Leaf) (v : l.Value) : Option l.Value :=
  l.read (settingOfValue l.dotted (l.write v))

/-- A text that stands for itself: a flag or a number that it reads as is displayed like that. -/
def SelfNamed (s : String) : Prop := ∀ v, guess? s = some v → v.text? = some s

/-- A limit that is an integer of 63 bits, or that is not changed by rounding. -/
def KeptLimit (n : Nat) : Prop := n < 2 ^ 63 ∨ 2048 ∣ n ∨ n = 2 ^ 64 - 1

theorem reread?_name_iff (s : String) :
    Leaf.name.reread? s = some s ↔ SelfNamed s := by
  have other : Leaf.name.dotted ≠ listSetting := by decide
  have reread : Leaf.name.reread? s = ((guess? s).getD (.text s)).text? := by
    rw [Leaf.reread?, settingOfValue_eq, if_neg other]
    rfl
  rw [reread, SelfNamed]
  cases guess? s with
  | none => simp [Setting.text?]
  | some v => simp

/-- A flag or a number is no list. -/
theorem texts?_guess {value : String} {v : Setting} (h : guess? value = some v) :
    v.texts? = none := by
  have kind : (∃ b, v = .flag b) ∨ (∃ n, v = .int n) ∨ ∃ x, v = .real x := by
    simp only [guess?, Option.or_eq_some_iff, Option.map_eq_some_iff] at h
    grind
  rcases kind with ⟨b, rfl⟩ | ⟨n, rfl⟩ | ⟨x, rfl⟩ <;> rfl

theorem reread?_queues_iff {names : List String} (some : names ≠ [])
    (h : ∀ n ∈ names, ',' ∉ n.toList) :
    Leaf.queues.reread? names = .some names ↔ ∀ q, names = [q] → guess? q = none := by
  have list : Leaf.queues.dotted = listSetting := by decide
  have whole : guess? (",".intercalate names) = none → Leaf.queues.reread? names = .some names := by
    intro none
    rw [Leaf.reread?, settingOfValue_eq, Leaf.write, none, Option.getD_none, if_pos list,
      splitAtCommas_intercalate some h]
    exact allTexts?_map_text names
  match names, some with
  | [q], _ =>
      rw [String.intercalate_singleton] at whole
      refine ⟨fun kept q' same => ?_, fun single => whole (single q rfl)⟩
      obtain rfl : q = q' := (List.cons.inj same).1
      rw [Leaf.reread?, settingOfValue_eq, Leaf.write, String.intercalate_singleton] at kept
      cases guessed : guess? q with
      | none => rfl
      | some v =>
          rw [guessed, Option.getD_some, Leaf.read, texts?_guess guessed] at kept
          cases kept
  | n :: m :: names, _ =>
      exact ⟨fun _ q same => (by cases same),
        fun _ => whole (guess?_eq_none_of_mem (comma_mem_intercalate n m names) (by decide))⟩

theorem unsigned?_settingOfValue {n : Nat} (h : n < 2 ^ 64) {name : String} :
    (settingOfValue name (toString n)).unsigned? =
      some (if n < 2 ^ 63 then n else Binary64.nearest n) := by
  rw [settingOfValue_eq, guess?_toString, Option.getD_some]
  split
  · rename_i small
    have fits : (0 : Int) ≤ n ∧ (n : Int) ≤ Int.pow 2 64 - 1 := by
      have top : Int.pow 2 64 - 1 = 2 ^ 64 - 1 := rfl
      omega
    rw [Setting.unsigned?, Setting.integer?, if_pos fits]
    rfl
  · rename_i large
    rw [Setting.unsigned?, Setting.integer?,
      Binary64.roundAway_ofDecimal (Nat.le_of_not_lt large) h]
    rfl

theorem unsigned?_settingOfValue_iff {n : Nat} (h : n < 2 ^ 64) (name : String) :
    (settingOfValue name (toString n)).unsigned? = some n ↔ KeptLimit n := by
  rw [unsigned?_settingOfValue h, Option.some_inj, KeptLimit]
  split
  · rename_i small
    exact ⟨fun _ => .inl small, fun _ => rfl⟩
  · rename_i large
    rw [Binary64.nearest_eq_self_iff (Nat.le_of_not_lt large) h]
    exact ⟨.inr, fun kept => kept.resolve_left large⟩

theorem reread?_timeToLive {ms : Int} (low : 0 ≤ ms) (high : ms < 2 ^ 63) :
    Leaf.timeToLive.reread? ms = some ms := by
  lift ms to Nat using low
  have fits : -Int.pow 2 63 ≤ (ms : Int) ∧ (ms : Int) ≤ Int.pow 2 63 - 1 := by
    have top : Int.pow 2 63 = 2 ^ 63 := rfl
    omega
  have small : ms < 2 ^ 63 := by omega
  have numeral : Leaf.timeToLive.write ms = toString ms := rfl
  rw [Leaf.reread?, settingOfValue_eq, numeral, guess?_toString, Option.getD_some, if_pos small]
  exact if_pos fits

theorem reread?_sessionMode (m : SessionMode) : Leaf.sessionMode.reread? m = some m := by
  cases m <;> decide +kernel

theorem reread?_deliveryMode (m : DeliveryMode) : Leaf.deliveryMode.reread? m = some m := by
  cases m <;> decide +kernel

theorem reread?_autoDefineQueues (b : Bool) : Leaf.autoDefineQueues.reread? b = some b := by
  cases b <;> decide +kernel

/-- The numbers of the configuration fit into their fields of 64 bits. -/
structure InRange (c : Configuration) : Prop where
  timeToLive : c.producer.timeToLive < 2 ^ 63
  depth      : c.manager.maxQueueDepth < 2 ^ 64
  length     : c.manager.maxMessageLength < 2 ^ 64

/-- The configuration that its variables stand for is the configuration itself. -/
structure Carried (c : Configuration) : Prop where
  name   : SelfNamed c.manager.name
  queue  : ∀ q, c.manager.queues = [q] → guess? q = none
  depth  : KeptLimit c.manager.maxQueueDepth
  length : KeptLimit c.manager.maxMessageLength

theorem reread?_iff_carried {c : Configuration} (valid : c.fault? = none)
    (some : c.manager.queues ≠ []) (range : InRange c) :
    (∀ l : Leaf, l.reread? (l.get c) = .some (l.get c)) ↔ Carried c := by
  have rules := fault?_eq_none_iff.mp valid
  have queues := reread?_queues_iff some fun n hn => (rules.queues n hn).not_mem (by decide)
  have depth := unsigned?_settingOfValue_iff range.depth Leaf.maxQueueDepth.dotted
  have length := unsigned?_settingOfValue_iff range.length Leaf.maxMessageLength.dotted
  constructor
  · intro h
    exact ⟨(reread?_name_iff _).mp (h .name), queues.mp (h .queues), depth.mp (h .maxQueueDepth),
      length.mp (h .maxMessageLength)⟩
  · intro h l
    cases l with
    | sessionMode => exact reread?_sessionMode _
    | deliveryMode => exact reread?_deliveryMode _
    | timeToLive => exact reread?_timeToLive rules.timeToLive range.timeToLive
    | name => exact (reread?_name_iff _).mpr h.name
    | queues => exact queues.mpr h.queue
    | autoDefineQueues => exact reread?_autoDefineQueues _
    | maxQueueDepth => exact depth.mpr h.depth
    | maxMessageLength => exact length.mpr h.length

/-! ### The environment -/

/-- The values of the variables that override settings, by the names of the settings. -/
def overrides (env : Environment) : List (String × String) :=
  env.filterMap fun v => (settingName? v.1).map (·, v.2)

/-- One value for each setting of a configuration. -/
def written (c : Configuration) : List (String × String) :=
  Leaf.all.map fun l => (l.dotted, l.write (l.get c))

/-- The usual name of the variable for a setting. -/
def Leaf.variableName : Leaf → String
  | sessionMode      => "MQJMS__SESSION_MODE"
  | deliveryMode     => "MQJMS__PRODUCER__DELIVERY_MODE"
  | timeToLive       => "MQJMS__PRODUCER__TIME_TO_LIVE_MS"
  | name             => "MQJMS__QUEUE_MANAGER__NAME"
  | queues           => "MQJMS__QUEUE_MANAGER__QUEUES"
  | autoDefineQueues => "MQJMS__QUEUE_MANAGER__AUTO_DEFINE_QUEUES"
  | maxQueueDepth    => "MQJMS__QUEUE_MANAGER__MAX_QUEUE_DEPTH"
  | maxMessageLength => "MQJMS__QUEUE_MANAGER__MAX_MESSAGE_LENGTH"

/-- The variables of a configuration, under their usual names. -/
def environmentOf (c : Configuration) : Environment :=
  Leaf.all.map fun l => (l.variableName, l.write (l.get c))

theorem settingName?_variableName (l : Leaf) : settingName? l.variableName = some l.dotted := by
  cases l <;> decide +kernel

theorem overrides_environmentOf (c : Configuration) : overrides (environmentOf c) = written c := by
  rw [overrides, environmentOf, written, List.filterMap_map, ← List.filterMap_eq_map]
  refine List.filterMap_congr fun l _ => ?_
  simp only [Function.comp_apply, settingName?_variableName]
  rfl

theorem environmentSettings_eq (env : Environment) :
    environmentSettings env = (overrides env).map fun o => (o.1, settingOfValue o.1 o.2) := by
  rw [environmentSettings, overrides, List.map_filterMap]
  refine List.filterMap_congr fun v _ => ?_
  rw [Option.map_map]
  rfl

theorem overridden_eq (env : Environment) : overridden env = (overrides env).map (·.1) := by
  rw [← names_environmentSettings, environmentSettings_eq, List.map_map]
  rfl

section
variable {files : Files} {env : Environment} {c : Configuration}

theorem overridden_perm (h : (overrides env).Perm (written c)) :
    (overridden env).Perm (Leaf.all.map Leaf.dotted) := by
  rw [overridden_eq]
  have := h.map (·.1)
  rwa [written, List.map_map] at this

/-- An environment with a value for each setting, and no file, are sources for a configuration. -/
theorem layers_of_written (h : (overrides env).Perm (written c)) : Layers files none env [] where
  file     := rfl
  plain    := fun _ he => by cases he
  sections := fun _ _ _ hv => by cases hv
  leaf     := fun name hn => by
    obtain ⟨l, -, rfl⟩ := List.mem_map.mp ((overridden_perm h).mem_iff.mp hn)
    exact ⟨l, rfl⟩
  once     := (overridden_perm h).nodup_iff.mpr (by decide +kernel)

theorem override?_of_written (h : (overrides env).Perm (written c)) (l : Leaf) :
    override? env l = some (settingOfValue l.dotted (l.write (l.get c))) := by
  have once := (layers_of_written h : Layers (fun _ => .error .notFound) none env []).once
  rw [override?]
  refine lookup_of_mem (by rwa [names_environmentSettings]) ?_
  rw [environmentSettings_eq]
  exact List.mem_map_of_mem
    (h.mem_iff.mpr (List.mem_map_of_mem (Leaf.mem_all l)) :
      (l.dotted, l.write (l.get c)) ∈ overrides env)

theorem resolve?_of_written (h : (overrides env).Perm (written c)) (l : Leaf) :
    l.resolve? (layered env [] l) = l.reread? (l.get c) := by
  rw [layered, override?_of_written h]
  rfl

/-- **Variables.**  An environment that has the eight settings of a valid configuration with a
queue, and overrides nothing else, loads this configuration, without a file, exactly if it is
carried. -/
theorem load_written (valid : c.fault? = none) (some : c.manager.queues ≠ [])
    (range : InRange c) (h : (overrides env).Perm (written c)) :
    load files none env = .ok c ↔ Carried c := by
  rw [(layers_of_written h).load_eq_ok_iff, ← reread?_iff_carried valid some range, Resolved]
  simp only [resolve?_of_written h, valid, and_true]

end

/-- A name of digits comes back without the zeros in front. -/
theorem load_written_zeros :
    let c : Configuration := { manager := { name := "007" } }
    c.fault? = none ∧ c.manager.queues ≠ [] ∧ InRange c ∧
      (overrides (environmentOf c)).Perm (written c) ∧
      load (fun _ => .error .notFound) none (environmentOf c) =
        .ok { manager := { name := "7" } } := by
  intro c
  have same : (overrides (environmentOf c)).Perm (written c) := by
    rw [overrides_environmentOf]
  refine ⟨by decide +kernel, by decide, ⟨by decide, by decide, by decide⟩, same, ?_⟩
  refine ((layers_of_written same).load_eq_ok_iff _).mpr ⟨fun l => ?_, by decide +kernel⟩
  rw [resolve?_of_written same]
  cases l <;> decide +kernel

/-- A name that is a word for a flag, a single queue that is no number, and the greatest limit. -/
theorem load_written_carried :
    let c : Configuration :=
      { manager := { name := "true", queues := ["5E"], maxQueueDepth := 2 ^ 64 - 1 } }
    let env : Environment := ("PATH", "/bin") :: (environmentOf c).reverse
    c.fault? = none ∧ c.manager.queues ≠ [] ∧ InRange c ∧ (overrides env).Perm (written c) ∧
      load (fun _ => .error .notFound) none env = .ok c := by
  intro c env
  have valid : c.fault? = none := by decide +kernel
  have some : c.manager.queues ≠ [] := by decide
  have range : InRange c := ⟨by decide, by decide, by decide⟩
  have same : (overrides env).Perm (written c) := by decide +kernel
  refine ⟨valid, some, range, same, (load_written valid some range same).mpr ⟨?_, ?_, ?_, ?_⟩⟩
  · intro v hv
    have flag : guess? "true" = .some (.flag true) := rfl
    cases flag.symm.trans hv
    rfl
  · intro q single
    cases single
    rfl
  · exact .inr (.inr rfl)
  · exact .inl (by decide)

end Courier.Configuration
