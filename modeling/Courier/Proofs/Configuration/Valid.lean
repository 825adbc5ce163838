import Courier.Proofs.Producer.Accepted
import Courier.Proofs.Queue
import Courier.Proofs.QueueManager.Balance
import Mathlib.Data.List.TakeWhile

/-!
# Courier — Proofs — Valid configurations

Five rules make a configuration valid, and the list of queues has two of its own
(`Configuration.Valid`).  One that breaks some is refused for the first that it breaks
(`Configuration.FirstFault`); in the list of queues that is the first place with a name that is no
queue name or that stood before (`NameFault`).

The list is checked from the front, with the names that were passed so far.  So the check of a list
is that of its first part and then, with the names of that part, of the rest
(`queueListFault?_append`), and a fault is one of its place.

**Validation is exact** (`validate_exact`): which configurations are valid, what the others are
refused for, and what a valid one is good for: the queue manager made from it has the listed queues
and no message, each of them can be opened for sending under a name that is a queue name, and every
producer takes the configured options as they are (`Configuration.Serves`).
-/

namespace Courier

/-! ### Names of white space -/

/-- Nothing is left of a text without the white space at its ends exactly if there is nothing
else. -/
theorem Text.trim_eq_nil_iff (cs : List Char) :
    trimStartChars (trimEndChars cs) = [] ↔ cs.all isBlank = true := by
  -- what the end of the text loses is white space
  have ends : cs.all isBlank = (cs.reverse.dropWhile isBlank).all isBlank := by
    have whole := List.takeWhile_append_dropWhile (p := isBlank) (l := cs.reverse)
    rw [← List.all_reverse, ← whole, List.all_append, List.all_takeWhile, Bool.true_and, whole]
  rw [trimStartChars, List.dropWhile_eq_nil_iff, ← List.all_eq_true, trimEndChars,
    List.all_reverse, ends]

/-! ### Lists of queues -/

/-- What is wrong with a name in a list of queues, after those before it: it is no queue name, or
it is one of them. -/
inductive NameFault (before : List String) (name : String) : ConfigurationError → Prop where
  | misnamed {e : ValidationError} (h : Misnamed name e) :
      NameFault before name (.invalid ("queue_manager.queues: '" ++ name ++ "': " ++ e.display))
  | repeated (valid : IsQueueName name) (h : name ∈ before) :
      NameFault before name (.invalid ("queue_manager.queues: '" ++ name ++ "' is defined twice"))

theorem NameFault.congr {before before' : List String} {name : String} {e : ConfigurationError}
    (same : ∀ n, n ∈ before → n ∈ before') (h : NameFault before name e) :
    NameFault before' name e := by
  cases h with
  | misnamed h => exact .misnamed h
  | repeated valid h => exact .repeated valid (same _ h)

/-- A list without a fault has queue names only, each once and none seen before. -/
theorem queueListFault?_eq_none_iff {seen names : List String} :
    queueListFault? seen names = none ↔
      (∀ n ∈ names, IsQueueName n) ∧ names.Nodup ∧ ∀ n ∈ names, n ∉ seen := by
  induction names generalizing seen with
  | nil => simp [queueListFault?]
  | cons name names ih =>
      rw [queueListFault?]
      cases read : Queue.ofName name with
      | error e =>
          have wrong : ¬ IsQueueName name := fun valid => by
            obtain ⟨q, ok⟩ := Queue.exists_ofName_iff.mpr valid
            rw [read] at ok
            cases ok
          simp [wrong]
      | ok q =>
          have valid : IsQueueName name := Queue.exists_ofName_iff.mp ⟨q, read⟩
          by_cases old : name ∈ seen
          · simp [old]
          · simp only [if_neg old]
            -- for the rest this name is one that was seen, which is what keeps it from coming again
            rw [ih, List.forall_mem_cons, List.forall_mem_cons, List.nodup_cons]
            constructor
            · rintro ⟨others, unique, new⟩
              have once : name ∉ names := fun again => new name again (List.mem_cons_self ..)
              exact ⟨⟨valid, others⟩, ⟨once, unique⟩, old,
                fun n hn seen => new n hn (List.mem_cons_of_mem _ seen)⟩
            · rintro ⟨⟨-, others⟩, ⟨once, unique⟩, -, new⟩
              refine ⟨others, unique, fun n hn seen => ?_⟩
              rcases List.mem_cons.mp seen with rfl | seen
              · exact once hn
              · exact new n hn seen

theorem queueListFault?_append (seen first rest : List String) :
    queueListFault? seen (first ++ rest) =
      (queueListFault? seen first).or (queueListFault? (first.reverse ++ seen) rest) := by
  induction first generalizing seen with
  | nil => simp [queueListFault?]
  | cons name first ih =>
      rw [List.cons_append, queueListFault?, queueListFault?]
      cases Queue.ofName name with
      | error e => rfl
      | ok q =>
          by_cases old : name ∈ seen
          · simp [old]
          · simp [old, ih]

/-- A list that starts with a wrong name has the fault of that name. -/
theorem queueListFault?_of_nameFault {seen : List String} {name : String} {e : ConfigurationError}
    (h : NameFault seen name e) (rest : List String) :
    queueListFault? seen (name :: rest) = some e := by
  rw [queueListFault?]
  cases h with
  | misnamed h => rw [Queue.ofName_eq_error_iff.mpr h]
  | repeated valid h =>
      obtain ⟨q, ok⟩ := Queue.exists_ofName_iff.mpr valid
      rw [ok]
      exact if_pos h

/-- The fault of a list is that of its first wrong name. -/
theorem queueListFault?_eq_some_iff {seen names : List String} {e : ConfigurationError} :
    queueListFault? seen names = some e ↔
      ∃ before name rest, names = before ++ name :: rest ∧ queueListFault? seen before = none ∧
        NameFault (before.reverse ++ seen) name e := by
  constructor
  · intro h
    induction names generalizing seen with
    | nil => cases h
    | cons name names ih =>
        rw [queueListFault?] at h
        cases read : Queue.ofName name with
        | error e' =>
            rw [read] at h
            cases h
            exact ⟨[], name, names, rfl, rfl, .misnamed (Queue.ofName_eq_error_iff.mp read)⟩
        | ok q =>
            have valid : IsQueueName name := Queue.exists_ofName_iff.mp ⟨q, read⟩
            rw [read] at h
            by_cases old : name ∈ seen
            · simp only [if_pos old] at h
              cases h
              exact ⟨[], name, names, rfl, rfl, .repeated valid old⟩
            · simp only [if_neg old] at h
              obtain ⟨before, n, rest, rfl, fine, fault⟩ := ih h
              refine ⟨name :: before, n, rest, rfl, ?_, ?_⟩
              · simp only [queueListFault?, read, if_neg old, fine]
              · rwa [List.reverse_cons, List.append_assoc]
  · rintro ⟨before, name, rest, rfl, fine, fault⟩
    rw [queueListFault?_append, fine, Option.none_or]
    exact queueListFault?_of_nameFault fault rest

namespace Configuration

/-! ### Configurations -/

/-- The rules for a configuration. -/
structure Valid (c : Configuration) : Prop where
  timeToLive : 0 ≤ c.producer.timeToLive
  name       : Text.trimStartChars (Text.trimEndChars c.manager.name.toList) ≠ []
  depth      : 1 ≤ c.manager.maxQueueDepth
  length     : 1 ≤ c.manager.maxMessageLength
  queues     : ∀ n ∈ c.manager.queues, IsQueueName n
  distinct   : c.manager.queues.Nodup

/-- The first rule that a configuration breaks, as it is told. -/
inductive FirstFault (c : Configuration) : ConfigurationError → Prop where
  | timeToLive (h : c.producer.timeToLive < 0) :
      FirstFault c
        (.invalid
          ("producer.time_to_live_ms must not be negative, got " ++ toString c.producer.timeToLive))
  | name (time : 0 ≤ c.producer.timeToLive)
      (h : Text.trimStartChars (Text.trimEndChars c.manager.name.toList) = []) :
      FirstFault c (.missing "queue_manager.name")
  | depth (time : 0 ≤ c.producer.timeToLive)
      (name : Text.trimStartChars (Text.trimEndChars c.manager.name.toList) ≠ [])
      (h : c.manager.maxQueueDepth = 0) :
      FirstFault c (.invalid "queue_manager.max_queue_depth must be greater than zero")
  | length (time : 0 ≤ c.producer.timeToLive)
      (name : Text.trimStartChars (Text.trimEndChars c.manager.name.toList) ≠ [])
      (depth : 1 ≤ c.manager.maxQueueDepth) (h : c.manager.maxMessageLength = 0) :
      FirstFault c (.invalid "queue_manager.max_message_length must be greater than zero")
  | queues (time : 0 ≤ c.producer.timeToLive)
      (name : Text.trimStartChars (Text.trimEndChars c.manager.name.toList) ≠ [])
      (depth : 1 ≤ c.manager.maxQueueDepth) (length : 1 ≤ c.manager.maxMessageLength)
      {before rest : List String} {n : String} {e : ConfigurationError}
      (place : c.manager.queues = before ++ n :: rest) (valid : ∀ m ∈ before, IsQueueName m)
      (distinct : before.Nodup) (h : NameFault before n e) : FirstFault c e

/-- A trimmed name is checked for white space alone. -/
theorem isBlankText_iff {name : String} :
    Text.isBlankText name = true ↔ Text.trimStartChars (Text.trimEndChars name.toList) = [] :=
  (Text.trim_eq_nil_iff name.toList).symm

/-- A list that is checked from its front starts with nothing seen. -/
theorem queueListFault?_nil_eq_none_iff {names : List String} :
    queueListFault? [] names = none ↔ (∀ n ∈ names, IsQueueName n) ∧ names.Nodup := by
  simp [queueListFault?_eq_none_iff]

theorem fault?_eq_none_iff {c : Configuration} : c.fault? = none ↔ c.Valid := by
  unfold fault? ManagerOptions.fault?
  constructor
  · intro h
    split_ifs at h with time name depth length
    obtain ⟨queues, distinct⟩ := queueListFault?_nil_eq_none_iff.mp h
    exact ⟨Int.not_lt.mp time, mt isBlankText_iff.mpr name, Nat.one_le_iff_ne_zero.mpr depth,
      Nat.one_le_iff_ne_zero.mpr length, queues, distinct⟩
  · intro valid
    rw [if_neg (Int.not_lt.mpr valid.timeToLive), if_neg (mt isBlankText_iff.mp valid.name),
      if_neg (Nat.one_le_iff_ne_zero.mp valid.depth),
      if_neg (Nat.one_le_iff_ne_zero.mp valid.length)]
    exact queueListFault?_nil_eq_none_iff.mpr ⟨valid.queues, valid.distinct⟩

/-- The rules are checked in order, and each rule that is passed is one that holds. -/
theorem fault?_eq_some_iff {c : Configuration} {e : ConfigurationError} :
    c.fault? = some e ↔ c.FirstFault e := by
  unfold fault? ManagerOptions.fault?
  constructor
  · intro h
    split_ifs at h with time name depth length
    · cases h
      exact .timeToLive time
    · cases h
      exact .name (Int.not_lt.mp time) (isBlankText_iff.mp name)
    · cases h
      exact .depth (Int.not_lt.mp time) (mt isBlankText_iff.mpr name) depth
    · cases h
      exact .length (Int.not_lt.mp time) (mt isBlankText_iff.mpr name)
        (Nat.one_le_iff_ne_zero.mpr depth) length
    · obtain ⟨before, n, rest, place, fine, fault⟩ := queueListFault?_eq_some_iff.mp h
      obtain ⟨valid, distinct⟩ := queueListFault?_nil_eq_none_iff.mp fine
      exact .queues (Int.not_lt.mp time) (mt isBlankText_iff.mpr name)
        (Nat.one_le_iff_ne_zero.mpr depth) (Nat.one_le_iff_ne_zero.mpr length) place valid distinct
        (fault.congr (by simp))
  · intro h
    cases h with
    | timeToLive h => rw [if_pos h]
    | name time h => rw [if_neg (Int.not_lt.mpr time), if_pos (isBlankText_iff.mpr h)]
    | depth time name h =>
        rw [if_neg (Int.not_lt.mpr time), if_neg (mt isBlankText_iff.mp name), if_pos h]
    | length time name depth h =>
        rw [if_neg (Int.not_lt.mpr time), if_neg (mt isBlankText_iff.mp name),
          if_neg (Nat.one_le_iff_ne_zero.mp depth), if_pos h]
    | queues time name depth length place valid distinct h =>
        rw [if_neg (Int.not_lt.mpr time), if_neg (mt isBlankText_iff.mp name),
          if_neg (Nat.one_le_iff_ne_zero.mp depth), if_neg (Nat.one_le_iff_ne_zero.mp length)]
        exact queueListFault?_eq_some_iff.mpr ⟨_, _, _, place,
          queueListFault?_nil_eq_none_iff.mpr ⟨valid, distinct⟩, h.congr (by simp)⟩

theorem validate_eq_ok_iff {c c' : Configuration} :
    c.validate = .ok c' ↔ c = c' ∧ c.fault? = none := by
  rw [validate]
  cases c.fault? with
  | none => simp
  | some e => simp

theorem validate_eq_error_iff {c : Configuration} {e : ConfigurationError} :
    c.validate = .error e ↔ c.fault? = some e := by
  rw [validate]
  cases c.fault? with
  | none => simp
  | some e' => simp

/-! ### What a valid configuration is good for -/

/-- What a session finds that is made from the configuration. -/
structure Serves (c : Configuration) : Prop where
  /-- The queue manager has the listed queues, as many as are listed, and all are empty. -/
  queues    : (QueueManager.ofOptions c.manager).queues =
    c.manager.queues.map fun n => (n, ({} : LocalQueue))
  unique    : (QueueManager.ofOptions c.manager).queues.names.Nodup
  /-- Each is opened for sending, under the name of a queue. -/
  openable  : ∀ n ∈ c.manager.queues, ∃ q : Queue, Queue.ofName n = .ok q ∧
    ((QueueManager.ofOptions c.manager).openQueue q.name .forSend).1 =
      .ok ⟨q.name, .forSend, false⟩
  /-- Every producer takes the options as they are, and nothing is logged about them. -/
  configure : ∀ p : Producer,
    p.configure c.producer =
      { p with
        deliveryMode := c.producer.deliveryMode
        timeToLive   := c.producer.timeToLive } ∧
    p.configureEvents c.producer = []

end Configuration

/-- Queues that are defined one by one stand in the table in that order. -/
theorem QueueTable.foldl_define {t : QueueTable} {names : List String} (distinct : names.Nodup)
    (new : ∀ n ∈ names, ¬ t.defined n) :
    names.foldl define t = t ++ names.map fun n => (n, ({} : LocalQueue)) := by
  induction names generalizing t with
  | nil => simp
  | cons name names ih =>
      obtain ⟨once, distinct⟩ := List.nodup_cons.mp distinct
      -- a new name goes to the end, and the names after it are still new
      have first : t.define name = t ++ [(name, ({} : LocalQueue))] :=
        if_neg (new name (List.mem_cons_self ..))
      rw [List.foldl_cons, ih distinct, first, List.append_assoc]
      · rfl
      · intro n hn
        rw [defined_define]
        rintro (rfl | old)
        · exact once hn
        · exact new n (List.mem_cons_of_mem _ hn) old

namespace Configuration

theorem Valid.serves {c : Configuration} (valid : c.Valid) : c.Serves := by
  have balanced := QueueManager.balanced_ofOptions c.manager
  refine ⟨?_, balanced.unique, fun n hn => ?_, fun p => ⟨?_, ?_⟩⟩
  · have none (n : String) (_ : n ∈ c.manager.queues) : ¬ QueueTable.defined [] n := nofun
    exact QueueTable.foldl_define valid.distinct none
  · obtain ⟨q, named⟩ := Queue.exists_ofName_iff.mpr (valid.queues n hn)
    have found : (QueueManager.ofOptions c.manager).queues.defined q.name := by
      rw [QueueManager.defined_ofOptions, Queue.ofName_eq_ok_iff.mp named]
      exact hn
    have running : (QueueManager.ofOptions c.manager).quiescing = false := rfl
    have opens : (QueueManager.ofOptions c.manager).openRefusal? q.name .forSend = none :=
      QueueManager.openRefusal?_eq_none_iff.mpr ⟨by simp [running], Or.inl found⟩
    exact ⟨q, named, by rw [QueueManager.openQueue_eq balanced.there opens]⟩
  · rw [Producer.configure, Producer.setTimeToLive_eq, if_pos valid.timeToLive]
    rfl
  · exact if_pos valid.timeToLive

/-- **Validation is exact.**  A configuration is valid if its time to live is not negative, the name
of its queue manager is more than white space, both limits are at least 1, and its queues have queue
names, each another.  Otherwise it is refused for the first rule that it breaks, in that order, and
in the list of queues for the first name that is no queue name or stood there before.  A valid one
makes a queue manager that has the listed queues, empty and open to senders, and gives every
producer its options. -/
theorem validate_exact (c : Configuration) :
    (c.validate = .ok c ↔ c.Valid) ∧
    (∀ e, c.validate = .error e ↔ c.FirstFault e) ∧
    (c.validate = .ok c → c.Serves) := by
  have ok : c.validate = .ok c ↔ c.Valid := by
    rw [validate_eq_ok_iff, fault?_eq_none_iff]
    exact and_iff_right rfl
  refine ⟨ok, fun e => ?_, fun passes => (ok.mp passes).serves⟩
  rw [validate_eq_error_iff, fault?_eq_some_iff]

end Configuration

end Courier
