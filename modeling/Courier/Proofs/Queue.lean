import Courier.Queue.Json
import Courier.Text.Alphanumeric

/-!
# Courier — Proofs — Names and forms of queues

A queue name is 1 to 48 bytes of ASCII letters, digits and four marks (`IsQueueName`), and a text
that is no name is refused for the first of three rules that it breaks (`Misnamed`).

The URI of a queue may repeat its scheme (`uri`).  Reading takes schemes off from the front for as
long as there are any (`Queue.exists_dropSchemes`), and a name never starts with one, because the
colon is no character of a name.  So what is left is the name, however many schemes stood before it
(`Queue.dropSchemes_copies`).

**Names and forms** (`queue_forms`): which texts are names, what the others are refused for, which
texts are read as which queue, and that every written form of a queue is read as that queue.
-/

namespace Courier

/-! ### Names -/

/-- The characters of a queue name. -/
def IsNameChar (c : Char) : Prop :=
  ('A' ≤ c ∧ c ≤ 'Z') ∨ ('a' ≤ c ∧ c ≤ 'z') ∨ ('0' ≤ c ∧ c ≤ '9') ∨ c ∈ ['.', '/', '_', '%']

/-- A text that is the name of a queue. -/
structure IsQueueName (s : String) : Prop where
  nonempty  : 1 ≤ s.utf8ByteSize
  length_le : s.utf8ByteSize ≤ 48
  chars     : ∀ c ∈ s.toList, IsNameChar c

/-- The first rule that a text breaks which is no name: it is empty, it is too long, or it has a
wrong character. -/
inductive Misnamed (s : String) : ValidationError → Prop where
  | empty (h : s = "") : Misnamed s (.required "queue_name")
  | tooLong (h : 48 < s.utf8ByteSize) :
      Misnamed s (.outOfRange "queue_name" "must be at most 48 characters")
  | wrongChar (nonempty : 1 ≤ s.utf8ByteSize) (length_le : s.utf8ByteSize ≤ 48) {c : Char}
      (hc : c ∈ s.toList) (wrong : ¬ IsNameChar c) :
      Misnamed s
        (.invalidFormat "queue_name" "only ASCII alphanumeric, '.', '/', '_' and '%' allowed")

theorem isQueueNameChar_iff {c : Char} : isQueueNameChar c = true ↔ IsNameChar c := by
  simp [isQueueNameChar, IsNameChar, Text.isAlphanum_iff, or_assoc]

theorem utf8ByteSize_pos_iff {s : String} : 1 ≤ s.utf8ByteSize ↔ s ≠ "" := by
  rw [Nat.one_le_iff_ne_zero, ne_eq, String.utf8ByteSize_eq_zero_iff]

theorem validQueueName_iff {s : String} : ValidQueueName s ↔ IsQueueName s := by
  simp only [ValidQueueName, maxQueueNameBytes, List.all_eq_true, isQueueNameChar_iff,
    ← utf8ByteSize_pos_iff]
  exact ⟨fun ⟨h₁, h₂, h₃⟩ => ⟨h₁, h₂, h₃⟩, fun ⟨h₁, h₂, h₃⟩ => ⟨h₁, h₂, h₃⟩⟩

/-- A character that is in no name is not in this one. -/
theorem IsQueueName.not_mem {s : String} (h : IsQueueName s) {c : Char}
    (wrong : isQueueNameChar c = false) : c ∉ s.toList := by
  intro mem
  rw [isQueueNameChar_iff.mpr (h.chars c mem)] at wrong
  cases wrong

namespace Queue

theorem ofName_eq_ok_iff {name : String} {q : Queue} : ofName name = .ok q ↔ q.name = name := by
  constructor
  · intro h
    unfold ofName at h
    repeat' split at h
    all_goals cases h
    rfl
  · rintro rfl
    obtain ⟨name, nonempty, length_le, chars⟩ := q
    simp [ofName, nonempty, Nat.not_lt.mpr length_le, chars]

theorem exists_ofName_iff {name : String} : (∃ q, ofName name = .ok q) ↔ IsQueueName name := by
  simp only [ofName_eq_ok_iff, ← validQueueName_iff]
  constructor
  · rintro ⟨q, rfl⟩
    exact q.valid
  · exact fun valid => ⟨⟨name, valid⟩, rfl⟩

/-- A text is refused for the first rule that it breaks. -/
theorem ofName_eq_error_iff {name : String} {e : ValidationError} :
    ofName name = .error e ↔ Misnamed name e := by
  constructor
  · intro h
    unfold ofName at h
    split at h
    · cases h
      exact .empty ‹_›
    · rename_i nonempty
      split at h
      · cases h
        exact .tooLong ‹_›
      · rename_i length_le
        split at h
        · cases h
        · rename_i chars
          cases h
          obtain ⟨c, hc, wrong⟩ : ∃ c ∈ name.toList, ¬ isQueueNameChar c := by
            simpa using chars
          exact .wrongChar (utf8ByteSize_pos_iff.mpr nonempty) (Nat.le_of_not_lt length_le) hc
            (mt isQueueNameChar_iff.mpr wrong)
  · intro h
    cases h with
    | empty h => rw [h]; rfl
    | tooLong h =>
        have nonempty : name ≠ "" := utf8ByteSize_pos_iff.mp (Nat.one_le_of_lt h)
        simp [ofName, nonempty, maxQueueNameBytes, h, field]
    | wrongChar nonempty length_le hc wrong =>
        have chars : ¬ name.toList.all isQueueNameChar := fun all =>
          wrong (isQueueNameChar_iff.mp (List.all_eq_true.mp all _ hc))
        simp only [ofName, utf8ByteSize_pos_iff.mp nonempty, maxQueueNameBytes,
          Nat.not_lt.mpr length_le, chars, Bool.false_eq_true, dite_false, field]

/-! ### URIs -/

/-- A name after so many schemes. -/
def uri (schemes : Nat) (name : String) : String :=
  String.join (List.replicate schemes "queue:///") ++ name

/-- So many schemes. -/
def copies (schemes : Nat) : List Char := (List.replicate schemes scheme).flatten

theorem toList_uri (k : Nat) (name : String) : (uri k name).toList = copies k ++ name.toList := by
  have each : (List.replicate k "queue:///").flatMap String.toList = copies k := by
    rw [List.flatMap_def, List.map_replicate]; rfl
  rw [uri, String.toList_append, String.toList_join, each]

theorem copies_succ (k : Nat) : copies (k + 1) = scheme ++ copies k := by
  rw [copies, List.replicate_succ, List.flatten_cons, copies]

theorem le_length_copies (k : Nat) : k ≤ (copies k).length := by
  induction k with
  | zero => exact Nat.zero_le _
  | succ k ih =>
      rw [copies_succ, List.length_append]
      have : scheme.length = 9 := by decide
      omega

/-- What is taken off are schemes. -/
theorem exists_dropSchemes (fuel : Nat) (cs : List Char) :
    ∃ k, cs = copies k ++ dropSchemes fuel cs := by
  induction fuel generalizing cs with
  | zero => exact ⟨0, rfl⟩
  | succ fuel ih =>
      rw [dropSchemes]
      split
      · rename_i starts
        obtain ⟨rest, rfl⟩ := List.isPrefixOf_iff_prefix.mp starts
        obtain ⟨k, hk⟩ := ih rest
        refine ⟨k + 1, ?_⟩
        rw [List.drop_left, copies_succ, List.append_assoc, ← hk]
      · exact ⟨0, rfl⟩

/-- All schemes are taken off. -/
theorem dropSchemes_copies {cs : List Char} (h : ¬ scheme <+: cs) {k fuel : Nat} (hk : k ≤ fuel) :
    dropSchemes fuel (copies k ++ cs) = cs := by
  induction k generalizing fuel with
  | zero =>
      have stop : scheme.isPrefixOf cs = false := by
        rwa [← Bool.not_eq_true, List.isPrefixOf_iff_prefix]
      cases fuel with
      | zero => rfl
      | succ fuel => simp [copies, dropSchemes, stop]
  | succ k ih =>
      cases fuel with
      | zero => cases hk
      | succ fuel =>
          -- one step of fuel takes one scheme off
          have starts : scheme.isPrefixOf (scheme ++ (copies k ++ cs)) = true :=
            List.isPrefixOf_iff_prefix.mpr (List.prefix_append _ _)
          rw [copies_succ, List.append_assoc, dropSchemes, if_pos starts, List.drop_left]
          exact ih (Nat.le_of_succ_le_succ hk)

/-- A name has no colon, and so no scheme. -/
theorem scheme_not_prefix (q : Queue) : ¬ scheme <+: q.name.toList := by
  intro starts
  have colon : ':' ∈ q.name.toList := starts.subset (by decide)
  exact (validQueueName_iff.mp q.valid).not_mem (by decide) colon

/-- A text is read as the queue whose name is left without its schemes. -/
theorem parse_eq_ok_iff {s : String} {q : Queue} : parse s = .ok q ↔ ∃ k, s = uri k q.name := by
  rw [parse, ofName_eq_ok_iff]
  constructor
  · intro left
    obtain ⟨k, hk⟩ := exists_dropSchemes s.length s.toList
    refine ⟨k, String.toList_inj.mp ?_⟩
    rw [toList_uri, left, String.toList_ofList]
    exact hk
  · rintro ⟨k, rfl⟩
    -- the fuel is the length of the text, and no scheme is empty
    have enough : k ≤ (uri k q.name).length := by
      rw [← String.length_toList, toList_uri, List.length_append]
      exact Nat.le_add_right_of_le (le_length_copies k)
    rw [toList_uri, dropSchemes_copies q.scheme_not_prefix enough, String.ofList_toList]

theorem parse_uri (k : Nat) (q : Queue) : parse (uri k q.name) = .ok q :=
  parse_eq_ok_iff.mpr ⟨k, rfl⟩

theorem display_eq (q : Queue) : q.display = uri 1 q.name := by
  simp [display, uri]

end Queue

/-- **Names and forms.**  A text names a queue if it is 1 to 48 bytes of the characters of names,
and is refused otherwise, for the first rule that it breaks.  What is read as a queue is its name
after any number of schemes, and no text is that for two queues.  So the URI, the bare name and the
JSON text of a queue are all read as that queue, and two queues have two URIs. -/
theorem queue_forms :
    (∀ s, (∃ q, Queue.ofName s = .ok q) ↔ IsQueueName s) ∧
    (∀ s q, Queue.ofName s = .ok q → q.name = s) ∧
    (∀ s e, Queue.ofName s = .error e ↔ Misnamed s e) ∧
    (∀ s q, Queue.parse s = .ok q ↔ ∃ k, s = Queue.uri k q.name) ∧
    (∀ (q q' : Queue) (k k' : Nat), Queue.uri k q.name = Queue.uri k' q'.name → q = q') ∧
    (∀ q : Queue, Queue.parse q.display = .ok q ∧ Queue.parse q.name = .ok q ∧
      Queue.ofJson? q.toJson = some (.ok q) ∧
      ∃ text, q.toJson = .str text ∧ Queue.parse text = .ok q) ∧
    Function.Injective Queue.display := by
  have unique (q q' : Queue) (k k' : Nat) (h : Queue.uri k q.name = Queue.uri k' q'.name) :
      q = q' := by
    have read := Queue.parse_uri k q
    rw [h, Queue.parse_uri k' q'] at read
    exact (Except.ok.inj read).symm
  refine ⟨fun s => Queue.exists_ofName_iff, fun s q => Queue.ofName_eq_ok_iff.mp,
    fun s e => Queue.ofName_eq_error_iff, fun s q => Queue.parse_eq_ok_iff, unique, fun q => ?_,
    fun q q' same => ?_⟩
  · have bare : Queue.parse q.name = .ok q := Queue.parse_uri 0 q
    refine ⟨?_, bare, ?_, q.name, rfl, bare⟩
    · rw [Queue.display_eq]
      exact Queue.parse_uri 1 q
    · exact congrArg some (Queue.ofName_eq_ok_iff.mpr rfl)
  · rw [Queue.display_eq, Queue.display_eq] at same
    exact unique q q' 1 1 same

end Courier
