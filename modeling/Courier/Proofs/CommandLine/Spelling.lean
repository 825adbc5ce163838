import Courier.CommandLine
import Courier.Proofs.Except
import Courier.Proofs.Named
import Courier.Proofs.Text.Span
import Mathlib.Data.List.TakeWhile

/-!
# Courier — Proofs — How options are spelled

An option is given with its value (`Given`), and an argument spells one or more of them
(`Spelled`): `--name`, `--name=value`, or letters behind one hyphen.  The last one that an argument
spells may be waiting for its value, which is then the next argument, and that may not look like an
option.  So a list of arguments spells a list of options, in the same order (`Spells`); nothing here
says how the arguments are read.

Reading keeps an option with its value until it has looked at the next argument.  What it takes in
the end are the options that the arguments spell, one after the other (`Scan.takeAll`), and it goes
on exactly if they can be taken: no option comes twice, no value has a fault, and none of them is a
request for help (`Scan.takeAll_eq_ok_iff`).

**What one argument is read as**: letters behind one hyphen (`Scan.letters_eq_ok_iff`) and a name
behind two (`Scan.long_eq_ok_iff`) are read as the options that they spell, after what was kept from
the argument before is taken (`Scan.read`).
-/

namespace Courier.CommandLine

/-! ### Options and their spellings -/

/-- An option of a command line with its value; that of a flag is empty. -/
structure Given where
  spec  : OptionSpec
  value : String

/-- What is noted when the option is read. -/
def Given.entry (g : Given) : String × String := (g.spec.name, g.value)

/-- The value is one that the option can have. -/
def Given.Fits (g : Given) : Prop :=
  g.spec.kind = .flag ∨ ∃ kind, g.spec.kind = .value kind ∧ kind.fault? g.value = none

namespace OptionSpec

def TakesValue (spec : OptionSpec) : Prop := ∃ kind, spec.kind = .value kind

/-- The argument may stand behind the option as its value: it does not start like an option, or it
is a negative number and the option takes those. -/
def MayTake (spec : OptionSpec) (arg : String) : Prop :=
  arg = "-" ∨ arg.toList.head? ≠ some '-' ∨
    spec.negative = true ∧ ∃ digits, arg.toList = '-' :: digits ∧
      Scan.isNumberFrom false false true digits = true

end OptionSpec

/-- Letters behind one hyphen, the options that they spell, and the one that waits for its value. -/
inductive SpelledLetters (specs : List OptionSpec) :
    List Char → List Given → Option OptionSpec → Prop where
  | nil : SpelledLetters specs [] [] none
  | flag {c : Char} {cs : List Char} {spec : OptionSpec} {gs : List Given}
      {waiting : Option OptionSpec} (named : specs.find? (·.letter = some c) = some spec)
      (alone : ¬ spec.TakesValue) (rest : SpelledLetters specs cs gs waiting) :
      SpelledLetters specs (c :: cs) (⟨spec, ""⟩ :: gs) waiting
  | waiting {c : Char} {spec : OptionSpec} (named : specs.find? (·.letter = some c) = some spec)
      (takes : spec.TakesValue) : SpelledLetters specs [c] [] (some spec)
  | assigned {c : Char} {value : List Char} {spec : OptionSpec}
      (named : specs.find? (·.letter = some c) = some spec) (takes : spec.TakesValue) :
      SpelledLetters specs (c :: '=' :: value) [⟨spec, String.ofList value⟩] none
  | attached {c first : Char} {value : List Char} {spec : OptionSpec}
      (named : specs.find? (·.letter = some c) = some spec) (takes : spec.TakesValue)
      (plain : first ≠ '=') :
      SpelledLetters specs (c :: first :: value) [⟨spec, String.ofList (first :: value)⟩] none

/-- An argument, the options that it spells, and the one that waits for its value. -/
inductive Spelled (specs : List OptionSpec) : String → List Given → Option OptionSpec → Prop where
  | flag {name : String} {spec : OptionSpec} (nonempty : name ≠ "") (plain : '=' ∉ name.toList)
      (named : specs.find? (·.name = name) = some spec) (alone : ¬ spec.TakesValue) :
      Spelled specs ("--" ++ name) [⟨spec, ""⟩] none
  | waiting {name : String} {spec : OptionSpec} (nonempty : name ≠ "") (plain : '=' ∉ name.toList)
      (named : specs.find? (·.name = name) = some spec) (takes : spec.TakesValue) :
      Spelled specs ("--" ++ name) [] (some spec)
  | assigned {name value : String} {spec : OptionSpec} (plain : '=' ∉ name.toList)
      (named : specs.find? (·.name = name) = some spec) (takes : spec.TakesValue) :
      Spelled specs ("--" ++ name ++ "=" ++ value) [⟨spec, value⟩] none
  | letters {c : Char} {cs : List Char} {gs : List Given} {waiting : Option OptionSpec}
      (single : c ≠ '-') (spelled : SpelledLetters specs (c :: cs) gs waiting) :
      Spelled specs (String.ofList ('-' :: c :: cs)) gs waiting

theorem Spelled.letters_inv {specs : List OptionSpec} {c : Char} {cs : List Char}
    {gs : List Given} {waiting : Option OptionSpec} (single : c ≠ '-')
    (h : Spelled specs (String.ofList ('-' :: c :: cs)) gs waiting) :
    SpelledLetters specs (c :: cs) gs waiting := by
  generalize arg : String.ofList ('-' :: c :: cs) = text at h
  have chars : text.toList = '-' :: c :: cs := by rw [← arg, String.toList_ofList]
  cases h with
  | letters single spelled =>
      rw [String.toList_ofList] at chars
      cases chars
      exact spelled
  | flag | waiting | assigned => simp [single.symm] at chars

/-- Arguments and the options that they spell, after an option that waits for its value or none. -/
inductive Spells (specs : List OptionSpec) :
    Option OptionSpec → List String → List Given → Prop where
  | nil : Spells specs none [] []
  | marked : Spells specs none ["--"] []
  | options {arg : String} {args : List String} {gs gs' : List Given}
      {waiting : Option OptionSpec} (spelled : Spelled specs arg gs waiting)
      (rest : Spells specs waiting args gs') : Spells specs none (arg :: args) (gs ++ gs')
  | value {arg : String} {args : List String} {spec : OptionSpec} {gs : List Given}
      (may : spec.MayTake arg) (rest : Spells specs none args gs) :
      Spells specs (some spec) (arg :: args) (⟨spec, arg⟩ :: gs)

/-! ### Taking options -/

namespace Scan

variable {s s' t : Scan} {spec : OptionSpec} {value : String} {gs gs' : List Given}
  {waiting : Option OptionSpec}

/-- Takes options one after the other. -/
def takeAll (gs : List Given) (s : Scan) : Except Usage Scan :=
  gs.foldlM (fun s g => s.take g.spec g.value) s

theorem takeAll_nil (s : Scan) : s.takeAll [] = .ok s := rfl

theorem takeAll_cons (g : Given) (gs : List Given) (s : Scan) :
    s.takeAll (g :: gs) = (s.take g.spec g.value).bind (·.takeAll gs) := rfl

theorem takeAll_append (gs gs' : List Given) (s : Scan) :
    s.takeAll (gs ++ gs') = (s.takeAll gs).bind (·.takeAll gs') :=
  List.foldlM_append ..

theorem take_eq_ok_iff :
    s.take spec value = .ok s' ↔
      s.has spec.name = false ∧ Given.Fits ⟨spec, value⟩ ∧
        s' = { s with found := s.found ++ [(spec.name, value)] } := by
  unfold take Given.Fits
  cases s.has spec.name with
  | true => simp
  | false =>
      cases spec.kind with
      | flag => simp [eq_comm]
      | request usage => simp
      | value kind => cases fault : kind.fault? value <;> simp [fault, eq_comm]

theorem has_concat (s : Scan) (name n value : String) :
    ({ s with found := s.found ++ [(n, value)] } : Scan).has name = (s.has name || name == n) := by
  simp only [has, List.lookup_append, List.lookup_cons, List.lookup_nil]
  cases s.found.lookup name <;> cases name == n <;> rfl

/-- **Options that can be taken.**  They all differ from each other and from those that were taken
before, and their values fit. -/
theorem takeAll_eq_ok_iff :
    s.takeAll gs = .ok s' ↔
      (∀ g ∈ gs, g.Fits ∧ s.has g.spec.name = false) ∧ (gs.map (·.spec.name)).Nodup ∧
        s' = { s with found := s.found ++ gs.map Given.entry } := by
  induction gs generalizing s with
  | nil =>
      rw [takeAll_nil, Except.ok.injEq, eq_comm]
      simp
  | cons g gs ih =>
      rw [takeAll_cons, List.forall_mem_cons, List.map_cons, List.nodup_cons, List.map_cons]
      -- the names of the others are asked for after the first was taken
      have others : (∀ g' ∈ gs, (s.has g'.spec.name || g'.spec.name == g.spec.name) = false) ↔
          (∀ g' ∈ gs, s.has g'.spec.name = false) ∧ g.spec.name ∉ gs.map (·.spec.name) := by
        simp only [Bool.or_eq_false_iff, beq_eq_false_iff_ne, List.mem_map, not_exists, not_and]
        exact forall₂_and
      constructor
      · intro h
        obtain ⟨t, taken, rest⟩ := bind_eq_ok_iff.mp h
        obtain ⟨new, fits, rfl⟩ := take_eq_ok_iff.mp taken
        obtain ⟨each, distinct, rfl⟩ := ih.mp rest
        simp only [has_concat] at each
        obtain ⟨absent, once⟩ := others.mp fun g' hg' => (each g' hg').2
        exact ⟨⟨⟨fits, new⟩, fun g' hg' => ⟨(each g' hg').1, absent g' hg'⟩⟩, ⟨once, distinct⟩,
          by simp [Given.entry]⟩
      · rintro ⟨⟨⟨fits, new⟩, each⟩, ⟨once, distinct⟩, rfl⟩
        have absent := others.mpr ⟨fun g' hg' => (each g' hg').2, once⟩
        refine bind_eq_ok_iff.mpr
          ⟨_, take_eq_ok_iff.mpr ⟨new, fits, rfl⟩, ih.mpr ⟨?_, distinct, ?_⟩⟩
        · exact fun g' hg' => ⟨(each g' hg').1, by rw [has_concat, absent g' hg']⟩
        · simp [Given.entry]

theorem pending_take (h : s.take spec value = .ok s') : s'.pending = s.pending := by
  obtain ⟨-, -, rfl⟩ := take_eq_ok_iff.mp h
  rfl

theorem pending_takeAll (h : s.takeAll gs = .ok s') : s'.pending = s.pending := by
  obtain ⟨-, -, rfl⟩ := takeAll_eq_ok_iff.mp h
  rfl

/-! ### Settling -/

/-- The option that the next argument has to be the value of. -/
def waiting? (s : Scan) : Option OptionSpec :=
  match s.pending with
  | some (spec, none) => some spec
  | _                 => none

/-- The options that are taken before the next argument is looked at. -/
def opened (s : Scan) : Except Usage Scan :=
  match s.pending with
  | some (spec, some value) => { s with pending := none }.take spec value
  | _                       => .ok { s with pending := none }

/-- An option, or none, is left waiting for its value. -/
def leave (waiting : Option OptionSpec) (s : Scan) : Scan :=
  { s with pending := waiting.map (·, none) }

/-- Takes what is pending and then options, and leaves one waiting. -/
def read (gs : List Given) (waiting : Option OptionSpec) (s : Scan) : Except Usage Scan :=
  (s.settle.bind (·.takeAll gs)).map (leave waiting)

theorem pending_settle (h : s.settle = .ok t) : t.pending = none := by
  unfold settle at h
  split at h
  · cases h; assumption
  · cases h
  · exact pending_take h

theorem settle_of_pending (h : s.pending = none) : s.settle = .ok s := by
  rw [settle, h]

theorem waiting?_of_settle (h : s.settle = .ok t) : s.waiting? = none := by
  unfold settle at h
  unfold waiting?
  split at h
  · simp [*]
  · cases h
  · simp [*]

theorem pending_of_waiting? (h : s.waiting? = some spec) : s.pending = some (spec, none) := by
  unfold waiting? at h
  split at h
  · cases h; assumption
  · cases h

theorem settle_eq_opened (h : s.waiting? = none) : s.settle = s.opened := by
  obtain ⟨found, pending⟩ := s
  match pending with
  | none => rfl
  | some (spec, none) => cases h
  | some (spec, some value) => rfl

theorem leave_none (h : s.pending = none) : s.leave none = s := by
  obtain ⟨found, pending⟩ := s
  cases h
  rfl

theorem waiting?_leave (waiting : Option OptionSpec) (s : Scan) :
    (s.leave waiting).waiting? = waiting := by
  cases waiting <;> rfl

theorem opened_leave (h : s.pending = none) (waiting : Option OptionSpec) :
    (s.leave waiting).opened = .ok s := by
  obtain ⟨found, pending⟩ := s
  cases h
  cases waiting <;> rfl

theorem read_eq_ok_iff :
    s.read gs waiting = .ok s' ↔
      ∃ t, s.settle.bind (·.takeAll gs) = .ok t ∧ t.leave waiting = s' :=
  map_eq_ok_iff

theorem read_nil (h : s.pending = none) : s.read [] none = .ok s := by
  rw [read, settle_of_pending h]
  exact congrArg Except.ok (leave_none h)

/-- Nothing is pending after options were taken. -/
theorem pending_settled_takeAll (h : s.settle.bind (·.takeAll gs) = .ok t) : t.pending = none := by
  obtain ⟨u, settled, taken⟩ := bind_eq_ok_iff.mp h
  rw [pending_takeAll taken, pending_settle settled]

theorem pending_read (h : s.read gs none = .ok t) : t.pending = none := by
  obtain ⟨u, -, rfl⟩ := read_eq_ok_iff.mp h
  rfl

theorem waiting?_read (h : s.read gs waiting = .ok s') : s'.waiting? = waiting := by
  obtain ⟨t, -, rfl⟩ := read_eq_ok_iff.mp h
  exact waiting?_leave waiting t

theorem waiting?_of_read (h : s.read gs waiting = .ok s') : s.waiting? = none := by
  obtain ⟨t, taken, -⟩ := read_eq_ok_iff.mp h
  obtain ⟨u, settled, -⟩ := bind_eq_ok_iff.mp taken
  exact waiting?_of_settle settled

theorem read_append (gs gs' : List Given) (waiting : Option OptionSpec) (s : Scan) :
    s.read (gs ++ gs') waiting = (s.read gs none).bind (·.read gs' waiting) := by
  have split : s.settle.bind (·.takeAll (gs ++ gs')) =
      (s.settle.bind (·.takeAll gs)).bind (·.takeAll gs') := by
    cases s.settle with
    | error usage => rfl
    | ok t => exact takeAll_append gs gs' t
  rw [read, split, read]
  cases taken : s.settle.bind (·.takeAll gs) with
  | error usage => rfl
  | ok t =>
      have done := pending_settled_takeAll taken
      have again : (t.leave none).read gs' waiting = (t.takeAll gs').map (leave waiting) := by
        rw [leave_none done, read, settle_of_pending done]
        rfl
      exact again.symm

theorem takeNow_eq_read (spec : OptionSpec) (value : String) (s : Scan) :
    s.takeNow spec value = s.read [⟨spec, value⟩] none := by
  rw [takeNow, read]
  cases settled : s.settle with
  | error usage => rfl
  | ok t =>
      have one : t.takeAll [⟨spec, value⟩] = t.take spec value := by
        rw [takeAll_cons]
        cases t.take spec value <;> rfl
      change t.take spec value = (t.takeAll [⟨spec, value⟩]).map (leave none)
      rw [one]
      cases taken : t.take spec value with
      | error usage => rfl
      | ok u =>
          have done : u.pending = none := by rw [pending_take taken, pending_settle settled]
          exact congrArg Except.ok (leave_none done).symm

theorem await_eq_read (spec : OptionSpec) (s : Scan) : s.await spec = s.read [] (some spec) := by
  rw [await, read]
  cases s.settle <;> rfl

/-! ### Arguments -/

variable {specs : List OptionSpec}

theorem letters_of_value {c : Char} {cs : List Char}
    (named : specs.find? (·.letter = some c) = some spec) (takes : spec.TakesValue) (s : Scan) :
    s.letters specs (c :: cs) =
      match cs with
      | []           => s.read [] (some spec)
      | '=' :: value => s.read [⟨spec, String.ofList value⟩] none
      | value        => s.read [⟨spec, String.ofList value⟩] none := by
  obtain ⟨kind, hk⟩ := takes
  simp only [letters, named, hk, await_eq_read, takeNow_eq_read]
  split <;> simp_all

theorem letters_of_flag {c : Char} {cs : List Char}
    (named : specs.find? (·.letter = some c) = some spec) (alone : ¬ spec.TakesValue) (s : Scan) :
    s.letters specs (c :: cs) = (s.read [⟨spec, ""⟩] none).bind (letters specs cs) := by
  cases hk : spec.kind with
  | value kind => exact absurd ⟨kind, hk⟩ alone
  | flag => simp only [letters, named, hk, takeNow_eq_read]
  | request usage => simp only [letters, named, hk, takeNow_eq_read]

theorem exists_spelled_of_letters {cs : List Char} (h : cs = [] → s.pending = none)
    (done : s.letters specs cs = .ok s') :
    ∃ gs waiting, SpelledLetters specs cs gs waiting ∧ s.read gs waiting = .ok s' := by
  induction cs generalizing s with
  | nil => exact ⟨[], none, .nil, (read_nil (h rfl)).trans done⟩
  | cons c cs ih =>
      cases named : specs.find? (·.letter = some c) with
      | none => simp [letters, named] at done
      | some spec =>
          by_cases takes : spec.TakesValue
          · rw [letters_of_value named takes] at done
            split at done
            · exact ⟨_, _, .waiting named takes, done⟩
            · exact ⟨_, _, .assigned named takes, done⟩
            · rename_i nonempty plain
              obtain ⟨first, value, rfl⟩ := List.exists_cons_of_ne_nil nonempty
              exact ⟨_, _, .attached named takes fun eq => plain value (eq ▸ rfl), done⟩
          · rw [letters_of_flag named takes] at done
            obtain ⟨t, first, rest⟩ := bind_eq_ok_iff.mp done
            obtain ⟨gs, waiting, spelled, more⟩ := ih (fun _ => pending_read first) rest
            have both := bind_eq_ok_iff.mpr ⟨t, first, more⟩
            exact ⟨_, _, .flag named takes spelled, (read_append ..).trans both⟩

theorem letters_of_spelled {cs : List Char} (spelled : SpelledLetters specs cs gs waiting)
    (h : cs = [] → s.pending = none) (done : s.read gs waiting = .ok s') :
    s.letters specs cs = .ok s' := by
  induction spelled generalizing s with
  | nil => exact (read_nil (h rfl)).symm.trans done
  | @flag c cs spec gs waiting named alone spelled ih =>
      have both := (read_append [⟨spec, ""⟩] gs waiting s).symm.trans done
      obtain ⟨t, first, more⟩ := bind_eq_ok_iff.mp both
      rw [letters_of_flag named alone]
      exact bind_eq_ok_iff.mpr ⟨t, first, ih (fun _ => pending_read first) more⟩
  | waiting named takes => rwa [letters_of_value named takes]
  | assigned named takes => rwa [letters_of_value named takes]
  | attached named takes plain =>
      rw [letters_of_value named takes]
      split
      · rename_i eq
        cases eq
      · rename_i eq
        cases eq
        exact absurd rfl plain
      · exact done

/-- **Letters are read as what they spell.** -/
theorem letters_eq_ok_iff {c : Char} {cs : List Char} (single : c ≠ '-') :
    s.letters specs (c :: cs) = .ok s' ↔
      ∃ gs waiting, Spelled specs (String.ofList ('-' :: c :: cs)) gs waiting ∧
        s.read gs waiting = .ok s' := by
  have some : c :: cs = [] → s.pending = none := nofun
  constructor
  · intro done
    obtain ⟨gs, waiting, spelled, taken⟩ := exists_spelled_of_letters some done
    exact ⟨gs, waiting, .letters single spelled, taken⟩
  · rintro ⟨gs, waiting, spelled, taken⟩
    exact letters_of_spelled (spelled.letters_inv single) some taken

/-- An argument has an equals sign behind a name or is the name. -/
theorem exists_name (body : List Char) :
    ∃ name : String, '=' ∉ name.toList ∧
      (body = name.toList ∨ ∃ value : String, body = name.toList ++ '=' :: value.toList) := by
  have cut := List.takeWhile_append_dropWhile (p := (· != '=')) (l := body)
  refine ⟨String.ofList (body.takeWhile (· != '=')), ?_, ?_⟩
  · rw [String.toList_ofList]
    exact fun mem => by cases List.mem_takeWhile_imp mem
  · rw [String.toList_ofList]
    cases rest : body.dropWhile (· != '=') with
    | nil =>
        rw [rest, List.append_nil] at cut
        exact .inl cut.symm
    | cons c value =>
        have stop := List.head_dropWhile_not (p := (· != '=')) (l := body) (by simp [rest])
        simp only [rest, List.head_cons, bne_eq_false_iff_eq] at stop
        subst stop
        rw [rest] at cut
        exact .inr ⟨String.ofList value, by rw [String.toList_ofList, cut]⟩

theorem long_name {name : String} (plain : '=' ∉ name.toList) (s : Scan) :
    s.long specs name.toList =
      match specs.find? (·.name = name) with
      | none      => .error .unknownArgument
      | some spec =>
        match spec.kind with
        | .value _ => s.read [] (some spec)
        | _        => s.read [⟨spec, ""⟩] none := by
  have whole : name.toList.takeWhile (· ≠ '=') = name.toList :=
    List.takeWhile_eq_self_iff.mpr fun c hc => by simpa using fun eq : c = '=' => plain (eq ▸ hc)
  rw [long, whole, List.drop_length, String.ofList_toList]
  cases specs.find? (·.name = name) with
  | none => rfl
  | some spec =>
      cases hk : spec.kind <;> simp only [hk, await_eq_read, takeNow_eq_read]

theorem long_assigned {name : String} (plain : '=' ∉ name.toList) (value : String) (s : Scan) :
    s.long specs (name.toList ++ '=' :: value.toList) =
      match specs.find? (·.name = name) with
      | none      => .error .unknownArgument
      | some spec =>
        match spec.kind with
        | .value _ => s.read [⟨spec, value⟩] none
        | _        => .error .unwantedValue := by
  have whole : (name.toList ++ '=' :: value.toList).takeWhile (· ≠ '=') = name.toList := by
    refine Text.takeWhile_append_of_all (fun c hc => ?_) (by simp)
    simpa using fun eq : c = '=' => plain (eq ▸ hc)
  rw [long, whole, List.drop_left, String.ofList_toList]
  cases specs.find? (·.name = name) with
  | none => rfl
  | some spec =>
      cases hk : spec.kind <;> simp only [hk, takeNow_eq_read, String.ofList_toList]

theorem exists_spelled_of_long {body : List Char} (nonempty : body ≠ [])
    (done : s.long specs body = .ok s') :
    ∃ gs waiting, Spelled specs (String.ofList ('-' :: '-' :: body)) gs waiting ∧
      s.read gs waiting = .ok s' := by
  obtain ⟨name, plain, rfl | ⟨value, rfl⟩⟩ := exists_name body
  · have arg : String.ofList ('-' :: '-' :: name.toList) = "--" ++ name :=
      String.toList_inj.mp (by simp)
    have filled : name ≠ "" := fun empty => nonempty (by simp [empty])
    rw [long_name plain] at done
    rw [arg]
    split at done
    · cases done
    · rename_i spec named
      split at done
      · rename_i kind hk
        exact ⟨_, _, .waiting filled plain named ⟨kind, hk⟩, done⟩
      · rename_i alone
        exact ⟨_, _, .flag filled plain named fun ⟨kind, hk⟩ => alone kind hk, done⟩
  · have arg : String.ofList ('-' :: '-' :: (name.toList ++ '=' :: value.toList)) =
        "--" ++ name ++ "=" ++ value := String.toList_inj.mp (by simp)
    rw [long_assigned plain] at done
    rw [arg]
    split at done
    · cases done
    · rename_i spec named
      split at done
      · rename_i kind hk
        exact ⟨_, _, .assigned plain named ⟨kind, hk⟩, done⟩
      · cases done

theorem long_of_spelled {body : List Char}
    (spelled : Spelled specs (String.ofList ('-' :: '-' :: body)) gs waiting)
    (done : s.read gs waiting = .ok s') : s.long specs body = .ok s' := by
  generalize arg : String.ofList ('-' :: '-' :: body) = text at spelled
  have chars : text.toList = '-' :: '-' :: body := by rw [← arg, String.toList_ofList]
  cases spelled with
  | @flag name spec filled plain named alone =>
      obtain rfl : name.toList = body := by simpa using chars
      rw [long_name plain, named]
      split
      · contradiction
      · rename_i eq
        cases eq
        split
        · rename_i kind hk
          exact absurd ⟨kind, hk⟩ alone
        · exact done
  | @waiting name spec filled plain named takes =>
      obtain rfl : name.toList = body := by simpa using chars
      obtain ⟨kind, hk⟩ := takes
      simpa only [long_name plain, named, hk] using done
  | @assigned name value spec plain named takes =>
      obtain rfl : name.toList ++ '=' :: value.toList = body := by simpa using chars
      obtain ⟨kind, hk⟩ := takes
      simpa only [long_assigned plain, named, hk] using done
  | letters single spelled =>
      rw [String.toList_ofList] at chars
      cases chars
      exact absurd rfl single

/-- **A name behind two hyphens is read as what it spells.** -/
theorem long_eq_ok_iff {body : List Char} (nonempty : body ≠ []) :
    s.long specs body = .ok s' ↔
      ∃ gs waiting, Spelled specs (String.ofList ('-' :: '-' :: body)) gs waiting ∧
        s.read gs waiting = .ok s' :=
  ⟨exists_spelled_of_long nonempty,
    fun ⟨_, _, spelled, done⟩ => long_of_spelled spelled done⟩

end Scan

end Courier.CommandLine
