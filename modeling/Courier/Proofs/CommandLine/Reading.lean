import Courier.Proofs.CommandLine.Spelling

/-!
# Courier — Proofs — How arguments are read

Reading goes through the arguments, and looks at each by the way in which it starts.  One that
starts like an option is read as what it spells (`scan_option_eq_ok_iff`), one that stands behind an
option is its value if it may be (`scan_value`), and reading stops at the end of the arguments or
before the name of a command (`scan_cons`).

At every place the options that were read and the ones that are still to be read are taken one after
the other (`Scan.takes`).  This carries the induction over the arguments: what is read is spelled
(`spells_of_scan`), also in front of a command, and what is spelled is read (`scan_of_spells`).

**Reading is spelling** (`scan_eq_ok_iff`): arguments are read to the end exactly if they spell
options that can be taken, and these are what was read.
-/

namespace Courier.CommandLine

variable {specs : List OptionSpec} {commands args rest : List String} {arg : String} {s s' : Scan}
  {stop : Stop}

/-! ### How an argument starts -/

/-- The argument does not start like an option. -/
def IsWord (arg : String) : Prop := arg = "-" ∨ arg.toList.head? ≠ some '-'

/-- Two hyphens with something behind them, or one hyphen with letters behind it. -/
def IsOption (arg : String) : Prop :=
  (∃ body, body ≠ [] ∧ arg = String.ofList ('-' :: '-' :: body)) ∨
    ∃ c cs, c ≠ '-' ∧ arg = String.ofList ('-' :: c :: cs)

theorem isWord_or_isOption (arg : String) : IsWord arg ∨ arg = "--" ∨ IsOption arg := by
  have whole := arg.ofList_toList
  match chars : arg.toList with
  | [] => exact .inl (.inr (by simp [chars]))
  | [c] =>
      by_cases hyphen : c = '-'
      · exact .inl (.inl (by rw [← whole, chars, hyphen]))
      · exact .inl (.inr (by simpa [chars] using hyphen))
  | c :: d :: cs =>
      rw [chars] at whole
      by_cases hyphen : c = '-'
      · subst hyphen
        by_cases second : d = '-'
        · subst second
          cases cs with
          | nil => exact .inr (.inl whole.symm)
          | cons e cs => exact .inr (.inr (.inl ⟨e :: cs, nofun, whole.symm⟩))
        · exact .inr (.inr (.inr ⟨d, cs, second, whole.symm⟩))
      · exact .inl (.inr (by simpa [chars] using hyphen))

/-- Options are spelled behind two hyphens or as letters behind one. -/
theorem Spelled.isOption {gs : List Given} {waiting : Option OptionSpec}
    (h : Spelled specs arg gs waiting) : IsOption arg := by
  cases h with
  | @flag name spec filled plain named alone =>
      exact .inl ⟨name.toList, by simpa using filled, String.toList_inj.mp (by simp)⟩
  | @waiting name spec filled plain named takes =>
      exact .inl ⟨name.toList, by simpa using filled, String.toList_inj.mp (by simp)⟩
  | @assigned name value spec plain named takes =>
      exact .inl ⟨name.toList ++ '=' :: value.toList, by simp, String.toList_inj.mp (by simp)⟩
  | letters single spelled => exact .inr ⟨_, _, single, rfl⟩

/-! ### One argument -/

theorem scan_word (h : IsWord arg) :
    scan specs commands (arg :: rest) s =
      match readWord commands arg rest s with
      | .error usage    => .error usage
      | .ok (.inr stop) => .ok stop
      | .ok (.inl s)    => scan specs commands rest s := by
  rcases h with rfl | other
  · rfl
  · rw [scan.eq_def]
    simp only
    split
    · rfl
    · rename_i chars
      simp [chars] at other
    · rename_i chars
      simp [chars] at other
    · rename_i chars
      simp [chars] at other
    · rfl

theorem scan_marked :
    scan specs commands ("--" :: rest) s =
      match rest with
      | []        => s.settle.map (⟨·, none⟩)
      | next :: _ => .error (refuseTrailing commands next) := by
  cases rest <;> rfl

theorem scan_long {body : List Char} (nonempty : body ≠ []) :
    scan specs commands (String.ofList ('-' :: '-' :: body) :: rest) s =
      (s.long specs body).bind (scan specs commands rest) := by
  obtain ⟨c, cs, rfl⟩ := List.exists_cons_of_ne_nil nonempty
  rw [scan.eq_def]
  simp only [String.toList_ofList]

theorem scan_single {c : Char} {cs : List Char} (single : c ≠ '-') :
    scan specs commands (String.ofList ('-' :: c :: cs) :: rest) s =
      if s.takesNegative (c :: cs) then
        match readWord commands (String.ofList ('-' :: c :: cs)) rest s with
        | .error usage    => .error usage
        | .ok (.inr stop) => .ok stop
        | .ok (.inl s)    => scan specs commands rest s
      else (s.letters specs (c :: cs)).bind (scan specs commands rest) := by
  rw [scan.eq_def]
  simp only [String.toList_ofList]
  split
  · rename_i eq
    cases eq
  · rename_i eq
    cases eq
    exact absurd rfl single
  · rename_i eq
    cases eq
    exact absurd rfl single
  · rename_i eq
    cases eq
    rfl
  · rename_i other
    exact absurd rfl (other _)

theorem Scan.takesNegative_eq_false (idle : s.waiting? = none) (body : List Char) :
    s.takesNegative body = false := by
  obtain ⟨found, pending⟩ := s
  match pending with
  | none => rfl
  | some (spec, none) => cases idle
  | some (spec, some value) => rfl

/-! ### Values of their own arguments -/

theorem readWord_waiting {spec : OptionSpec} (waits : s.pending = some (spec, none)) :
    readWord commands arg rest s = .ok (.inl { s with pending := some (spec, some arg) }) := by
  rw [readWord, waits]

/-- A negative number behind an option that takes it. -/
theorem exists_of_negative {digits : List Char} (chars : arg.toList = '-' :: digits)
    (number : Scan.isNumberFrom false false true digits = true) :
    arg = "-" ∨ ∃ c cs, c ≠ '-' ∧ digits = c :: cs ∧ arg = String.ofList ('-' :: c :: cs) := by
  have whole := arg.ofList_toList
  rw [chars] at whole
  match digits with
  | [] => exact .inl whole.symm
  | c :: cs =>
      refine .inr ⟨c, cs, ?_, rfl, whole.symm⟩
      rintro rfl
      cases number

/-- **Values.**  An option that waits for its value gets the next argument, if it may take it. -/
theorem scan_value {spec : OptionSpec} (waits : s.pending = some (spec, none))
    (may : spec.MayTake arg) :
    scan specs commands (arg :: rest) s =
      scan specs commands rest { s with pending := some (spec, some arg) } := by
  rcases may with hyphen | other | ⟨negative, digits, chars, number⟩
  · rw [scan_word (.inl hyphen), readWord_waiting waits]
  · rw [scan_word (.inr other), readWord_waiting waits]
  · have takes : s.takesNegative digits = true := by
      simp only [Scan.takesNegative, waits, negative, number, Bool.and_self]
    rcases exists_of_negative chars number with hyphen | ⟨c, cs, single, rfl, rfl⟩
    · rw [scan_word (.inl hyphen), readWord_waiting waits]
    · rw [scan_single single, if_pos takes, readWord_waiting waits]

/-- Otherwise nothing is read: the next argument is an option or the end, and neither can follow
while an option waits. -/
theorem mayTake_of_scan {spec : OptionSpec} (waits : s.pending = some (spec, none))
    (done : scan specs commands (arg :: rest) s = .ok stop) : spec.MayTake arg := by
  have busy : s.waiting? ≠ none := by simp [Scan.waiting?, waits]
  rcases isWord_or_isOption arg with word | rfl | ⟨body, nonempty, rfl⟩ | ⟨c, cs, single, rfl⟩
  · exact word.imp_right .inl
  · rw [scan_marked] at done
    split at done
    · obtain ⟨t, settled, -⟩ := map_eq_ok_iff.mp done
      exact absurd (Scan.waiting?_of_settle settled) busy
    · cases done
  · rw [scan_long nonempty] at done
    obtain ⟨t, first, -⟩ := bind_eq_ok_iff.mp done
    obtain ⟨gs, waiting, -, taken⟩ := (Scan.long_eq_ok_iff nonempty).mp first
    exact absurd (Scan.waiting?_of_read taken) busy
  · rw [scan_single single] at done
    split at done
    · rename_i takes
      simp only [Scan.takesNegative, waits, Bool.and_eq_true] at takes
      exact .inr (.inr ⟨takes.1, c :: cs, String.toList_ofList, takes.2⟩)
    · obtain ⟨t, first, -⟩ := bind_eq_ok_iff.mp done
      obtain ⟨gs, waiting, -, taken⟩ := (Scan.letters_eq_ok_iff single).mp first
      exact absurd (Scan.waiting?_of_read taken) busy

/-! ### Options and words -/

theorem readWord_idle (idle : s.waiting? = none) :
    readWord commands arg rest s =
      if commands.contains arg then .ok (.inr ⟨s, some (arg, rest)⟩)
      else .error (if commands.isEmpty then .unknownArgument else .unknownCommand) := by
  obtain ⟨found, pending⟩ := s
  match pending with
  | none => rfl
  | some (spec, none) => cases idle
  | some (spec, some value) => rfl

/-- **Options.**  An argument that starts like an option is read as what it spells. -/
theorem scan_option_eq_ok_iff (option : IsOption arg) (idle : s.waiting? = none) :
    scan specs commands (arg :: rest) s = .ok stop ↔
      ∃ gs waiting t, Spelled specs arg gs waiting ∧ s.read gs waiting = .ok t ∧
        scan specs commands rest t = .ok stop := by
  have parts {first : Except Usage Scan}
      (spells : ∀ t, first = .ok t ↔
        ∃ gs waiting, Spelled specs arg gs waiting ∧ s.read gs waiting = .ok t) :
      first.bind (scan specs commands rest) = .ok stop ↔
        ∃ gs waiting t, Spelled specs arg gs waiting ∧ s.read gs waiting = .ok t ∧
          scan specs commands rest t = .ok stop := by
    refine bind_eq_ok_iff.trans ⟨?_, ?_⟩
    · rintro ⟨t, done, more⟩
      obtain ⟨gs, waiting, spelled, taken⟩ := (spells t).mp done
      exact ⟨gs, waiting, t, spelled, taken, more⟩
    · rintro ⟨gs, waiting, t, spelled, taken, more⟩
      exact ⟨t, (spells t).mpr ⟨gs, waiting, spelled, taken⟩, more⟩
  rcases option with ⟨body, nonempty, rfl⟩ | ⟨c, cs, single, rfl⟩
  · rw [scan_long nonempty]
    exact parts fun t => Scan.long_eq_ok_iff nonempty
  · rw [scan_single single, Scan.takesNegative_eq_false idle, if_neg Bool.false_ne_true]
    exact parts fun t => Scan.letters_eq_ok_iff single

/-- A word is the name of a command, and reading stops before it. -/
theorem scan_word_eq_ok_iff (word : IsWord arg) (idle : s.waiting? = none) :
    scan specs commands (arg :: rest) s = .ok stop ↔
      arg ∈ commands ∧ stop = ⟨s, some (arg, rest)⟩ := by
  rw [scan_word word, readWord_idle idle]
  by_cases known : arg ∈ commands
  · simp [known, @eq_comm _ stop]
  · simp [known]

/-- **Steps.**  Reading stops before the name of a command or behind two hyphens at the end, or goes
on behind an option. -/
theorem scan_cons (idle : s.waiting? = none)
    (done : scan specs commands (arg :: rest) s = .ok stop) :
    (arg ∈ commands ∧ stop = ⟨s, some (arg, rest)⟩) ∨
      (arg = "--" ∧ rest = [] ∧ s.settle.map (⟨·, none⟩) = .ok stop) ∨
      ∃ gs waiting t, Spelled specs arg gs waiting ∧ s.read gs waiting = .ok t ∧
        scan specs commands rest t = .ok stop := by
  rcases isWord_or_isOption arg with word | rfl | option
  · exact .inl ((scan_word_eq_ok_iff word idle).mp done)
  · rw [scan_marked] at done
    split at done
    · exact .inr (.inl ⟨rfl, rfl, done⟩)
    · cases done
  · exact .inr (.inr ((scan_option_eq_ok_iff option idle).mp done))

/-! ### What is taken -/

namespace Scan

variable {gs gs' : List Given} {waiting : Option OptionSpec} {t : Scan}

/-- What is taken in the end, if `gs` are the options that are still to be read. -/
def takes (gs : List Given) (s : Scan) : Except Usage Scan := s.opened.bind (·.takeAll gs)

theorem takes_nil (idle : s.waiting? = none) : s.takes [] = s.settle := by
  rw [settle_eq_opened idle, takes]
  cases s.opened <;> rfl

/-- An option that waits for its value is taken with the next argument. -/
theorem takes_value {spec : OptionSpec} (waits : s.pending = some (spec, none)) (arg : String)
    (gs : List Given) :
    s.takes (⟨spec, arg⟩ :: gs) =
      ({ s with pending := some (spec, some arg) } : Scan).takes gs := by
  obtain ⟨found, pending⟩ := s
  cases waits
  rfl

/-- What was read is taken before the rest. -/
theorem takes_append (read : s.read gs waiting = .ok t) (gs' : List Given) :
    s.takes (gs ++ gs') = t.takes gs' := by
  have idle := waiting?_of_read read
  obtain ⟨u, taken, rfl⟩ := read_eq_ok_iff.mp read
  rw [takes, takes, opened_leave (pending_settled_takeAll taken)]
  rw [settle_eq_opened idle] at taken
  obtain ⟨v, opened, rest⟩ := bind_eq_ok_iff.mp taken
  rw [opened]
  change v.takeAll (gs ++ gs') = u.takeAll gs'
  rw [takeAll_append, rest]
  rfl

/-- Options that can be taken with others behind them can be read. -/
theorem exists_read (idle : s.waiting? = none) (waiting : Option OptionSpec)
    (taken : s.takes (gs ++ gs') = .ok s') :
    ∃ t, s.read gs waiting = .ok t ∧ t.waiting? = waiting ∧ t.takes gs' = .ok s' := by
  obtain ⟨v, opened, all⟩ := bind_eq_ok_iff.mp taken
  rw [takeAll_append] at all
  obtain ⟨u, first, -⟩ := bind_eq_ok_iff.mp all
  have read : s.read gs waiting = .ok (u.leave waiting) := by
    refine read_eq_ok_iff.mpr ⟨u, ?_, rfl⟩
    rw [settle_eq_opened idle]
    exact bind_eq_ok_iff.mpr ⟨v, opened, first⟩
  exact ⟨_, read, waiting?_leave waiting u, (takes_append read gs').symm.trans taken⟩

end Scan

/-! ### Reading is spelling -/

/-- Reading stopped behind `front`: at the end, with nothing pending, or before the name of a
command. -/
def Stop.Behind (stop : Stop) (commands args front : List String) : Prop :=
  match stop.command with
  | none              => args = front ∧ stop.scan.pending = none
  | some (name, rest) => args = front ++ name :: rest ∧ name ∈ commands

theorem Stop.Behind.cons {front : List String} (h : stop.Behind commands args front)
    (arg : String) : stop.Behind commands (arg :: args) (arg :: front) := by
  unfold Stop.Behind at h ⊢
  split at h
  · exact ⟨congrArg _ h.1, h.2⟩
  · exact ⟨congrArg _ h.1, h.2⟩

/-- The end of the arguments, with what was pending taken. -/
theorem behind_of_settle (ended : s.settle.map (⟨·, none⟩) = .ok stop) (args : List String) :
    s.waiting? = none ∧ stop.Behind commands args args ∧
      ∀ s', stop.scan.settle = .ok s' → s.takes [] = .ok s' := by
  obtain ⟨t, settled, rfl⟩ := map_eq_ok_iff.mp ended
  have idle := Scan.waiting?_of_settle settled
  have done := Scan.pending_settle settled
  refine ⟨idle, ⟨rfl, done⟩, fun s' again => ?_⟩
  rw [Scan.settle_of_pending done] at again
  rw [Scan.takes_nil idle, settled, again]

/-- **What is read is spelled.**  The arguments before the place where reading stopped spell some
options, and these are what was taken. -/
theorem spells_of_scan (done : scan specs commands args s = .ok stop) :
    ∃ front gs, Spells specs s.waiting? front gs ∧ stop.Behind commands args front ∧
      ∀ s', stop.scan.settle = .ok s' → s.takes gs = .ok s' := by
  induction args generalizing s with
  | nil =>
      obtain ⟨idle, behind, taken⟩ := behind_of_settle done []
      exact ⟨[], [], idle ▸ .nil, behind, taken⟩
  | cons arg args ih =>
      cases busy : s.waiting? with
      | some spec =>
          have waits := Scan.pending_of_waiting? busy
          have may := mayTake_of_scan waits done
          rw [scan_value waits may] at done
          obtain ⟨front, gs, spells, behind, taken⟩ := ih done
          exact ⟨_, _, .value may spells, behind.cons arg,
            fun s' settled => (Scan.takes_value waits arg gs).trans (taken s' settled)⟩
      | none =>
          rcases scan_cons busy done with ⟨known, rfl⟩ | ⟨rfl, rfl, ended⟩ |
            ⟨gs, waiting, t, spelled, first, rest⟩
          · refine ⟨[], [], .nil, ⟨rfl, known⟩, fun s' settled => ?_⟩
            rw [Scan.takes_nil busy, settled]
          · obtain ⟨-, behind, taken⟩ := behind_of_settle ended ["--"]
            exact ⟨["--"], [], .marked, behind, taken⟩
          · obtain ⟨front, gs', spells, behind, taken⟩ := ih rest
            rw [Scan.waiting?_read first] at spells
            exact ⟨_, _, .options spelled spells, behind.cons arg,
              fun s' settled => (Scan.takes_append first gs').trans (taken s' settled)⟩

/-- **What is spelled is read.** -/
theorem scan_of_spells {waiting : Option OptionSpec} {gs : List Given}
    (spells : Spells specs waiting args gs) (before : s.waiting? = waiting)
    (taken : s.takes gs = .ok s') : scan specs [] args s = .ok ⟨s', none⟩ := by
  induction spells generalizing s with
  | nil =>
      rw [Scan.takes_nil before] at taken
      exact map_eq_ok_iff.mpr ⟨s', taken, rfl⟩
  | marked =>
      rw [Scan.takes_nil before] at taken
      exact map_eq_ok_iff.mpr ⟨s', taken, rfl⟩
  | @options arg args gs gs' waiting spelled rest ih =>
      obtain ⟨t, read, left, more⟩ := Scan.exists_read before waiting taken
      exact (scan_option_eq_ok_iff spelled.isOption before).mpr
        ⟨gs, waiting, t, spelled, read, ih left more⟩
  | @value arg args spec gs may rest ih =>
      have waits := Scan.pending_of_waiting? before
      rw [scan_value waits may]
      exact ih rfl ((Scan.takes_value waits arg gs).symm.trans taken)

/-- **Reading is spelling.**  Arguments are read to the end exactly if they spell options that can
be taken. -/
theorem scan_eq_ok_iff :
    scan specs [] args {} = .ok stop ↔
      stop.command = none ∧
        ∃ gs, Spells specs none args gs ∧ ({} : Scan).takeAll gs = .ok stop.scan := by
  constructor
  · intro read
    obtain ⟨front, gs, spells, behind, taken⟩ := spells_of_scan read
    unfold Stop.Behind at behind
    split at behind
    · rename_i last
      obtain ⟨rfl, done⟩ := behind
      exact ⟨last, gs, spells, taken _ (Scan.settle_of_pending done)⟩
    · cases behind.2
  · rintro ⟨last, gs, spells, taken⟩
    obtain ⟨scan, command⟩ := stop
    cases last
    exact scan_of_spells spells rfl taken

end Courier.CommandLine
