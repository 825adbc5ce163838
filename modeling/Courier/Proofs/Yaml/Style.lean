import Courier.Proofs.Yaml.BlockText
import Courier.Proofs.Yaml.Escaped
import Courier.Proofs.Yaml.Plain

/-!
# Courier — Proofs — Styles of written texts

What the choice of a style means for the reader.  A text that is written plain is read as it stands
(`isPlainText_of_plain`), and its first character is no mark (`of_startsWithMark`).  Between single
quotes the reader takes all that the writer puts there, so that a text with separators comes back
with the writer's indentation after each (`padded`).
-/

namespace Courier.Yaml

/-! ### What a style says about its characters -/

section
variable {cs : List Char}

theorem printable_of_needsEscapes (h : needsEscapes cs = false) : ∀ x ∈ cs, isPrintable x := by
  rw [needsEscapes, Bool.or_eq_false_iff, List.any_eq_false] at h
  simpa using h.1

theorem printable_of_singleQuotedAllowed (h : singleQuotedAllowed cs) :
    ∀ x ∈ cs, isPrintable x := by
  rw [singleQuotedAllowed, Bool.and_eq_true, Bool.not_eq_true'] at h
  exact printable_of_needsEscapes h.1

theorem printable_of_blockAllowed (h : blockAllowed cs) : ∀ x ∈ cs, isPrintable x := by
  rw [blockAllowed, Bool.and_eq_true, Bool.and_eq_true, Bool.not_eq_true'] at h
  exact printable_of_needsEscapes h.1.1

end

/-- A text is written in one of four styles, for these reasons. -/
theorem styleOf_cases (s : String) :
    styleOf s = .plain ∧ plainAllowed s.toList ∧ readsAsOther s = false ∧ '\n' ∉ s.toList ∨
      styleOf s = .singleQuoted ∧ singleQuotedAllowed s.toList ∧ '\n' ∉ s.toList ∨
      styleOf s = .doubleQuoted ∨
      styleOf s = .block ∧ blockAllowed s.toList ∧ '\n' ∈ s.toList := by
  rw [styleOf]
  by_cases feed : '\n' ∈ s.toList
  · have contains : s.toList.contains '\n' := by simpa using feed
    rw [if_pos contains]
    split_ifs with block
    · exact .inr (.inr (.inr ⟨rfl, block, feed⟩))
    · exact .inr (.inr (.inl rfl))
  · have contains : ¬ s.toList.contains '\n' := by simpa using feed
    rw [if_neg contains]
    split_ifs with other single plain single
    · exact .inr (.inl ⟨rfl, single, feed⟩)
    · exact .inr (.inr (.inl rfl))
    · exact .inl ⟨rfl, plain, by simpa using other, feed⟩
    · exact .inr (.inl ⟨rfl, single, feed⟩)
    · exact .inr (.inr (.inl rfl))

/-- A block is a printable text of several lines. -/
theorem printable_of_block {s : String} (block : styleOf s = .block) :
    (∀ x ∈ s.toList, isPrintable x) ∧ '\n' ∈ s.toList := by
  rcases styleOf_cases s with ⟨style, -⟩ | ⟨style, -⟩ | style | ⟨-, allowed, feed⟩
  · cases style.symm.trans block
  · cases style.symm.trans block
  · cases style.symm.trans block
  · exact ⟨printable_of_blockAllowed allowed, feed⟩

/-! ### Plain texts -/

/-- Where a writer sees no white space, a reader's word goes on. -/
theorem word_of_blankNext {cs : List Char} (h : blankNext cs = false) :
    cs ≠ [] ∧ endsWord (peek cs) = false := by
  cases cs with
  | nil => cases h
  | cons d cs =>
      rw [blankNext, isWrittenBlank, Bool.or_eq_false_iff, Bool.or_eq_false_iff, breaksLine,
        Bool.or_eq_false_iff, Bool.or_eq_false_iff, Bool.or_eq_false_iff] at h
      refine ⟨by simp, ?_⟩
      rw [peek, endsWord, endsLine, h.1.1, h.1.2.1.1.1, h.2]
      rfl

theorem continues_of_holdsMark {cs : List Char} :
    ∀ before : Char, (∀ x ∈ cs, endsWord x → x = ' ') →
      holdsMark (isWrittenBlank before) cs = false → (before :: cs).getLast? ≠ some ' ' →
      Continues before cs := by
  induction cs with
  | nil => exact fun before _ _ last space => last (congrArg some space)
  | cons c cs ih =>
      intro before words marks last
      rw [holdsMark, Bool.or_eq_false_iff, Bool.or_eq_false_iff, Bool.and_eq_false_iff,
        Bool.and_eq_false_iff] at marks
      refine ⟨words c (List.mem_cons_self ..), ?_, ?_, ?_⟩
      · rintro rfl rfl
        exact absurd marks.1.2 (by decide)
      · rintro rfl
        exact word_of_blankNext (marks.1.1.resolve_left (by decide))
      · exact ih c (fun x hx => words x (List.mem_cons_of_mem _ hx)) marks.2
          (by simpa using last)

/-- The first character of a plain text, and what comes after it if that could be a mark. -/
theorem of_startsWithMark {c : Char} {cs : List Char} (h : startsWithMark (c :: cs) = false) :
    firstMarks.contains c = false ∧ (c = '?' ∨ c = ':' ∨ c = '-' → blankNext cs = false) := by
  simp only [startsWithMark, Bool.or_eq_false_iff, Bool.and_eq_false_iff] at h
  refine ⟨h.1.1.1, fun mark => h.1.1.2.resolve_left ?_⟩
  rintro ⟨⟨no, no'⟩, no''⟩
  rcases mark with rfl | rfl | rfl
  · cases no
  · cases no'
  · cases no''

/-- A character without an escape ends a word only if it is a space. -/
theorem eq_space_of_endsWord {x : Char} (printable : isPrintable x) (line : x ≠ '\n')
    (h : endsWord x) : x = ' ' := by
  have tab : x ≠ '\t' := by rintro rfl; exact absurd printable (by decide)
  have ret : x ≠ '\r' := by rintro rfl; exact absurd printable (by decide)
  have zero : x ≠ endMark := by rintro rfl; exact absurd printable (by decide)
  simpa [endsWord, endsLine, isBlank, isBreak, tab, ret, zero, line] using h

/-- What `plainAllowed` asks for, part by part. -/
theorem plainAllowed_iff {cs : List Char} :
    plainAllowed cs ↔ singleQuotedAllowed cs ∧ cs.any breaksLine = false ∧
      hasBlankEnd cs = false ∧ startsWithMark cs = false ∧ holdsMark false (cs.drop 1) = false := by
  simp only [plainAllowed, Bool.and_eq_true, Bool.not_eq_true', and_assoc]

theorem isPlainText_of_plain {cs : List Char} (h : plainAllowed cs) (nonempty : cs ≠ []) :
    IsPlainText cs := by
  obtain ⟨single, breaks, ends, start, marks⟩ := plainAllowed_iff.mp h
  have printable := printable_of_singleQuotedAllowed single
  have words : ∀ x ∈ cs, endsWord x → x = ' ' := by
    intro x hx
    refine eq_space_of_endsWord (printable x hx) ?_
    rintro rfl
    exact absurd (List.any_eq_false.mp breaks _ hx) (by decide)
  obtain ⟨c, cs, rfl⟩ := List.exists_cons_of_ne_nil nonempty
  obtain ⟨no_mark, not_alone⟩ := of_startsWithMark start
  rw [hasBlankEnd, Bool.or_eq_false_iff] at ends
  have space : c ≠ ' ' := by
    rintro rfl
    exact absurd ends.1 (by simp [isSpaceChar])
  have last : (c :: cs).getLast? ≠ some ' ' := by
    intro last
    rw [last] at ends
    exact absurd ends.2 (by decide)
  have hash : c ≠ '#' := by
    rintro rfl
    exact absurd no_mark (by decide)
  have word : isWrittenBlank c = false := by
    have shown := printable c (List.mem_cons_self ..)
    have line : breaksLine c = false := by
      simpa using List.any_eq_false.mp breaks c (List.mem_cons_self ..)
    have tab : c ≠ '\t' := by rintro rfl; exact absurd shown (by decide)
    have zero : c ≠ endMark := by rintro rfl; exact absurd shown (by decide)
    simp [isWrittenBlank, isBlank, space, tab, line, zero]
  have later : Continues c cs :=
    continues_of_holdsMark c (fun x hx => words x (List.mem_cons_of_mem _ hx)) (word ▸ marks) last
  refine ⟨space, hash, words c (List.mem_cons_self ..), fun no => absurd no hash, ?_, later⟩
  exact fun colon => word_of_blankNext (not_alone (.inr (.inl colon)))

/-! ### Single quotes -/

/-- The text ends in a break; an empty one is as `fresh` says. -/
def endsBroken (fresh : Bool) : List Char → Bool
  | []      => fresh
  | c :: cs => endsBroken (breaksLine c) cs

/-- What a reader finds between the single quotes of a text: the text with the writer's indentation
after each break. -/
def padded (indentation : List Char) (fresh : Bool) (cs : List Char) : List Char :=
  padLines indentation fresh (fun c => [c]) cs ++ if endsBroken fresh cs then indentation else []

/-- A quote is written twice, and everything else as it is. -/
def writeQuote (c : Char) : List Char := if c = '\'' then ['\'', '\''] else [c]

theorem endsBroken_eq (fresh : Bool) (cs : List Char) :
    endsBroken fresh cs = (cs.getLast?.map breaksLine).getD fresh := by
  induction cs generalizing fresh with
  | nil => rfl
  | cons c cs ih =>
      rw [endsBroken, ih, List.getLast?_cons]
      cases cs.getLast? <;> rfl

theorem padLines_flatMap (n : Nat) (fresh : Bool) (cs : List Char) :
    padLines (pad n) fresh writeQuote cs =
      (padLines (pad n) fresh (fun c => [c]) cs).flatMap writeQuote := by
  induction cs generalizing fresh with
  | nil => rfl
  | cons c cs ih =>
      rw [padLines, padLines]
      split_ifs with line start
      · have other : c ≠ '\'' := by rintro rfl; exact absurd line (by decide)
        rw [List.flatMap_cons, writeQuote, if_neg other, ih]
        rfl
      · rw [List.flatMap_append, List.flatMap_append, flatMap_pad rfl, ih, List.flatMap_singleton]
      · rw [List.flatMap_append, List.flatMap_append, ih, List.flatMap_singleton]
        rfl

theorem writeSingleQuoted_eq (n : Nat) (cs : List Char) :
    writeSingleQuoted (pad n) cs =
      '\'' :: ((padded (pad n) false cs).flatMap writeQuote ++ ['\'']) := by
  have ending : endsBroken false cs = cs.getLast?.any breaksLine := by
    rw [endsBroken_eq]
    cases cs.getLast? <;> rfl
  rw [writeSingleQuoted, padded, ending, List.flatMap_append, ← padLines_flatMap]
  split_ifs
  · rw [flatMap_pad rfl]
    rfl
  · rfl

section
variable (indentation : List Char) (fresh : Bool) (c : Char) (cs : List Char)

theorem padded_cons :
    padded indentation fresh (c :: cs) =
      (if fresh ∧ breaksLine c = false then indentation else []) ++
        c :: padded indentation (breaksLine c) cs := by
  rw [padded, padLines, endsBroken, padded]
  cases breaksLine c <;> cases fresh <;> simp

theorem mem_padded {x : Char} (h : x ∈ padded indentation fresh cs) : x ∈ indentation ∨ x ∈ cs := by
  induction cs generalizing fresh with
  | nil =>
      rw [padded, padLines, endsBroken, List.nil_append] at h
      split_ifs at h
      · exact .inl h
      · cases h
  | cons c cs ih =>
      rw [padded_cons, List.mem_append, List.mem_cons] at h
      rcases h with h | rfl | h
      · split_ifs at h
        · exact .inl h
        · cases h
      · exact .inr (List.mem_cons_self ..)
      · exact (ih _ h).imp_right (List.mem_cons_of_mem _)

theorem length_le_padded :
    cs.length + (if fresh || cs.any breaksLine then indentation.length else 0) ≤
      (padded indentation fresh cs).length := by
  induction cs generalizing fresh with
  | nil => cases fresh <;> simp [padded, padLines, endsBroken]
  | cons c cs ih =>
      have later := ih (breaksLine c)
      rw [padded_cons, List.any_cons]
      cases line : breaksLine c with
      | true =>
          rw [line] at later
          simp at later ⊢
          omega
      | false =>
          rw [line] at later
          cases fresh <;> simp at later ⊢ <;> split_ifs at later ⊢ <;> omega

end

/-- **Single quotes** keep exactly the texts without breaks. -/
theorem padded_eq_self_iff {indentation cs : List Char} (h : indentation ≠ []) :
    padded indentation false cs = cs ↔ cs.any breaksLine = false := by
  constructor
  · intro same
    rw [← Bool.not_eq_true]
    intro line
    have longer := length_le_padded indentation false cs
    have positive := List.length_pos_iff.mpr h
    rw [same, if_pos (by simp [line])] at longer
    omega
  · intro line
    induction cs with
    | nil => rfl
    | cons c cs ih =>
        rw [List.any_cons, Bool.or_eq_false_iff] at line
        rw [padded_cons, if_neg (by simp), line.1, ih line.2]
        rfl

/-- All characters between the single quotes are spelled there. -/
theorem spelled_padded {n : Nat} {cs : List Char} (h : singleQuotedAllowed cs) (feed : '\n' ∉ cs) :
    ∀ x ∈ padded (pad n) false cs, Spelled '\'' writeQuote x := by
  intro x hx
  refine spelled_singleQuoted ?_
  rcases mem_padded _ _ _ hx with hx | hx
  · exact .inl (List.eq_of_mem_replicate hx)
  · by_cases word : endsWord x
    · refine .inl (eq_space_of_endsWord (printable_of_singleQuotedAllowed h x hx) ?_ word)
      rintro rfl
      exact feed hx
    · exact .inr (by simpa using word)

end Courier.Yaml
