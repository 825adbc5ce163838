import Courier.Proofs.Yaml.Style
import Courier.Proofs.Yaml.Weight

/-!
# Courier — Proofs — Blocks that are not read as they were written

A separator that stands elsewhere than at the end of a line is where the reader and the writer of a
block part (`blockText?_misplaced`).  Inside a line the writer indents what comes after it, which
the reader takes for more of the line.  At the start of a line the writer leaves it without the
indentation, and there the reader ends the block.
-/

namespace Courier.Yaml

/-! ### Misplaced separators -/

/-- A break for the writer that is none for the reader. -/
theorem isHeavy_of_breaksLine {x : Char} (line : breaksLine x) (printable : isPrintable x)
    (other : x ≠ '\n') : isHeavy x := by
  have no_return : x ≠ '\r' := by rintro rfl; exact absurd printable (by decide)
  have no_break : isBreak x = false := by simp [isBreak, other, no_return]
  rw [isHeavy, line, no_break]
  simp

theorem exists_separator {start : Bool} {cs : List Char} (h : separatorsAtEnds start cs = false) :
    ∃ x ∈ cs, breaksLine x ∧ x ≠ '\n' := by
  induction cs generalizing start with
  | nil => cases h
  | cons c cs ih =>
      have later {start : Bool} (h : separatorsAtEnds start cs = false) :
          ∃ x ∈ c :: cs, breaksLine x ∧ x ≠ '\n' := by
        obtain ⟨x, hx, line⟩ := ih h
        exact ⟨x, List.mem_cons_of_mem _ hx, line⟩
      rw [separatorsAtEnds] at h
      split_ifs at h with feed line
      · exact later h
      · exact ⟨c, List.mem_cons_self .., line, feed⟩
      · exact later h

theorem Misplaced.exists_separator {line rest : List Char} (h : Misplaced line rest) :
    ∃ x ∈ line, breaksLine x := by
  obtain ⟨x, hx, breaks, other⟩ := Yaml.exists_separator h.found
  refine ⟨x, (List.mem_append.mp hx).resolve_right fun mem => other ?_, breaks⟩
  rcases h.ends with rfl | ⟨t, rfl⟩
  · cases mem
  · exact List.mem_singleton.mp mem

/-- The separator of a misplaced line counts. -/
theorem Misplaced.exists_heavy {line rest : List Char} (h : Misplaced line rest)
    (printable : ∀ x ∈ line, isPrintable x) : ∃ x ∈ line, breaksLine x ∧ isHeavy x := by
  obtain ⟨x, hx, breaks⟩ := h.exists_separator
  have feed : x ≠ '\n' := by rintro rfl; exact h.other hx
  exact ⟨x, hx, breaks, isHeavy_of_breaksLine breaks (printable x hx) feed⟩

/-! ### What the writer makes of a line -/

section
variable (indentation : List Char)

theorem padLines_append_feed (fresh : Bool) (line t : List Char) :
    padLines indentation fresh (fun c => [c]) (line ++ '\n' :: t) =
      padLines indentation fresh (fun c => [c]) line ++
        '\n' :: padLines indentation true (fun c => [c]) t := by
  induction line generalizing fresh with
  | nil => rfl
  | cons c line ih =>
      rw [List.cons_append, padLines, padLines, ih, ih]
      split_ifs <;> simp

theorem mem_padLines_iff {x : Char} (other : x ∉ indentation) (fresh : Bool) (line : List Char) :
    x ∈ padLines indentation fresh (fun c => [c]) line ↔ x ∈ line := by
  induction line generalizing fresh with
  | nil => rfl
  | cons c line ih =>
      rw [padLines]
      split_ifs <;> simp [ih, other]

theorem weight_padLines (light : weight indentation = 0) (fresh : Bool) (cs : List Char) :
    weight (padLines indentation fresh (fun c => [c]) cs) = weight cs := by
  induction cs generalizing fresh with
  | nil => rfl
  | cons c cs ih =>
      rw [padLines]
      split_ifs <;> simp [weight_cons, ih, light, Nat.add_comm]

theorem length_le_padLines (fresh : Bool) (line : List Char) :
    line.length ≤ (padLines indentation fresh (fun c => [c]) line).length := by
  induction line generalizing fresh with
  | nil => exact Nat.le_refl 0
  | cons c line ih =>
      rw [padLines]
      split_ifs
      · exact Nat.succ_le_succ (ih true)
      · have := ih false
        simp only [List.length_append, List.length_cons, List.length_nil]
        omega
      · have := ih false
        simp only [List.length_append, List.length_cons, List.length_nil]
        omega

/-- A line with a separator inside is longer when it is written. -/
theorem length_lt_padLines {indentation : List Char} (some : indentation ≠ []) :
    ∀ {line : List Char} (fresh : Bool), '\n' ∉ line →
      separatorsAtEnds false (line ++ ['\n']) = false →
      line.length < (padLines indentation fresh (fun c => [c]) line).length := by
  have wide : 0 < indentation.length := List.length_pos_iff.mpr some
  intro line
  induction line with
  | nil => exact fun _ _ no => by cases no
  | cons c line ih =>
      intro fresh other h
      rw [List.mem_cons, not_or] at other
      rw [List.cons_append, separatorsAtEnds, if_neg (Ne.symm other.1)] at h
      rw [padLines]
      split_ifs at h ⊢ with breaks start
      · rw [Bool.not_false, Bool.true_and, Bool.and_eq_false_iff] at h
        rw [List.length_cons, List.length_cons]
        refine Nat.succ_lt_succ ?_
        rcases h with next | later
        · -- the indentation comes after the separator
          cases line with
          | nil => cases next
          | cons d line =>
              have first : breaksLine d = false := next
              have := length_le_padLines indentation false line
              rw [padLines, if_neg (by simp [first]), if_pos rfl]
              simp only [List.length_append, List.length_cons, List.length_nil]
              omega
        · exact ih true other.2 later
      · have := ih false other.2 h
        simp only [List.length_append, List.length_cons, List.length_nil]
        omega
      · have := ih false other.2 h
        simp only [List.length_append, List.length_cons, List.length_nil]
        omega

end

/-! ### What the reader makes of the lines -/

theorem AtLineEnd.append {rest rest' : List Char} (h : AtLineEnd rest) (h' : AtLineEnd rest') :
    AtLineEnd (rest ++ rest') := by
  rcases h with rfl | ⟨t, rfl⟩
  · exact h'
  · exact .inr ⟨t ++ rest', rfl⟩

/-- A line is known from its text. -/
theorem line_eq {line line' rest rest' : List Char} (h : '\n' ∉ line) (h' : '\n' ∉ line')
    (ends : AtLineEnd rest) (ends' : AtLineEnd rest') (same : line ++ rest = line' ++ rest') :
    line = line' := by
  have taken {line rest : List Char} (h : '\n' ∉ line) (ends : AtLineEnd rest) :
      (line ++ rest).takeWhile (· ≠ '\n') = line := by
    refine Text.takeWhile_append_of_all (fun x hx => ?_) fun x hx => ?_
    · exact decide_eq_true fun feed => h (feed ▸ hx)
    · rcases ends with rfl | ⟨t, rfl⟩
      · cases hx
      · cases hx
        rfl
  rw [← taken h ends, same, taken h' ends']

/-- What a step of the reader does: there is no further line, or it is read. -/
theorem blockLines_cases (indent fuel : Nat) (s : BlockLines) :
    (s.cursor.column ≠ indent ∨ s.cursor.atEnd ∨ (indent = 0 ∧ s.cursor.atMarker '.')) ∧
        blockLines false indent (fuel + 1) s = s ∨
      ∃ t : BlockLines, t.acc.reverse = s.acc.reverse ++ ((s.joint false).reverse ++
          s.cursor.rest.takeWhile fun x => ¬ endsLine x) ∧
        (blockLines false indent (fuel + 1) s = t ∨
          t.pending = true ∧
            blockLines false indent (fuel + 1) s = blockLines false indent fuel t) := by
  rw [blockLines]
  dsimp only
  split
  · rename_i stop
    exact .inl ⟨stop, rfl⟩
  · right
    split
    · exact ⟨_, by simp, .inl rfl⟩
    · exact ⟨_, by simp, .inr ⟨rfl, rfl⟩⟩

theorem reverse_joint {s : BlockLines} (pending : s.pending = true) :
    (s.joint false).reverse = '\n' :: feeds s.breaks := by
  rw [joint_of_not_folded, pending]
  simp [reverse_feeds, feeds_append_feed]

/-- The lines after one that was read come after a line break. -/
theorem exists_acc_blockLines (indent fuel : Nat) : ∀ {s : BlockLines}, s.pending = true →
    ∃ z, (blockLines false indent fuel s).acc.reverse = s.acc.reverse ++ z ∧ AtLineEnd z := by
  induction fuel with
  | zero => exact fun _ => ⟨[], (List.append_nil _).symm, .inl rfl⟩
  | succ fuel ih =>
      intro s pending
      have joint := reverse_joint pending
      rcases blockLines_cases indent fuel s with ⟨-, same⟩ | ⟨t, acc, same | ⟨later, same⟩⟩
      · rw [same]
        exact ⟨[], (List.append_nil _).symm, .inl rfl⟩
      · rw [same, acc, joint]
        exact ⟨_, rfl, .inr ⟨_, rfl⟩⟩
      · obtain ⟨z, more, -⟩ := ih later
        rw [same, more, acc, joint, List.append_assoc]
        exact ⟨_, rfl, .inr ⟨_, rfl⟩⟩

/-- A line is read, and perhaps more after it. -/
theorem exists_acc_of_line {indent : Nat} {s : BlockLines} (column : s.cursor.column = indent)
    (some : indent ≠ 0) (more : s.cursor.atEnd = false) (fuel : Nat) :
    ∃ z, (blockLines false indent (fuel + 1) s).acc.reverse = s.acc.reverse ++
      (s.joint false).reverse ++ (s.cursor.rest.takeWhile (fun x => ¬ endsLine x) ++ z) ∧
      AtLineEnd z := by
  rcases blockLines_cases indent fuel s with ⟨stop, -⟩ | ⟨t, acc, same | ⟨later, same⟩⟩
  · simp [column, more, some] at stop
  · rw [same, acc]
    exact ⟨[], by simp, .inl rfl⟩
  · obtain ⟨z, later, ends⟩ := exists_acc_blockLines indent fuel later
    rw [same, later, acc]
    exact ⟨z, by simp, ends⟩

theorem eq_feed_of_mem_ending {s : BlockLines} {chomping : Chomping} {indent : Nat} {x : Char}
    (h : x ∈ s.ending chomping indent) : x = '\n' := by
  have last (h : x ∈ BlockLines.ending.last indent s) : x = '\n' := by
    rw [BlockLines.ending.last] at h
    rcases List.mem_append.mp h with h | h
    all_goals
      split_ifs at h
      · exact List.mem_singleton.mp h
      · cases h
  cases chomping with
  | strip => cases h
  | clip => exact last h
  | keep => exact (List.mem_append.mp h).elim List.eq_of_mem_replicate last

theorem atLineEnd_of_feeds {z : List Char} (h : ∀ x ∈ z, x = '\n') : AtLineEnd z := by
  cases z with
  | nil => exact .inl rfl
  | cons c z => exact .inr ⟨z, by rw [h c (List.mem_cons_self ..)]⟩

theorem atLineEnd_closing (cs : List Char) : AtLineEnd (closing cs) := by
  rw [closing]
  split_ifs
  · exact .inl rfl
  · exact .inr ⟨[], rfl⟩

theorem printable_append_closing {cs : List Char} (printable : ∀ x ∈ cs, isPrintable x) :
    ∀ x ∈ cs ++ closing cs, isPrintable x := by
  intro x hx
  refine (List.mem_append.mp hx).elim (printable x) fun last => ?_
  rw [closing] at last
  split_ifs at last
  · cases last
  · cases List.mem_singleton.mp last
    rfl

/-! ### Another text -/

theorem endsLine_of_printable {x : Char} (printable : isPrintable x) (other : x ≠ '\n') :
    endsLine x = false := by
  have no_return : x ≠ '\r' := by rintro rfl; exact absurd printable (by decide)
  have no_end : x ≠ endMark := by rintro rfl; exact absurd printable (by decide)
  simp [endsLine, isBreak, other, no_return, no_end]

/-- A misplaced line makes a longer one for the reader, where it has its indentation. -/
theorem Misplaced.longer {line rest : List Char} {m : Nat} (h : Misplaced line rest)
    (first : ∀ x ∈ line.head?, breaksLine x = false) (printable : ∀ x ∈ line, isPrintable x)
    (margin : 0 < m) (n : Nat) (next : List Char) :
    ∃ z, (padLines (pad (n + 1)) false (fun c => [c]) (line ++ rest) ++ (pad m ++ next)).takeWhile
        (fun x => ¬ endsLine x) = padLines (pad (n + 1)) false (fun c => [c]) line ++ z ∧
      line.length < (padLines (pad (n + 1)) false (fun c => [c]) line ++ z).length := by
  have space {x : Char} {k : Nat} (hx : x ∈ pad k) : endsLine x = false := by
    rw [List.eq_of_mem_replicate hx]
    rfl
  have inside : ∀ x ∈ padLines (pad (n + 1)) false (fun c => [c]) line,
      decide (¬ endsLine x) = true := by
    intro x hx
    by_cases blank : x ∈ pad (n + 1)
    · simp [space blank]
    · rw [mem_padLines_iff _ blank] at hx
      have other : x ≠ '\n' := by rintro rfl; exact h.other hx
      simp [endsLine_of_printable (printable x hx) other]
  rcases h.ends with rfl | ⟨t, rfl⟩
  · refine ⟨pad m ++ next.takeWhile fun x => ¬ endsLine x, ?_, ?_⟩
    · rw [List.append_nil, List.takeWhile_append_of_pos inside,
        List.takeWhile_append_of_pos fun x hx => by simp [space hx]]
    · have := length_le_padLines (pad (n + 1)) false line
      simp only [List.length_append, length_pad]
      omega
  · refine ⟨[], ?_, ?_⟩
    · rw [padLines_append_feed, List.append_assoc, List.takeWhile_append_of_pos inside]
      rfl
    · rw [List.append_nil]
      refine length_lt_padLines (List.cons_ne_nil _ _) false h.other ?_
      have found := h.found
      cases line with
      | nil => cases found
      | cons d line =>
          have other : breaksLine d = false := first d rfl
          have no_feed : d ≠ '\n' := by rintro rfl; cases other
          rw [List.cons_append, separatorsAtEnds, if_neg no_feed, if_neg (by simp [other])]
            at found ⊢
          exact found

/-! ### Reading the block -/

theorem weight_blockHeader (cs : List Char) : weight (blockHeader cs) = 0 := by
  rw [blockHeader, ← startsBlank]
  rcases cs.reverse with _ | ⟨c, _ | ⟨d, rest⟩⟩
  · cases startsBlank cs <;> rfl
  · dsimp only
    cases startsBlank cs <;> cases breaksLine c <;> rfl
  · dsimp only
    cases startsBlank cs <;> cases breaksLine c <;> cases breaksLine d <;> rfl

theorem weight_closing (cs : List Char) : weight (closing cs) = 0 := by
  rw [closing]
  split_ifs <;> rfl

theorem weight_pad (n : Nat) : weight (pad n) = 0 :=
  weight_eq_zero_iff.mpr fun x hx => by rw [List.eq_of_mem_replicate hx]; rfl

theorem weight_writeBlock (n : Nat) (cs : List Char) :
    weight (writeBlock (pad n) cs) = weight cs := by
  have feed : isHeavy '\n' = false := rfl
  rw [writeBlock, weight_append, weight_cons, weight_padLines _ (weight_pad n), weight_blockHeader]
  simp [feed]

/-- The reader of a block comes to a misplaced line; `before` is the text in front of it, `s` what
it has of that, and `next` what stands after the block in column `m`. -/
structure AtMisplaced (n m : Nat) (cs next : List Char) (c : Cursor) (before line rest : List Char)
    (s : BlockLines) (fuel : Nat) : Prop where
  split     : cs ++ closing cs = before ++ (line ++ rest)
  misplaced : Misplaced line rest
  printable : ∀ x ∈ line, isPrintable x
  read      : s.acc.reverse ++ (s.joint false).reverse = before
  text      : s.cursor.rest =
    padLines (pad (n + 2)) false (fun c => [c]) (line ++ rest) ++ (pad m ++ next)
  column    : s.cursor.column = if line.head?.any breaksLine then 0 else n + 2
  answer    : ∀ t, t = blockLines false (n + 2) (fuel + 1) s →
    blockText? n c = some (String.ofList (t.ending (chompingFor cs) (n + 2) ++ t.acc).reverse,
      t.cursor)

section
variable {n m : Nat} {cs next : List Char} {c : Cursor}

theorem exists_atMisplaced (printable : ∀ x ∈ cs, isPrintable x)
    (misplaced : separatorsAtEnds true cs = false)
    (hr : c.rest = writeBlock (pad (n + 2)) cs ++ (closing cs ++ (pad m ++ next))) :
    ∃ before line rest s fuel, AtMisplaced n m cs next c before line rest s fuel := by
  obtain ⟨lines, e, _, all, split, written, whole⟩ := exists_lines (pad (n + 2)) printable
  rw [if_neg (by simp [misplaced])] at whole
  obtain ⟨line, rest, rfl, mis⟩ := whole
  obtain ⟨y, l, rfl⟩ : ∃ y l, line = y :: l := List.exists_cons_of_ne_nil fun no => by
    obtain ⟨x, hx, -⟩ := mis.exists_separator
    rw [no] at hx
    cases hx
  have shown : ∀ x ∈ y :: l, isPrintable x := by
    intro x hx
    refine printable_append_closing printable x ?_
    rw [split]
    exact List.mem_append_right _ (List.mem_append_right _ (List.mem_append_left _ hx))
  have feed : y ≠ '\n' := by rintro rfl; exact mis.other (List.mem_cons_self ..)
  have stop := endsLine_of_printable (shown y (List.mem_cons_self ..)) feed
  obtain ⟨k, k_eq⟩ : ∃ k, k = if breaksLine y then 0 else n + 2 := ⟨_, rfl⟩
  -- the writer's indentation, if there is any
  obtain ⟨zs, first, line_written⟩ : ∃ zs,
      padLines (pad (n + 2)) false (fun c => [c]) (y :: l ++ rest) ++ (pad m ++ next) = y :: zs ∧
        padLines (pad (n + 2)) true (fun c => [c]) (y :: l ++ rest) ++ (pad m ++ next) =
          pad k ++ y :: zs := by
    refine ⟨padLines (pad (n + 2)) (breaksLine y) (fun c => [c]) (l ++ rest) ++ (pad m ++ next), ?_⟩
    rw [List.cons_append, padLines, padLines, k_eq]
    cases breaksLine y <;> simp [pad]
  obtain ⟨header, header_eq, header_read⟩ := blockHeader?_blockHeader cs
    (spread (pad (n + 2)) lines ++ (feeds e ++ (pad k ++ y :: zs)))
  rw [writeBlock_append header_eq written, List.append_assoc, List.append_assoc, line_written] at hr
  have place : k = n + 2 ∨ k = 0 ∧ breaksLine y := by
    rw [k_eq]
    split_ifs with line
    · exact .inr ⟨rfl, line⟩
    · exact .inl rfl
  have column : k = n + 2 ∨ y ≠ ' ' ∧ k ≤ n + 2 := by
    refine place.imp_right fun start => ⟨?_, by omega⟩
    rintro rfl
    cases start.2
  have more : y ≠ endMark := by
    rintro rfl
    exact absurd stop (by decide)
  have solid : cs ≠ [] := by
    rintro rfl
    cases misplaced
  obtain ⟨s, fuel, text, at_column, read, -, answer⟩ := blockText?_lines all hr header_read
    (Bool.or_eq_false_iff.mp stop).1 column solid split
    fun _ => ⟨⟨y, l ++ rest, zs, rfl, rfl, more⟩, place⟩
  exact ⟨_, _, rest, s, fuel, by rw [split, List.append_assoc], mis, shown, read,
    text.trans first.symm, at_column.trans k_eq, answer⟩

section
variable {before line rest : List Char} {s : BlockLines} {fuel : Nat}

/-- At a separator in the first column the block ends. -/
theorem AtMisplaced.read_first (h : AtMisplaced n m cs next c before line rest s fuel)
    (total : weight c.rest = weight cs) (first : line.head?.any breaksLine) :
    ∃ text c', blockText? n c = some (text, c') ∧ text.toList ≠ cs ∧
      weight c'.rest ≤ weight cs ∧ c'.column = 0 ∧
      ∃ x r, c'.rest = x :: r ∧ breaksLine x ∧ isPrintable x ∧ x ≠ '\n' := by
  have column := h.column
  rw [if_pos first] at column
  have answer := h.answer s (blockLines_of_column (by omega) _).symm
  obtain ⟨x, l, rfl⟩ : ∃ x l, line = x :: l := List.exists_cons_of_ne_nil fun no => by
    rw [no] at first
    cases first
  have shown := h.printable x (List.mem_cons_self ..)
  have feed : x ≠ '\n' := by rintro rfl; exact h.misplaced.other (List.mem_cons_self ..)
  have text := h.text
  rw [List.cons_append, padLines, if_pos (show breaksLine x from first)] at text
  have one : 0 < weight s.cursor.rest := by
    rw [text]
    exact weight_pos_of_mem (List.mem_cons_self ..) (isHeavy_of_breaksLine first shown feed)
  have less := weight_blockText? answer
  refine ⟨_, _, answer, ?_, by omega, column, x, _, text, first, shown, feed⟩
  intro same
  rw [same] at less
  omega

theorem AtMisplaced.not_atEnd (h : AtMisplaced n m cs next c before line rest s fuel)
    (first : ∀ x ∈ line.head?, breaksLine x = false) : s.cursor.atEnd = false := by
  obtain ⟨y, l, rfl⟩ : ∃ y l, line = y :: l := List.exists_cons_of_ne_nil fun no => by
    obtain ⟨x, hx, -⟩ := h.misplaced.exists_separator
    rw [no] at hx
    cases hx
  have feed : y ≠ '\n' := by rintro rfl; exact h.misplaced.other (List.mem_cons_self ..)
  have stop := endsLine_of_printable (h.printable y (List.mem_cons_self ..)) feed
  have text := h.text
  rw [List.cons_append, padLines, if_neg (by simp [first y rfl])] at text
  rw [Cursor.atEnd, Cursor.char_of_rest text]
  exact (Bool.or_eq_false_iff.mp stop).2

/-- A text with a longer line in that place is another one. -/
theorem AtMisplaced.ne_of_longer (h : AtMisplaced n m cs next c before line rest s fuel)
    {line' tail : List Char} (feed : '\n' ∉ line') (longer : line.length < line'.length)
    (ends : AtLineEnd tail) : before ++ (line' ++ tail) ≠ cs := by
  intro same
  have parts : line' ++ (tail ++ closing cs) = line ++ rest := by
    refine (List.append_right_inj before).mp ?_
    calc before ++ (line' ++ (tail ++ closing cs))
        = before ++ (line' ++ tail) ++ closing cs := by simp
      _ = before ++ (line ++ rest) := by rw [same, h.split]
  have equal := line_eq feed h.misplaced.other (ends.append (atLineEnd_closing cs))
    h.misplaced.ends parts
  rw [equal] at longer
  exact absurd longer (Nat.lt_irrefl _)

/-- What the reader takes for the line: it is longer, and the separators are in it. -/
theorem AtMisplaced.exists_line (h : AtMisplaced n m cs next c before line rest s fuel)
    (margin : 0 < m) (first : ∀ x ∈ line.head?, breaksLine x = false) :
    ∃ line', s.cursor.rest.takeWhile (fun x => ¬ endsLine x) = line' ∧ '\n' ∉ line' ∧
      line.length < line'.length ∧ ∀ x ∈ line, breaksLine x → x ∈ line' := by
  obtain ⟨z, taken, longer⟩ := h.misplaced.longer first h.printable margin (n + 1) next
  rw [← h.text] at taken
  refine ⟨_, taken, fun feed => ?_, longer, fun x hx breaks => ?_⟩
  · rw [← taken] at feed
    exact absurd (List.mem_takeWhile_imp feed) (by decide)
  · have space : x ∉ pad (n + 2) := fun mem => by
      rw [List.eq_of_mem_replicate mem] at breaks
      cases breaks
    exact List.mem_append_left _ ((mem_padLines_iff _ space false line).mpr hx)

/-- A separator inside a line is read with the indentation that the writer puts after it. -/
theorem AtMisplaced.read_inside (h : AtMisplaced n m cs next c before line rest s fuel)
    (total : weight c.rest = weight cs) (margin : 0 < m) (inside : ¬ line.head?.any breaksLine) :
    ∃ text c', blockText? n c = some (text, c') ∧ text.toList ≠ cs ∧
      weight c'.rest < weight cs := by
  have first : ∀ x ∈ line.head?, breaksLine x = false := fun x hx => by
    rw [hx] at inside
    simpa using inside
  have column := h.column
  rw [if_neg inside] at column
  obtain ⟨line', line_read, feed, longer, taken⟩ := h.exists_line margin first
  obtain ⟨z, read, ends⟩ := exists_acc_of_line column (by omega) (h.not_atEnd first) fuel
  rw [h.read, line_read] at read
  obtain ⟨t, ht⟩ : ∃ t, t = blockLines false (n + 2) (fuel + 1) s := ⟨_, rfl⟩
  have answer := h.answer t ht
  have less := weight_blockText? answer
  rw [← ht] at read
  have found : (t.ending (chompingFor cs) (n + 2) ++ t.acc).reverse =
      before ++ (line' ++ (z ++ (t.ending (chompingFor cs) (n + 2)).reverse)) := by
    rw [List.reverse_append, read]
    simp
  rw [found] at answer less
  refine ⟨_, _, answer, ?_, ?_⟩
  · rw [String.toList_ofList]
    exact h.ne_of_longer feed longer (ends.append
      (atLineEnd_of_feeds fun x hx => eq_feed_of_mem_ending (List.mem_reverse.mp hx)))
  · obtain ⟨x, hx, breaks, heavy⟩ := h.misplaced.exists_heavy h.printable
    have positive := weight_pos_of_mem (List.mem_append_right before
      (List.mem_append_left (z ++ (t.ending (chompingFor cs) (n + 2)).reverse)
        (taken x hx breaks))) heavy
    rw [String.toList_ofList] at less
    omega

end

/-- **A misplaced separator**: the block is read as another text.  What is left has fewer
separators than the text, unless the reader has stopped at one in the first column. -/
theorem blockText?_misplaced (printable : ∀ x ∈ cs, isPrintable x)
    (misplaced : separatorsAtEnds true cs = false) (margin : 0 < m) (light : weight next = 0)
    (hr : c.rest = writeBlock (pad (n + 2)) cs ++ (closing cs ++ (pad m ++ next))) :
    ∃ text c', blockText? n c = some (text, c') ∧ text.toList ≠ cs ∧
      weight c'.rest ≤ weight cs ∧
      (weight c'.rest < weight cs ∨
        c'.column = 0 ∧ ∃ x r, c'.rest = x :: r ∧ breaksLine x ∧ isPrintable x ∧ x ≠ '\n') := by
  have total : weight c.rest = weight cs := by
    rw [hr]
    simp [weight_writeBlock, weight_closing, weight_pad, light]
  obtain ⟨before, line, rest, s, fuel, h⟩ := exists_atMisplaced printable misplaced hr
  by_cases first : line.head?.any breaksLine
  · obtain ⟨text, c', read, other, less, stopped⟩ := h.read_first total first
    exact ⟨text, c', read, other, less, .inr stopped⟩
  · obtain ⟨text, c', read, other, less⟩ := h.read_inside total margin first
    exact ⟨text, c', read, other, Nat.le_of_lt less, .inl less⟩

end

end Courier.Yaml
