import Courier.Proofs.Text.Span
import Courier.Proofs.Yaml.Cursor
import Courier.Yaml.Style
import Courier.Yaml.Token.BlockText
import Mathlib.Tactic.SplitIfs

/-!
# Courier — Proofs — Block texts

A text that is written as a block is read back (`blockText?_writeBlock`).  It is taken apart into
the lines with something in them and the empty lines before each (`spread`), which is how the
reader goes through it; the writer puts its indentation before the same lines, as long as every
separator that it takes for a line break stands at the end of a line (`separatorsAtEnds`).  So it
does with the lines before the first in which one stands elsewhere (`Misplaced`, `exists_lines`).
-/

namespace Courier.Yaml

/-! ### Lines -/

def feeds (n : Nat) : List Char := List.replicate n '\n'

/-- Lines with something in them, each with `indentation` before it and a number of empty lines
before that. -/
def spread (indentation : List Char) (lines : List (Nat × List Char)) : List Char :=
  lines.flatMap fun p => feeds p.1 ++ (indentation ++ (p.2 ++ ['\n']))

theorem length_le_spread (indentation : List Char) (lines : List (Nat × List Char)) :
    lines.length ≤ (spread indentation lines).length := by
  induction lines with
  | nil => exact Nat.le_refl 0
  | cons p lines ih =>
      rw [spread] at ih ⊢
      rw [List.flatMap_cons, List.length_append, List.length_cons]
      simp only [List.length_append, List.length_singleton]
      omega

structure IsLine (line : List Char) : Prop where
  nonempty : line ≠ []
  inside   : ∀ x ∈ line, endsLine x = false

theorem IsLine.peek_append {line : List Char} (h : IsLine line) (rest : List Char) :
    endsLine (peek (line ++ rest)) = false := by
  rw [peek_append_of_ne_nil h.nonempty]
  cases line with
  | nil => exact absurd rfl h.nonempty
  | cons c line => exact h.inside c (List.mem_cons_self ..)

theorem IsLine.takeWhile {line : List Char} (h : IsLine line) (rest : List Char) :
    (line ++ '\n' :: rest).takeWhile (fun x => ¬ endsLine x) = line := by
  refine Text.takeWhile_append_of_all (fun x hx => ?_) fun x hx => ?_
  · simp [h.inside x hx]
  · cases hx
    decide

/-- What ends a line and is not a line break is not printable. -/
theorem IsLine.of_printable {line : List Char} (nonempty : line ≠ [])
    (printable : ∀ x ∈ line, isPrintable x) (other : '\n' ∉ line) : IsLine line := by
  refine ⟨nonempty, fun x hx => ?_⟩
  have shown := printable x hx
  have no_feed : x ≠ '\n' := by rintro rfl; exact other hx
  have no_return : x ≠ '\r' := by rintro rfl; exact absurd shown (by decide)
  have no_zero : x ≠ endMark := by rintro rfl; exact absurd shown (by decide)
  simp [endsLine, isBreak, no_feed, no_return, no_zero]

/-- One more empty line is before the first line, or among those after the last. -/
theorem exists_spread_feed {lines : List (Nat × List Char)} (all : ∀ p ∈ lines, IsLine p.2)
    (e : Nat) :
    ∃ lines' e', (∀ p ∈ lines', IsLine p.2) ∧ ∀ indentation rest,
      '\n' :: (spread indentation lines ++ (feeds e ++ rest)) =
        spread indentation lines' ++ (feeds e' ++ rest) := by
  cases lines with
  | nil => exact ⟨[], e + 1, all, fun _ _ => rfl⟩
  | cons p lines =>
      refine ⟨(p.1 + 1, p.2) :: lines, e, ?_, fun _ _ => rfl⟩
      rw [List.forall_mem_cons] at all ⊢
      exact all

theorem takeWhile_pad {k : Nat} {next : List Char} (h : peek next ≠ ' ') :
    (pad k ++ next).takeWhile (· == ' ') = pad k := by
  refine Text.takeWhile_append_of_all (fun x hx => ?_) fun x hx => ?_
  · simp [List.eq_of_mem_replicate hx]
  · cases next with
    | nil => cases hx
    | cons y next =>
        cases hx
        simpa [peek] using h

theorem length_le_takeWhile_pad (k : Nat) (next : List Char) :
    k ≤ ((pad k ++ next).takeWhile (· == ' ')).length := by
  rw [List.takeWhile_append_of_pos fun x hx => by simp [List.eq_of_mem_replicate hx]]
  simp

/-- How many of the spaces at the start of a line are its indentation. -/
def indentation (limit : Option Nat) (spaces column : Nat) : Nat :=
  match limit with
  | some n => min spaces (n - column)
  | none   => spaces

theorem passEmptyLines_succ (limit : Option Nat) (fuel breaks widest : Nat) (c : Cursor) :
    passEmptyLines limit (fuel + 1) breaks widest c =
      let c := c.advance (indentation limit (c.rest.takeWhile (· == ' ')).length c.column)
      if isBreak c.char then
        passEmptyLines limit fuel (breaks + 1) (max widest c.column) c.passBreak
      else (breaks, max widest c.column, c) := by
  cases limit <;> rfl

/-- Empty lines and the indentation after them are passed; a given indentation is passed and no
space after it. -/
theorem passEmptyLines_feeds {limit : Option Nat} {k : Nat} {next : List Char}
    (stop : isBreak (peek next) = false)
    (h : limit = some k ∨ peek next ≠ ' ' ∧ ∀ n ∈ limit, k ≤ n) :
    ∀ (e fuel breaks widest : Nat) (c : Cursor), e < fuel → c.column = 0 →
      c.rest = feeds e ++ (pad k ++ next) →
      ∃ c', passEmptyLines limit fuel breaks widest c = (breaks + e, max widest k, c') ∧
        c'.rest = next ∧ c'.column = k := by
  intro e
  induction e with
  | zero =>
      intro fuel breaks widest c hf hc hr
      obtain ⟨fuel, rfl⟩ : ∃ f, fuel = f + 1 := ⟨fuel - 1, by omega⟩
      have line : c.rest = pad k ++ next := hr
      have passed : indentation limit (c.rest.takeWhile (· == ' ')).length c.column = k := by
        rw [line, hc]
        rcases h with rfl | ⟨space, bound⟩
        · exact Nat.min_eq_right (length_le_takeWhile_pad k next)
        · rw [takeWhile_pad space, length_pad]
          cases limit with
          | none => rfl
          | some n => exact Nat.min_eq_left (bound n rfl)
      have rest : (c.advance k).rest = next := by
        rw [Cursor.rest_advance, line]
        exact List.drop_left' (length_pad k)
      refine ⟨c.advance k, ?_, rest, by rw [Cursor.column_advance, hc, Nat.zero_add]⟩
      have char : (c.advance k).char = peek next := by rw [Cursor.char, rest]
      rw [passEmptyLines_succ, passed]
      simp [char, stop, hc]
  | succ e ih =>
      intro fuel breaks widest c hf hc hr
      obtain ⟨fuel, rfl⟩ : ∃ f, fuel = f + 1 := ⟨fuel - 1, by omega⟩
      have feed : c.rest = '\n' :: (feeds e ++ (pad k ++ next)) := hr
      have passed : indentation limit (c.rest.takeWhile (· == ' ')).length c.column = 0 := by
        rw [feed]
        cases limit with
        | none => rfl
        | some n => exact Nat.zero_min _
      obtain ⟨c', read, rest, column⟩ := ih fuel (breaks + 1) widest (c.newLine 1) (by omega) rfl
        (by rw [Cursor.newLine, feed]; rfl)
      refine ⟨c', ?_, rest, column⟩
      rw [passEmptyLines_succ, passed]
      simp only [Cursor.advance_zero, Cursor.char_of_rest feed, hc, Cursor.passBreak_of_rest feed]
      rw [if_pos (by rfl), Nat.max_zero, read, Nat.add_right_comm]
      rfl

/-! ### Reading the lines -/

theorem reverse_feeds (n : Nat) : (feeds n).reverse = feeds n := List.reverse_replicate

theorem feeds_append_feed (n : Nat) (cs : List Char) :
    feeds n ++ '\n' :: cs = '\n' :: (feeds n ++ cs) := by
  rw [feeds, ← List.singleton_append, ← List.append_assoc, ← List.replicate_succ']
  rfl

theorem joint_of_not_folded (s : BlockLines) :
    s.joint false = (if s.pending then ['\n'] else []) ++ feeds s.breaks :=
  if_neg fun h => absurd h.1 (by decide)

theorem blockLines_of_column {indent : Nat} {s : BlockLines} (h : s.cursor.column ≠ indent)
    (fuel : Nat) : blockLines false indent fuel s = s := by
  cases fuel with
  | zero => rfl
  | succ fuel => exact if_pos (.inl h)

/-- One line is read, with the empty lines after it and the indentation of what follows. -/
theorem blockLines_line {indent k b : Nat} {line next : List Char} (some : indent ≠ 0)
    (stop : isBreak (peek next) = false) (h : k = indent ∨ peek next ≠ ' ' ∧ k ≤ indent)
    (fuel : Nat) {s : BlockLines} (hl : IsLine line) (hc : s.cursor.column = indent)
    (hr : s.cursor.rest = line ++ '\n' :: (feeds b ++ (pad k ++ next))) :
    ∃ t, blockLines false indent (fuel + 1) s = blockLines false indent fuel t ∧
      t.cursor.rest = next ∧ t.cursor.column = k ∧ t.pending = true ∧ t.breaks = b ∧
      t.acc = line.reverse ++ (s.joint false ++ s.acc) := by
  have char : endsLine s.cursor.char = false := by
    rw [Cursor.char, hr]
    exact hl.peek_append _
  have more : s.cursor.atEnd = false := (Bool.or_eq_false_iff.mp char).2
  have here : ¬ (s.cursor.column ≠ indent ∨ s.cursor.atEnd ∨
      (indent = 0 ∧ s.cursor.atMarker '.')) := by
    simp [hc, more, some]
  have taken : s.cursor.rest.takeWhile (fun x => ¬ endsLine x) = line := by
    rw [hr]
    exact hl.takeWhile _
  have rest : (s.cursor.pass line.length).rest = '\n' :: (feeds b ++ (pad k ++ next)) := by
    rw [Cursor.rest_pass, hr, List.drop_left]
  have later : (s.cursor.pass line.length).atEnd = false := by
    rw [Cursor.atEnd, Cursor.char_of_rest rest]
    rfl
  have limit : Option.some indent = Option.some k ∨
      peek next ≠ ' ' ∧ ∀ n ∈ Option.some indent, k ≤ n := by
    rcases h with rfl | ⟨space, bound⟩
    · exact .inl rfl
    · exact .inr ⟨space, fun n hn => by cases hn; exact bound⟩
  obtain ⟨c', passed, rest', column'⟩ := passEmptyLines_feeds stop limit b
    ((s.cursor.pass line.length).rest.length + 1) 0 0 ((s.cursor.pass line.length).newLine 1)
    (by rw [rest]; simp [feeds]; omega) rfl (by rw [Cursor.newLine, rest]; rfl)
  rw [Nat.zero_add] at passed
  refine ⟨{ cursor := c', acc := line.reverse ++ (s.joint false ++ s.acc), pending := true,
            breaks := b, blankStart := isBlank s.cursor.char }, ?_, rest', column', rfl, rfl, rfl⟩
  rw [blockLines]
  simp only [if_neg here, taken, later, Bool.false_eq_true, if_false,
    Cursor.passBreak_of_rest rest, passed, List.append_assoc]

/-- Lines with the indentation are read, and the empty ones after them. -/
theorem blockLines_lines {indent k e : Nat} {next : List Char} (some : indent ≠ 0)
    (stop : isBreak (peek next) = false) (h : k = indent ∨ peek next ≠ ' ' ∧ k ≤ indent)
    (fuel : Nat) :
    ∀ (lines : List (Nat × List Char)) (line : List Char) (s : BlockLines),
      IsLine line → (∀ p ∈ lines, IsLine p.2) → s.cursor.column = indent →
      s.cursor.rest =
        line ++ '\n' :: (spread (pad indent) lines ++ (feeds e ++ (pad k ++ next))) →
      ∃ t, blockLines false indent (fuel + lines.length + 1) s = blockLines false indent fuel t ∧
        t.cursor.rest = next ∧ t.cursor.column = k ∧ t.pending = true ∧ t.breaks = e ∧
        t.acc.reverse ++ ['\n'] = s.acc.reverse ++ (s.joint false).reverse ++ line ++
          '\n' :: spread [] lines := by
  intro lines
  induction lines with
  | nil =>
      intro line s hl _ hc hr
      obtain ⟨t, read, rest, column, pending, breaks, acc⟩ :=
        blockLines_line some stop h fuel hl hc hr
      exact ⟨t, read, rest, column, pending, breaks, by simp [acc, spread]⟩
  | cons p lines ih =>
      intro line s hl hp hc hr
      obtain ⟨b, l⟩ := p
      have next_line : IsLine l := hp (b, l) (List.mem_cons_self ..)
      have split : s.cursor.rest = line ++ '\n' :: (feeds b ++ (pad indent ++
          (l ++ '\n' :: (spread (pad indent) lines ++ (feeds e ++ (pad k ++ next)))))) := by
        rw [hr]
        simp [spread]
      have stop' := (Bool.or_eq_false_iff.mp (next_line.peek_append
        ('\n' :: (spread (pad indent) lines ++ (feeds e ++ (pad k ++ next)))))).1
      obtain ⟨t, read, rest, column, pending, breaks, acc⟩ :=
        blockLines_line some stop' (.inl rfl) (fuel + lines.length + 1) hl hc split
      obtain ⟨u, read', rest', column', pending', breaks', acc'⟩ := ih l t next_line
        (fun q hq => hp q (List.mem_cons_of_mem _ hq)) column rest
      refine ⟨u, read.trans read', rest', column', pending', breaks', ?_⟩
      rw [acc', acc, joint_of_not_folded t, pending, breaks]
      simp [spread, reverse_feeds, feeds_append_feed]

/-! ### Writing the lines -/

/-- Every separator stands at the end of a line: after another character of the line, and before
the line break or a further separator.  `start` tells that a line starts here. -/
def separatorsAtEnds (start : Bool) : List Char → Bool
  | []      => true
  | c :: cs =>
    if c = '\n' then separatorsAtEnds true cs
    else if breaksLine c then !start && cs.head?.any breaksLine && separatorsAtEnds false cs
    else separatorsAtEnds false cs

/-- The lines up to a line break, and those after it. -/
theorem separatorsAtEnds_append_feed (cs t : List Char) (start : Bool) :
    separatorsAtEnds start (cs ++ '\n' :: t) =
      (separatorsAtEnds start (cs ++ ['\n']) && separatorsAtEnds true t) := by
  induction cs generalizing start with
  | nil => rfl
  | cons c cs ih =>
      have next : (cs ++ '\n' :: t).head?.any breaksLine = (cs ++ ['\n']).head?.any breaksLine := by
        cases cs <;> rfl
      rw [List.cons_append, List.cons_append, separatorsAtEnds, separatorsAtEnds, ih, ih, next]
      split_ifs
      · rfl
      · simp only [Bool.and_assoc]
      · rfl

/-- A text with its separators in such places ends in a line break or in no break at all. -/
theorem eq_feed_of_getLast? {cs : List Char} {start : Bool} (h : separatorsAtEnds start cs)
    {x : Char} (last : cs.getLast? = some x) (line : breaksLine x) : x = '\n' := by
  induction cs generalizing start with
  | nil => cases last
  | cons c cs ih =>
      rw [separatorsAtEnds] at h
      cases cs with
      | nil =>
          obtain rfl : c = x := by simpa using last
          split_ifs at h with feed
          · exact feed
          · simp at h
      | cons d cs =>
          have last : (d :: cs).getLast? = some x := last
          split_ifs at h with feed
          · exact ih h last
          · exact ih (Bool.and_eq_true_iff.mp h).2 last
          · exact ih h last

/-- The line break that the writer puts after a block which does not end in one. -/
def closing (cs : List Char) : List Char := if cs.getLast?.any breaksLine then [] else ['\n']

theorem closing_cons_cons (c d : Char) (cs : List Char) :
    closing (c :: d :: cs) = closing (d :: cs) := rfl

theorem separatorsAtEnds_closing (cs : List Char) (start : Bool) :
    separatorsAtEnds start (cs ++ closing cs) = separatorsAtEnds start cs := by
  induction cs generalizing start with
  | nil => rfl
  | cons c cs ih =>
      cases cs with
      | nil =>
          rw [closing]
          split_ifs with line
          · rw [List.append_nil]
          · have other : c ≠ '\n' := by rintro rfl; exact line (by decide)
            rw [List.getLast?_singleton, Option.any_some] at line
            simp [separatorsAtEnds, other, line]
      | cons d cs =>
          rw [closing_cons_cons, List.cons_append, separatorsAtEnds, separatorsAtEnds, ih, ih]
          rfl

/-- With that the text ends in a break, be it one for the writer only. -/
theorem exists_getLast?_closing (cs : List Char) :
    ∃ x, (cs ++ closing cs).getLast? = some x ∧ breaksLine x := by
  rw [closing]
  split_ifs with line
  · rw [List.append_nil]
    cases last : cs.getLast? with
    | none =>
        rw [last] at line
        cases line
    | some x =>
        rw [last] at line
        exact ⟨x, rfl, line⟩
  · exact ⟨'\n', by simp, by decide⟩

/-- At the end of a line for writer and reader, or at the end of the text. -/
def AtLineEnd (rest : List Char) : Prop := rest = [] ∨ ∃ t, rest = '\n' :: t

/-- A line that a writer ends in another place than a reader: a separator stands at its start,
before more of the line, or as the last character of the text.  `rest` is what comes after. -/
structure Misplaced (line rest : List Char) : Prop where
  other : '\n' ∉ line
  ends  : AtLineEnd rest
  found : separatorsAtEnds true (line ++ rest.take 1) = false

theorem Misplaced.not_placed {line rest : List Char} (h : Misplaced line rest) :
    separatorsAtEnds true (line ++ rest) = false := by
  have found := h.found
  rcases h.ends with rfl | ⟨t, rfl⟩
  · exact found
  · rw [separatorsAtEnds_append_feed, Bool.and_eq_false_iff]
    exact .inl found

section
variable (indentation : List Char)

theorem padLines_concat (fresh : Bool) (write : Char → List Char) (cs : List Char) :
    padLines indentation fresh write (cs ++ ['\n']) =
      padLines indentation fresh write cs ++ ['\n'] := by
  induction cs generalizing fresh with
  | nil => rfl
  | cons c cs ih =>
      rw [List.cons_append, padLines, padLines, ih, ih]
      split_ifs <;> simp

/-- After the start of a line the rest of it is written as it is. -/
theorem padLines_line (t : List Char) {line : List Char} (other : '\n' ∉ line) :
    ∀ fresh : Bool, separatorsAtEnds false (line ++ ['\n']) →
      (fresh → (line ++ ['\n']).head?.any breaksLine) →
      padLines indentation fresh (fun c => [c]) (line ++ '\n' :: t) =
        line ++ '\n' :: padLines indentation true (fun c => [c]) t := by
  induction line with
  | nil => exact fun fresh _ _ => rfl
  | cons c line ih =>
      intro fresh h separator
      rw [List.mem_cons, not_or] at other
      rw [List.cons_append, separatorsAtEnds, if_neg (Ne.symm other.1)] at h
      rw [List.cons_append, padLines]
      split_ifs at h ⊢ with line_break start
      · rw [Bool.and_eq_true, Bool.and_eq_true] at h
        exact congrArg (c :: ·) (ih other.2 true h.2 fun _ => h.1.2)
      · exact absurd (by simpa using separator start) line_break
      · exact congrArg (c :: ·) (ih other.2 false h fun no => by cases no)

/-- A text of whole lines, and what the writer makes of it: the lines up to one that is misplaced,
if there is one. -/
theorem exists_spread : ∀ (k : Nat) (t : List Char), t.length ≤ k → (∀ x ∈ t, isPrintable x) →
    (∀ x ∈ t.getLast?, breaksLine x) →
    ∃ lines e rest, (∀ p ∈ lines, IsLine p.2) ∧ t = spread [] lines ++ (feeds e ++ rest) ∧
      padLines indentation true (fun c => [c]) t =
        spread indentation lines ++ (feeds e ++ padLines indentation true (fun c => [c]) rest) ∧
      separatorsAtEnds true t = separatorsAtEnds true rest ∧
      (rest = [] ∨ ∃ line later, rest = line ++ later ∧ Misplaced line later) := by
  intro k
  induction k with
  | zero =>
      intro t ht _ _
      cases List.eq_nil_of_length_eq_zero (Nat.le_zero.mp ht)
      exact ⟨[], 0, [], by simp, rfl, rfl, rfl, .inl rfl⟩
  | succ k ih =>
      intro t ht printable ending
      cases t with
      | nil => exact ⟨[], 0, [], by simp, rfl, rfl, rfl, .inl rfl⟩
      | cons c t =>
          by_cases feed : c = '\n'
          · subst feed
            obtain ⟨lines, e, rest, all, split, written, same, stuck⟩ := ih t (by simpa using ht)
              (fun x hx => printable x (List.mem_cons_of_mem _ hx))
              (fun x hx => ending x (by
                cases t with
                | nil => cases hx
                | cons d t => exact hx))
            obtain ⟨lines', e', all', feed⟩ := exists_spread_feed all e
            have here : padLines indentation true (fun c => [c]) ('\n' :: t) =
                '\n' :: padLines indentation true (fun c => [c]) t := rfl
            refine ⟨lines', e', rest, all', ?_, ?_, same, stuck⟩
            · rw [split, feed]
            · rw [here, written, feed]
          by_cases mem : '\n' ∈ t
          · obtain ⟨line, u, rfl, other⟩ := List.eq_append_cons_of_mem mem
            have here : '\n' ∉ c :: line := by
              rw [List.mem_cons, not_or]
              exact ⟨Ne.symm feed, other⟩
            by_cases placed : separatorsAtEnds true (c :: line ++ ['\n'])
            · rw [List.cons_append, separatorsAtEnds, if_neg feed] at placed
              have first : breaksLine c = false := by
                rw [← Bool.not_eq_true]
                intro line
                rw [if_pos line] at placed
                cases placed
              rw [if_neg (by simp [first])] at placed
              obtain ⟨lines, e, rest, all, split, written, same, stuck⟩ := ih u
                (by simp only [List.length_cons, List.length_append] at ht; omega)
                (fun x hx => printable x (by simp [hx]))
                (fun x hx => ending x (by
                  rw [← List.cons_append, List.append_cons, List.getLast?_append, hx]
                  rfl))
              refine ⟨(0, c :: line) :: lines, e, rest, ?_, ?_, ?_, ?_, stuck⟩
              · rw [List.forall_mem_cons]
                refine ⟨.of_printable (by simp) (fun x hx => printable x ?_) here, all⟩
                rw [← List.cons_append]
                exact List.mem_append_left _ hx
              · rw [split]
                simp [spread, feeds]
              · rw [padLines, if_neg (by simp [first]),
                  padLines_line indentation u other false placed (fun no => by cases no), written]
                simp [spread, feeds]
              · rw [separatorsAtEnds, if_neg feed, if_neg (by simp [first]),
                  separatorsAtEnds_append_feed, placed, Bool.true_and, same]
            · refine ⟨[], 0, c :: (line ++ '\n' :: u), by simp, rfl, rfl, rfl, .inr ?_⟩
              exact ⟨c :: line, '\n' :: u, rfl, here, .inr ⟨u, rfl⟩, by simpa using placed⟩
          · have here : '\n' ∉ c :: t := by
              rw [List.mem_cons, not_or]
              exact ⟨Ne.symm feed, mem⟩
            refine ⟨[], 0, c :: t, by simp, rfl, rfl, rfl, .inr ?_⟩
            refine ⟨c :: t, [], (List.append_nil _).symm, here, .inl rfl, ?_⟩
            rw [List.take_nil, List.append_nil, ← Bool.not_eq_true]
            intro placed
            have last := List.getLast?_eq_some_getLast (List.cons_ne_nil c t)
            refine here ?_
            rw [← eq_feed_of_getLast? placed last (ending _ last)]
            exact List.getLast_mem _

end

/-! ### The whole block -/

/-- The writer's sign as the reader takes it. -/
def chompingFor (cs : List Char) : Chomping :=
  match cs.reverse with
  | []          => .strip
  | [c]         => if breaksLine c then .keep else .strip
  | c :: d :: _ =>
    if ¬ breaksLine c then .strip else if breaksLine d then .keep else .clip

/-- The text starts with a blank, so that its indentation has to be given. -/
def startsBlank (cs : List Char) : Bool := cs.head?.any fun c => isSpaceChar c || breaksLine c

theorem blockHeader?_blockHeader (cs body : List Char) :
    ∃ header, blockHeader cs = '|' :: header ∧
      blockHeader? (header ++ '\n' :: body) =
        some (chompingFor cs, if startsBlank cs then 2 else 0, header.length) := by
  refine ⟨_, rfl, ?_⟩
  rw [chompingFor, ← startsBlank]
  rcases cs.reverse with _ | ⟨c, _ | ⟨d, rest⟩⟩
  · cases startsBlank cs <;> rfl
  · dsimp only
    cases startsBlank cs <;> cases breaksLine c <;> rfl
  · dsimp only
    cases startsBlank cs <;> cases breaksLine c <;> cases breaksLine d <;> rfl

theorem blockHeader_clean (cs : List Char) : endMark ∉ blockHeader cs := by
  rw [blockHeader, ← startsBlank]
  rcases cs.reverse with _ | ⟨c, _ | ⟨d, rest⟩⟩
  · cases startsBlank cs <;> decide
  · dsimp only
    cases startsBlank cs <;> cases breaksLine c <;> decide
  · dsimp only
    cases startsBlank cs <;> cases breaksLine c <;> cases breaksLine d <;> decide

theorem chompingFor_of_feed {cs rest : List Char} (h : cs.reverse = '\n' :: rest) :
    chompingFor cs = if rest.head?.all breaksLine then .keep else .clip := by
  rw [chompingFor, h]
  cases rest with
  | nil => rfl
  | cons d rest => exact if_neg (not_not_intro (by rfl : breaksLine '\n' = true))

theorem chompingFor_of_last {cs : List Char} (h : ¬ cs.getLast?.any breaksLine) :
    chompingFor cs = .strip := by
  rw [← List.head?_reverse] at h
  rw [chompingFor]
  revert h
  rcases cs.reverse with _ | ⟨c, _ | ⟨d, rest⟩⟩
  · exact fun _ => rfl
  · exact fun h => if_neg h
  · exact fun h => if_pos h

theorem reverse_append_feeds (acc : List Char) (e : Nat) :
    (acc ++ '\n' :: feeds e).reverse = '\n' :: (feeds e ++ acc.reverse) := by
  rw [← feeds_append_feed]
  simp [reverse_feeds]

/-- What the reader makes of the end of a block is what the writer found there; `acc` is the text
without its last line break and the empty lines after it. -/
theorem ending_eq {cs acc : List Char} {e : Nat}
    (same : cs ++ closing cs = acc ++ '\n' :: feeds e)
    {s : BlockLines} (breaks : s.breaks = e) (pending : s.pending = true) {indent : Nat}
    (left : s.cursor.column < indent) :
    acc ++ (s.ending (chompingFor cs) indent).reverse = cs := by
  have last : BlockLines.ending.last indent s = ['\n'] := by
    have outside : ¬ (s.cursor.atEnd ∧ max indent 1 ≤ s.cursor.column) := by omega
    rw [BlockLines.ending.last, if_neg outside, pending]
    rfl
  by_cases break_last : cs.getLast?.any breaksLine
  · rw [closing, if_pos break_last, List.append_nil] at same
    rw [chompingFor_of_feed (same ▸ reverse_append_feeds acc e)]
    split_ifs with several
    · rw [BlockLines.ending, last, breaks, ← feeds, List.reverse_append, reverse_feeds, same]
      rfl
    · -- a line with something in it is the last one
      obtain rfl : e = 0 := by
        cases e with
        | zero => rfl
        | succ e => exact absurd (by decide +kernel : breaksLine '\n') several
      rw [BlockLines.ending, last, same]
      rfl
  · rw [closing, if_neg break_last] at same
    obtain rfl : e = 0 := by
      cases e with
      | zero => rfl
      | succ e =>
          have split : acc ++ '\n' :: feeds (e + 1) = (acc ++ '\n' :: feeds e) ++ ['\n'] := by
            simp [feeds, List.replicate_succ']
          rw [split, List.append_left_inj] at same
          refine absurd ?_ break_last
          rw [same, ← List.head?_reverse, reverse_append_feeds]
          rfl
    rw [chompingFor_of_last break_last, BlockLines.ending, List.reverse_nil, List.append_nil]
    exact (List.append_cancel_right same).symm

/-- A text with its closing break, and what the writer makes of it: its lines, up to one that is
misplaced if there is one. -/
theorem exists_lines (indentation : List Char) {cs : List Char}
    (printable : ∀ x ∈ cs, isPrintable x) :
    ∃ lines e rest, (∀ p ∈ lines, IsLine p.2) ∧
      cs ++ closing cs = spread [] lines ++ (feeds e ++ rest) ∧
      padLines indentation true (fun c => [c]) cs ++ closing cs =
        spread indentation lines ++ (feeds e ++ padLines indentation true (fun c => [c]) rest) ∧
      if separatorsAtEnds true cs then rest = []
        else ∃ line later, rest = line ++ later ∧ Misplaced line later := by
  have whole : (∀ x ∈ cs ++ closing cs, isPrintable x) ∧
      padLines indentation true (fun c => [c]) cs ++ closing cs =
        padLines indentation true (fun c => [c]) (cs ++ closing cs) := by
    rw [closing]
    split_ifs
    · simp only [List.append_nil]
      exact ⟨printable, trivial⟩
    · refine ⟨fun x hx => ?_, (padLines_concat _ _ _ _).symm⟩
      rcases List.mem_append.mp hx with hx | hx
      · exact printable x hx
      · cases List.mem_singleton.mp hx
        rfl
  obtain ⟨x, last, breaks⟩ := exists_getLast?_closing cs
  obtain ⟨lines, e, rest, all, split, written, same, stuck⟩ :=
    exists_spread indentation _ _ (Nat.le_refl _) whole.1 fun y hy => by
      rw [last] at hy
      cases hy
      exact breaks
  refine ⟨lines, e, rest, all, split, whole.2.trans written, ?_⟩
  rw [separatorsAtEnds_closing] at same
  rw [same]
  rcases stuck with rfl | ⟨line, later, rfl, misplaced⟩
  · exact rfl
  · rw [misplaced.not_placed]
    exact ⟨line, later, rfl, misplaced⟩

theorem writeBlock_append {indentation cs header written : List Char}
    (mark : blockHeader cs = '|' :: header)
    (same : padLines indentation true (fun c => [c]) cs ++ closing cs = written)
    (next : List Char) :
    writeBlock indentation cs ++ (closing cs ++ next) =
      '|' :: (header ++ '\n' :: (written ++ next)) := by
  rw [writeBlock, mark, ← same]
  simp

/-- Where the indentation is not given, the first character shows it. -/
theorem of_startsBlank {cs ending ys : List Char} {y : Char} {b : Nat} (solid : cs ≠ [])
    (split : cs ++ ending = feeds b ++ y :: ys) (blank : startsBlank cs = false) :
    b = 0 ∧ y ≠ ' ' ∧ breaksLine y = false := by
  obtain ⟨x, xs, rfl⟩ := List.exists_cons_of_ne_nil solid
  rw [startsBlank, List.head?_cons, Option.any_some, Bool.or_eq_false_iff] at blank
  cases b with
  | zero =>
      obtain ⟨rfl, -⟩ := List.cons.inj split
      exact ⟨rfl, fun space => absurd blank.1 (by rw [space]; decide), blank.2⟩
  | succ b =>
      obtain ⟨rfl, -⟩ := List.cons.inj split
      exact absurd blank.2 (by decide)

/-- The indentation of a block whose lines start in column `n + 2`: given by a digit, or that of the
first line. -/
theorem indentation_eq (given : Bool) (n : Nat) :
    (if given then some (n + 2) else none).getD
      (max (max (max 0 (n + 2)) ((n : Int) + 1).toNat) (if 0 < (n : Int) then 1 else 0)) =
        n + 2 := by
  cases given with
  | true => rfl
  | false =>
      change max (max (max 0 (n + 2)) ((n : Int) + 1).toNat) (if 0 < (n : Int) then 1 else 0) = _
      split_ifs <;> omega

theorem limit_eq (given : Bool) (n : Nat) :
    (if (if given then 2 else 0) = 0 then none else some
      (if 0 ≤ (n : Int) then (n : Int).toNat + if given then 2 else 0
        else if given then 2 else 0)) = if given then some (n + 2) else none := by
  cases given with
  | true => exact congrArg some (if_pos (Int.natCast_nonneg n))
  | false => rfl

theorem peek_feeds_ne_tab (b n : Nat) (rest : List Char) :
    peek (feeds b ++ (pad (n + 1) ++ rest)) ≠ '\t' := by
  cases b with
  | zero => exact (by decide : ' ' ≠ '\t')
  | succ b => exact (by decide : '\n' ≠ '\t')

/-- A block up to its first line, in column `k`, or to what stands in the first column instead. -/
theorem blockText?_body {n k b : Nat} {cs header later : List Char} {c : Cursor}
    (hr : c.rest = '|' :: (header ++ '\n' :: (feeds b ++ (pad k ++ later))))
    (read : blockHeader? (header ++ '\n' :: (feeds b ++ (pad k ++ later))) =
      some (chompingFor cs, if startsBlank cs then 2 else 0, header.length))
    (stop : endsLine (peek later) = false) (tab : peek (feeds b ++ (pad k ++ later)) ≠ '\t')
    (shown : startsBlank cs = false → peek later ≠ ' ' ∧ k = n + 2)
    (column : k = n + 2 ∨ k = 0 ∧ peek later ≠ ' ') :
    ∃ first, first.rest = later ∧ first.column = k ∧ ∀ s,
      s = blockLines false (n + 2) (first.rest.length + 1) { cursor := first, breaks := b } →
      blockText? n c = some (String.ofList (s.ending (chompingFor cs) (n + 2) ++ s.acc).reverse,
        s.cursor) := by
  obtain ⟨stop_break, stop_end⟩ := Bool.or_eq_false_iff.mp stop
  have drop : c.rest.drop 1 = header ++ '\n' :: (feeds b ++ (pad k ++ later)) := by
    rw [hr]
    rfl
  have after_header : (c.pass (header.length + 1)).rest =
      '\n' :: (feeds b ++ (pad k ++ later)) := by
    rw [Cursor.rest_pass, hr]
    exact List.drop_left
  have body : ((c.pass (header.length + 1)).newLine 1).rest = feeds b ++ (pad k ++ later) := by
    rw [Cursor.newLine, after_header]
    rfl
  have limit : (if startsBlank cs then some (n + 2) else none) = some k ∨
      peek later ≠ ' ' ∧ ∀ i ∈ (if startsBlank cs then some (n + 2) else none), k ≤ i := by
    cases blank : startsBlank cs with
    | true =>
        rcases column with rfl | ⟨rfl, space⟩
        · exact .inl rfl
        · exact .inr ⟨space, fun i _ => Nat.zero_le i⟩
    | false => exact .inr ⟨(shown blank).1, fun i hi => by cases hi⟩
  have indent : (if startsBlank cs then some (n + 2) else none).getD
      (max (max (max 0 k) ((n : Int) + 1).toNat) (if 0 < (n : Int) then 1 else 0)) = n + 2 := by
    cases blank : startsBlank cs with
    | true => rfl
    | false =>
        obtain ⟨-, rfl⟩ := shown blank
        exact indentation_eq false n
  obtain ⟨first, passed, first_rest, first_column⟩ := passEmptyLines_feeds stop_break limit b
    (((c.pass (header.length + 1)).newLine 1).rest.length + 1) 0 0
    ((c.pass (header.length + 1)).newLine 1)
    (by rw [body, List.length_append, feeds, List.length_replicate]; omega) rfl body
  refine ⟨first, first_rest, first_column, ?_⟩
  rintro s rfl
  have blanks := Cursor.passBlanks?_of_rest true after_header rfl (by decide)
  have body_char : ((c.pass (header.length + 1)).newLine 1).char ≠ '\t' := by
    rwa [Cursor.char, body]
  have more : first.atEnd = false := by rwa [Cursor.atEnd, Cursor.char, first_rest]
  have not_folded : ('|' == '>') = false := rfl
  have feed : isBreak '\n' = true := rfl
  rw [blockText?]
  simp only [bind, Option.bind, Cursor.char_of_rest hr, drop, read, blanks,
    Cursor.char_of_rest after_header, Cursor.passBreak_of_rest after_header, limit_eq, feed,
    if_true, if_neg body_char, passed, more, indent, not_folded, Nat.zero_add, first_column]
  rw [if_neg (by decide), if_neg (by simp), if_neg (by omega)]
  rfl

/-- A block up to what stands after some of its lines and empty lines, in column `k`; if there are
no lines before it, that is a line itself, or a separator in the first column. -/
theorem blockText?_lines {n k e : Nat} {cs ending body header later : List Char}
    {lines : List (Nat × List Char)} {c : Cursor} (all : ∀ p ∈ lines, IsLine p.2)
    (hr : c.rest = '|' :: (header ++ '\n' ::
      (spread (pad (n + 2)) lines ++ (feeds e ++ (pad k ++ later)))))
    (read : blockHeader? (header ++ '\n' ::
      (spread (pad (n + 2)) lines ++ (feeds e ++ (pad k ++ later)))) =
        some (chompingFor cs, if startsBlank cs then 2 else 0, header.length))
    (stop : isBreak (peek later) = false) (column : k = n + 2 ∨ peek later ≠ ' ' ∧ k ≤ n + 2)
    (solid : cs ≠ []) (split : cs ++ ending = spread [] lines ++ (feeds e ++ body))
    (first : lines = [] → (∃ y ys zs, body = y :: ys ∧ later = y :: zs ∧ y ≠ endMark) ∧
      (k = n + 2 ∨ k = 0 ∧ breaksLine (peek later))) :
    ∃ t fuel, t.cursor.rest = later ∧ t.cursor.column = k ∧
      t.acc.reverse ++ (t.joint false).reverse = spread [] lines ++ feeds e ∧
      (lines ≠ [] → t.pending = true ∧ t.breaks = e) ∧
      ∀ s, s = blockLines false (n + 2) (fuel + 1) t →
        blockText? n c = some (String.ofList (s.ending (chompingFor cs) (n + 2) ++ s.acc).reverse,
          s.cursor) := by
  cases lines with
  | nil =>
      obtain ⟨⟨y, ys, zs, rfl, rfl, more⟩, place⟩ := first rfl
      have not_blank (blank : startsBlank cs = false) : y ≠ ' ' ∧ k = n + 2 := by
        obtain ⟨-, space, line⟩ := of_startsBlank solid split blank
        refine ⟨space, place.resolve_right fun no => ?_⟩
        rw [peek, line] at no
        cases no.2
      have tab : peek (feeds e ++ (pad k ++ y :: zs)) ≠ '\t' := by
        rcases place with rfl | ⟨rfl, line⟩
        · exact peek_feeds_ne_tab e (n + 1) _
        · cases e with
          | zero =>
              rintro rfl
              cases line
          | succ e => exact (by decide : '\n' ≠ '\t')
      have stops : endsLine (peek (y :: zs)) = false :=
        Bool.or_eq_false_iff.mpr ⟨stop, by simpa [peek] using more⟩
      obtain ⟨start, rest, at_column, answer⟩ := blockText?_body hr read stops tab not_blank
        (place.imp_right fun no => ⟨no.1, fun space => by rw [space] at no; cases no.2⟩)
      refine ⟨{ cursor := start, breaks := e }, start.rest.length, rest, at_column, ?_, ?_, answer⟩
      · rw [joint_of_not_folded]
        simp [spread, reverse_feeds]
      · exact fun no => absurd rfl no
  | cons p lines =>
      obtain ⟨b, line⟩ := p
      have hl : IsLine line := all _ (List.mem_cons_self ..)
      obtain ⟨more, more_eq⟩ : ∃ more, more = line ++ '\n' ::
          (spread (pad (n + 2)) lines ++ (feeds e ++ (pad k ++ later))) := ⟨_, rfl⟩
      have same : spread (pad (n + 2)) ((b, line) :: lines) ++ (feeds e ++ (pad k ++ later)) =
          feeds b ++ (pad (n + 2) ++ more) := by
        rw [more_eq]
        simp [spread]
      rw [same] at hr read
      have not_blank (blank : startsBlank cs = false) : peek more ≠ ' ' ∧ n + 2 = n + 2 := by
        obtain ⟨y, ys, rfl⟩ := List.exists_cons_of_ne_nil hl.nonempty
        have split : cs ++ ending =
            feeds b ++ y :: (ys ++ '\n' :: (spread [] lines ++ (feeds e ++ body))) := by
          rw [split]
          simp [spread]
        rw [more_eq]
        exact ⟨(of_startsBlank solid split blank).2.1, rfl⟩
      obtain ⟨start, rest, at_column, answer⟩ := blockText?_body hr read
        (more_eq ▸ hl.peek_append _) (peek_feeds_ne_tab b (n + 1) more) not_blank (.inl rfl)
      have enough : lines.length + 1 ≤ start.rest.length := by
        have := length_le_spread (pad (n + 2)) lines
        rw [rest, more_eq, List.length_append, List.length_cons, List.length_append]
        omega
      obtain ⟨fuel, hf⟩ : ∃ f, start.rest.length = f + lines.length + 1 :=
        ⟨start.rest.length - lines.length - 1, by omega⟩
      obtain ⟨t, lines_read, rest', column', pending, breaks, acc⟩ :=
        blockLines_lines (by omega) stop column (fuel + 1) lines line
          { cursor := start, breaks := b } hl (fun q hq => all q (List.mem_cons_of_mem _ hq))
          at_column (rest.trans more_eq)
      refine ⟨t, fuel, rest', column', ?_, fun _ => ⟨pending, breaks⟩, fun s hs => answer s ?_⟩
      · have tail : t.acc.reverse ++ (t.joint false).reverse =
            (t.acc.reverse ++ ['\n']) ++ feeds e := by
          rw [joint_of_not_folded, pending, breaks]
          simp [reverse_feeds, feeds_append_feed]
        rw [tail, acc, joint_of_not_folded]
        simp [spread, reverse_feeds]
      · rw [hs, ← lines_read, hf]
        congr 1
        omega

/-- **A block text** is read as it was written. -/
theorem blockText?_writeBlock {n m : Nat} {cs next : List Char} {c : Cursor}
    (printable : ∀ x ∈ cs, isPrintable x) (placed : separatorsAtEnds true cs)
    (solid : ∃ x ∈ cs, x ≠ '\n') (left : m < n + 2)
    (stop : peek next ≠ ' ' ∧ isBreak (peek next) = false)
    (hr : c.rest = writeBlock (pad (n + 2)) cs ++ (closing cs ++ (pad m ++ next))) :
    ∃ c', blockText? n c = some (String.ofList cs, c') ∧ c'.rest = next ∧ c'.column = m := by
  obtain ⟨lines, e, rest, all, split, written, whole⟩ := exists_lines (pad (n + 2)) printable
  rw [if_pos placed] at whole
  subst whole
  have some : lines ≠ [] := by
    rintro rfl
    obtain ⟨x, hx, other⟩ := solid
    have feed : x ∈ feeds e ++ [] := by
      rw [← show cs ++ closing cs = feeds e ++ [] from split]
      exact List.mem_append_left _ hx
    rw [List.append_nil] at feed
    exact other (List.eq_of_mem_replicate feed)
  obtain ⟨header, header_eq, header_read⟩ := blockHeader?_blockHeader cs
    (spread (pad (n + 2)) lines ++ (feeds e ++ (pad m ++ next)))
  have rest : c.rest = '|' :: (header ++ '\n' ::
      (spread (pad (n + 2)) lines ++ (feeds e ++ (pad m ++ next)))) := by
    rw [hr, writeBlock_append header_eq written]
    simp [padLines]
  obtain ⟨t, fuel, rest', column', acc, state, read⟩ := blockText?_lines all rest header_read stop.2
    (.inr ⟨stop.1, by omega⟩) (List.ne_nil_of_mem solid.choose_spec.1) split
    (fun no => absurd no some)
  obtain ⟨pending, breaks⟩ := state some
  have text : t.acc.reverse ++ (t.ending (chompingFor cs) (n + 2)).reverse = cs := by
    refine ending_eq (split.trans ?_) breaks pending (by omega)
    rw [List.append_nil, ← acc, joint_of_not_folded, pending, breaks]
    simp [reverse_feeds, feeds_append_feed]
  refine ⟨t.cursor, ?_, rest', column'⟩
  rw [read t (blockLines_of_column (by omega) _).symm, List.reverse_append, text]

end Courier.Yaml
