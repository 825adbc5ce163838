import Courier.Proofs.Yaml.Place
import Courier.Proofs.Yaml.Style

/-!
# Courier — Proofs — Texts in a block

A text that the writer puts in a line of a block, or in a block of its own, is read as one token
(`isText_writeText`).  All styles come down to `IsText`, which says so for any surroundings.
-/

namespace Courier.Yaml

open Lexer

/-! ### Texts -/

/-- Inside a block with indentation `i` and levels `ls`, or outside of all; there may be one more
column asked for. -/
def Place.Within (i : Int) (ls : List Level) (p : Place) : Prop :=
  (ls = [] ∨ ∃ o ls', ls = ⟨o, true⟩ :: ls') ∧
    (p.indent = i ∧ p.levels = ls ∨ p.indent = i + 1 ∧ p.levels = ⟨i, false⟩ :: ls)

theorem Place.Within.unindent {i : Int} {ls : List Level} {p : Place} (h : p.Within i ls) :
    p.unindent = { p with indent := i, levels := ls } := by
  obtain ⟨text, column, tokens, indent, levels, keyAllowed⟩ := p
  obtain ⟨rfl | ⟨o, ls', rfl⟩, ⟨rfl, rfl⟩ | ⟨rfl, rfl⟩⟩ := h <;> rfl

theorem Place.Within.indent_le {i : Int} {ls : List Level} {p : Place} (h : p.Within i ls) :
    p.indent ≤ i + 1 := by
  obtain ⟨-, ⟨h, -⟩ | ⟨h, -⟩⟩ := h <;> omega

section
variable {n m : Nat} {ls : List Level} {p : Place}

theorem Place.Within.close (h : p.Within n ls) (left : m ≤ n) :
    p.close m = Place.close m { p with indent := n, levels := ls } := by
  obtain ⟨text, column, tokens, indent, levels, keyAllowed⟩ := p
  obtain ⟨-, ⟨rfl, rfl⟩ | ⟨rfl, rfl⟩⟩ := h
  · rfl
  · exact if_pos (by change (m : Int) < n + 1; omega)

/-- A token right of the indentation is no key that the block needs. -/
theorem Lexer.Ready.saveCandidate {s : Lexer} (h : s.Ready p) (within : p.Within n ls)
    (right : n < p.column) : s.saveCandidate.Ready p := by
  rw [Lexer.saveCandidate]
  split
  · exact { h with
      free := fun _ => by
        rw [decide_eq_false_iff_not, innermostCloses, h.indent, h.column, h.levels]
        rintro ⟨-, same, closes⟩
        obtain ⟨-, ⟨indent, -⟩ | ⟨-, levels⟩⟩ := within
        · omega
        · rw [levels] at closes
          cases closes }
  · exact h

/-- With its line break, `t` is read as one token, wherever it stands in a block with indentation
`n`; the blocks end that are right of what follows. -/
structure IsText (n : Nat) (t : List Char) (token : Token) : Prop where
  nonempty : t ≠ []
  start    : startsToken (peek t)
  noMark   : isFlowMark (peek t) = false
  clean    : endMark ∉ t
  read     : ∀ {p : Place} {s : Lexer} {m : Nat} {next : List Char} {ls : List Level}, s.Ready p →
    p.text = t ++ (pad m ++ next) → startsToken (peek next) → m ≤ n → n < p.column →
    p.Within n ls →
    ∃ v, Lexer.Next s v ∧ v.Ready (Place.close m { p with
      text := next, column := m, tokens := token :: p.tokens, indent := n, levels := ls
      keyAllowed := true })

/-- The last part of reading a text: the token is there, and the next line has begun. -/
theorem Lexer.Ready.next_of_text {s u : Lexer} {next : List Char} {token : Token} {q : Place}
    {x : Char} {rest : List Char} (h : s.Ready p)
    (text : p.text = x :: rest) (ended : x ≠ endMark) (column : p.column ≠ 0)
    (inside : p.indent ≤ p.column) (act : s.content? = some u) (hu : u.Ready q)
    (later : q.text = next ∧ q.column = m ∧ q.tokens = token :: p.tokens ∧ q.keyAllowed = true)
    (within : q.Within n ls) (left : m ≤ n) (stop : startsToken (peek next))
    (shorter : next.length ≤ rest.length) :
    ∃ v, Lexer.Next s v ∧ v.Ready (Place.close m { p with
      text := next, column := m, tokens := token :: p.tokens, indent := n, levels := ls
      keyAllowed := true }) := by
  obtain ⟨rfl, rfl, tokens, allowed⟩ := later
  obtain ⟨v, settle, hv⟩ := hu.settle_pad stop (show q.text = pad 0 ++ q.text from rfl)
  have closed := within.close left
  rw [tokens, allowed] at closed
  have same : Place.close (q.column + 0 : Nat) { q with text := q.text, column := q.column + 0 } =
      q.close q.column := rfl
  rw [same, closed] at hv
  have rest : v.cursor.rest = q.text := by rw [hv.text, Place.text_close]
  exact ⟨v, Next.of_content h.toAt text ended (fun no => absurd no column) inside act settle
    (by rwa [rest]), hv⟩

theorem isText_plain {w : List Char} (plain : IsPlainText w) (mark : startsWithMark w = false) :
    IsText n (w ++ ['\n']) (.scalar true (String.ofList w)) := by
  obtain ⟨x, w', rfl⟩ := List.exists_cons_of_ne_nil plain.ne_nil
  obtain ⟨no_mark, alone⟩ := of_startsWithMark mark
  have flow : isFlowMark x = false := by
    rw [← Bool.not_eq_true]
    intro flow
    simp only [isFlowMark, Bool.or_eq_true, beq_iff_eq] at flow
    rcases flow with (((rfl | rfl) | rfl) | rfl) | rfl <;> exact absurd no_mark (by decide)
  have word : endsWord x = false := by
    rw [← Bool.not_eq_true]
    exact fun no => plain.1 (plain.2.2.1 no)
  obtain ⟨blank, line, ended⟩ := not_endsWord_iff.mp word
  have hash : x ≠ '#' := plain.2.1
  refine ⟨by simp, by simp [peek, startsToken, blank, line, hash], flow, ?_, ?_⟩
  · have clean := plain.clean
    rw [List.mem_append, List.mem_singleton]
    exact fun mem => mem.elim clean (by decide)
  intro p s m next ls h text stop left column within
  have text' : p.text = x :: (w' ++ '\n' :: (pad m ++ next)) := by
    rw [text]
    simp
  have next_word : x = '?' ∨ x = ':' ∨ x = '-' →
      endsWord (peek (w' ++ '\n' :: (pad m ++ next))) = false := fun no => by
    obtain ⟨nonempty, word⟩ := word_of_blankNext (alone no)
    rwa [peek_append_of_ne_nil nonempty]
  have inside := within.indent_le
  have saved := ((h.saveCandidate within column).allowKey false).unindent
  have unindented : ({ p with keyAllowed := false } : Place).Within n ls := within
  rw [unindented.unindent] at saved
  obtain ⟨blank', line', -⟩ := of_startsToken stop
  obtain ⟨u, hu⟩ : ∃ u, u = (s.saveCandidate.allowKey false).unindent := ⟨_, rfl⟩
  rw [← hu] at saved
  have indent : u.indent = n := saved.indent
  have here : u.cursor.column = p.column := saved.column
  have rest : u.cursor.rest = x :: w' ++ '\n' :: (pad m ++ next) := saved.text.trans text'
  have read : plain? u.inFlow (u.indent + 1) u.cursor =
      some (String.ofList (x :: w'), u.cursor.nextLine (x :: w').length m) := by
    rw [saved.inFlow, indent]
    exact plain?_line plain rest ⟨blank', line'⟩ (by omega) (by omega) (by omega)
  have act : s.content? = some (((u.goTo (u.cursor.nextLine (x :: w').length m)).allowKey true).push
      (.scalar true (String.ofList (x :: w')))) := by
    rw [content?_plain h.toAt text' no_mark next_word, plainScalar?, ← hu, read]
    rfl
  refine h.next_of_text text' ended (by omega) (by omega) act
    (((saved.goTo _).allowKey true).push _)
    ⟨Cursor.rest_nextLine_of rest, Cursor.column_nextLine .., rfl, rfl⟩
    ⟨within.1, .inl ⟨rfl, rfl⟩⟩ left stop ?_
  simp
  omega

theorem isText_quoted {quote : Char} {write : Char → List Char} {t : List Char}
    (either : quote = '\'' ∨ quote = '\x22') (space : write ' ' = [' '])
    (h : ∀ x ∈ t, Spelled quote write x) :
    IsText n (quote :: (t.flatMap write ++ [quote, '\n'])) (.scalar false (String.ofList t)) := by
  have word : endsWord quote = false := by rcases either with rfl | rfl <;> rfl
  refine ⟨by simp, by rcases either with rfl | rfl <;> rfl, by rcases either with rfl | rfl <;> rfl,
    ?_, ?_⟩
  · rw [List.mem_cons, List.mem_append, List.mem_flatMap]
    rintro (rfl | ⟨x, hx, mem⟩ | mem)
    · cases word
    · exact (h x hx).clean mem
    · rcases either with rfl | rfl <;> exact absurd mem (by decide)
  intro p s m next ls ready text stop left column within
  have text' : p.text = quote :: (t.flatMap write ++ quote :: '\n' :: (pad m ++ next)) := by
    rw [text]
    simp
  have inside := within.indent_le
  have saved := (ready.saveCandidate within column).allowKey false
  obtain ⟨u, hu⟩ : ∃ u, u = s.saveCandidate.allowKey false := ⟨_, rfl⟩
  rw [← hu] at saved
  have indent : u.indent = p.indent := saved.indent
  have here : u.cursor.column = p.column := saved.column
  have rest : u.cursor.rest = quote :: (t.flatMap write ++ quote :: '\n' :: (pad m ++ next)) :=
    saved.text.trans text'
  have read : quoted? u.inFlow u.indent u.cursor =
      some (String.ofList t, u.cursor.pass ((t.flatMap write).length + 2)) :=
    quoted?_line space word h rest (by cases u.inFlow <;> rfl) (by omega)
  obtain ⟨v, skip, hv⟩ := (saved.goTo (u.cursor.pass ((t.flatMap write).length + 2))).skip_line stop
    (rest_after_quoted rest)
  have act : s.content? = some ({ v with adjacentAt := v.cursor.index }.push
      (.scalar false (String.ofList t))) := by
    rw [content?_quote (ready.text.trans text') either, quotedScalar?, ← hu, read]
    simp only [Option.bind_eq_bind, Option.bind_some, skip]
    rfl
  have adjacent : Lexer.Ready _ { v with adjacentAt := v.cursor.index } := { hv with }
  refine ready.next_of_text text' ?_ (by omega) (by omega) act (adjacent.push _)
    ⟨rfl, rfl, rfl, rfl⟩ ⟨within.1, within.2⟩ left stop ?_
  · rcases either with rfl | rfl <;> decide
  · simp
    omega

theorem pad_clean (n : Nat) : endMark ∉ pad n := fun mem =>
  absurd (List.eq_of_mem_replicate mem) (by decide)

theorem writeBlock_clean {cs : List Char} (printable : ∀ x ∈ cs, isPrintable x) :
    endMark ∉ writeBlock (pad (n + 2)) cs ++ closing cs := by
  have body : endMark ∉ padLines (pad (n + 2)) true (fun c => [c]) cs := fun mem => by
    rcases mem_padded (pad (n + 2)) true cs (List.mem_append_left _ mem) with mem | mem
    · exact pad_clean _ mem
    · exact absurd (printable _ mem) (by decide)
  have last : endMark ∉ closing cs := by
    rw [closing]
    split_ifs <;> decide
  simp [writeBlock, blockHeader_clean, body, last]
  decide

theorem isText_block {cs : List Char} (printable : ∀ x ∈ cs, isPrintable x)
    (placed : separatorsAtEnds true cs) (solid : ∃ x ∈ cs, x ≠ '\n') :
    IsText n (writeBlock (pad (n + 2)) cs ++ closing cs) (.scalar false (String.ofList cs)) := by
  obtain ⟨w, bar⟩ : ∃ w, writeBlock (pad (n + 2)) cs ++ closing cs = '|' :: w := ⟨_, rfl⟩
  refine ⟨by rw [bar]; simp, by rw [bar]; rfl, by rw [bar]; rfl, ?_, ?_⟩
  · exact writeBlock_clean printable
  intro p s m next ls ready text stop left column within
  have text' : p.text = '|' :: (w ++ (pad m ++ next)) := by
    rw [text, bar]
    rfl
  have inside := within.indent_le
  have saved := ((ready.saveCandidate within column).allowKey true).unindent
  have unindented : ({ p with keyAllowed := true } : Place).Within n ls := within
  rw [unindented.unindent] at saved
  obtain ⟨u, hu⟩ : ∃ u, u = (s.saveCandidate.allowKey true).unindent := ⟨_, rfl⟩
  rw [← hu] at saved
  have indent : u.indent = n := saved.indent
  obtain ⟨blank', line', -⟩ := of_startsToken stop
  have space : peek next ≠ ' ' := by
    intro space
    rw [space] at blank'
    cases blank'
  obtain ⟨c', read, text_after, column_after⟩ := blockText?_writeBlock (c := u.cursor) printable
    placed solid (by omega) ⟨space, line'⟩ (saved.text.trans (text.trans (List.append_assoc ..)))
  have act : s.content? = some ((u.goTo c').push (.scalar false (String.ofList cs))) := by
    rw [content?_bar ready.toAt text', blockScalar?, ← hu, indent, read]
    rfl
  refine ready.next_of_text text' (by decide) (by omega) (by omega) act
    ((saved.goTo c').push _) ⟨text_after, column_after, rfl, rfl⟩ ⟨within.1, .inl ⟨rfl, rfl⟩⟩ left
    stop ?_
  simp
  omega

/-- The token that a text becomes when it is written and read again. -/
def textToken (n : Nat) (s : String) : Token :=
  match styleOf s with
  | .plain        => .scalar true s
  | .singleQuoted => .scalar false (String.ofList (padded (pad (n + 2)) false s.toList))
  | _             => .scalar false s

/-- **A written text** is one token again. -/
theorem isText_writeText {s : String} (solid : ∃ x ∈ s.toList, x ≠ '\n')
    (placed : styleOf s = .block → separatorsAtEnds true s.toList) :
    IsText n (writeText (pad (n + 2)) s) (textToken n s) := by
  rw [writeText, textToken]
  rcases styleOf_cases s with ⟨style, plain, -, -⟩ | ⟨style, single, feed⟩ | style |
    ⟨style, block, feed⟩
  · have nonempty : s.toList ≠ [] := List.ne_nil_of_mem solid.choose_spec.1
    have start := (plainAllowed_iff.mp plain).2.2.2.1
    have read := isText_plain (n := n) (isPlainText_of_plain plain nonempty) start
    rw [String.ofList_toList] at read
    rw [style]
    exact read
  · have read := isText_quoted (n := n) (.inl rfl) rfl (spelled_padded (n := n + 2) single feed)
    rw [style]
    dsimp only
    rw [writeSingleQuoted_eq]
    simpa using read
  · have read := isText_quoted (n := n) (.inr rfl) rfl fun x (_ : x ∈ s.toList) =>
      spelled_writeEscaped x
    rw [String.ofList_toList] at read
    rw [style]
    exact read
  · have read := isText_block (n := n) (printable_of_blockAllowed block) (placed style) solid
    rw [String.ofList_toList, closing] at read
    rw [style]
    dsimp only
    split_ifs at read ⊢
    · rwa [List.append_nil] at read
    · exact read

end

end Courier.Yaml
