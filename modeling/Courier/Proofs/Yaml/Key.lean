import Courier.Proofs.Yaml.Scalar

/-!
# Courier — Proofs — Keys as tokens

A key with its colon is three tokens, and a fourth before them opens the mapping if none is open in
the column of the key (`Lexer.Ready.key`).
-/

namespace Courier.Yaml

open Lexer

/-! ### Keys -/

/-- A character of the keys, numbers and flags that are written here. -/
def isKeyChar (c : Char) : Bool := c.isAlphanum || c == '_'

/-- A text that the lexer takes for one token in any surroundings. -/
structure IsWord (w : List Char) : Prop where
  nonempty : w ≠ []
  letters  : w.all isKeyChar

/-- Such a text that is not too long to be a key. -/
structure IsKey (w : List Char) : Prop extends IsWord w where
  short : w.length ≤ 1024

theorem ne_of_isKeyChar {c d : Char} (h : isKeyChar c) (hd : isKeyChar d = false) : c ≠ d := by
  rintro rfl
  rw [h] at hd
  cases hd

theorem isWordPart_of_isKeyChar {c : Char} (h : isKeyChar c) : isWordPart c := by
  have ne {d : Char} (hd : isKeyChar d = false) : c ≠ d := ne_of_isKeyChar h hd
  simp [isWordPart, endsWord, endsLine, isBlank, isBreak, isFlowMark, endMark, ne (d := ' ') rfl,
    ne (d := '\t') rfl, ne (d := '\n') rfl, ne (d := '\r') rfl, ne (d := Char.ofNat 0) rfl,
    ne (d := ',') rfl, ne (d := '[') rfl, ne (d := ']') rfl, ne (d := '\x7b') rfl,
    ne (d := '\x7d') rfl, ne (d := ':') rfl]

theorem IsWord.parts {w : List Char} (h : IsWord w) : ∀ x ∈ w, isWordPart x := fun x hx =>
  isWordPart_of_isKeyChar (List.all_eq_true.mp h.letters x hx)

theorem IsWord.start {w : List Char} (h : IsWord w) (t : List Char) :
    startsToken (peek (w ++ t)) := by
  obtain ⟨x, w', rfl⟩ := List.exists_cons_of_ne_nil h.nonempty
  have first : isKeyChar x := List.all_eq_true.mp h.letters x (List.mem_cons_self ..)
  have word : endsWord x = false := by
    have part := isWordPart_of_isKeyChar first
    rw [isWordPart, Bool.and_eq_true, Bool.and_eq_true] at part
    simpa using part.1.1
  obtain ⟨blank, line, -⟩ := not_endsWord_iff.mp word
  have hash : x ≠ '#' := ne_of_isKeyChar first rfl
  simp [peek, startsToken, blank, line, hash]

theorem IsWord.clean {w : List Char} (h : IsWord w) : endMark ∉ w := fun mem =>
  absurd (List.all_eq_true.mp h.letters _ mem) (by decide)

namespace Lexer

section
variable {p : Place} {s : Lexer}

theorem content?_word {x : Char} {rest : List Char} (text : s.cursor.rest = x :: rest)
    (h : isKeyChar x) : s.content? = s.plainScalar? := by
  have ne {d : Char} (hd : isKeyChar d = false) : x ≠ d := ne_of_isKeyChar h hd
  rw [content?]
  simp [Cursor.char_of_rest text, ne (d := '[') rfl, ne (d := '\x7b') rfl, ne (d := ']') rfl,
    ne (d := '\x7d') rfl, ne (d := ',') rfl, ne (d := '-') rfl, ne (d := '?') rfl,
    ne (d := ':') rfl, ne (d := '*') rfl, ne (d := '&') rfl, ne (d := '!') rfl, ne (d := '|') rfl,
    ne (d := '>') rfl, ne (d := '\'') rfl, ne (d := '\x22') rfl, ne (d := '%') rfl,
    ne (d := '@') rfl, ne (d := '\x60') rfl]

theorem settle?_of_candidate (h : s.At p) (start : startsToken (peek p.text))
    (near : s.candidate.line = s.cursor.line ∧ s.cursor.index ≤ s.candidate.index + 1024)
    (inside : p.indent ≤ p.column) : s.settle? = some s := by
  have skip : s.skip? = some s := toToken?_here (by rwa [Cursor.char, h.text]) _
  have kept : s.dropStale? = some s := by
    refine if_neg ?_
    rintro ⟨-, -, line | index⟩ <;> omega
  have closed : s.closeBlocks s.cursor.column = s := by
    rw [Lexer.closeBlocks, h.inFlow, if_neg (by simp)]
    cases s.levels with
    | nil => rfl
    | cons l ls => exact if_neg (by rw [h.indent, h.column]; omega)
  rw [settle?, skip]
  simp only [Option.bind_eq_bind, Option.bind_some, kept, closed]
  rfl

/-- At the colon of a key that starts in column `start`, with `number` tokens before it. -/
structure AtColon (start number : Nat) (p : Place) (s : Lexer) : Prop extends At p s where
  possible : s.candidate.possible = true
  start    : s.candidate.column = start
  number   : s.candidate.number = number

theorem Ready.word {w t : List Char} {i : Int} {ls : List Level} (h : s.Ready p) (key : IsKey w)
    (text : p.text = w ++ ':' :: t) (allowed : p.keyAllowed = true) (colon : endsWord (peek t))
    (within : p.Within i ls) (inside : p.indent ≤ p.column) (left : i ≤ p.column) :
    ∃ u, Next s u ∧ u.AtColon p.column p.tokens.length { p with
      text := ':' :: t, column := p.column + w.length
      tokens := .scalar true (String.ofList w) :: p.tokens, indent := i, levels := ls
      keyAllowed := false } := by
  obtain ⟨x, w', rfl⟩ := List.exists_cons_of_ne_nil key.nonempty
  have first : isKeyChar x := List.all_eq_true.mp key.letters x (List.mem_cons_self ..)
  have ne {d : Char} (hd : isKeyChar d = false) : x ≠ d := ne_of_isKeyChar first hd
  have saved := (h.toAt.saveCandidate.allowKey false).unindent
  have unindented : ({ p with keyAllowed := false } : Place).Within i ls := within
  rw [unindented.unindent] at saved
  obtain ⟨u, hu⟩ : ∃ u, u = (s.saveCandidate.allowKey false).unindent := ⟨_, rfl⟩
  rw [← hu] at saved
  have candidate : u.candidate = s.saveCandidate.candidate := by
    rw [hu, Lexer.unindent, candidate_dropOpenLevels]
    rfl
  have cursor : u.cursor = s.cursor := by
    rw [hu, Lexer.unindent, cursor_dropOpenLevels]
    change s.saveCandidate.cursor = s.cursor
    rw [Lexer.saveCandidate]
    split <;> rfl
  have rest : u.cursor.rest = x :: w' ++ ':' :: t := saved.text.trans text
  have char : u.cursor.char = x := Cursor.char_of_rest rest
  have marker : u.cursor.atDocumentMarker = false :=
    atDocumentMarker_of_char rest (ne rfl) (ne rfl)
  have read : plain? u.inFlow (u.indent + 1) u.cursor =
      some (String.ofList (x :: w'), u.cursor.pass (x :: w').length) := by
    refine plain?_word rest key.nonempty key.parts (by rw [char]; exact ne rfl) marker
      (by rw [char]; exact ne rfl) ?_ ⟨rfl, rfl⟩ fun flow => ?_
    · rw [plainWord]
      exact if_pos (.inr (.inl ⟨rfl, .inl colon⟩))
    · rw [saved.inFlow] at flow
      cases flow
  obtain ⟨v, hv⟩ : ∃ v, v = (u.goTo (u.cursor.pass (x :: w').length)).push
      (.scalar true (String.ofList (x :: w'))) := ⟨_, rfl⟩
  have act : s.content? = some v := by
    rw [content?_word (h.text.trans text) first, plainScalar?, ← hu, read, hv]
    rfl
  have after : (u.cursor.pass (x :: w').length).rest = ':' :: t := by
    rw [Cursor.rest_pass, rest, List.drop_left]
  have there := (saved.goTo (u.cursor.pass (x :: w').length)).push
    (.scalar true (String.ofList (x :: w')))
  rw [← hv, after, Cursor.column_pass, saved.column] at there
  have kept : v.candidate = s.saveCandidate.candidate := by rw [hv]; exact candidate
  have passed : v.cursor = s.cursor.pass (x :: w').length := by rw [hv, ← cursor]; rfl
  have allowed' : s.keyAllowed = true := h.keyAllowed.trans allowed
  have settle : v.settle? = some v := by
    refine settle?_of_candidate there rfl ?_ ?_
    · rw [kept, passed, Lexer.saveCandidate, if_pos allowed']
      exact ⟨rfl, Nat.add_le_add_left key.short _⟩
    · change i ≤ (p.column + (x :: w').length : Nat)
      omega
  refine ⟨v, Next.of_content h.toAt text (ne rfl) (fun _ => ⟨ne rfl, ne rfl, ne rfl⟩) inside act
    settle ?_, there, ?_, ?_, ?_⟩
  · rw [there.text]
    simp
  · rw [kept, Lexer.saveCandidate, if_pos allowed']
  · rw [kept, Lexer.saveCandidate, if_pos allowed']
    exact h.column
  · rw [kept, Lexer.saveCandidate, if_pos allowed']
    exact h.count

/-! ### Colons -/

theorem At.insertAt {later ts : List Token} (h : s.At p) (tokens : p.tokens = later ++ ts)
    (t : Token) : (s.insertAt ts.length t).At { p with tokens := later ++ t :: ts } := by
  rw [insertAt_eq (h.tokens.trans tokens) (h.count.trans (congrArg List.length h.tokens.symm))]
  exact { h with
    tokens := rfl
    count  := by
      change s.count + 1 = _
      rw [h.count, tokens]
      simp
      omega }

/-- The levels with a block in `column`: that with indentation `i`, or a new one inside it. -/
def levelsWith (column : Nat) (i : Int) (ls : List Level) : List Level :=
  if i < column then ⟨i, true⟩ :: ls else ls

theorem exists_levelsWith_eq {column : Nat} {i : Int} {ls : List Level}
    (closed : ls = [] ∨ ∃ o ls', ls = ⟨o, true⟩ :: ls') (inner : i < column ∨ ls ≠ []) :
    ∃ o ls', levelsWith column i ls = ⟨o, true⟩ :: ls' := by
  rw [levelsWith]
  split_ifs with new
  · exact ⟨i, ls, rfl⟩
  · exact closed.resolve_left (inner.resolve_left new)

theorem At.openBlock {i : Int} {ls : List Level} {later ts : List Token} (h : s.At p)
    (closed : ls = [] ∨ ∃ o ls', ls = ⟨o, true⟩ :: ls') (indent : p.indent = i)
    (levels : p.levels = ls) (tokens : p.tokens = later ++ ts) {column : Nat} (left : i ≤ column)
    (t : Token) :
    (s.openBlock column ts.length t).At { p with
      indent := column, levels := levelsWith column i ls
      tokens := later ++ if i < column then t :: ts else ts } := by
  have same : s.openBlock column ts.length t =
      if s.indent < column then
        { s with levels := ⟨s.indent, true⟩ :: s.levels, indent := column }.insertAt ts.length t
      else s := by
    have outer := h.levels.trans levels
    rw [Lexer.openBlock, h.inFlow, if_neg (by simp)]
    rcases closed with rfl | ⟨o, ls', rfl⟩ <;> simp [outer]
  rw [same, h.indent, indent, levelsWith]
  split_ifs with new
  · have opened : At { p with indent := column, levels := ⟨i, true⟩ :: ls }
        { s with levels := ⟨i, true⟩ :: s.levels, indent := column } :=
      { h with indent := rfl, levels := by rw [h.levels, levels] }
    exact opened.insertAt tokens t
  · have here : i = column := by omega
    rw [← here, ← indent, ← levels, ← tokens]
    exact h

theorem At.indentOnce (h : s.At p) (closes : ∃ o ls, p.levels = ⟨o, true⟩ :: ls) :
    s.indentOnce.At { p with indent := p.indent + 1, levels := ⟨p.indent, false⟩ :: p.levels } := by
  obtain ⟨o, ls, levels⟩ := closes
  have inner : s.innermostCloses = true := by rw [innermostCloses, h.levels, levels]
  rw [Lexer.indentOnce, h.inFlow, inner, if_pos (by simp)]
  exact { h with
    indent := congrArg (· + 1) h.indent
    levels := by rw [h.indent, h.levels] }

/-- A colon makes the text before it a key. -/
theorem AtColon.value {start : Nat} {ts : List Token} {i : Int} {ls : List Level} {t : List Char}
    {column : Nat} {token : Token} {allowed : Bool}
    (h : s.AtColon start ts.length ⟨':' :: t, column, token :: ts, i, ls, allowed⟩)
    (closed : ls = [] ∨ ∃ o ls', ls = ⟨o, true⟩ :: ls') (left : i ≤ start)
    (inner : i < start ∨ ls ≠ []) (blank : peek t ≠ '\t') :
    ∃ v, s.value? = some v ∧ v.Ready ⟨t, column + 1,
      .value :: token :: .key :: (if i < start then .blockMapping :: ts else ts), start + 1,
      ⟨start, false⟩ :: levelsWith start i ls, false⟩ := by
  have rest : (s.cursor.pass 1).rest = t := by
    rw [Cursor.rest_pass, h.text]
    rfl
  have here : (s.cursor.pass 1).column = column + 1 := by rw [Cursor.column_pass, h.column]
  have char : (s.cursor.pass 1).char ≠ '\t' := by rwa [Cursor.char, rest]
  have closes := exists_levelsWith_eq closed inner
  obtain ⟨s₁, hs₁⟩ : ∃ s₁, s₁ = ({ s with pairOpen := false } : Lexer).goTo (s.cursor.pass 1) :=
    ⟨_, rfl⟩
  have passed : s₁.At ⟨t, column + 1, token :: ts, i, ls, allowed⟩ := by
    rw [hs₁, ← rest, ← here]
    exact { h.toAt with text := rfl, column := rfl, noPair := rfl }
  have candidate : s₁.candidate = s.candidate := by rw [hs₁]; rfl
  obtain ⟨s₂, hs₂⟩ : ∃ s₂, s₂ = ((s₁.insertAt ts.length .key).openBlock start ts.length
      .blockMapping).indentOnce := ⟨_, rfl⟩
  have opened : s₂.At ⟨t, column + 1,
      [token, .key] ++ (if i < start then .blockMapping :: ts else ts), start + 1,
      ⟨start, false⟩ :: levelsWith start i ls, allowed⟩ := by
    have inserted := passed.insertAt (show token :: ts = [token] ++ ts from rfl) .key
    have block := inserted.openBlock closed rfl rfl
      (show [token] ++ .key :: ts = [token, .key] ++ ts from rfl) left .blockMapping
    rw [hs₂]
    exact block.indentOnce closes
  have act : s.value? = some ({ s₂ with
      candidate := { s.candidate with possible := false }, keyAllowed := false }.push .value) := by
    have colon : ({ s with pairOpen := false } : Lexer).passColon? = some s₁ := by
      rw [hs₁]
      exact if_pos char
    have made : s₁.valueOfCandidate? false s.cursor = some { s₂ with
        candidate := { s.candidate with possible := false }, keyAllowed := false } := by
      rw [hs₂, ← h.number, ← h.start, valueOfCandidate?, candidate, if_neg (by simp)]
      rfl
    rw [value?]
    simp only [h.inFlow, Bool.false_and, Option.bind_eq_bind, colon, Option.bind_some, candidate,
      h.possible, if_true, made]
    rfl
  have given_up : At ⟨t, column + 1,
      [token, .key] ++ (if i < start then .blockMapping :: ts else ts), start + 1,
      ⟨start, false⟩ :: levelsWith start i ls, false⟩
      { s₂ with candidate := { s.candidate with possible := false }, keyAllowed := false } :=
    { opened with keyAllowed := rfl }
  exact ⟨_, act, given_up.push .value, fun no => by cases no⟩

/-- **A key** with its colon: the value comes next, and one more column is asked for. -/
theorem Ready.key {w t : List Char} {i : Int} {ls : List Level} (h : s.Ready p) (key : IsKey w)
    (text : p.text = w ++ ':' :: t) (allowed : p.keyAllowed = true)
    (blank : peek t = ' ' ∨ peek t = '\n') (within : p.Within i ls) (inside : p.indent ≤ p.column)
    (left : i ≤ p.column) (inner : i < p.column ∨ ls ≠ []) :
    ∃ u v, Next s u ∧ u.cursor.atEnd = false ∧ u.act? = some v ∧
      v.cursor.rest.length < u.cursor.rest.length ∧
      v.Ready ⟨t, p.column + w.length + 1, .value :: .scalar true (String.ofList w) :: .key ::
        (if i < p.column then .blockMapping :: p.tokens else p.tokens), p.column + 1,
        ⟨p.column, false⟩ :: levelsWith p.column i ls, false⟩ := by
  have colon : endsWord (peek t) := by rcases blank with h | h <;> rw [h] <;> rfl
  have tab : peek t ≠ '\t' := by rcases blank with h | h <;> rw [h] <;> decide
  obtain ⟨u, next, hu⟩ := h.word key text allowed colon within inside left
  obtain ⟨v, act, hv⟩ := hu.value within.1 left inner tab
  refine ⟨u, v, next, ?_, ?_, ?_, hv⟩
  · rw [Cursor.atEnd, Cursor.char_of_rest hu.text]
    rfl
  · rw [act?_eq_content? hu.toAt rfl (fun _ => by decide) ?_, content?_colon hu.text colon, act]
    change i ≤ (p.column + w.length : Nat)
    omega
  · rw [hv.text, hu.text]
    simp

end

end Lexer

end Courier.Yaml
