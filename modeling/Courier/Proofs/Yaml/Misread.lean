import Courier.Proofs.Yaml.Block
import Courier.Proofs.Yaml.Forward
import Courier.Proofs.Yaml.Misplaced

/-!
# Courier — Proofs — Documents that are misread

A text with a misplaced separator is none of the tokens of the document that it is written in, if
the document has no other separators (`not_mem_of_ofText?`).  Either there are fewer separators left
after its block than it has itself, so that no later token can be the text (`Lexer.Clear`); or the
lexer has come to one of them in the first column, where it takes it for a key, which has to be in
one line.
-/

namespace Courier.Yaml

open Lexer

namespace Lexer

/-! ### A key has one line -/

section
variable {s t : Lexer}

theorem candidate_of_toToken? {fuel : Nat} : ∀ {s t : Lexer}, toToken? fuel s = some t →
    t.candidate = s.candidate ∧ t.inFlow = s.inFlow := by
  induction fuel with
  | zero => exact fun no => by cases no
  | succ fuel ih =>
      intro s t h
      rw [toToken?] at h
      split at h
      · split at h
        · rename_i u passed
          split at h
          · obtain ⟨_, -, rfl⟩ := Option.map_eq_some_iff.mp passed
            have later := ih h
            exact later
          · cases h
        · cases h
      split at h
      · have later := ih h
        exact later
      split at h
      · have later := ih h
        exact later
      split at h
      · have later := ih h
        exact later
      · cases h
        exact ⟨rfl, rfl⟩

/-- A token that has to become a key is given up in no later line. -/
theorem settle?_of_required (block : s.inFlow = false) (possible : s.candidate.possible)
    (required : s.candidate.required) (later : s.candidate.line < s.cursor.line) :
    s.settle? = none := by
  cases skip : s.skip? with
  | none =>
      rw [settle?, skip]
      rfl
  | some t =>
      obtain ⟨candidate, flow⟩ := candidate_of_toToken? skip
      have further := (forward_of_skip? skip).reaches.line
      have drop : t.dropStale? = none := by
        rw [dropStale?, candidate, flow, block, possible]
        rw [if_pos ⟨by simp, rfl, .inl (Nat.lt_of_lt_of_le later further)⟩, dropCandidate?,
          candidate, possible, required]
        rfl
      rw [settle?, skip]
      simp only [Option.bind_eq_bind, Option.bind_some, drop]
      rfl

/-- A plain text in the column of a mapping is no text of several lines. -/
theorem Ready.plain_line {p : Place} {u : Lexer} (h : s.Ready p) (indent : p.indent = p.column)
    (closes : ∃ o ls, p.levels = ⟨o, true⟩ :: ls) (allowed : p.keyAllowed = true)
    (act : s.plainScalar? = some u) (settle : u.settle? = some t) :
    ∃ text, s.Reads true text u ∧ '\n' ∉ text.toList ∧
      plainWord false s.cursor.rest <+: text.toList := by
  simp only [plainScalar?, Option.bind_eq_bind, Option.bind_eq_some_iff] at act
  obtain ⟨⟨text, c⟩, read, same⟩ := act
  obtain ⟨v, hv⟩ : ∃ v, v = (s.saveCandidate.allowKey false).unindent := ⟨_, rfl⟩
  rw [← hv] at read same
  have before : s.Forward v := by
    rw [hv]
    exact ((forward_saveCandidate s).trans (forward_allowKey _ false)).trans (forward_unindent _)
  have cursor : v.cursor = s.cursor := by
    rw [hv, Lexer.unindent, cursor_dropOpenLevels]
    change s.saveCandidate.cursor = s.cursor
    rw [Lexer.saveCandidate]
    split <;> rfl
  have candidate : v.candidate = s.saveCandidate.candidate := by
    rw [hv, Lexer.unindent, candidate_dropOpenLevels]
    rfl
  have block : v.inFlow = false := by
    rw [hv]
    exact ((h.toAt.saveCandidate.allowKey false).unindent).inFlow
  have tokens : u.tokens = .scalar true text :: v.tokens := by
    cases same
    split <;> rfl
  have goes : u.cursor = c := by
    cases same
    split <;> rfl
  have kept : u.candidate = v.candidate ∧ u.inFlow = v.inFlow := by
    cases same
    split <;> exact ⟨rfl, rfl⟩
  refine ⟨text, ⟨?_, ?_⟩, ?_, ?_⟩
  · rw [goes, ← cursor]
    exact weight_plain? read
  · intro token mem scalar
    rw [tokens] at mem
    rcases List.mem_cons.mp mem with rfl | mem
    · exact .inl rfl
    · exact .inr (before.tokens token mem scalar)
  · intro feed
    have later := line_lt_of_plain? read feed
    have saved : s.saveCandidate.candidate.possible = true ∧
        s.saveCandidate.candidate.required = true ∧
        s.saveCandidate.candidate.line = s.cursor.line := by
      obtain ⟨o, ls, levels⟩ := closes
      have same : s.keyAllowed = true := h.keyAllowed.trans allowed
      rw [Lexer.saveCandidate, if_pos same]
      refine ⟨rfl, ?_, rfl⟩
      simp [h.inFlow, h.indent, h.column, indent, innermostCloses, h.levels, levels]
    have none := settle?_of_required (s := u) (by rw [kept.2, block])
      (by rw [kept.1, candidate, saved.1]) (by rw [kept.1, candidate, saved.2.1])
      (by rw [kept.1, candidate, saved.2.2, goes, ← cursor]; exact later)
    rw [settle] at none
    cases none
  · rw [← cursor, ← block]
    exact plainWord_prefix_of_plain? read

/-! ### At the block -/

/-- A break for the writer only is a letter like any other for the lexer. -/
theorem of_separator {x : Char} (line : breaksLine x) (heavy : isHeavy x) :
    startsToken x ∧ firstMarks.contains x = false ∧ endsWord x = false ∧
      x ∉ ['%', '-', '.', '?', ':'] := by
  have known := mem_heavyChars heavy
  simp only [heavyChars, List.mem_cons, List.not_mem_nil, or_false] at known
  rcases known with rfl | rfl | rfl | rfl
  · exact absurd line (by decide)
  all_goals
    decide

section
variable {p : Place} {e : Lexer} {w : String} {n m : Nat} {o : Int} {ls : List Level}

/-- A separator in the first column would have to start a key of the document, which is a text of
one line. -/
theorem Ready.clear_of_separator {x : Char} {r : List Char} {ts : List Token}
    (h : s.Ready ⟨x :: r, 0, ts, n, ⟨0, true⟩ :: ⟨o, true⟩ :: ls, true⟩) (inner : 0 < n)
    (line : breaksLine x) (heavy : isHeavy x) (feed : '\n' ∈ w.toList)
    (light : weight (x :: r) ≤ weight w.toList) (free : ∀ plain, .scalar plain w ∉ ts)
    (settle : s.settle? = some t) (ends : Ends t e) : e.Clear w := by
  obtain ⟨start, mark, word, none⟩ := of_separator line heavy
  simp only [List.mem_cons, List.not_mem_nil, or_false, not_or] at none
  obtain ⟨percent, hyphen, dot, question, colon⟩ := none
  obtain ⟨v, settle', hv⟩ := h.settle_pad (m := 0) (show startsToken (peek (x :: r)) from start) rfl
  cases settle.symm.trans settle'
  have closed : Place.close (0 + 0 : Nat)
        ⟨x :: r, 0 + 0, ts, n, ⟨0, true⟩ :: ⟨o, true⟩ :: ls, true⟩ =
      ⟨x :: r, 0, .blockEnd :: ts, 0, ⟨o, true⟩ :: ls, true⟩ := by
    rw [Place.close, Place.closeLevels, if_pos (by exact Int.natCast_pos.mpr inner),
      Place.closeLevels, if_neg (by exact Int.lt_irrefl 0)]
    rfl
  rw [closed] at hv
  have more : t.cursor.atEnd = false := by
    rw [Cursor.atEnd, Cursor.char_of_rest hv.text]
    simpa using (not_endsWord_iff.mp word).2.2
  obtain ⟨u, v, act, settle', later⟩ := ends.exists_next more
  rw [act?_eq_content? hv.toAt rfl (fun _ => ⟨percent, hyphen, dot⟩) (by exact Int.le_refl 0),
    content?_plain hv.toAt rfl mark fun no => by
      rcases no with no | no | no
      · exact absurd no question
      · exact absurd no colon
      · exact absurd no hyphen] at act
  obtain ⟨text, reads, one_line, first⟩ := hv.plain_line rfl ⟨o, ls, rfl⟩ rfl act settle'
  have mem : x ∈ text.toList := by
    refine first.subset ?_
    rw [hv.text, plainWord, if_neg (by simp [word, colon])]
    exact List.mem_cons_self ..
  have positive := weight_pos_of_mem mem heavy
  have less := reads.light
  rw [hv.text] at less
  have clear : u.Clear w := by
    refine ⟨Nat.lt_of_lt_of_le (Nat.lt_of_lt_of_le ?_ less) light, fun plain mem => ?_⟩
    · omega
    · rcases reads.tokens _ mem rfl with equal | mem
      · cases equal
        exact one_line feed
      · refine free plain ?_
        rw [hv.tokens] at mem
        exact (List.mem_cons.mp mem).resolve_left (fun no => by cases no)
  exact later.clear (clear.forward (forward_of_settle? settle'))

/-- **At a block** with a misplaced separator the text of the block is not read, nor is it later if
there are no more separators after it. -/
theorem Ready.clear_of_misplaced {next : List Char} (h : s.Ready p)
    (text : p.text =
      writeBlock (pad (n + 2)) w.toList ++ (closing w.toList ++ (pad m ++ next)))
    (within : p.Within n (⟨0, true⟩ :: ⟨o, true⟩ :: ls)) (right : n < p.column) (inner : 0 < n)
    (printable : ∀ x ∈ w.toList, isPrintable x) (feed : '\n' ∈ w.toList)
    (misplaced : separatorsAtEnds true w.toList = false) (margin : 0 < m) (light : weight next = 0)
    (free : ∀ plain, .scalar plain w ∉ p.tokens) (ends : Ends s e) : e.Clear w := by
  obtain ⟨rest, bar⟩ : ∃ rest, p.text = '|' :: rest := by
    rw [text, writeBlock, blockHeader]
    exact ⟨_, rfl⟩
  have more : s.cursor.atEnd = false := by
    rw [Cursor.atEnd, Cursor.char_of_rest (h.text.trans bar)]
    rfl
  have inside := within.indent_le
  have saved := ((h.saveCandidate within right).allowKey true).unindent
  have unindented :
      ({ p with keyAllowed := true } : Place).Within n (⟨0, true⟩ :: ⟨o, true⟩ :: ls) := within
  rw [unindented.unindent] at saved
  obtain ⟨u, hu⟩ : ∃ u, u = (s.saveCandidate.allowKey true).unindent := ⟨_, rfl⟩
  rw [← hu] at saved
  have indent : u.indent = n := saved.indent
  obtain ⟨t, t', act, settle, later⟩ := ends.exists_next more
  obtain ⟨other, c', read, differs, less, place⟩ := blockText?_misplaced (c := u.cursor) printable
    misplaced margin light (saved.text.trans text)
  have same : t = (u.goTo c').push (.scalar false other) := by
    rw [act?_eq_content? h.toAt bar (fun no => by omega) (by omega), content?_bar h.toAt bar,
      blockScalar?, ← hu, indent, read] at act
    exact (Option.some.inj act).symm
  have there := (saved.goTo c').push (.scalar false other)
  rw [← same] at there
  have free' : ∀ plain, Token.scalar plain w ∉ Token.scalar false other :: p.tokens := by
    intro plain mem
    rcases List.mem_cons.mp mem with equal | mem
    · cases equal
      exact differs rfl
    · exact free plain mem
  rcases place with lighter | ⟨column, x, r, rest', line, shown, no_feed⟩
  · have clear : t.Clear w := by
      refine ⟨by rwa [same], fun plain mem => free' plain ?_⟩
      rwa [there.tokens] at mem
    exact later.clear (clear.forward (forward_of_settle? settle))
  · have first : t.Ready ⟨x :: r, 0, .scalar false other :: p.tokens, n,
        ⟨0, true⟩ :: ⟨o, true⟩ :: ls, true⟩ := by
      rw [← rest', ← column]
      exact there
    exact first.clear_of_separator inner line (isHeavy_of_breaksLine line shown no_feed) feed
      (rest' ▸ less) free' settle later

end

end

end Lexer

/-! ### Writings without a separator -/

theorem weight_word {w : List Char} (h : IsWord w) : weight w = 0 :=
  weight_of_all (by decide) h.letters

theorem isHeavy_of_writeEscaped {x : Char} (h : writeEscaped x = [x]) : isHeavy x = false := by
  rw [← Bool.not_eq_true]
  intro heavy
  have escaped : heavyChars.all fun y => writeEscaped y != [y] := by decide
  have other := List.all_eq_true.mp escaped x (mem_heavyChars heavy)
  rw [h] at other
  simp at other

section
variable {n : Nat}

/-- A text that needs no escapes between double quotes is written without any, in every style. -/
theorem weight_writeText {s : String} (h : ∀ x ∈ s.toList, writeEscaped x = [x]) :
    weight (writeText (pad n) s) = 0 := by
  have light : weight s.toList = 0 :=
    weight_eq_zero_iff.mpr fun x hx => isHeavy_of_writeEscaped (h x hx)
  have feed : weight ['\n'] = 0 := rfl
  rw [writeText]
  cases styleOf s with
  | plain => rw [weight_append, light, feed]
  | singleQuoted =>
      have quoted : weight (writeSingleQuoted (pad n) s.toList) = 0 := by
        rw [writeSingleQuoted_eq, weight_eq_zero_iff]
        intro x hx
        simp only [List.mem_cons, List.mem_append, List.mem_flatMap, List.not_mem_nil,
          or_false] at hx
        rcases hx with rfl | ⟨y, hy, hx⟩ | rfl
        · rfl
        · rw [writeQuote] at hx
          split_ifs at hx
          · rw [show x = '\'' by simpa using hx]
            rfl
          · rw [List.mem_singleton.mp hx]
            rcases mem_padded _ _ _ hy with space | mem
            · rw [List.eq_of_mem_replicate space]
              rfl
            · exact weight_eq_zero_iff.mp light y mem
        · rfl
      rw [weight_append, quoted, feed]
  | doubleQuoted =>
      have same : s.toList.flatMap writeEscaped = s.toList := by
        rw [List.flatMap_def, List.map_congr_left h, ← List.flatMap_def]
        simp
      have quotes : weight ['\x22', '\n'] = 0 := rfl
      have quote : isHeavy '\x22' = false := rfl
      simp only [same]
      rw [List.cons_append, weight_cons, weight_append, light, quotes, quote]
      rfl
  | block =>
      have lines := weight_writeBlock n s.toList
      dsimp only
      split_ifs
      · rw [lines, light]
      · rw [weight_append, lines, light, feed]

theorem weight_afterKey_word {w : List Char} (h : IsWord w) :
    weight (' ' :: w ++ ['\n']) = 0 := by
  have space : isHeavy ' ' = false := rfl
  have feed : weight ['\n'] = 0 := rfl
  rw [List.cons_append, weight_cons, weight_append, weight_word h, space, feed]
  rfl

theorem weight_writeItems {names : List String}
    (h : ∀ s ∈ names, weight (writeText (pad (n + 2)) s) = 0) :
    weight (Node.writeItems n (names.map .text)) = 0 := by
  have hyphen : isHeavy '-' = false := rfl
  have space : isHeavy ' ' = false := rfl
  induction names with
  | nil => simp [Node.writeItems]
  | cons s names ih =>
      obtain ⟨here, later⟩ := List.forall_mem_cons.mp h
      cases names with
      | nil =>
          rw [List.map_cons, List.map_nil, writeItems_text, weight_cons, weight_cons, here, hyphen,
            space]
          rfl
      | cons s' names =>
          rw [writeItems_text_cons, weight_cons, weight_cons, weight_append, weight_append, here,
            weight_pad, ih later, hyphen, space]
          rfl

theorem weight_afterKey_texts {names : List String}
    (h : ∀ s ∈ names, weight (writeText (pad (n + 2)) s) = 0) :
    weight (Node.afterKey n (.sequence (names.map .text))) = 0 := by
  cases names with
  | nil =>
      rw [List.map_nil, Node.afterKey]
      rfl
  | cons s names =>
      have items := weight_writeItems h
      have feed : isHeavy '\n' = false := rfl
      rw [List.map_cons] at items ⊢
      rw [Node.afterKey, List.cons_append, weight_cons, weight_append, items, feed]
      have := weight_pad n
      simpa [Node.padding, pad] using this

theorem weight_writeEntries {es : List (Key × Node)}
    (h : ∀ e ∈ es, weight (Node.writeKey e.1) = 0 ∧ weight (Node.afterKey n e.2) = 0) :
    weight (Node.writeEntries n es) = 0 := by
  have colon : isHeavy ':' = false := rfl
  induction es with
  | nil =>
      rw [Node.writeEntries]
      rfl
  | cons e es ih =>
      obtain ⟨⟨key, value⟩, later⟩ := List.forall_mem_cons.mp h
      cases es with
      | nil =>
          rw [writeEntries_singleton, weight_append, weight_cons, key, value, colon]
          rfl
      | cons e' es =>
          rw [writeEntries_cons_cons, weight_append, weight_cons, weight_append, weight_append, key,
            value, weight_pad, ih later, colon]
          rfl

theorem weight_afterKey_mapping {es : List (Key × Node)}
    (h : ∀ e ∈ es, weight (Node.writeKey e.1) = 0 ∧ weight (Node.afterKey (n + 2) e.2) = 0) :
    weight (Node.afterKey n (.mapping es)) = 0 := by
  cases es with
  | nil =>
      rw [Node.afterKey]
      rfl
  | cons e es =>
      have feed : isHeavy '\n' = false := rfl
      have := weight_pad (n + 2)
      rw [Node.afterKey, List.cons_append, weight_cons, weight_append, weight_writeEntries h, feed]
      simpa [Node.padding, pad] using this

end

/-! ### In a document -/

theorem Lexer.Next.of_key {s t u : Lexer} (more : s.cursor.atEnd = false) (act : s.act? = some t)
    (shorter : t.cursor.rest.length < s.cursor.rest.length) (settle : t.settle? = some u) :
    Next s u :=
  ⟨more, ⟨t, act, settle⟩,
    Nat.lt_of_le_of_lt (forward_of_settle? settle).reaches.rest.length_le shorter⟩

/-- The run that gives the tokens of a text. -/
theorem exists_ends_of_ofText? {text : List Char} {tokens : List Token} (clean : endMark ∉ text)
    (start : startsToken (peek text)) (h : Token.ofText? text = some tokens) :
    ∃ t e, t.Ready ⟨text, 0, [], -1, [], true⟩ ∧ Ends t e ∧ tokens = e.tokens.reverse := by
  rw [Token.ofText?, takeWhile_of_clean clean] at h
  obtain ⟨e, run, rfl⟩ := Option.map_eq_some_iff.mp h
  obtain ⟨t, settle, ht⟩ := exists_start start
  obtain ⟨t', settle', ends⟩ := exists_ends_of_run? run
  cases settle.symm.trans settle'
  exact ⟨t, e, ht, ends, rfl⟩

theorem writeEntries_append {n : Nat} {es es' : List (Key × Node)} (some : es ≠ [])
    (some' : es' ≠ []) :
    Node.writeEntries n (es ++ es') =
      Node.writeEntries n es ++ (pad n ++ Node.writeEntries n es') := by
  obtain ⟨e', es', rfl⟩ := List.exists_cons_of_ne_nil some'
  induction es with
  | nil => exact absurd rfl some
  | cons e es ih =>
      cases es with
      | nil =>
          rw [List.singleton_append, writeEntries_cons_cons, writeEntries_singleton]
          simp
      | cons e₂ es =>
          have later := ih (List.cons_ne_nil _ _)
          rw [List.cons_append] at later
          rw [List.cons_append, List.cons_append, writeEntries_cons_cons, later,
            writeEntries_cons_cons]
          simp

section
variable {before es : List (Key × Node)} {tokens : List (List Token)} {k k' : Key}
  {w w' : List Char} {s : String}

theorem writeEntries_block (key' : Node.writeKey k' = w') (some : es ≠ [])
    (block : styleOf s = .block) :
    Node.writeEntries 2 ((k', .text s) :: es) = w' ++ ':' :: ' ' ::
      (writeBlock (pad 4) s.toList ++ (closing s.toList ++ (pad 2 ++ Node.writeEntries 2 es))) := by
  obtain ⟨e, es, rfl⟩ := List.exists_cons_of_ne_nil some
  have written : writeText (pad 4) s = writeBlock (pad 4) s.toList ++ closing s.toList := by
    rw [writeText, block, closing]
    dsimp only
    split_ifs
    · rw [List.append_nil]
    · rfl
  rw [writeEntries_cons_cons, key', Node.afterKey]
  change w' ++ ':' :: ((' ' :: writeText (pad 4) s) ++ _) = _
  rw [written]
  simp

/-- The last entry of a document from its key on: a mapping in lines of its own, up to the value of
its first key. -/
def lastEntry (w w' body : List Char) : List Char :=
  w ++ ':' :: '\n' :: (pad 2 ++ (w' ++ ':' :: ' ' :: body))

theorem writeEntries_lastEntry (some : before ≠ []) (key : Node.writeKey k = w)
    (key' : Node.writeKey k' = w') (some' : es ≠ []) (block : styleOf s = .block) :
    Node.writeEntries 0 (before ++ [(k, .mapping ((k', .text s) :: es))]) =
      Node.writeEntries 0 before ++ (pad 0 ++ lastEntry w w' (writeBlock (pad 4) s.toList ++
        (closing s.toList ++ (pad 2 ++ Node.writeEntries 2 es)))) := by
  rw [writeEntries_append some (List.cons_ne_nil _ _), writeEntries_singleton, key, Node.afterKey,
    writeEntries_block key' some' block]
  rfl

theorem weight_lastEntry (hw : IsWord w) (hw' : IsWord w') (body : List Char) :
    weight (lastEntry w w' body) = weight body := by
  have colon : isHeavy ':' = false := rfl
  have feed : isHeavy '\n' = false := rfl
  have space : isHeavy ' ' = false := rfl
  simp [lastEntry, weight_cons, weight_pad, weight_word hw, weight_word hw', colon, feed, space]

theorem lastEntry_clean (hw : IsWord w) (hw' : IsWord w') {body : List Char}
    (clean : endMark ∉ body) : endMark ∉ lastEntry w w' body := by
  simp only [lastEntry, List.mem_append, List.mem_cons, not_or]
  exact ⟨hw.clean, by decide, by decide, pad_clean 2, hw'.clean, by decide, by decide, clean⟩

/-- **Up to the block**: after the entries before it the lexer reads the key of the last entry, and
in the next line the first key of its mapping. -/
theorem Lexer.Ready.steps_to_block {t : Lexer} {body : List Char} (some : before ≠ [])
    (entries : List.Forall₂ (IsEntry 0) before tokens) (hw : IsKey w) (hw' : IsKey w')
    (start : startsToken (peek body))
    (h : t.Ready ⟨Node.writeEntries 0 before ++ (pad 0 ++ lastEntry w w' body), 0, [], -1, [],
      true⟩) :
    ∃ u p, Steps t u ∧ u.Ready p ∧ p.text = body ∧ 2 < p.column ∧
      p.Within 2 [⟨0, true⟩, ⟨-1, true⟩] := by
  have new : (-1 : Int) < (0 : Nat) := by decide
  -- up to the first key
  obtain ⟨t₁, steps, h₁⟩ := h.entries some entries (hw.start _) (Nat.le_refl 0) rfl rfl rfl
    ⟨.inl rfl, .inl ⟨rfl, rfl⟩⟩ (Int.le_of_lt new) (Int.le_of_lt new) (.inl new)
  rw [Place.close_of_le (by exact Int.le_refl 0)] at h₁
  -- to the second
  obtain ⟨u₁, v₁, next₁, more₁, act₁, shorter₁, k₁⟩ := h₁.key hw rfl rfl (.inr rfl)
    ⟨.inr ⟨-1, [], rfl⟩, .inl ⟨rfl, rfl⟩⟩ (Int.le_refl 0) (Int.le_refl 0)
    (.inr (List.cons_ne_nil _ _))
  obtain ⟨t₂, settle₁, h₂⟩ := k₁.settle_line (m := 2) (hw'.start _) rfl
  rw [Place.close_of_le (by exact (by decide : (1 : Int) ≤ 2))] at h₂
  -- to the block
  obtain ⟨u₂, v₂, next₂, more₂, act₂, shorter₂, k₂⟩ := h₂.key hw' rfl rfl (.inl rfl)
    ⟨.inr ⟨-1, [], rfl⟩, .inr ⟨rfl, rfl⟩⟩ (by exact (by decide : (1 : Int) ≤ 2))
    (by exact (by decide : (0 : Int) ≤ 2)) (.inl (by exact (by decide : (0 : Int) < 2)))
  obtain ⟨t₃, settle₂, h₃⟩ := k₂.settle_pad (m := 1) start rfl
  rw [Place.close_of_le (by change (3 : Int) ≤ (2 + w'.length + 1 + 1 : Nat); omega)] at h₃
  refine ⟨t₃, _, (((steps.tail next₁).tail (.of_key more₁ act₁ shorter₁ settle₁)).tail next₂).tail
    (.of_key more₂ act₂ shorter₂ settle₂), h₃, rfl, ?_, .inr ⟨0, [⟨-1, true⟩], rfl⟩,
    .inr ⟨rfl, rfl⟩⟩
  change 2 < 2 + w'.length + 1 + 1
  omega

/-- **The name is not read**: if a document has a block with a misplaced separator as the first
entry of its last mapping, and no separators elsewhere, no text in it is that of the block. -/
theorem not_mem_of_ofText? (some : before ≠ [])
    (entries : List.Forall₂ (IsEntry 0) before tokens) (key : Node.writeKey k = w) (hw : IsKey w)
    (key' : Node.writeKey k' = w') (hw' : IsKey w') (some' : es ≠ []) (block : styleOf s = .block)
    (misplaced : separatorsAtEnds true s.toList = false)
    (light : weight (Node.writeEntries 0 before) = 0)
    (light' : weight (Node.writeEntries 2 es) = 0) (clean' : endMark ∉ Node.writeEntries 2 es)
    {ts : List Token}
    (read : Token.ofText? (Node.writeEntries 0 (before ++ [(k, .mapping ((k', .text s) :: es))])) =
      .some ts) (plain : Bool) : .scalar plain s ∉ ts := by
  obtain ⟨printable, feed⟩ := printable_of_block block
  rw [writeEntries_lastEntry some key key' some' block] at read
  obtain ⟨body, body_eq⟩ : ∃ body, body = writeBlock (pad 4) s.toList ++
      (closing s.toList ++ (pad 2 ++ Node.writeEntries 2 es)) := ⟨_, rfl⟩
  rw [← body_eq] at read
  have heavy : weight body = weight s.toList := by
    simp [body_eq, weight_writeBlock, weight_closing, weight_pad, light']
  have clean : endMark ∉ body := by
    have written := writeBlock_clean (n := 2) printable
    rw [List.mem_append, not_or] at written
    simp only [body_eq, List.mem_append, not_or]
    exact ⟨written.1, written.2, pad_clean 2, clean'⟩
  have bar : startsToken (peek body) := by
    rw [body_eq, writeBlock, blockHeader]
    rfl
  have whole_clean : endMark ∉ Node.writeEntries 0 before ++ (pad 0 ++ lastEntry w w' body) := by
    simp only [List.mem_append, not_or]
    exact ⟨writeEntries_clean entries, pad_clean 0,
      lastEntry_clean hw.toIsWord hw'.toIsWord clean⟩
  have first : startsToken
      (peek (Node.writeEntries 0 before ++ (pad 0 ++ lastEntry w w' body))) := by
    cases entries with
    | nil => exact absurd rfl some
    | cons entry entries => exact entry.start _
  obtain ⟨t, e, ht, ends, rfl⟩ := exists_ends_of_ofText? whole_clean first read
  obtain ⟨u, p, steps, hu, text, right, within⟩ := ht.steps_to_block some entries hw hw' bar
  -- no text before the block has a separator
  have under : u.Under (weight s.toList) := by
    refine Under.steps ⟨?_, fun plain text mem => ?_⟩ steps
    · simp [ht.text, light, weight_pad, weight_lastEntry hw.toIsWord hw'.toIsWord, heavy]
    · rw [ht.tokens] at mem
      cases mem
  have positive : 0 < weight s.toList := by
    obtain ⟨x, hx, line, other⟩ := exists_separator misplaced
    exact weight_pos_of_mem hx (isHeavy_of_breaksLine line (printable x hx) other)
  have free : ∀ plain, .scalar plain s ∉ p.tokens := fun plain mem => by
    have more := under.texts plain s (hu.tokens ▸ mem)
    rw [hu.text, text, heavy] at more
    omega
  have clear := hu.clear_of_misplaced (text.trans body_eq) within right (by decide) printable feed
    misplaced (by decide) light' free (ends.of_steps steps)
  rw [List.mem_reverse]
  exact clear.free plain

end

end Courier.Yaml
