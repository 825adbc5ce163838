import Courier.Proofs.Yaml.Steps
import Courier.Yaml.Style
import Mathlib.Data.List.TakeWhile

/-!
# Courier — Proofs — Places in a block

What counts about the lexer between two tokens of a block (`Place`), and what the parts of a step do
to it.  White space leads to the next token, at which the blocks right of it are closed
(`Ready.settle_pad`, `Ready.settle_line`), and the first character tells how it is read.
-/

namespace Courier.Yaml

open Lexer

/-! ### Places in a block -/

/-- What counts about the lexer between two tokens of a block. -/
structure Place where
  text       : List Char
  column     : Nat
  tokens     : List Token
  indent     : Int
  levels     : List Level
  keyAllowed : Bool

/-- The innermost blocks end that are right of `column`, down to the levels `ls`. -/
def Place.closeLevels (column : Int) : List Level → Place → Place
  | [], p      => p
  | l :: ls, p =>
    if column < p.indent then
      Place.closeLevels column ls { p with
        indent := l.outer, levels := ls
        tokens := if l.closes then .blockEnd :: p.tokens else p.tokens }
    else p

def Place.close (column : Int) (p : Place) : Place := p.closeLevels column p.levels

theorem Place.text_closeLevels (column : Int) (ls : List Level) (p : Place) :
    (p.closeLevels column ls).text = p.text := by
  induction ls generalizing p with
  | nil => rfl
  | cons l ls ih =>
      rw [Place.closeLevels]
      split
      · exact ih _
      · rfl

@[simp] theorem Place.text_close (column : Int) (p : Place) : (p.close column).text = p.text :=
  p.text_closeLevels column p.levels

theorem Place.close_of_le {column : Int} {p : Place} (h : p.indent ≤ column) :
    p.close column = p := by
  rw [Place.close]
  cases p.levels with
  | nil => rfl
  | cons l ls => exact if_neg (by omega)

/-- The levels are left that ask for one more column. -/
def Place.dropOpenLevels : List Level → Place → Place
  | [], p      => p
  | l :: ls, p =>
    if l.closes then p else Place.dropOpenLevels ls { p with indent := l.outer, levels := ls }

def Place.unindent (p : Place) : Place := p.dropOpenLevels p.levels

namespace Lexer

/-- The lexer is at that place. -/
structure At (p : Place) (s : Lexer) : Prop where
  text       : s.cursor.rest = p.text
  column     : s.cursor.column = p.column
  tokens     : s.tokens = p.tokens
  count      : s.count = p.tokens.length
  indent     : s.indent = p.indent
  levels     : s.levels = p.levels
  keyAllowed : s.keyAllowed = p.keyAllowed
  block      : s.depth = 0
  noProperty : s.propertyAtMargin = false
  noPair     : s.pairOpen = false
  noOuter    : s.outerCandidates = []

/-- The lexer is at that place, and no token before it has to become a key. -/
structure Ready (p : Place) (s : Lexer) : Prop extends At p s where
  free : s.candidate.possible → s.candidate.required = false

section
variable {p : Place} {s : Lexer}

theorem At.inFlow (h : s.At p) : s.inFlow = false := by rw [Lexer.inFlow, h.block]; rfl

/-! ### What the parts of a step do to a place -/

theorem At.allowKey (h : s.At p) (allowed : Bool) :
    (s.allowKey allowed).At { p with keyAllowed := allowed } :=
  { h with keyAllowed := rfl }

theorem At.goTo (h : s.At p) (c : Cursor) :
    (s.goTo c).At { p with text := c.rest, column := c.column } :=
  { h with text := rfl, column := rfl }

theorem At.push (h : s.At p) (t : Token) : (s.push t).At { p with tokens := t :: p.tokens } :=
  { h with
    tokens     := congrArg (t :: ·) h.tokens
    count      := congrArg (· + 1) h.count
    noProperty := rfl }

theorem At.saveCandidate (h : s.At p) : s.saveCandidate.At p := by
  rw [Lexer.saveCandidate]
  split
  · exact { h with }
  · exact h

theorem At.closeLevels (column : Int) (ls : List Level) : ∀ {p : Place} {s : Lexer}, s.At p →
    (closeLevels column ls s).At (p.closeLevels column ls) := by
  induction ls with
  | nil => exact fun h => h
  | cons l ls ih =>
      intro p s h
      rw [Lexer.closeLevels, Place.closeLevels, h.indent]
      split
      · refine ih ?_
        have left : At { p with indent := l.outer, levels := ls }
            { s with indent := l.outer, levels := ls } :=
          { h with indent := rfl, levels := rfl }
        cases l.closes
        · exact left
        · exact left.push .blockEnd
      · exact h

theorem At.closeBlocks (h : s.At p) (column : Int) :
    (s.closeBlocks column).At (p.close column) := by
  rw [Lexer.closeBlocks, h.inFlow, Place.close, h.levels]
  exact h.closeLevels column p.levels

theorem At.dropOpenLevels (ls : List Level) : ∀ {p : Place} {s : Lexer}, s.At p →
    (dropOpenLevels ls s).At (p.dropOpenLevels ls) := by
  induction ls with
  | nil => exact fun h => h
  | cons l ls ih =>
      intro p s h
      rw [Lexer.dropOpenLevels, Place.dropOpenLevels]
      split
      · exact h
      · exact ih { h with indent := rfl, levels := rfl }

theorem At.unindent (h : s.At p) : s.unindent.At p.unindent := by
  rw [Lexer.unindent, Place.unindent, h.levels]
  exact h.dropOpenLevels p.levels

/-! The candidate is left alone by all of them but `saveCandidate`. -/

theorem candidate_closeLevels (column : Int) (ls : List Level) (s : Lexer) :
    (Lexer.closeLevels column ls s).candidate = s.candidate := by
  induction ls generalizing s with
  | nil => rfl
  | cons l ls ih =>
      rw [Lexer.closeLevels]
      split
      · dsimp only
        rw [ih]
        cases l.closes <;> rfl
      · rfl

theorem candidate_dropOpenLevels (ls : List Level) (s : Lexer) :
    (Lexer.dropOpenLevels ls s).candidate = s.candidate := by
  induction ls generalizing s with
  | nil => rfl
  | cons l ls ih =>
      rw [Lexer.dropOpenLevels]
      split
      · rfl
      · exact ih _

theorem cursor_dropOpenLevels (ls : List Level) (s : Lexer) :
    (Lexer.dropOpenLevels ls s).cursor = s.cursor := by
  induction ls generalizing s with
  | nil => rfl
  | cons l ls ih =>
      rw [Lexer.dropOpenLevels]
      split
      · rfl
      · exact ih _

theorem Ready.allowKey (h : s.Ready p) (allowed : Bool) :
    (s.allowKey allowed).Ready { p with keyAllowed := allowed } :=
  ⟨h.toAt.allowKey allowed, h.free⟩

theorem Ready.goTo (h : s.Ready p) (c : Cursor) :
    (s.goTo c).Ready { p with text := c.rest, column := c.column } :=
  ⟨h.toAt.goTo c, h.free⟩

theorem Ready.push (h : s.Ready p) (t : Token) :
    (s.push t).Ready { p with tokens := t :: p.tokens } :=
  ⟨h.toAt.push t, h.free⟩

theorem Ready.closeBlocks (h : s.Ready p) (column : Int) :
    (s.closeBlocks column).Ready (p.close column) := by
  refine ⟨h.toAt.closeBlocks column, ?_⟩
  rw [Lexer.closeBlocks, h.inFlow]
  simpa only [Bool.false_eq_true, if_false, candidate_closeLevels] using h.free

theorem Ready.unindent (h : s.Ready p) : s.unindent.Ready p.unindent := by
  refine ⟨h.toAt.unindent, ?_⟩
  rw [Lexer.unindent, candidate_dropOpenLevels]
  exact h.free

theorem insertAt_eq {later ts : List Token} (tokens : s.tokens = later ++ ts)
    (count : s.count = s.tokens.length) (t : Token) :
    s.insertAt ts.length t = { s with tokens := later ++ t :: ts, count := s.count + 1 } := by
  have behind : s.count - ts.length = later.length := by
    rw [count, tokens, List.length_append, Nat.add_sub_cancel]
  rw [Lexer.insertAt]
  simp only [behind, tokens, List.take_left, List.drop_left]

/-- A candidate that need not become a key can be given up. -/
theorem Ready.dropCandidate? (h : s.Ready p) : ∃ t, s.dropCandidate? = some t ∧ t.Ready p := by
  refine ⟨_, if_neg fun no => ?_, { h with free := fun no => by cases no }⟩
  rw [h.free no.1] at no
  exact absurd no.2 (by decide)

theorem Ready.dropStale? (h : s.Ready p) : ∃ t, s.dropStale? = some t ∧ t.Ready p := by
  rw [Lexer.dropStale?]
  split
  · exact h.dropCandidate?
  · exact ⟨s, rfl, h⟩

/-! ### To the next token -/

theorem Ready.settle {t : Lexer} (h : t.Ready p) (skip : s.skip? = some t) :
    ∃ u, s.settle? = some u ∧ u.Ready (p.close p.column) := by
  obtain ⟨u, drop, hu⟩ := h.dropStale?
  refine ⟨u.closeBlocks u.cursor.column, ?_, ?_⟩
  · rw [settle?, skip]
    simp only [Option.bind_eq_bind, Option.bind_some, drop]
    rfl
  · rw [hu.column]
    exact hu.closeBlocks _

/-- Over spaces to the next token. -/
theorem Ready.settle_pad (h : s.Ready p) {m : Nat} {next : List Char}
    (stop : startsToken (peek next)) (text : p.text = pad m ++ next) :
    ∃ t, s.settle? = some t ∧
      t.Ready ({ p with text := next, column := p.column + m }.close (p.column + m : Nat)) := by
  have there :
      (s.goTo (s.cursor.advance m)).Ready { p with text := next, column := p.column + m } :=
    { h with
      text   := by
        change s.cursor.rest.drop m = next
        rw [h.text, text, List.drop_left' (length_pad m)]
      column := congrArg (· + m) h.column }
  exact there.settle (skip?_pad stop (h.text.trans text))

theorem Ready.skip_line (h : s.Ready p) {m : Nat} {next : List Char}
    (stop : startsToken (peek next)) (text : p.text = '\n' :: (pad m ++ next)) :
    ∃ t, s.skip? = some t ∧ t.Ready { p with text := next, column := m, keyAllowed := true } := by
  refine ⟨_, skip?_line stop (h.text.trans text), ?_⟩
  exact { h with
    text       := by
      change (s.cursor.rest.drop 1).drop m = next
      rw [h.text, text]
      exact List.drop_left' (length_pad m)
    column     := Nat.zero_add m
    keyAllowed := by
      change (s.keyAllowed || !s.inFlow) = true
      rw [h.inFlow]
      exact Bool.or_true _ }

/-- Over the end of a line to the next token. -/
theorem Ready.settle_line (h : s.Ready p) {m : Nat} {next : List Char}
    (stop : startsToken (peek next)) (text : p.text = '\n' :: (pad m ++ next)) :
    ∃ t, s.settle? = some t ∧
      t.Ready ({ p with text := next, column := m, keyAllowed := true }.close m) := by
  obtain ⟨t, skip, ht⟩ := h.skip_line stop text
  exact ht.settle skip

/-! ### Reading the token -/

theorem atMarker_of_char {c : Cursor} {x marker : Char} {rest : List Char} (h : c.rest = x :: rest)
    (other : x ≠ marker) : c.atMarker marker = false := by
  rw [Cursor.atMarker, Bool.and_eq_false_iff]
  right
  rw [h]
  split
  · rename_i y z w rest' same
    cases same
    simp [other]
  · rfl

theorem atDocumentMarker_of_char {c : Cursor} {x : Char} {rest : List Char} (h : c.rest = x :: rest)
    (hyphen : x ≠ '-') (dot : x ≠ '.') : c.atDocumentMarker = false := by
  rw [Cursor.atDocumentMarker, atMarker_of_char h hyphen, atMarker_of_char h dot]
  rfl

/-- Only at the start of a line there may be something else than content. -/
theorem act?_eq_content? (h : s.At p) {x : Char} {rest : List Char} (text : p.text = x :: rest)
    (mark : p.column = 0 → x ≠ '%' ∧ x ≠ '-' ∧ x ≠ '.') (inside : p.indent ≤ p.column) :
    s.act? = s.content? := by
  have here := h.text.trans text
  rw [act?, h.column, h.indent, Cursor.char_of_rest here]
  by_cases column : p.column = 0
  · obtain ⟨percent, hyphen, dot⟩ := mark column
    rw [if_neg (fun no => percent no.2), atMarker_of_char here hyphen, atMarker_of_char here dot]
    simp only [Bool.false_eq_true, if_false]
    exact if_neg (by omega)
  · have other := Cursor.atDocumentMarker_of_column (c := s.cursor) (by rwa [h.column])
    rw [Cursor.atDocumentMarker, Bool.or_eq_false_iff] at other
    rw [if_neg (fun no => column no.1), other.1, other.2]
    simp only [Bool.false_eq_true, if_false]
    exact if_neg (by omega)

/-- Text without a mark at its start is plain. -/
theorem content?_plain (h : s.At p) {x : Char} {rest : List Char} (text : p.text = x :: rest)
    (mark : firstMarks.contains x = false)
    (alone : x = '?' ∨ x = ':' ∨ x = '-' → endsWord (peek rest) = false) :
    s.content? = s.plainScalar? := by
  have here := h.text.trans text
  simp only [firstMarks, List.contains_eq_mem, List.mem_cons, List.not_mem_nil, or_false,
    decide_eq_false_iff_not, not_or] at mark
  rw [content?]
  simp only [Cursor.char_of_rest here, Cursor.next_of_rest here, h.inFlow]
  simp only [mark, if_false, false_and, or_self, Bool.false_and, Bool.or_false]
  have word {y : Char} (same : y = '?' ∨ y = ':' ∨ y = '-') : ¬ (x = y ∧ endsWord (peek rest)) := by
    rintro ⟨rfl, no⟩
    rw [alone same] at no
    cases no
  rw [if_neg (word (.inr (.inr rfl))), if_neg (word (.inl rfl)), if_neg (word (.inr (.inl rfl)))]

theorem content?_quote {x : Char} {rest : List Char} (text : s.cursor.rest = x :: rest)
    (quote : x = '\'' ∨ x = '\x22') : s.content? = s.quotedScalar? := by
  rw [content?]
  simp only [Cursor.char_of_rest text]
  rcases quote with rfl | rfl <;> rfl

theorem content?_bar (h : s.At p) {rest : List Char} (text : p.text = '|' :: rest) :
    s.content? = s.blockScalar? := by
  have here := h.text.trans text
  rw [content?]
  simp only [Cursor.char_of_rest here, h.inFlow]
  rfl

theorem content?_colon {rest : List Char} (text : s.cursor.rest = ':' :: rest)
    (word : endsWord (peek rest)) : s.content? = s.value? := by
  rw [content?]
  simp only [Cursor.char_of_rest text, Cursor.next_of_rest text, word]
  rfl

theorem content?_hyphen {rest : List Char} (text : s.cursor.rest = '-' :: rest)
    (word : endsWord (peek rest)) : s.content? = s.blockEntry? := by
  rw [content?]
  simp only [Cursor.char_of_rest text, Cursor.next_of_rest text, word]
  rfl

theorem Next.of_content {u v : Lexer} (h : s.At p) {x : Char} {rest : List Char}
    (text : p.text = x :: rest) (ended : x ≠ endMark)
    (mark : p.column = 0 → x ≠ '%' ∧ x ≠ '-' ∧ x ≠ '.') (inside : p.indent ≤ p.column)
    (act : s.content? = some u) (settle : u.settle? = some v)
    (shorter : v.cursor.rest.length ≤ rest.length) : Next s v := by
  have here := h.text.trans text
  refine ⟨?_, ⟨u, (act?_eq_content? h text mark inside).trans act, settle⟩, ?_⟩
  · rw [Cursor.atEnd, Cursor.char_of_rest here]
    simpa using ended
  · rw [here, List.length_cons]
    omega

end

end Lexer

/-! ### Whole texts -/

section
variable {text : List Char}

theorem takeWhile_of_clean (clean : endMark ∉ text) : text.takeWhile (· ≠ endMark) = text :=
  List.takeWhile_eq_self_iff.mpr fun _ hx => decide_eq_true fun same => clean (same ▸ hx)

/-- At the first token of a text. -/
theorem Lexer.exists_start (start : startsToken (peek text)) :
    ∃ t, settle? { cursor := { rest := text } } = some t ∧ t.Ready ⟨text, 0, [], -1, [], true⟩ := by
  have ready : Lexer.Ready ⟨text, 0, [], -1, [], true⟩ { cursor := { rest := text } } :=
    { text := rfl, column := rfl, tokens := rfl, count := rfl, indent := rfl, levels := rfl
      keyAllowed := rfl, block := rfl, noProperty := rfl, noPair := rfl, noOuter := rfl
      free := fun no => by cases no }
  obtain ⟨t, settle, ht⟩ := ready.settle_pad (m := 0) start rfl
  rw [Place.close_of_le (by exact (by decide : (-1 : Int) ≤ (0 + 0 : Nat)))] at ht
  exact ⟨t, settle, ht⟩

/-- **A text** whose tokens are read, one after the other, up to its end. -/
theorem Token.ofText?_of_steps {tokens : List Token} (clean : endMark ∉ text)
    (start : startsToken (peek text))
    (h : ∀ {t : Lexer}, t.Ready ⟨text, 0, [], -1, [], true⟩ →
      ∃ u p, Steps t u ∧ u.Ready p ∧ p.text = [] ∧ (p.close (-1)).tokens.reverse = tokens) :
    Token.ofText? text = some tokens := by
  obtain ⟨t, settle, ht⟩ := exists_start start
  obtain ⟨u, p, steps, hu, ended, rfl⟩ := h ht
  obtain ⟨v, finish, hv⟩ := (hu.closeBlocks (-1)).dropCandidate?
  have atEnd : u.cursor.atEnd := by
    rw [Cursor.atEnd, Cursor.char, hu.text, ended]
    rfl
  have enough : t.cursor.rest.length < text.length + 2 := by
    rw [ht.text]
    exact Nat.lt_add_of_pos_right (by decide)
  rw [Token.ofText?, takeWhile_of_clean clean, run?_of_steps settle steps atEnd finish enough,
    Option.map_some, hv.tokens]

end

end Courier.Yaml
