import Courier.Proofs.Yaml.Place

/-!
# Courier — Proofs — Flow collections as tokens

What counts about the lexer inside flow collections (`Nested`), and what brackets, braces, commas
and colons do to it.  Columns and line breaks play no part there.
-/

namespace Courier.Yaml

/-- What counts about the lexer between two tokens inside of flow collections. -/
structure Nested where
  text       : List Char
  tokens     : List Token
  /-- The collections around the innermost one. -/
  depth      : Nat
  /-- The innermost mapping has a mark of its own. -/
  marked     : Bool
  indent     : Int
  levels     : List Level
  keyAllowed : Bool

namespace Lexer

/-- The lexer is there, and no token before it has to become a key. -/
structure Inside (q : Nested) (s : Lexer) : Prop where
  text       : s.cursor.rest = q.text
  tokens     : s.tokens = q.tokens
  count      : s.count = q.tokens.length
  depth      : s.depth = q.depth + 1
  outer      : s.outerCandidates.length = q.depth + 1
  free       : ∀ k ∈ s.candidate :: s.outerCandidates, k.possible → k.required = false
  marked     : s.mappingMarked = q.marked
  noPair     : s.pairOpen = false
  indent     : s.indent = q.indent
  levels     : s.levels = q.levels
  keyAllowed : s.keyAllowed = q.keyAllowed
  right      : s.indent ≤ s.cursor.column

section
variable {q : Nested} {s : Lexer}

theorem Inside.inFlow (h : s.Inside q) : s.inFlow = true := by rw [Lexer.inFlow, h.depth]; rfl

/-! ### What the parts of a step do -/

theorem Inside.allowKey (h : s.Inside q) (allowed : Bool) :
    (s.allowKey allowed).Inside { q with keyAllowed := allowed } :=
  { h with keyAllowed := rfl }

theorem Inside.push (h : s.Inside q) (t : Token) :
    (s.push t).Inside { q with tokens := t :: q.tokens } :=
  { h with
    tokens := congrArg (t :: ·) h.tokens
    count  := congrArg (· + 1) h.count }

theorem Inside.goTo (h : s.Inside q) {c : Cursor} (right : q.indent ≤ c.column) :
    (s.goTo c).Inside { q with text := c.rest } :=
  { h with
    text  := rfl
    right := h.indent ▸ right }

theorem Inside.dropCandidate? (h : s.Inside q) :
    s.dropCandidate? = some { s with candidate := { s.candidate with possible := false } } := by
  refine if_neg fun no => ?_
  rw [h.free _ (List.mem_cons_self ..) no.1] at no
  exact absurd no.2 (by decide)

theorem Inside.dropped (h : s.Inside q) :
    Inside q { s with candidate := { s.candidate with possible := false } } :=
  { h with
    free := by
      have outer := (List.forall_mem_cons.mp h.free).2
      exact List.forall_mem_cons.mpr ⟨fun no => (by cases no), outer⟩ }

theorem Inside.saveCandidate (h : s.Inside q) : s.saveCandidate.Inside q := by
  rw [Lexer.saveCandidate]
  split
  · exact { h with
      free := by
        have outer := (List.forall_mem_cons.mp h.free).2
        refine List.forall_mem_cons.mpr ⟨fun _ => ?_, outer⟩
        rw [decide_eq_false_iff_not, h.inFlow]
        exact fun no => no.1 rfl }
  · exact h

/-! ### To the next token -/

theorem Inside.settle_of_skip {t : Lexer} (h : t.Inside q) (skip : s.skip? = some t) :
    s.settle? = some t := by
  have kept : t.dropStale? = some t := if_neg fun no => by
    rw [h.inFlow] at no
    exact no.1 rfl
  have open_ : t.closeBlocks t.cursor.column = t := if_pos h.inFlow
  rw [settle?, skip]
  simp only [Option.bind_eq_bind, Option.bind_some, kept, open_]
  rfl

/-- White space between two tokens: spaces, or a line break and spaces. -/
inductive IsGap : List Char → Prop where
  | pad (m : Nat) : IsGap (pad m)
  | line (m : Nat) : IsGap ('\n' :: pad m)

theorem Inside.skip (h : s.Inside q) (low : q.indent ≤ 0) {gap next : List Char} (space : IsGap gap)
    (stop : startsToken (peek next)) (text : q.text = gap ++ next) :
    ∃ t, s.skip? = some t ∧ t.Inside { q with text := next } ∧ t.candidate = s.candidate := by
  have right := h.right
  cases space with
  | pad m =>
      refine ⟨_, skip?_pad stop (h.text.trans text), { h with text := ?_, right := ?_ }, rfl⟩
      · change s.cursor.rest.drop m = next
        rw [h.text, text, List.drop_left' (length_pad m)]
      · change s.indent ≤ (s.cursor.column + m : Nat)
        omega
  | line m =>
      refine ⟨_, skip?_line stop (h.text.trans text),
        { h with text := ?_, keyAllowed := ?_, right := ?_ }, rfl⟩
      · change (s.cursor.rest.drop 1).drop m = next
        rw [h.text, text]
        exact List.drop_left' (length_pad m)
      · change (s.keyAllowed || !s.inFlow) = q.keyAllowed
        rw [h.inFlow, h.keyAllowed]
        exact Bool.or_false _
      · change s.indent ≤ (0 + m : Nat)
        rw [h.indent]
        omega

theorem Inside.settle (h : s.Inside q) (low : q.indent ≤ 0) {gap next : List Char}
    (space : IsGap gap) (stop : startsToken (peek next)) (text : q.text = gap ++ next) :
    ∃ t, s.settle? = some t ∧ t.Inside { q with text := next } ∧ t.candidate = s.candidate := by
  obtain ⟨t, skip, ht, same⟩ := h.skip low space stop text
  exact ⟨t, ht.settle_of_skip skip, ht, same⟩

theorem Inside.settle_here (h : s.Inside q) (stop : startsToken (peek q.text)) :
    s.settle? = some s :=
  h.settle_of_skip (toToken?_here (by rwa [Cursor.char, h.text]) _)

theorem Inside.act?_eq_content? (h : s.Inside q) {x : Char} {rest : List Char}
    (text : q.text = x :: rest) (mark : x ≠ '%' ∧ x ≠ '-' ∧ x ≠ '.') : s.act? = s.content? := by
  have here := h.text.trans text
  have right := h.right
  obtain ⟨percent, hyphen, dot⟩ := mark
  rw [act?, Cursor.char_of_rest here, if_neg (fun no => percent no.2),
    atMarker_of_char here hyphen, atMarker_of_char here dot]
  simp only [Bool.false_eq_true, if_false]
  exact if_neg (by omega)

/-- One token is read. -/
theorem Inside.next {u v : Lexer} (h : s.Inside q) {x : Char} {rest : List Char}
    (text : q.text = x :: rest) (ended : x ≠ endMark) (mark : x ≠ '%' ∧ x ≠ '-' ∧ x ≠ '.')
    (act : s.content? = some u) (settle : u.settle? = some v)
    (shorter : v.cursor.rest.length ≤ rest.length) : Next s v := by
  have here := h.text.trans text
  refine ⟨?_, ⟨u, (h.act?_eq_content? text mark).trans act, settle⟩, ?_⟩
  · rw [Cursor.atEnd, Cursor.char_of_rest here]
    simpa using ended
  · rw [here, List.length_cons]
    omega

/-- Each mark is read by what it stands for. -/
theorem content?_mark {x : Char} {rest : List Char} (text : s.cursor.rest = x :: rest) :
    (x = '[' → s.content? = s.openFlow? .flowSequence) ∧
      (x = '\x7b' → s.content? = s.openFlow? .flowMapping) ∧
      (x = ']' → s.content? = s.closeFlow? .flowSequenceEnd) ∧
      (x = '\x7d' → s.content? = s.closeFlow? .flowMappingEnd) ∧
      (x = ',' → s.content? = s.flowEntry?) := by
  have char := Cursor.char_of_rest text
  rw [content?]
  refine ⟨?_, ?_, ?_, ?_, ?_⟩ <;> (rintro rfl; simp only [char]; rfl)

/-! ### Brackets and braces -/

/-- No blanks and no comment come after a mark. -/
theorem passBlanks?_of_stop {next : List Char} (rest : s.cursor.rest = next)
    (stop : isBlank (peek next) = false ∧ peek next ≠ '#') : s.passBlanks? = some s := by
  rw [Lexer.passBlanks?, Cursor.passBlanks?_of_peek true (by rw [rest]; exact stop.1)
    (by rw [rest]; exact stop.2)]
  rfl

/-- After the opening mark of a collection. -/
def entered (t : Token) (s : Lexer) : Lexer :=
  { s with
    outerCandidates := s.candidate :: s.outerCandidates
    candidate       := {}
    depth           := s.depth + 1
    keyAllowed      := true
    cursor          := s.cursor.pass 1
    mappingMarked   := t = .flowMapping || s.mappingMarked }

theorem openFlow?_eq {u : Lexer} (saved : s.saveCandidate.indentOnce = u)
    (room : u.depth < maxDepth) {x : Char} {rest : List Char} (text : u.cursor.rest = x :: rest)
    (stop : isBlank (peek rest) = false ∧ peek rest ≠ '#') (t : Token) :
    s.openFlow? t = some ((u.entered t).push t) := by
  have text' : (u.entered t).cursor.rest = rest := by
    change u.cursor.rest.drop 1 = rest
    rw [text]
    rfl
  have blanks := passBlanks?_of_stop text' stop
  rw [Lexer.openFlow?, saved]
  simp only [if_neg (Nat.not_le_of_lt room)]
  rw [entered] at blanks ⊢
  by_cases brace : t = .flowMapping
  · simp only [brace, decide_true, Bool.true_or, if_true] at blanks ⊢
    rw [blanks]
    rfl
  · simp only [brace, decide_false, Bool.false_or, if_false] at blanks ⊢
    rw [blanks]
    rfl

theorem Ready.openFlow {p : Place} (h : s.Ready p) {x : Char} {rest : List Char}
    (text : p.text = x :: rest) (stop : isBlank (peek rest) = false ∧ peek rest ≠ '#')
    (inner : s.innermostCloses = false) (other : p.keyAllowed = false ∨ p.indent ≠ p.column)
    (right : p.indent ≤ p.column) (t : Token) :
    ∃ u, s.openFlow? t = some u ∧ u.Inside
      ⟨rest, t :: p.tokens, 0, t = .flowMapping || s.mappingMarked, p.indent, p.levels, true⟩ := by
  obtain ⟨u, eq, hu, inner', marked⟩ : ∃ u, s.saveCandidate = u ∧ u.Ready p ∧
      u.innermostCloses = false ∧ u.mappingMarked = s.mappingMarked := by
    refine ⟨_, rfl, ?_⟩
    rw [Lexer.saveCandidate]
    split_ifs with allowed
    · refine ⟨{ h with free := fun _ => ?_ }, inner, rfl⟩
      rw [h.keyAllowed] at allowed
      rw [decide_eq_false_iff_not, h.indent, h.column]
      exact fun no => other.elim (fun no' => by rw [no'] at allowed; cases allowed) (· no.2.1)
    · exact ⟨h, inner, rfl⟩
  have kept : s.saveCandidate.indentOnce = u := by
    rw [eq]
    exact if_neg fun no => by rw [inner'] at no; cases no.2
  have act := openFlow?_eq kept (by rw [hu.block]; decide) (hu.text.trans text) stop t
  have there : (u.entered t).Inside
      ⟨rest, p.tokens, 0, t = .flowMapping || s.mappingMarked, p.indent, p.levels, true⟩ :=
    { hu with
      text   := by
        change u.cursor.rest.drop 1 = rest
        rw [hu.text, text]
        rfl
      depth  := congrArg (· + 1) hu.block
      outer  := congrArg (·.length + 1) hu.noOuter
      free   := by
        rw [entered, hu.noOuter]
        exact List.forall_mem_cons.mpr ⟨fun no => (by cases no), by simpa using hu.free⟩
      marked := congrArg (t = .flowMapping || ·) marked
      keyAllowed := rfl
      right := by
        change u.indent ≤ (u.cursor.column + 1 : Nat)
        rw [hu.indent, hu.column]
        omega }
  exact ⟨_, act, there.push t⟩

theorem Inside.openFlow (h : s.Inside q) (room : q.depth + 1 < maxDepth) {x : Char}
    {rest : List Char} (text : q.text = x :: rest)
    (stop : isBlank (peek rest) = false ∧ peek rest ≠ '#') (t : Token) :
    ∃ u, s.openFlow? t = some u ∧ u.Inside ⟨rest, t :: q.tokens, q.depth + 1,
      t = .flowMapping || q.marked, q.indent, q.levels, true⟩ := by
  obtain ⟨u, eq, hu⟩ : ∃ u, s.saveCandidate = u ∧ u.Inside q := ⟨_, rfl, h.saveCandidate⟩
  have kept : s.saveCandidate.indentOnce = u := by
    rw [eq]
    exact if_neg fun no => by rw [hu.inFlow] at no; exact no.1 rfl
  have act := openFlow?_eq kept (by rwa [hu.depth]) (hu.text.trans text) stop t
  have right := hu.right
  have there : (u.entered t).Inside ⟨rest, q.tokens, q.depth + 1,
      t = .flowMapping || q.marked, q.indent, q.levels, true⟩ :=
    { hu with
      text   := by
        change u.cursor.rest.drop 1 = rest
        rw [hu.text, text]
        rfl
      depth  := congrArg (· + 1) hu.depth
      outer  := congrArg (· + 1) hu.outer
      free   := List.forall_mem_cons.mpr ⟨fun no => (by cases no), hu.free⟩
      marked := congrArg (t = .flowMapping || ·) hu.marked
      keyAllowed := rfl
      right := by
        change u.indent ≤ (u.cursor.column + 1 : Nat)
        omega }
  exact ⟨_, act, there.push t⟩

/-- After the closing mark of a collection. -/
def exited (k : Candidate) (ks : List Candidate) (s : Lexer) : Lexer :=
  { s with
    candidate       := k
    outerCandidates := ks
    depth           := s.depth - 1
    keyAllowed      := false
    cursor          := s.cursor.pass 1 }

/-- The closing mark brings back the candidate from before the collection. -/
theorem Inside.closeFlow?_eq (h : s.Inside q) {x : Char} {rest : List Char}
    (text : q.text = x :: rest) (stop : isBlank (peek rest) = false ∧ peek rest ≠ '#') (t : Token) :
    ∃ k ks a, s.outerCandidates = k :: ks ∧
      s.closeFlow? t = some ({ s.exited k ks with adjacentAt := a }.push t) := by
  obtain ⟨k, ks, outer⟩ := List.exists_cons_of_length_eq_add_one h.outer
  refine ⟨k, ks, if (s.exited k ks).inFlow then (s.exited k ks).cursor.index else s.adjacentAt,
    outer, ?_⟩
  have text' : (s.exited k ks).cursor.rest = rest := by
    change s.cursor.rest.drop 1 = rest
    rw [h.text, text]
    rfl
  have pair : ({ s with
      candidate := k, outerCandidates := ks, depth := s.depth - 1 }.allowKey false).closePair =
      { s with candidate := k, outerCandidates := ks, depth := s.depth - 1, keyAllowed := false } :=
    if_neg (by rw [Bool.not_eq_true]; exact h.noPair)
  rw [Lexer.closeFlow?, h.dropCandidate?]
  simp only [Option.bind_eq_bind, Option.bind_some, outer, pair]
  refine Option.bind_eq_some_iff.mpr ⟨s.exited k ks, passBlanks?_of_stop text' stop, ?_⟩
  split_ifs <;> rfl

theorem Inside.closeFlow_inner (h : s.Inside q) {d : Nat} (depth : q.depth = d + 1) {x : Char}
    {rest : List Char} (text : q.text = x :: rest)
    (stop : isBlank (peek rest) = false ∧ peek rest ≠ '#') (t : Token) :
    ∃ u, s.closeFlow? t = some u ∧
      u.Inside ⟨rest, t :: q.tokens, d, q.marked, q.indent, q.levels, false⟩ := by
  obtain ⟨k, ks, a, outer, act⟩ := h.closeFlow?_eq text stop t
  have right := h.right
  have there : Inside ⟨rest, q.tokens, d, q.marked, q.indent, q.levels, false⟩
      { s.exited k ks with adjacentAt := a } :=
    { h with
      text  := by
        change s.cursor.rest.drop 1 = rest
        rw [h.text, text]
        rfl
      depth := by
        change s.depth - 1 = d + 1
        rw [h.depth, depth]
        rfl
      outer := by
        have length := h.outer
        rw [outer, List.length_cons, depth] at length
        exact Nat.succ.inj length
      free  := outer ▸ (List.forall_mem_cons.mp h.free).2
      keyAllowed := rfl
      right := by
        change s.indent ≤ (s.cursor.column + 1 : Nat)
        omega }
  exact ⟨_, act, there.push t⟩

theorem Inside.closeFlow_outer (h : s.Inside q) (depth : q.depth = 0) {x : Char}
    {rest : List Char} (text : q.text = x :: rest)
    (stop : isBlank (peek rest) = false ∧ peek rest ≠ '#') (t : Token) :
    ∃ u, s.closeFlow? t = some u ∧ u.Ready
      ⟨rest, s.cursor.column + 1, t :: q.tokens, q.indent, q.levels, false⟩ := by
  obtain ⟨k, ks, a, outer, act⟩ := h.closeFlow?_eq text stop t
  have none_left : ks = [] := by
    have length := h.outer
    rw [outer, List.length_cons, depth] at length
    exact List.eq_nil_of_length_eq_zero (Nat.succ.inj length)
  refine ⟨_, act, ⟨?_, rfl, congrArg (t :: ·) h.tokens, congrArg (· + 1) h.count, h.indent,
    h.levels, rfl, ?_, rfl, h.noPair, none_left⟩, ?_⟩
  · change s.cursor.rest.drop 1 = rest
    rw [h.text, text]
    rfl
  · change s.depth - 1 = 0
    rw [h.depth, depth]
  · have free := (List.forall_mem_cons.mp h.free).2
    rw [outer] at free
    exact free k (List.mem_cons_self ..)

/-! ### Commas and colons -/

theorem Inside.passMark (h : s.Inside q) {x : Char} {rest : List Char} (text : q.text = x :: rest) :
    (s.goTo (s.cursor.pass 1)).Inside { q with text := rest } := by
  have right := h.right
  have text' : (s.cursor.pass 1).rest = rest := by
    rw [Cursor.rest_pass, h.text, text]
    rfl
  have passed := h.goTo (c := s.cursor.pass 1) (by rw [← h.indent, Cursor.column_pass]; omega)
  rwa [text'] at passed

theorem Inside.flowEntry (h : s.Inside q) {rest : List Char} (text : q.text = ',' :: rest)
    (stop : isBlank (peek rest) = false ∧ peek rest ≠ '#') :
    ∃ u, s.flowEntry? = some u ∧
      u.Inside { q with text := rest, tokens := .flowEntry :: q.tokens, keyAllowed := true } := by
  have dropped := h.dropped.allowKey true
  obtain ⟨u, hu⟩ : ∃ u, u = ({ s with
      candidate := { s.candidate with possible := false } } : Lexer).allowKey true := ⟨_, rfl⟩
  rw [← hu] at dropped
  have pair : u.closePair = u := if_neg (by rw [Bool.not_eq_true]; exact dropped.noPair)
  have passed := dropped.passMark text
  refine ⟨_, ?_, passed.push .flowEntry⟩
  rw [Lexer.flowEntry?, h.dropCandidate?]
  simp only [Option.bind_eq_bind, Option.bind_some]
  rw [← hu, pair, passBlanks?_of_stop passed.text stop]
  rfl

/-- At a colon after a token that can be a key; `number` tokens stand before that. -/
theorem Inside.value (h : s.Inside q) {rest : List Char} {token : Token} {ts : List Token}
    (text : q.text = ':' :: rest) (blank : peek rest ≠ '\t') (marked : q.marked = true)
    (tokens : q.tokens = token :: ts) (possible : s.candidate.possible = true)
    (number : s.candidate.number = ts.length) :
    ∃ u, s.value? = some u ∧ u.Inside { q with
      text := rest, tokens := .value :: token :: .key :: ts, keyAllowed := false } := by
  have passed := h.passMark text
  obtain ⟨u, hu⟩ : ∃ u, u = s.goTo (s.cursor.pass 1) := ⟨_, rfl⟩
  rw [← hu] at passed
  have candidate : u.candidate = s.candidate := by rw [hu]; rfl
  have count : u.count = u.tokens.length :=
    passed.count.trans (congrArg List.length passed.tokens.symm)
  have inserted := insertAt_eq (passed.tokens.trans (show _ = [token] ++ ts from tokens)) count .key
  have keyed : Inside { q with text := rest, tokens := token :: .key :: ts, keyAllowed := false }
      { u with
        tokens := [token] ++ .key :: ts, count := u.count + 1
        candidate := { s.candidate with possible := false }, keyAllowed := false } :=
    { passed with
      tokens := rfl
      count  := by
        change u.count + 1 = ts.length + 1 + 1
        rw [count, passed.tokens]
        change q.tokens.length + 1 = _
        rw [tokens]
        rfl
      free   := by
        have outer := (List.forall_mem_cons.mp passed.free).2
        exact List.forall_mem_cons.mpr ⟨fun no => (by cases no), outer⟩
      keyAllowed := rfl }
  refine ⟨_, ?_, keyed.push .value⟩
  have pair : (s.inFlow && !s.mappingMarked) = false := by rw [h.inFlow, h.marked, marked]; rfl
  have same : ({ s with pairOpen := false } : Lexer) = s := by rw [← h.noPair]
  have colon : s.passColon? = some u := by
    have char : u.cursor.char ≠ '\t' := by rwa [Cursor.char, passed.text]
    rw [hu] at char ⊢
    exact if_pos char
  have made : u.valueOfCandidate? false s.cursor = some { u with
        tokens := [token] ++ .key :: ts, count := u.count + 1
        candidate := { s.candidate with possible := false }, keyAllowed := false } := by
    have flow : (u.insertAt ts.length .key).inFlow = true := passed.inFlow
    have no_block : (u.insertAt ts.length .key).openBlock s.candidate.column ts.length
        .blockMapping = u.insertAt ts.length .key := if_pos flow
    have no_indent : (u.insertAt ts.length .key).indentOnce = u.insertAt ts.length .key :=
      if_neg fun no => no.1 flow
    rw [← number] at no_block no_indent inserted
    rw [valueOfCandidate?, candidate, if_neg (by simp)]
    simp only [Bool.false_eq_true, if_false, no_block, no_indent]
    rw [inserted]
  rw [Lexer.value?]
  simp only [pair, same, Option.bind_eq_bind, colon, Option.bind_some, candidate, possible, if_true,
    made]
  rfl

end

end Lexer

end Courier.Yaml
