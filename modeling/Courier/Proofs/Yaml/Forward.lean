import Courier.Proofs.Yaml.Steps
import Courier.Proofs.Yaml.Weight
import Mathlib.Logic.Basic

/-!
# Courier — Proofs — What a lexer cannot make up

The lexer goes forward, and a token that is a text comes from the text between where it was and
where it is (`Lexer.Forward`, `Lexer.Reads`).  So the texts that were read have no more separators
and backslashes than there were (`Lexer.Under`), and a text with more of them than are left will not
be read, whatever is left (`Lexer.Clear`): no step makes it a token (`Lexer.Clear.moves`), and
neither does a run (`Lexer.Ends.clear`).
-/

namespace Courier.Yaml

def Token.isScalar : Token → Bool
  | .scalar .. => true
  | _          => false

namespace Lexer

/-! ### Without reading a text -/

/-- Further on, with no text read. -/
structure Forward (s t : Lexer) : Prop where
  reaches : s.cursor.Reaches t.cursor
  tokens  : ∀ token ∈ t.tokens, token.isScalar → token ∈ s.tokens

section
variable {s t u : Lexer}

/-- What changes neither the cursor nor the tokens. -/
theorem Forward.same (cursor : t.cursor = s.cursor) (tokens : t.tokens = s.tokens) : s.Forward t :=
  ⟨cursor ▸ .refl _, fun _ h _ => tokens ▸ h⟩

theorem Forward.refl (s : Lexer) : s.Forward s := .same rfl rfl

theorem Forward.trans (h : s.Forward t) (h' : t.Forward u) : s.Forward u :=
  ⟨h.reaches.trans h'.reaches, fun token mem text => h.tokens token (h'.tokens token mem text) text⟩

theorem forward_goTo {c : Cursor} (h : s.cursor.Reaches c) : s.Forward (s.goTo c) :=
  ⟨h, fun _ mem _ => mem⟩

theorem forward_pass (s : Lexer) (n : Nat) : s.Forward (s.goTo (s.cursor.pass n)) :=
  forward_goTo (s.cursor.reaches_pass n)

theorem forward_allowKey (s : Lexer) (allowed : Bool) : s.Forward (s.allowKey allowed) :=
  .same rfl rfl

theorem forward_push (s : Lexer) {token : Token} (other : token.isScalar = false) :
    s.Forward (s.push token) := by
  refine ⟨.refl _, fun token' mem text => ?_⟩
  rcases List.mem_cons.mp mem with rfl | mem
  · rw [other] at text
    cases text
  · exact mem

theorem forward_insertAt (s : Lexer) (n : Nat) (token : Token) (other : token.isScalar = false) :
    s.Forward (s.insertAt n token) := by
  refine ⟨.refl _, fun token' mem text => ?_⟩
  rcases List.mem_append.mp mem with mem | mem
  · exact List.mem_of_mem_take mem
  · rcases List.mem_cons.mp mem with rfl | mem
    · rw [other] at text
      cases text
    · exact List.mem_of_mem_drop mem

theorem forward_of_passBlanks? (h : s.passBlanks? = some t) : s.Forward t := by
  rw [Lexer.passBlanks?, Option.map_eq_some_iff] at h
  obtain ⟨⟨_, _, c⟩, passed, rfl⟩ := h
  exact forward_goTo (Cursor.reaches_of_passBlanks? passed)

/-! ### Blocks and candidates -/

theorem forward_openBlock (s : Lexer) (column n : Nat) (token : Token)
    (other : token.isScalar = false) : s.Forward (s.openBlock column n token) := by
  rw [openBlock]
  split
  · exact .refl s
  · have opens {u : Lexer} (inner : s.Forward u) : s.Forward (if u.indent < column then
        { u with levels := ⟨u.indent, true⟩ :: u.levels, indent := column }.insertAt n token
        else u) := by
      split
      · have opened :
            u.Forward { u with levels := ⟨u.indent, true⟩ :: u.levels, indent := column } :=
          .same rfl rfl
        exact (inner.trans opened).trans (forward_insertAt _ n token other)
      · exact inner
    cases s.levels with
    | nil => exact opens (.refl s)
    | cons l ls =>
        refine opens ?_
        dsimp only
        split
        · exact .same rfl rfl
        · exact .refl s

theorem forward_closeLevels (column : Int) (ls : List Level) :
    ∀ s : Lexer, s.Forward (closeLevels column ls s) := by
  induction ls with
  | nil => exact .refl
  | cons l ls ih =>
      intro s
      rw [closeLevels]
      split
      · refine .trans ?_ (ih _)
        have left : s.Forward { s with indent := l.outer, levels := ls } := .same rfl rfl
        split
        · exact left.trans (forward_push _ rfl)
        · exact left
      · exact .refl s

theorem forward_closeBlocks (s : Lexer) (column : Int) : s.Forward (s.closeBlocks column) := by
  rw [closeBlocks]
  split
  · exact .refl s
  · exact forward_closeLevels column _ s

theorem forward_indentOnce (s : Lexer) : s.Forward s.indentOnce := by
  rw [indentOnce]
  split
  · exact .same rfl rfl
  · exact .refl s

theorem forward_unindent (s : Lexer) : s.Forward s.unindent := by
  have drop (ls : List Level) : ∀ s : Lexer, s.Forward (dropOpenLevels ls s) := by
    induction ls with
    | nil => exact .refl
    | cons l ls ih =>
        intro s
        rw [dropOpenLevels]
        split
        · exact .refl s
        · refine .trans ?_ (ih _)
          exact .same rfl rfl
  exact drop s.levels s

theorem forward_saveCandidate (s : Lexer) : s.Forward s.saveCandidate := by
  rw [saveCandidate]
  split
  · exact .same rfl rfl
  · exact .refl s

theorem forward_of_dropCandidate? (h : s.dropCandidate? = some t) : s.Forward t := by
  rw [dropCandidate?] at h
  split at h
  · cases h
  · cases h
    exact .same rfl rfl

theorem forward_of_dropStale? (h : s.dropStale? = some t) : s.Forward t := by
  rw [dropStale?] at h
  split at h
  · exact forward_of_dropCandidate? h
  · cases h
    exact .refl s

/-! ### White space and documents -/

theorem forward_of_toToken? {fuel : Nat} :
    ∀ {s t : Lexer}, toToken? fuel s = some t → s.Forward t := by
  induction fuel with
  | zero => exact fun no => by cases no
  | succ fuel ih =>
      intro s t h
      rw [toToken?] at h
      split at h
      · split at h
        · rename_i u passed
          split at h
          · exact (forward_of_passBlanks? passed).trans (ih h)
          · cases h
        · cases h
      split at h
      · exact (forward_goTo (s.cursor.reaches_advance 1)).trans (ih h)
      split at h
      · refine .trans ?_ (ih h)
        exact ⟨s.cursor.reaches_passBreak, fun _ mem _ => mem⟩
      split at h
      · exact (forward_goTo s.cursor.reaches_passComment).trans (ih h)
      · cases h
        exact .refl s

theorem forward_of_skip? (h : s.skip? = some t) : s.Forward t := forward_of_toToken? h

theorem forward_of_settle? (h : s.settle? = some t) : s.Forward t := by
  simp only [settle?, Option.bind_eq_bind, Option.bind_eq_some_iff] at h
  obtain ⟨u, skip, v, drop, ended⟩ := h
  cases ended
  exact ((forward_of_skip? skip).trans (forward_of_dropStale? drop)).trans (forward_closeBlocks v _)

theorem forward_of_finish? (h : s.finish? = some t) : s.Forward t :=
  (forward_closeBlocks s _).trans (forward_of_dropCandidate? h)

theorem forward_of_endBlocks? (h : s.endBlocks? = some t) : s.Forward t := by
  rw [endBlocks?, Option.map_eq_some_iff] at h
  obtain ⟨u, drop, rfl⟩ := h
  exact ((forward_closeBlocks s _).trans (forward_of_dropCandidate? drop)).trans
    (forward_allowKey u _)

theorem forward_of_documentMarker? {token : Token} (other : token.isScalar = false)
    (h : s.documentMarker? token = some t) : s.Forward t := by
  simp only [documentMarker?, Option.bind_eq_bind, Option.bind_eq_some_iff] at h
  obtain ⟨u, ended, same⟩ := h
  cases same
  exact ((forward_of_endBlocks? ended).trans (forward_pass u 3)).trans (forward_push _ other)

theorem forward_of_documentEnd? (h : s.documentEnd? = some t) : s.Forward t := by
  simp only [documentEnd?, Option.bind_eq_bind, Option.bind_eq_some_iff] at h
  obtain ⟨u, mark, v, passed, same⟩ := h
  split at same
  · cases same
    exact (forward_of_documentMarker? rfl mark).trans (forward_of_passBlanks? passed)
  · cases same

/-! ### Collections, entries, keys and values -/

theorem forward_of_openFlow? {token : Token} (other : token.isScalar = false)
    (h : s.openFlow? token = some t) : s.Forward t := by
  rw [openFlow?] at h
  dsimp only at h
  split at h
  · cases h
  · rw [Option.map_eq_some_iff] at h
    obtain ⟨u, passed, rfl⟩ := h
    refine .trans (.trans ?_ (forward_of_passBlanks? passed)) (forward_push _ other)
    refine ((forward_saveCandidate s).trans (forward_indentOnce _)).trans ?_
    split
    · exact ⟨Cursor.reaches_pass _ 1, fun _ mem _ => mem⟩
    · exact ⟨Cursor.reaches_pass _ 1, fun _ mem _ => mem⟩

theorem forward_closePair (s : Lexer) : s.Forward s.closePair := by
  rw [closePair]
  split
  · have left : s.Forward { s with mappingMarked := false, pairOpen := false } := .same rfl rfl
    exact left.trans (forward_push _ rfl)
  · exact .refl s

theorem forward_of_closeFlow? {token : Token} (other : token.isScalar = false)
    (h : s.closeFlow? token = some t) : s.Forward t := by
  simp only [closeFlow?, Option.bind_eq_bind, Option.bind_eq_some_iff] at h
  obtain ⟨u, drop, v, passed, same⟩ := h
  cases same
  have outer {w : Lexer} (passed : ((w.allowKey false).closePair.goTo
      ((w.allowKey false).closePair.cursor.pass 1)).passBlanks? = some v)
      (restored : u.Forward w) : s.Forward v := by
    have closed := ((forward_allowKey w false).trans (forward_closePair _)).trans (forward_pass _ 1)
    exact (forward_of_dropCandidate? drop).trans
      (restored.trans (closed.trans (forward_of_passBlanks? passed)))
  have before : s.Forward v := by
    split at passed
    · exact outer passed (.same rfl rfl)
    · exact outer passed (.refl u)
  refine .trans (before.trans ?_) (forward_push _ other)
  split
  · exact .same rfl rfl
  · exact .refl v

theorem forward_of_flowEntry? (h : s.flowEntry? = some t) : s.Forward t := by
  simp only [Lexer.flowEntry?, Option.bind_eq_bind, Option.bind_eq_some_iff] at h
  obtain ⟨u, drop, v, passed, same⟩ := h
  cases same
  have next := ((forward_allowKey u true).trans (forward_closePair _)).trans (forward_pass _ 1)
  exact ((forward_of_dropCandidate? drop).trans (next.trans (forward_of_passBlanks? passed))).trans
    (forward_push v rfl)

theorem forward_of_blockEntry? (h : s.blockEntry? = some t) : s.Forward t := by
  rw [Lexer.blockEntry?] at h
  split at h
  · cases h
  split at h
  · cases h
  simp only [Option.bind_eq_bind, Option.bind_eq_some_iff] at h
  obtain ⟨⟨tab, space, c⟩, passed, h⟩ := h
  dsimp only at h
  split at h
  · cases h
  simp only [Option.bind_eq_some_iff] at h
  obtain ⟨u, drop, same⟩ := h
  cases same
  have opened := (forward_pass s 1).trans
    (forward_openBlock _ s.cursor.column (s.goTo (s.cursor.pass 1)).count .blockSequence rfl)
  have there := opened.trans (forward_goTo (Cursor.reaches_of_passBlanks? passed))
  refine .trans (.trans (there.trans ?_) (forward_of_dropCandidate? drop))
    ((forward_allowKey u true).trans (forward_push _ rfl))
  split
  · exact forward_indentOnce _
  · exact .refl _

theorem forward_passSpace {fuel : Nat} :
    ∀ (found : Bool) (s : Lexer), s.Forward (passSpace fuel found s).2 := by
  induction fuel with
  | zero => exact fun _ s => .refl s
  | succ fuel ih =>
      intro found s
      rw [passSpace]
      split
      · exact (forward_goTo (s.cursor.reaches_advance 1)).trans (ih ..)
      split
      · refine .trans ?_ (ih ..)
        exact ⟨s.cursor.reaches_passBreak, fun _ mem _ => mem⟩
      split
      · exact (forward_goTo s.cursor.reaches_passComment).trans (ih ..)
      · exact .refl s

theorem forward_of_explicitKey? (h : s.explicitKey? = some t) : s.Forward t := by
  rw [explicitKey?] at h
  split at h
  · cases h
  obtain ⟨u, same, opened⟩ : ∃ u, (if s.inFlow then { s with mappingMarked := true }
      else s.openBlock s.cursor.column s.count .blockMapping) = u ∧ s.Forward u := by
    split
    · exact ⟨_, rfl, .same rfl rfl⟩
    · exact ⟨_, rfl, forward_openBlock s _ _ _ rfl⟩
  simp only [same, Option.bind_eq_bind, Option.bind_eq_some_iff] at h
  obtain ⟨v, drop, h⟩ := h
  split at h
  · cases h
  · cases h
    refine .trans (opened.trans (forward_of_dropCandidate? drop)) ?_
    exact (((forward_allowKey v _).trans (forward_pass _ 1)).trans (forward_passSpace ..)).trans
      (forward_push _ rfl)

theorem forward_of_passColon? (h : s.passColon? = some t) : s.Forward t := by
  rw [passColon?] at h
  split at h
  · cases h
    exact forward_pass s 1
  split at h
  · rename_i passed
    split at h
    · cases h
    · cases h
      exact (forward_pass s 1).trans (forward_goTo (Cursor.reaches_of_passBlanks? passed))
  · cases h

theorem forward_of_valueOfCandidate? {pair : Bool} {start : Cursor}
    (h : s.valueOfCandidate? pair start = some t) : s.Forward t := by
  rw [valueOfCandidate?] at h
  dsimp only at h
  split at h
  · cases h
  cases h
  refine (forward_insertAt s s.candidate.number .key rfl).trans ?_
  have mapping : (s.insertAt s.candidate.number .key).Forward (if pair then
      (s.insertAt s.candidate.number .key).insertAt s.candidate.number .flowMapping
      else s.insertAt s.candidate.number .key) := by
    split
    · exact forward_insertAt _ _ _ rfl
    · exact .refl _
  refine mapping.trans ?_
  have opened (u : Lexer) :=
    forward_openBlock u s.candidate.column s.candidate.number .blockMapping rfl
  refine ((opened _).trans (forward_indentOnce _)).trans ?_
  exact .same rfl rfl

theorem forward_of_valueAlone? {pair : Bool} {start : Cursor}
    (h : s.valueAlone? pair start = some t) : s.Forward t := by
  rw [valueAlone?] at h
  obtain ⟨u, same, opened⟩ : ∃ u, (if pair then s.push .flowMapping else s) = u ∧ s.Forward u := by
    split
    · exact ⟨_, rfl, forward_push s rfl⟩
    · exact ⟨_, rfl, .refl s⟩
  simp only [same] at h
  split at h
  · cases h
    exact opened.trans ((forward_indentOnce u).trans (forward_allowKey _ false))
  split at h
  · cases h
  · cases h
    have block := forward_openBlock u start.column u.count .blockMapping rfl
    exact opened.trans ((block.trans (forward_indentOnce _)).trans (forward_allowKey _ true))

theorem forward_of_value? (h : s.value? = some t) : s.Forward t := by
  simp only [value?, Option.bind_eq_bind, Option.bind_eq_some_iff] at h
  obtain ⟨u, passed, h⟩ := h
  have colon : s.Forward u := by
    refine .trans ?_ (forward_of_passColon? passed)
    exact .same rfl rfl
  split at h
  · obtain ⟨v, value, same⟩ := Option.bind_eq_some_iff.mp h
    cases same
    exact (colon.trans (forward_of_valueOfCandidate? value)).trans (forward_push v rfl)
  · obtain ⟨v, value, same⟩ := Option.bind_eq_some_iff.mp h
    cases same
    exact (colon.trans (forward_of_valueAlone? value)).trans (forward_push v rfl)

/-! ### Directives, anchors and tags -/

theorem of_directive? {c c' : Cursor} {token : Token} (h : directive? c = some (token, c')) :
    c.Reaches c' ∧ token.isScalar = false := by
  rw [directive?] at h
  dsimp only at h
  split at h
  · cases h
  simp only [Option.bind_eq_bind, Option.bind_eq_some_iff] at h
  obtain ⟨⟨token', rest⟩, value, ⟨_, _, after⟩, passed, h⟩ := h
  split at h
  · cases h
    refine ⟨((c.reaches_pass _).trans (Cursor.reaches_of_passBlanks? passed)).trans
      after.reaches_passBreak, ?_⟩
    rw [directive?.value] at value
    split at value
    · obtain ⟨rest', -, same⟩ := Option.map_eq_some_iff.mp value
      cases same
      rfl
    split at value
    · simp only [Option.bind_eq_bind, Option.bind_eq_some_iff] at value
      obtain ⟨_, -, _, -, value⟩ := value
      split at value
      · cases value
        rfl
      · cases value
    · cases value
      rfl
  · cases h

theorem forward_of_directiveLine? (h : s.directiveLine? = some t) : s.Forward t := by
  simp only [directiveLine?, Option.bind_eq_bind, Option.bind_eq_some_iff] at h
  obtain ⟨u, ended, ⟨token, c⟩, read, same⟩ := h
  cases same
  obtain ⟨reaches, other⟩ := of_directive? read
  exact ((forward_of_endBlocks? ended).trans (forward_goTo reaches)).trans (forward_push _ other)

theorem reaches_of_anchorName? {c c' : Cursor} {name : String}
    (h : anchorName? c = some (name, c')) : c.Reaches c' := by
  rw [anchorName?] at h
  split at h
  · cases h
  · cases h
    exact c.reaches_pass _

theorem of_tag? {flow : Bool} {c c' : Cursor} {token : Token} (h : tag? flow c = some (token, c')) :
    c.Reaches c' ∧ token.isScalar = false := by
  simp only [tag?, Option.bind_eq_bind, Option.bind_eq_some_iff] at h
  obtain ⟨⟨handle, suffix, rest⟩, -, h⟩ := h
  split at h
  · cases h
    exact ⟨c.reaches_pass _, rfl⟩
  · cases h

theorem forward_of_property? {read : Cursor → Option (Token × Cursor)}
    (reads : ∀ {c c' token}, read c = some (token, c') → c.Reaches c' ∧ token.isScalar = false)
    (h : s.property? read = some t) : s.Forward t := by
  simp only [property?, Option.bind_eq_bind, Option.bind_eq_some_iff] at h
  obtain ⟨⟨token, c⟩, found, same⟩ := h
  cases same
  obtain ⟨reaches, other⟩ := reads found
  refine .trans (((forward_saveCandidate s).trans (forward_allowKey _ false)).trans
    ((forward_goTo reaches).trans (forward_push _ other))) ?_
  exact .same rfl rfl

/-! ### With a text -/

/-- A text is read that has no more weight than was there, with what is left. -/
structure Reads (plain : Bool) (text : String) (s t : Lexer) : Prop where
  light  : weight text.toList + weight t.cursor.rest ≤ weight s.cursor.rest
  tokens : ∀ token ∈ t.tokens, token.isScalar → token = .scalar plain text ∨ token ∈ s.tokens

/-- A text is read between two parts of a step that read none. -/
theorem reads_push {plain : Bool} {text : String} (before : s.Forward t)
    (light : weight text.toList + weight u.cursor.rest ≤ weight t.cursor.rest)
    (after : t.tokens = u.tokens) : s.Reads plain text (u.push (.scalar plain text)) := by
  refine ⟨Nat.le_trans light before.reaches.weight_le, fun token mem scalar => ?_⟩
  rcases List.mem_cons.mp mem with same | mem
  · exact .inl same
  · exact .inr (before.tokens token (after ▸ mem) scalar)

theorem reads_of_blockScalar? (h : s.blockScalar? = some t) : ∃ text, s.Reads false text t := by
  simp only [blockScalar?, Option.bind_eq_bind, Option.bind_eq_some_iff] at h
  obtain ⟨⟨text, c⟩, read, same⟩ := h
  cases same
  have saved := (forward_saveCandidate s).trans (forward_allowKey _ true)
  have before := saved.trans (forward_unindent _)
  exact ⟨text, reads_push before (weight_blockText? read) rfl⟩

theorem reads_of_quotedScalar? (h : s.quotedScalar? = some t) : ∃ text, s.Reads false text t := by
  simp only [quotedScalar?, Option.bind_eq_bind, Option.bind_eq_some_iff] at h
  obtain ⟨⟨text, c⟩, read, u, skip, same⟩ := h
  cases same
  have before := (forward_saveCandidate s).trans (forward_allowKey _ false)
  have after := forward_of_skip? skip
  have light := Nat.le_trans (Nat.add_le_add_left after.reaches.weight_le _) (weight_quoted? read)
  refine ⟨text, Nat.le_trans light before.reaches.weight_le, fun token mem scalar => ?_⟩
  rcases List.mem_cons.mp mem with same | mem
  · exact .inl same
  · exact .inr (before.tokens token (after.tokens token mem scalar) scalar)

theorem reads_of_plainScalar? (h : s.plainScalar? = some t) : ∃ text, s.Reads true text t := by
  simp only [plainScalar?, Option.bind_eq_bind, Option.bind_eq_some_iff] at h
  obtain ⟨⟨text, c⟩, read, same⟩ := h
  cases same
  have saved := (forward_saveCandidate s).trans (forward_allowKey _ false)
  have before := saved.trans (forward_unindent _)
  refine ⟨text, ?_⟩
  split
  · exact reads_push before (weight_plain? read) rfl
  · exact reads_push before (weight_plain? read) rfl

/-! ### Steps -/

/-- What reading one token does: there is a new text, or there is none. -/
def Moves (s t : Lexer) : Prop := s.Forward t ∨ ∃ plain text, s.Reads plain text t

theorem moves_of_content? (h : s.content? = some t) : s.Moves t := by
  have anchor (make : String → Token) (other : ∀ name, (make name).isScalar = false) {c c' token}
      (found : (anchorName? c).map (fun p => (make p.1, p.2)) = some (token, c')) :
      c.Reaches c' ∧ token.isScalar = false := by
    obtain ⟨⟨name, after⟩, read, same⟩ := Option.map_eq_some_iff.mp found
    cases same
    exact ⟨reaches_of_anchorName? read, other name⟩
  -- one case after the other: a `split` would go through all that are left
  rw [content?] at h
  rcases ite_eq_iff.mp h with ⟨-, h⟩ | ⟨-, h⟩
  · exact .inl (forward_of_openFlow? rfl h)
  rcases ite_eq_iff.mp h with ⟨-, h⟩ | ⟨-, h⟩
  · exact .inl (forward_of_openFlow? rfl h)
  rcases ite_eq_iff.mp h with ⟨-, h⟩ | ⟨-, h⟩
  · exact .inl (forward_of_closeFlow? rfl h)
  rcases ite_eq_iff.mp h with ⟨-, h⟩ | ⟨-, h⟩
  · exact .inl (forward_of_closeFlow? rfl h)
  rcases ite_eq_iff.mp h with ⟨-, h⟩ | ⟨-, h⟩
  · exact .inl <| forward_of_flowEntry? h
  rcases ite_eq_iff.mp h with ⟨-, h⟩ | ⟨-, h⟩
  · exact .inl <| forward_of_blockEntry? h
  rcases ite_eq_iff.mp h with ⟨-, h⟩ | ⟨-, h⟩
  · exact .inl (forward_of_explicitKey? h)
  rcases ite_eq_iff.mp h with ⟨-, h⟩ | ⟨-, h⟩
  · exact .inl (forward_of_value? h)
  rcases ite_eq_iff.mp h with ⟨-, h⟩ | ⟨-, h⟩
  · exact .inl (forward_of_property? (anchor .alias fun _ => rfl) h)
  rcases ite_eq_iff.mp h with ⟨-, h⟩ | ⟨-, h⟩
  · exact .inl (forward_of_property? (anchor .anchor fun _ => rfl) h)
  rcases ite_eq_iff.mp h with ⟨-, h⟩ | ⟨-, h⟩
  · exact .inl (forward_of_property? of_tag? h)
  rcases ite_eq_iff.mp h with ⟨-, h⟩ | ⟨-, h⟩
  · exact .inr ⟨false, reads_of_blockScalar? h⟩
  rcases ite_eq_iff.mp h with ⟨-, h⟩ | ⟨-, h⟩
  · exact .inr ⟨false, reads_of_quotedScalar? h⟩
  rcases ite_eq_iff.mp h with ⟨-, h⟩ | ⟨-, h⟩
  · cases h
  · exact .inr ⟨true, reads_of_plainScalar? h⟩

theorem moves_of_act? (h : s.act? = some t) : s.Moves t := by
  rw [act?] at h
  split at h
  · exact .inl (forward_of_directiveLine? h)
  split at h
  · exact .inl (forward_of_documentMarker? rfl h)
  split at h
  · exact .inl (forward_of_documentEnd? h)
  split at h
  · cases h
  · exact moves_of_content? h

/-! ### Texts that were read -/

/-- What is left has no more weight than `k`, and neither has a text that was read together with
what is left. -/
structure Under (k : Nat) (s : Lexer) : Prop where
  rest  : weight s.cursor.rest ≤ k
  texts : ∀ plain text, .scalar plain text ∈ s.tokens →
    weight text.toList + weight s.cursor.rest ≤ k

theorem Under.forward {k : Nat} (h : s.Under k) (next : s.Forward t) : t.Under k := by
  have less := next.reaches.weight_le
  refine ⟨Nat.le_trans less h.rest, fun plain text mem => ?_⟩
  exact Nat.le_trans (Nat.add_le_add_left less _) (h.texts plain text (next.tokens _ mem rfl))

theorem Under.moves {k : Nat} (h : s.Under k) (next : s.Moves t) : t.Under k := by
  rcases next with next | ⟨plain, text, next⟩
  · exact h.forward next
  · have light := next.light
    have rest := h.rest
    refine ⟨by omega, fun plain' text' mem => ?_⟩
    rcases next.tokens _ mem rfl with same | mem
    · cases same
      omega
    · have := h.texts plain' text' mem
      omega

theorem Under.steps {k : Nat} (h : s.Under k) (steps : Steps s t) : t.Under k := by
  induction steps with
  | refl => exact h
  | tail _ next ih =>
      obtain ⟨-, ⟨u, act, settle⟩, -⟩ := next
      exact (ih.moves (moves_of_act? act)).forward (forward_of_settle? settle)

/-! ### Texts that are not read -/

/-- The text `w` was not read, and it has more weight than what is left. -/
structure Clear (w : String) (s : Lexer) : Prop where
  light : weight s.cursor.rest < weight w.toList
  free  : ∀ plain, Token.scalar plain w ∉ s.tokens

variable {w : String}

theorem Clear.forward (h : s.Clear w) (next : s.Forward t) : t.Clear w :=
  ⟨Nat.lt_of_le_of_lt next.reaches.weight_le h.light,
    fun plain mem => h.free plain (next.tokens _ mem rfl)⟩

theorem Clear.moves (h : s.Clear w) (next : s.Moves t) : t.Clear w := by
  rcases next with next | ⟨plain, text, next⟩
  · exact h.forward next
  · have light := h.light
    have less := next.light
    refine ⟨by omega, fun plain' mem => ?_⟩
    rcases next.tokens _ mem rfl with same | mem
    · cases same
      omega
    · exact h.free plain' mem

end

/-! ### Runs -/

/-- From a token on, the run ends like that. -/
inductive Ends : Lexer → Lexer → Prop where
  | finish {t e : Lexer} (ended : t.cursor.atEnd) (last : t.finish? = some e) : Ends t e
  | next {t s t' e : Lexer} (more : t.cursor.atEnd = false) (act : t.act? = some s)
      (settle : s.settle? = some t') (later : Ends t' e) : Ends t e

section
variable {s t u e : Lexer}

theorem exists_ends_of_run? {fuel : Nat} (h : run? fuel s = some e) :
    ∃ t, s.settle? = some t ∧ Ends t e := by
  induction fuel generalizing s with
  | zero => cases h
  | succ fuel ih =>
      rw [run?, step?_eq] at h
      cases settle : s.settle? with
      | none =>
          rw [settle] at h
          cases h
      | some t =>
          refine ⟨t, rfl, ?_⟩
          rw [settle, Option.bind_some] at h
          by_cases ended : t.cursor.atEnd
          · rw [if_pos ended] at h
            cases last : t.finish? with
            | none =>
                rw [last] at h
                cases h
            | some e' =>
                rw [last] at h
                cases h
                exact .finish ended last
          · rw [if_neg ended] at h
            cases act : t.act? with
            | none =>
                rw [act] at h
                cases h
            | some u =>
                rw [act] at h
                obtain ⟨t', settle', later⟩ := ih h
                exact .next (by simpa using ended) act settle' later

/-- Before the end there is a next token. -/
theorem Ends.exists_next (h : Ends t e) (more : t.cursor.atEnd = false) :
    ∃ s t', t.act? = some s ∧ s.settle? = some t' ∧ Ends t' e := by
  cases h with
  | finish ended last =>
      rw [more] at ended
      cases ended
  | next _ act settle later => exact ⟨_, _, act, settle, later⟩

/-- The lexer has no choice. -/
theorem Ends.of_steps (steps : Steps t u) (h : Ends t e) : Ends u e := by
  induction steps using Relation.ReflTransGen.head_induction_on with
  | refl => exact h
  | head next _ ih =>
      obtain ⟨more, ⟨s, act, settle⟩, -⟩ := next
      obtain ⟨s', t', act', settle', later⟩ := h.exists_next more
      rw [act] at act'
      cases act'
      rw [settle] at settle'
      cases settle'
      exact ih later

/-- **No text** is read that has more weight than what is left. -/
theorem Ends.clear {w : String} (h : Ends t e) (clear : t.Clear w) : e.Clear w := by
  induction h with
  | finish _ last => exact clear.forward (forward_of_finish? last)
  | next _ act settle _ ih =>
      have moved := clear.moves (moves_of_act? act)
      exact ih (moved.forward (forward_of_settle? settle))

end

end Lexer

end Courier.Yaml
