import Courier.Proofs.Yaml.Flow
import Courier.Proofs.Yaml.Key
import Courier.Yaml.Printer

/-!
# Courier — Proofs — Blocks as tokens

What the writer puts after the colon of a key is read as a value wherever it stands (`IsValue`),
from which whole mappings follow by induction on their entries.
-/

namespace Courier.Yaml

open Lexer

/-! ### Values -/

section
variable {n : Nat}

/-- After the colon of a key in column `n`, `t` with its line break is read as these tokens,
whatever follows in column `n` or left of it. -/
structure IsValue (n : Nat) (t : List Char) (tokens : List Token) : Prop where
  blank : peek t = ' ' ∨ peek t = '\n'
  clean : endMark ∉ t
  read  : ∀ {p : Place} {s : Lexer} {m : Nat} {next : List Char} {ls : List Level}, s.Ready p →
    p.text = t ++ (pad m ++ next) → startsToken (peek next) → m ≤ n → n < p.column →
    p.indent = n + 1 → p.levels = ⟨n, false⟩ :: ls → (∃ o ls', ls = ⟨o, true⟩ :: ls') →
    p.keyAllowed = false →
    ∃ u v, s.settle? = some u ∧ u.cursor.rest.length ≤ s.cursor.rest.length ∧ Steps u v ∧
      v.Ready (Place.close m
        ⟨next, m, tokens.reverse ++ p.tokens, n, ls, true⟩)

theorem IsValue.ne_nil {t : List Char} {tokens : List Token} (h : IsValue n t tokens) : t ≠ [] := by
  rintro rfl
  rcases h.blank with no | no <;> exact absurd no (by decide)

theorem isValue_text {t : List Char} {token : Token} (h : IsText n t token) :
    IsValue n (' ' :: t) [token] := by
  refine ⟨.inl rfl, by simpa [endMark] using h.clean, ?_⟩
  intro p s m next ls ready text stop left column indent levels closes _
  have start : startsToken (peek (t ++ (pad m ++ next))) := by
    rw [peek_append_of_ne_nil h.nonempty]
    exact h.start
  obtain ⟨u, settle, hu⟩ := ready.settle_pad (m := 1) start text
  rw [Place.close_of_le (by change p.indent ≤ (p.column + 1 : Nat); omega)] at hu
  obtain ⟨v, next_v, hv⟩ := h.read hu rfl stop left (Nat.lt_succ_of_lt column)
    ⟨.inr closes, .inr ⟨indent, levels⟩⟩
  refine ⟨u, v, settle, ?_, .single next_v, hv⟩
  rw [hu.text, ready.text, text]
  simp

theorem continues_of_word {w : List Char} (parts : ∀ x ∈ w, isWordPart x) (hash : '#' ∉ w)
    {b : Char} (solid : b ≠ ' ') : Continues b w := by
  induction w generalizing b with
  | nil => exact solid
  | cons c w ih =>
      obtain ⟨part, parts⟩ := List.forall_mem_cons.mp parts
      rw [List.mem_cons, not_or] at hash
      rw [isWordPart, Bool.and_eq_true, Bool.and_eq_true, Bool.not_eq_true'] at part
      have word := part.1.1
      refine ⟨fun no => ?_, fun no => absurd no.symm hash.1, fun no => ?_, ih parts hash.2 ?_⟩
      · rw [word] at no
        cases no
      · rw [no] at part
        exact absurd part.2 (by decide)
      · rintro rfl
        cases word

/-- A word in its line. -/
theorem isValue_word {w : List Char} (word : IsWord w) :
    IsValue n (' ' :: (w ++ ['\n'])) [.scalar true (String.ofList w)] := by
  have hash : '#' ∉ w := fun mem => absurd (List.all_eq_true.mp word.letters _ mem) (by decide)
  obtain ⟨x, w', rfl⟩ := List.exists_cons_of_ne_nil word.nonempty
  have first : isKeyChar x := List.all_eq_true.mp word.letters x (List.mem_cons_self ..)
  have ne {d : Char} (hd : isKeyChar d = false) : x ≠ d := ne_of_isKeyChar first hd
  have plain : IsPlainText (x :: w') :=
    ⟨ne rfl, ne rfl, continues_of_word word.parts hash (ne rfl)⟩
  have mark : firstMarks.contains x = false := by
    have no_mark : firstMarks.all fun d => !isKeyChar d := by decide
    rw [← Bool.not_eq_true]
    intro mark
    have := List.all_eq_true.mp no_mark x (by simpa using mark)
    rw [first] at this
    cases this
  refine isValue_text (isText_plain plain ?_)
  rw [startsWithMark, mark]
  simp [ne (d := '?') rfl, ne (d := ':') rfl, ne (d := '-') rfl, ne (d := '.') rfl]

/-- Brackets with nothing in them. -/
theorem isValue_empty : IsValue n " []\n".toList [.flowSequence, .flowSequenceEnd] := by
  refine ⟨.inl rfl, by decide, ?_⟩
  intro p s m next ls ready text stop left column indent levels closes allowed
  obtain ⟨t, settle, ht⟩ := ready.settle_pad (m := 1)
    (show startsToken (peek ('[' :: ']' :: '\n' :: (pad m ++ next))) from rfl) text
  have inside : p.indent ≤ (p.column + 1 : Nat) := by omega
  rw [Place.close_of_le (by exact inside)] at ht
  have inner : t.innermostCloses = false := by
    have outer := ht.levels.trans levels
    rw [innermostCloses, outer]
  obtain ⟨u, opened, hu⟩ := ht.openFlow rfl ⟨rfl, (by decide : ']' ≠ '#')⟩ inner (.inl allowed)
    inside .flowSequence
  have first : Next t u := by
    refine Next.of_content ht.toAt rfl (by decide) (fun _ => by decide) inside
      (((content?_mark ht.text).1 rfl).trans opened) (hu.settle_here rfl) ?_
    rw [hu.text]
  obtain ⟨w, closed, hw⟩ := hu.closeFlow_outer rfl rfl ⟨rfl, (by decide : '\n' ≠ '#')⟩
    .flowSequenceEnd
  obtain ⟨v, settle_v, hv⟩ := hw.settle_line stop rfl
  have second : Next u v := by
    refine hu.next rfl (by decide) (by decide) (((content?_mark hu.text).2.2.1 rfl).trans closed)
      settle_v ?_
    rw [hv.text]
    simp
    omega
  refine ⟨t, v, settle, ?_, .tail (.single first) second, ?_⟩
  · rw [ht.text, ready.text, text]
    simp
  · have within : Place.Within n ls
        ⟨next, m, .flowSequenceEnd :: .flowSequence :: p.tokens, p.indent, p.levels, true⟩ :=
      ⟨.inr closes, .inr ⟨indent, levels⟩⟩
    exact within.close left ▸ hv

/-! ### Items -/

theorem Lexer.Ready.blockEntry {s : Lexer} {t : List Char} {ts : List Token} {ls : List Level}
    {o : Int} (h : s.Ready ⟨'-' :: ' ' :: t, n, ts, n, ⟨o, true⟩ :: ls, true⟩)
    (stop : startsToken (peek t)) (mark : isFlowMark (peek t) = false) :
    ∃ u, s.blockEntry? = some u ∧
      u.Ready ⟨t, n + 2, .blockEntry :: ts, n, ⟨o, true⟩ :: ls, true⟩ := by
  obtain ⟨blank, line, hash⟩ := of_startsToken stop
  obtain ⟨c, hc⟩ : ∃ c, c = s.cursor.pass 1 := ⟨_, rfl⟩
  have rest : c.rest = ' ' :: t := by
    rw [hc, Cursor.rest_pass, h.text]
    rfl
  have passed := h.goTo (c.advance 1)
  have text : (c.advance 1).rest = t := congrArg (List.drop 1) rest
  have column : (c.advance 1).column = n + 2 := by
    change c.column + 1 = n + 2
    rw [hc, Cursor.column_pass, h.column]
  rw [text, column] at passed
  have same : (s.goTo c).openBlock s.cursor.column s.count .blockSequence = s.goTo c := by
    have flow : (s.goTo c).inFlow = false := h.inFlow
    have levels : (s.goTo c).levels = ⟨o, true⟩ :: ls := h.levels
    have indent : (s.goTo c).indent = n := h.indent
    rw [Lexer.openBlock, flow, if_neg (by decide), levels, h.column]
    simp [indent]
  have unmarked : ¬ (isBreak (c.advance 1).char ∨ isFlowMark (c.advance 1).char) := by
    rw [Cursor.char, text, line, mark]
    decide
  obtain ⟨u, drop, hu⟩ := passed.dropCandidate?
  refine ⟨_, ?_, (hu.allowKey true).push .blockEntry⟩
  rw [Lexer.blockEntry?, if_neg (by simp [h.inFlow, h.keyAllowed]),
    if_neg (by simp [h.noProperty])]
  simp only [← hc, same]
  change ((c.passBlanks? true).bind _) = _
  rw [Cursor.passBlanks?_of_space rest blank hash]
  simp only [Option.bind_some]
  rw [if_neg (by simp), if_neg unmarked]
  change ((s.goTo (c.advance 1)).dropCandidate?.bind _) = _
  rw [drop]
  rfl

/-- The tokens of a text that is an item. -/
def itemTokens (n : Nat) (s : String) : List Token := [.blockEntry, textToken n s]

/-- An item in column `n`, up to the item or the key that comes next. -/
theorem Lexer.Ready.item {s : Lexer} {t next : List Char} {token : Token} {ts : List Token}
    {ls : List Level} {o : Int} {m : Nat}
    (h : s.Ready ⟨'-' :: ' ' :: (t ++ (pad m ++ next)), n, ts, n, ⟨o, true⟩ :: ls, true⟩)
    (item : IsText n t token) (stop : startsToken (peek next)) (left : m ≤ n) (margin : n ≠ 0) :
    ∃ v, Steps s v ∧ v.Ready (Place.close m
      ⟨next, m, token :: .blockEntry :: ts, n, ⟨o, true⟩ :: ls, true⟩) := by
  have start : startsToken (peek (t ++ (pad m ++ next))) := by
    rw [peek_append_of_ne_nil item.nonempty]
    exact item.start
  have mark : isFlowMark (peek (t ++ (pad m ++ next))) = false := by
    rw [peek_append_of_ne_nil item.nonempty]
    exact item.noMark
  obtain ⟨u, entry, hu⟩ := h.blockEntry start mark
  obtain ⟨u', settle, hu'⟩ := hu.settle_pad (m := 0) start rfl
  rw [Place.close_of_le (by change (n : Int) ≤ (n + 2 + 0 : Nat); omega)] at hu'
  have first : Next s u' := by
    refine Next.of_content h.toAt rfl (by decide) (fun no => absurd no margin) (Int.le_refl _)
      ((content?_hyphen h.text rfl).trans entry) settle ?_
    rw [hu'.text]
    simp
  obtain ⟨v, second, hv⟩ := item.read hu' rfl stop left (show n < n + 2 by omega)
    ⟨.inr ⟨o, ls, rfl⟩, .inl ⟨rfl, rfl⟩⟩
  exact ⟨v, .tail (.single first) second, hv⟩

theorem afterHyphen_text (w : String) :
    Node.afterHyphen n (.text w) = ' ' :: writeText (pad (n + 2)) w := by
  rw [Node.afterHyphen, Node.afterKey]
  · rfl
  all_goals (intros; contradiction)

theorem writeItems_text (w : String) :
    Node.writeItems n [.text w] = '-' :: ' ' :: writeText (pad (n + 2)) w := by
  rw [Node.writeItems, afterHyphen_text]

theorem writeItems_text_cons (w w' : String) (names : List String) :
    Node.writeItems n ((w :: w' :: names).map .text) =
      '-' :: ' ' :: (writeText (pad (n + 2)) w ++
        (pad n ++ Node.writeItems n ((w' :: names).map .text))) := by
  rw [List.map_cons, List.map_cons, Node.writeItems, afterHyphen_text]
  simp [Node.padding, pad]

theorem exists_writeItems_eq (w : String) (names : List String) :
    ∃ t, Node.writeItems n ((w :: names).map .text) = '-' :: t := by
  cases names with
  | nil => exact ⟨_, writeItems_text w⟩
  | cons w' names => exact ⟨_, writeItems_text_cons w w' names⟩

theorem writeItems_clean {names : List String}
    (h : ∀ w ∈ names, IsText n (writeText (pad (n + 2)) w) (textToken n w)) :
    endMark ∉ Node.writeItems n (names.map .text) := by
  induction names with
  | nil => simp [Node.writeItems]
  | cons w names ih =>
      obtain ⟨item, items⟩ := List.forall_mem_cons.mp h
      cases names with
      | nil =>
          rw [List.map_singleton, writeItems_text]
          simpa [endMark] using item.clean
      | cons w' names =>
          rw [writeItems_text_cons]
          simpa [endMark, pad] using ⟨item.clean, ih items⟩

theorem Lexer.Ready.items {names : List String} {o : Int} {ls : List Level} {m : Nat}
    {next : List Char} (some : names ≠ [])
    (h : ∀ w ∈ names, IsText n (writeText (pad (n + 2)) w) (textToken n w))
    (stop : startsToken (peek next)) (left : m ≤ n) (margin : n ≠ 0) :
    ∀ {s : Lexer} {ts : List Token},
    s.Ready ⟨Node.writeItems n (names.map .text) ++ (pad m ++ next), n, ts, n, ⟨o, true⟩ :: ls,
      true⟩ →
    ∃ v, Steps s v ∧ v.Ready (Place.close m
      ⟨next, m, (names.flatMap (itemTokens n)).reverse ++ ts, n, ⟨o, true⟩ :: ls, true⟩) := by
  induction names with
  | nil => exact absurd rfl some
  | cons w names ih =>
      obtain ⟨item, items⟩ := List.forall_mem_cons.mp h
      intro s ts ready
      cases names with
      | nil =>
          rw [List.map_singleton, writeItems_text] at ready
          exact ready.item item stop left margin
      | cons w' names =>
          obtain ⟨t, same⟩ := exists_writeItems_eq (n := n) w' names
          rw [writeItems_text_cons, List.cons_append, List.cons_append, List.append_assoc,
            List.append_assoc] at ready
          obtain ⟨u, first, hu⟩ := ready.item item (by rw [same]; rfl) (Nat.le_refl n) margin
          rw [Place.close_of_le (by exact Int.le_refl _)] at hu
          obtain ⟨v, later, hv⟩ := ih (List.cons_ne_nil _ _) items hu
          refine ⟨v, first.trans later, ?_⟩
          rw [List.flatMap_cons, List.reverse_append, List.append_assoc]
          exact hv

/-- The tokens of a list of texts. -/
def textsTokens (n : Nat) (names : List String) : List Token :=
  if names = [] then [.flowSequence, .flowSequenceEnd] else names.flatMap (itemTokens n)

theorem isValue_texts {names : List String} (margin : n ≠ 0)
    (h : ∀ w ∈ names, IsText n (writeText (pad (n + 2)) w) (textToken n w)) :
    IsValue n (Node.afterKey n (.sequence (names.map .text))) (textsTokens n names) := by
  by_cases some : names = []
  · subst some
    rw [List.map_nil, Node.afterKey]
    exact isValue_empty
  obtain ⟨w, names', rfl⟩ := List.exists_cons_of_ne_nil some
  rw [List.map_cons, Node.afterKey, ← List.map_cons]
  refine ⟨.inr rfl, by simpa [endMark, Node.padding] using writeItems_clean h, ?_⟩
  intro p s m next ls ready text stop left column indent levels closes _
  obtain ⟨o, ls', rfl⟩ := closes
  have start :
      startsToken (peek (Node.writeItems n ((w :: names').map .text) ++ (pad m ++ next))) := by
    obtain ⟨t, first⟩ := exists_writeItems_eq (n := n) w names'
    rw [first]
    rfl
  obtain ⟨u, settle, hu⟩ := ready.settle_line start (text.trans (List.append_assoc ..))
  have within : Place.Within n (⟨o, true⟩ :: ls')
      { p with
        text := Node.writeItems n ((w :: names').map .text) ++ (pad m ++ next), column := n
        keyAllowed := true } := ⟨.inr ⟨o, ls', rfl⟩, .inr ⟨indent, levels⟩⟩
  rw [within.close (Nat.le_refl n), Place.close_of_le (by exact Int.le_refl _)] at hu
  obtain ⟨v, steps, hv⟩ := hu.items some h stop left margin
  refine ⟨u, v, settle, ?_, steps, ?_⟩
  · rw [hu.text, ready.text, text]
    simp
    omega
  · rw [textsTokens, if_neg some]
    exact hv

/-! ### Entries -/

/-- The tokens of an entry of a mapping. -/
def entryTokens (key : String) (value : List Token) : List Token :=
  .key :: .scalar true key :: .value :: value

/-- An entry in column `n` is read as these tokens. -/
def IsEntry (n : Nat) (e : Key × Node) (tokens : List Token) : Prop :=
  ∃ w value, Node.writeKey e.1 = w ∧ IsKey w ∧ IsValue n (Node.afterKey n e.2) value ∧
    tokens = entryTokens (String.ofList w) value

theorem writeEntries_cons_cons (e e' : Key × Node) (es : List (Key × Node)) :
    Node.writeEntries n (e :: e' :: es) = Node.writeKey e.1 ++ ':' :: (Node.afterKey n e.2 ++
      (pad n ++ Node.writeEntries n (e' :: es))) := by
  rw [Node.writeEntries]
  simp [Node.padding, pad]

theorem writeEntries_singleton (e : Key × Node) :
    Node.writeEntries n [e] = Node.writeKey e.1 ++ ':' :: Node.afterKey n e.2 := by
  rw [Node.writeEntries]

theorem IsEntry.start {e : Key × Node} {es : List (Key × Node)} {tokens : List Token}
    (h : IsEntry n e tokens) (t : List Char) :
    startsToken (peek (Node.writeEntries n (e :: es) ++ t)) := by
  obtain ⟨w, value, same, key, -, -⟩ := h
  cases es with
  | nil =>
      rw [writeEntries_singleton, same, List.append_assoc]
      exact key.start _
  | cons e' es =>
      rw [writeEntries_cons_cons, same, List.append_assoc]
      exact key.start _

theorem Lexer.Ready.entry {s : Lexer} {e : Key × Node} {p : Place} {next : List Char}
    {tokens : List Token} {i : Int} {ls : List Level} {m : Nat} (h : s.Ready p)
    (text : p.text = Node.writeKey e.1 ++ ':' :: (Node.afterKey n e.2 ++ (pad m ++ next)))
    (entry : IsEntry n e tokens) (column : p.column = n) (allowed : p.keyAllowed = true)
    (within : p.Within i ls) (inside : p.indent ≤ n) (left : i ≤ n) (inner : i < n ∨ ls ≠ [])
    (stop : startsToken (peek next)) (before : m ≤ n) :
    ∃ v, Steps s v ∧ v.Ready (Place.close m ⟨next, m, tokens.reverse ++
      (if i < n then .blockMapping :: p.tokens else p.tokens), n, levelsWith n i ls, true⟩) := by
  obtain ⟨w, value, same, key, isValue, rfl⟩ := entry
  have blank : peek (Node.afterKey n e.2 ++ (pad m ++ next)) = ' ' ∨
      peek (Node.afterKey n e.2 ++ (pad m ++ next)) = '\n' := by
    rw [peek_append_of_ne_nil isValue.ne_nil]
    exact isValue.blank
  obtain ⟨u, v, first, more, act, shorter, hv⟩ := h.key key (same ▸ text) allowed blank within
    (column ▸ inside) (column ▸ left) (column ▸ inner)
  rw [column] at hv
  obtain ⟨u', v', settle, still, steps, hv'⟩ := isValue.read hv rfl stop before
    (by change n < n + w.length + 1; omega) rfl rfl
    (exists_levelsWith_eq within.1 inner) rfl
  refine ⟨v', .head first (.head ⟨more, ⟨v, act, settle⟩, by omega⟩ steps), ?_⟩
  simpa [entryTokens] using hv'

/-- Entries in column `n`, up to the key that comes next. -/
theorem Lexer.Ready.entries {es : List (Key × Node)} {tokens : List (List Token)} {next : List Char}
    {m : Nat} (some : es ≠ []) (entries : List.Forall₂ (IsEntry n) es tokens)
    (stop : startsToken (peek next)) (before : m ≤ n) :
    ∀ {s : Lexer} {p : Place} {i : Int} {ls : List Level}, s.Ready p →
    p.text = Node.writeEntries n es ++ (pad m ++ next) → p.column = n → p.keyAllowed = true →
    p.Within i ls → p.indent ≤ n → i ≤ n → (i < n ∨ ls ≠ []) →
    ∃ v, Steps s v ∧ v.Ready (Place.close m ⟨next, m, tokens.flatten.reverse ++
      (if i < n then .blockMapping :: p.tokens else p.tokens), n, levelsWith n i ls, true⟩) := by
  induction entries with
  | nil => exact absurd rfl some
  | @cons e ts es tokens entry entries ih =>
      intro s p i ls h text column allowed within inside left inner
      cases entries with
      | nil =>
          rw [writeEntries_singleton, List.append_assoc] at text
          simpa using h.entry text entry column allowed within inside left inner stop before
      | cons entry' entries =>
          rw [writeEntries_cons_cons, List.append_assoc, List.cons_append, List.append_assoc,
            List.append_assoc] at text
          obtain ⟨u, first, hu⟩ := h.entry text entry column allowed within inside left inner
            (entry'.start _) (Nat.le_refl n)
          rw [Place.close_of_le (by exact Int.le_refl _)] at hu
          obtain ⟨v, later, hv⟩ := ih (List.cons_ne_nil _ _) hu rfl rfl rfl
            ⟨.inr (exists_levelsWith_eq within.1 inner), .inl ⟨rfl, rfl⟩⟩ (Int.le_refl _)
            (Int.le_refl _) (.inr (by
              obtain ⟨o, ls', same⟩ := exists_levelsWith_eq within.1 inner
              rw [same]
              exact List.cons_ne_nil _ _))
          refine ⟨v, first.trans later, ?_⟩
          simpa [levelsWith] using hv

theorem writeEntries_clean {es : List (Key × Node)} {tokens : List (List Token)}
    (entries : List.Forall₂ (IsEntry n) es tokens) : endMark ∉ Node.writeEntries n es := by
  induction entries with
  | nil => simp [Node.writeEntries]
  | @cons e ts es tokens entry entries ih =>
      obtain ⟨w, value, same, key, isValue, -⟩ := entry
      cases entries with
      | nil =>
          rw [writeEntries_singleton, same]
          simpa [endMark] using ⟨key.clean, isValue.clean⟩
      | cons entry' entries =>
          rw [writeEntries_cons_cons, same]
          simpa [endMark, pad] using ⟨key.clean, isValue.clean, ih⟩

theorem isValue_mapping {es : List (Key × Node)} {tokens : List (List Token)} (some : es ≠ [])
    (entries : List.Forall₂ (IsEntry (n + 2)) es tokens) :
    IsValue n (Node.afterKey n (.mapping es))
      (.blockMapping :: (tokens.flatten ++ [.blockEnd])) := by
  have written : Node.afterKey n (.mapping es) =
      '\n' :: (pad (n + 2) ++ Node.writeEntries (n + 2) es) := by
    obtain ⟨e, es, rfl⟩ := List.exists_cons_of_ne_nil some
    rw [Node.afterKey]
    rfl
  rw [written]
  refine ⟨.inr rfl, by simpa [endMark, pad] using writeEntries_clean entries, ?_⟩
  intro p s m next ls ready text stop left column indent levels closes _
  have start : startsToken (peek (Node.writeEntries (n + 2) es ++ (pad m ++ next))) := by
    cases entries with
    | nil => exact absurd rfl some
    | cons entry entries => exact entry.start _
  rw [List.cons_append, List.append_assoc] at text
  obtain ⟨u, settle, hu⟩ := ready.settle_line start text
  rw [Place.close_of_le (by change p.indent ≤ (n + 2 : Nat); omega)] at hu
  obtain ⟨v, steps, hv⟩ := hu.entries some entries stop (by omega) rfl rfl rfl
    ⟨.inr closes, .inr ⟨indent, levels⟩⟩ (by change p.indent ≤ (n + 2 : Nat); omega)
    (by omega) (.inl (by omega))
  refine ⟨u, v, settle, ?_, steps, ?_⟩
  · rw [hu.text, ready.text, text]
    simp
    omega
  · have new : (n : Int) < (n + 2 : Nat) := by omega
    have closed : Place.close m ⟨next, m, tokens.flatten.reverse ++ .blockMapping :: p.tokens,
          (n + 2 : Nat), ⟨n, true⟩ :: ls, true⟩ =
        Place.close m ⟨next, m, .blockEnd :: (tokens.flatten.reverse ++ .blockMapping :: p.tokens),
          n, ls, true⟩ := if_pos (by change (m : Int) < (n + 2 : Nat); omega)
    rw [levelsWith, if_pos new, if_pos new, closed] at hv
    simpa using hv

/-- **A document**: its one mapping is read as it was written. -/
theorem ofText?_writeEntries {es : List (Key × Node)} {tokens : List (List Token)} (some : es ≠ [])
    (entries : List.Forall₂ (IsEntry 0) es tokens) :
    Token.ofText? (Node.writeEntries 0 es) =
      .some (.blockMapping :: (tokens.flatten ++ [.blockEnd])) := by
  have start : startsToken (peek (Node.writeEntries 0 es)) := by
    rw [← List.append_nil (Node.writeEntries 0 es)]
    cases entries with
    | nil => exact absurd rfl some
    | cons entry entries => exact entry.start _
  have new : (-1 : Int) < (0 : Nat) := by decide
  refine Token.ofText?_of_steps (writeEntries_clean entries) start fun ready => ?_
  obtain ⟨u, steps, hu⟩ := ready.entries some entries
    (show startsToken (peek []) from rfl) (Nat.le_refl 0) (List.append_nil _).symm rfl rfl
    ⟨.inl rfl, .inl ⟨rfl, rfl⟩⟩ (Int.le_of_lt new) (Int.le_of_lt new) (.inl new)
  refine ⟨u, _, steps, hu, rfl, ?_⟩
  change (Token.blockEnd :: (tokens.flatten.reverse ++ [.blockMapping])).reverse = _
  simp

end

end Courier.Yaml
