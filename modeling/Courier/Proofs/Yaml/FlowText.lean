import Courier.Json.Printer
import Courier.Proofs.Yaml.Escaped
import Courier.Proofs.Yaml.Flow
import Courier.Proofs.Yaml.Key

/-!
# Courier — Proofs — JSON text as tokens

Indented JSON is read as flow collections: strings are quoted texts, numbers and flags are plain
words, and arrays and objects are the collections (`isPart_block`), inside of one mapping with
braces that is the whole document.
-/

namespace Courier.Yaml

open Lexer

/-! ### What comes after a value -/

/-- A mark that ends a value. -/
def endsPart (c : Char) : Bool := c == ',' || c == ']' || c == '\x7d'

/-- After a value: a mark that ends it, at once or in the next line. -/
inductive Follows : List Char → List Char → Prop where
  | here {next : List Char} (mark : endsPart (peek next)) : Follows next next
  | line {next : List Char} (m : Nat) (mark : endsPart (peek next)) :
      Follows ('\n' :: (pad m ++ next)) next

theorem of_endsPart {c : Char} (h : endsPart c) :
    startsToken c ∧ isFlowMark c ∧ mayFollowQuoted true true c := by
  simp only [endsPart, Bool.or_eq_true, beq_iff_eq] at h
  rcases h with (rfl | rfl) | rfl <;> decide

theorem ne_of_endsPart {c d : Char} (h : endsPart c) (hd : endsPart d = false) : c ≠ d := by
  rintro rfl
  rw [h] at hd
  cases hd

theorem Follows.mark {after next : List Char} (h : Follows after next) : endsPart (peek next) := by
  cases h <;> assumption

theorem Follows.gap {after next : List Char} (h : Follows after next) :
    ∃ gap, IsGap gap ∧ after = gap ++ next := by
  cases h with
  | here => exact ⟨_, .pad 0, rfl⟩
  | line m => exact ⟨_, .line m, rfl⟩

theorem Follows.may {after next : List Char} (h : Follows after next) :
    ∃ x rest, after = x :: rest ∧ mayFollowQuoted true true x := by
  cases h with
  | line m mark => exact ⟨_, _, rfl, rfl⟩
  | here mark =>
      cases after with
      | nil => exact absurd mark (by decide)
      | cons x rest => exact ⟨x, rest, rfl, (of_endsPart mark).2.2⟩

/-! ### Words -/

theorem plainFrom?_mark {indent : Int} {fuel : Nat} {acc : List Char} {g : Gap} {x : Char}
    {rest : List Char} (h : g.cursor.rest = x :: rest) (mark : endsPart x) :
    plainFrom? true indent (fuel + 1) acc g = some (acc, g.cursor) := by
  have ne {y : Char} (no : endsPart y = false) : x ≠ y := ne_of_endsPart mark no
  obtain ⟨start, flow, -⟩ := of_endsPart mark
  obtain ⟨blank, line, hash⟩ := of_startsToken start
  have marker : g.cursor.atDocumentMarker = false :=
    atDocumentMarker_of_char h (ne rfl) (ne rfl)
  have word : plainWord true g.cursor.rest = [] := by
    rw [h]
    exact if_pos (.inr (.inr ⟨rfl, flow⟩))
  rw [plainFrom?]
  simp [marker, Cursor.char_of_rest h, hash, ne (y := '-') rfl, word, blank, line]

/-- In a flow collection a word ends with its line, if a mark starts the next one. -/
theorem plain?_word_line {indent : Int} {c : Cursor} {w next : List Char} {m : Nat}
    (hw : c.rest = w ++ '\n' :: (pad m ++ next)) (nonempty : w ≠ [])
    (parts : ∀ x ∈ w, isWordPart x) (hash : c.char ≠ '#') (marker : c.atDocumentMarker = false)
    (hyphen : c.char ≠ '-') (mark : endsPart (peek next)) (inside : indent ≤ c.column) :
    plain? true indent c = some (String.ofList w, c.nextLine w.length m) := by
  have word : plainWord true c.rest = w := by
    rw [hw, plainWord_append parts]
    simp [plainWord, endsWord, endsLine, isBreak]
  have line : (c.pass w.length).rest = '\n' :: (pad m ++ next) := by
    rw [Cursor.rest_pass, hw, List.drop_left]
  obtain ⟨x, next', rfl⟩ : ∃ x t, next = x :: t := by
    cases next with
    | nil => exact absurd mark (by decide)
    | cons x t => exact ⟨x, t, rfl⟩
  obtain ⟨blank, line_end, -⟩ := of_startsToken (of_endsPart mark).1
  have passed := passGap?_line indent ⟨blank, line_end⟩ (Cursor.fresh_pass ..) line
  have from_here : plainFrom? true indent (c.rest.length + 1) [] { cursor := c } =
      some (w.reverse, c.nextLine w.length m) := by
    obtain ⟨fuel, enough⟩ : ∃ fuel, c.rest.length = fuel + 1 :=
      ⟨c.rest.length - 1, by rw [hw]; simp; omega⟩
    rw [enough, plainFrom?]
    simp only [marker, hash, hyphen, word, List.isEmpty_eq_false_iff.mpr nonempty, if_false,
      Bool.false_eq_true, or_self, and_false, false_and]
    rw [if_neg (by simp [Cursor.char_of_rest line, isBreak]), passed]
    refine (if_neg (by simp)).trans ?_
    rw [List.isEmpty_nil, if_pos rfl, List.append_nil, List.append_nil]
    exact plainFrom?_mark (Cursor.rest_nextLine_of hw) mark
  rw [plain?, if_neg (by simpa using inside), from_here]
  simp [nonempty]

/-! ### Inside of a document -/

/-- Inside of a mapping with braces that is the whole document. -/
structure Nested.InDocument (q : Nested) : Prop where
  indent : q.indent = -1
  levels : q.levels = []
  marked : q.marked = true

section
variable {q : Nested} {s : Lexer}

theorem Lexer.Inside.word {w after next : List Char} (h : s.Inside q) (doc : q.InDocument)
    (text : q.text = w ++ after) (word : IsWord w) (follows : Follows after next) :
    ∃ v a, Next s v ∧ v.Inside { q with
      text := next, tokens := .scalar true (String.ofList w) :: q.tokens, keyAllowed := a } := by
  obtain ⟨x, w', rfl⟩ := List.exists_cons_of_ne_nil word.nonempty
  have first : isKeyChar x := List.all_eq_true.mp word.letters x (List.mem_cons_self ..)
  have ne {d : Char} (hd : isKeyChar d = false) : x ≠ d := ne_of_isKeyChar first hd
  have saved := h.saveCandidate.allowKey false
  obtain ⟨u, hu⟩ : ∃ u, u = s.saveCandidate.allowKey false := ⟨_, rfl⟩
  rw [← hu] at saved
  have unindented : u.unindent = u := by
    rw [Lexer.unindent, saved.levels, doc.levels]
    rfl
  have rest : u.cursor.rest = x :: w' ++ after := saved.text.trans text
  have char : u.cursor.char = x := Cursor.char_of_rest rest
  have marker : u.cursor.atDocumentMarker = false :=
    atDocumentMarker_of_char rest (ne rfl) (ne rfl)
  have inside : u.indent + 1 ≤ u.cursor.column := by
    rw [saved.indent, doc.indent]
    omega
  obtain ⟨c', read, rest'⟩ : ∃ c', plain? u.inFlow (u.indent + 1) u.cursor =
      some (String.ofList (x :: w'), c') ∧ c'.rest = next := by
    rw [saved.inFlow]
    have hash : u.cursor.char ≠ '#' := by rw [char]; exact ne rfl
    have hyphen : u.cursor.char ≠ '-' := by rw [char]; exact ne rfl
    cases follows with
    | here mark =>
        obtain ⟨start, flow, -⟩ := of_endsPart mark
        obtain ⟨blank, line, -⟩ := of_startsToken start
        have stop : plainWord true after = [] := by
          cases after with
          | nil => rfl
          | cons y after => exact if_pos (.inr (.inr ⟨rfl, flow⟩))
        refine ⟨_, plain?_word rest word.nonempty word.parts hash marker hyphen stop ⟨blank, line⟩
          fun _ => inside, ?_⟩
        rw [Cursor.rest_pass, rest, List.drop_left]
    | line m mark =>
        exact ⟨_, plain?_word_line rest word.nonempty word.parts hash marker hyphen mark inside,
          Cursor.rest_nextLine_of rest⟩
  obtain ⟨v, hv⟩ : ∃ v, v = (if c'.fresh then (u.goTo c').allowKey true else u.goTo c').push
      (.scalar true (String.ofList (x :: w'))) := ⟨_, rfl⟩
  have act : s.content? = some v := by
    rw [content?_word (h.text.trans text) first, plainScalar?, ← hu, unindented, read, hv]
    rfl
  have there : v.Inside { q with
      text := next, tokens := .scalar true (String.ofList (x :: w')) :: q.tokens
      keyAllowed := c'.fresh } := by
    have gone := saved.goTo (c := c') (by
      change q.indent ≤ _
      rw [doc.indent]
      omega)
    rw [rest'] at gone
    rw [hv]
    cases c'.fresh with
    | false => exact gone.push _
    | true => exact (gone.allowKey true).push _
  refine ⟨v, c'.fresh, h.next text (ne rfl) ⟨ne rfl, ne rfl, ne rfl⟩ act
    (there.settle_here (of_endsPart follows.mark).1) ?_, there⟩
  rw [there.text]
  obtain ⟨gap, -, rfl⟩ := follows.gap
  simp
  omega

/-- A quoted string, with the white space after it. -/
theorem Lexer.Inside.quoted {t next : List Char} {x : Char} {rest gap : List Char} (h : s.Inside q)
    (doc : q.InDocument)
    (text : q.text = '\x22' :: (t.flatMap Json.escapeChar ++ '\x22' :: x :: rest))
    (may : mayFollowQuoted true true x) (space : IsGap gap) (after : x :: rest = gap ++ next)
    (stop : startsToken (peek next)) :
    ∃ v, Next s v ∧ v.Inside { q with
      text := next, tokens := .scalar false (String.ofList t) :: q.tokens, keyAllowed := false } ∧
      v.candidate = s.saveCandidate.candidate := by
  have saved := h.saveCandidate.allowKey false
  obtain ⟨u, hu⟩ : ∃ u, u = s.saveCandidate.allowKey false := ⟨_, rfl⟩
  have candidate : u.candidate = s.saveCandidate.candidate := by rw [hu]; rfl
  rw [← hu] at saved
  have here : u.cursor.rest = '\x22' :: (t.flatMap Json.escapeChar ++ '\x22' :: x :: rest) :=
    saved.text.trans text
  obtain ⟨c', hc⟩ : ∃ c', c' = u.cursor.pass ((t.flatMap Json.escapeChar).length + 2) := ⟨_, rfl⟩
  have read : quoted? u.inFlow u.indent u.cursor = some (String.ofList t, c') := by
    rw [saved.inFlow, hc]
    refine quoted?_line rfl rfl (fun x _ => spelled_escapeChar x) here may ?_
    rw [saved.indent, doc.indent]
    omega
  have passed := saved.goTo (c := c') (by
    change q.indent ≤ _
    rw [doc.indent]
    omega)
  have rest' : c'.rest = gap ++ next := by rw [hc, rest_after_quoted here, after]
  obtain ⟨w, skip, hw, same⟩ := passed.skip (by rw [doc.indent]; decide) space stop rest'
  have adjacent : Lexer.Inside _ { w with adjacentAt := w.cursor.index } := { hw with }
  have act : s.content? = some ({ w with adjacentAt := w.cursor.index }.push
      (.scalar false (String.ofList t))) := by
    rw [content?_quote (h.text.trans text) (.inr rfl), quotedScalar?, ← hu, read]
    simp only [Option.bind_eq_bind, Option.bind_some, skip]
    rfl
  have there := adjacent.push (.scalar false (String.ofList t))
  refine ⟨_, h.next text (by decide) (by decide) act (there.settle_here stop) ?_, there,
    same.trans candidate⟩
  rw [there.text]
  have shorter : next.length ≤ (x :: rest).length := by
    rw [after]
    simp
  simp at shorter ⊢
  omega

end

/-! ### Parts of a collection -/

/-- In a flow collection `t` is read as these tokens, up to the mark that ends it; it may start with
a key, and has at most `d` collections inside one another. -/
structure IsPart (keyed : Bool) (d : Nat) (t : List Char) (tokens : List Token) : Prop where
  nonempty : t ≠ []
  start    : startsToken (peek t)
  clean    : endMark ∉ t
  read     : ∀ {q : Nested} {s : Lexer} {after next : List Char}, s.Inside q → q.InDocument →
    q.text = t ++ after → Follows after next → (keyed → q.keyAllowed = true) →
    q.depth + d < maxDepth →
    ∃ v a, Steps s v ∧ v.Inside { q with
      text := next, tokens := tokens.reverse ++ q.tokens, keyAllowed := a }

section
variable {keyed : Bool} {d : Nat}

theorem IsPart.mono {d' : Nat} {t : List Char} {tokens : List Token} (h : IsPart keyed d t tokens)
    (le : d ≤ d') : IsPart keyed d' t tokens :=
  { h with
    read := fun inside doc text follows allowed room =>
      h.read inside doc text follows allowed (by omega) }

theorem toList_quoted (w : String) :
    (Json.quoted w).toList = '\x22' :: (w.toList.flatMap Json.escapeChar ++ ['\x22']) := by
  simp [Json.quoted]

theorem quoted_clean (w : String) : endMark ∉ (Json.quoted w).toList := by
  rw [toList_quoted, List.mem_cons, List.mem_append, List.mem_flatMap]
  rintro (no | ⟨x, -, mem⟩ | no)
  · exact absurd no (by decide)
  · exact (spelled_escapeChar x).clean mem
  · exact absurd no (by decide)

theorem isPart_string (w : String) : IsPart false d (Json.quoted w).toList [.scalar false w] where
  nonempty := by simp [toList_quoted]
  start := by
    rw [toList_quoted]
    rfl
  clean := quoted_clean w
  read := by
    intro q s after next inside doc text follows _ _
    obtain ⟨x, rest, same, may⟩ := follows.may
    obtain ⟨gap, space, split⟩ := follows.gap
    have text' : q.text = '\x22' :: (w.toList.flatMap Json.escapeChar ++ '\x22' :: x :: rest) := by
      rw [text, toList_quoted, same]
      simp
    obtain ⟨v, next_v, hv, -⟩ := inside.quoted doc text' may space (same ▸ split)
      (of_endsPart follows.mark).1
    rw [String.ofList_toList] at hv
    exact ⟨v, false, .single next_v, hv⟩

theorem isPart_word {w : List Char} (word : IsWord w) :
    IsPart false d w [.scalar true (String.ofList w)] where
  nonempty := word.nonempty
  start := by simpa using word.start []
  clean := word.clean
  read := by
    intro q s after next inside doc text follows _ _
    obtain ⟨v, a, next_v, hv⟩ := inside.word doc text word follows
    exact ⟨v, a, .single next_v, hv⟩

/-- The tokens of a member of an object. -/
def memberTokens (name : String) (value : List Token) : List Token :=
  .key :: .scalar false name :: .value :: value

theorem isPart_member {name : String} {t : List Char} {tokens : List Token}
    (value : IsPart false d t tokens) :
    IsPart true d ((Json.quoted name).toList ++ ':' :: ' ' :: t) (memberTokens name tokens) where
  nonempty := by simp
  start := by
    rw [toList_quoted]
    rfl
  clean := by
    simpa [endMark] using ⟨quoted_clean name, value.clean⟩
  read := by
    intro q s after next inside doc text follows allowed room
    have text' : q.text = '\x22' :: (name.toList.flatMap Json.escapeChar ++
        '\x22' :: ':' :: (' ' :: (t ++ after))) := by
      rw [text, toList_quoted]
      simp
    obtain ⟨u, first, hu, candidate⟩ := inside.quoted doc text' rfl (.pad 0) rfl rfl
    have key : s.keyAllowed = true := inside.keyAllowed.trans (allowed rfl)
    obtain ⟨w, act, hw⟩ := hu.value rfl (show ' ' ≠ '\t' by decide) doc.marked rfl
      (by rw [candidate, Lexer.saveCandidate, if_pos key])
      (by
        rw [candidate, Lexer.saveCandidate, if_pos key]
        exact inside.count)
    have start : startsToken (peek (t ++ after)) := by
      rw [peek_append_of_ne_nil value.nonempty]
      exact value.start
    obtain ⟨w', settle, hw', -⟩ := hw.settle (by rw [doc.indent]; decide) (.pad 1) start rfl
    have second : Next u w' := by
      refine hu.next rfl (by decide) (by decide) ((content?_colon hu.text rfl).trans act) settle ?_
      rw [hw'.text]
      simp
    obtain ⟨v, a, steps, hv⟩ := value.read hw' ⟨doc.indent, doc.levels, doc.marked⟩ rfl follows
      (fun no => by cases no) room
    rw [String.ofList_toList] at hv
    refine ⟨v, a, .head first (.head second steps), ?_⟩
    simpa [memberTokens] using hv

/-! ### Collections -/

theorem toList_lineBreak (level : Nat) :
    (Json.lineBreak level).toList = '\n' :: pad (2 * level) := by
  simp [Json.lineBreak, pad]

/-- The parts are read as the tokens that stand in the same place. -/
abbrev ArePart (keyed : Bool) (d : Nat) : List String → List (List Token) → Prop :=
  List.Forall₂ fun t => IsPart keyed d t.toList

theorem ArePart.start {parts : List String} {tokens : List (List Token)} (some : parts ≠ [])
    (h : ArePart keyed d parts tokens) (separator : String) (after : List Char) :
    startsToken (peek ((separator.intercalate parts).toList ++ after)) := by
  cases h with
  | nil => exact absurd rfl some
  | @cons part ts parts tokens here later =>
      cases parts with
      | nil =>
          rw [String.intercalate_singleton, peek_append_of_ne_nil here.nonempty]
          exact here.start
      | cons part' parts =>
          rw [String.intercalate_cons_cons, String.toList_append, String.toList_append,
            List.append_assoc, List.append_assoc, peek_append_of_ne_nil here.nonempty]
          exact here.start

theorem ArePart.clean {parts : List String} {tokens : List (List Token)}
    (h : ArePart keyed d parts tokens) {separator : String} (other : endMark ∉ separator.toList) :
    endMark ∉ (separator.intercalate parts).toList := by
  induction h with
  | nil => simp
  | @cons part ts parts tokens here later ih =>
      cases parts with
      | nil =>
          rw [String.intercalate_singleton]
          exact here.clean
      | cons part' parts =>
          rw [String.intercalate_cons_cons, String.toList_append, String.toList_append,
            List.mem_append, List.mem_append]
          exact fun mem => mem.elim (·.elim here.clean other) ih

/-- Parts with a comma and a line break between them. -/
theorem Lexer.Inside.parts {parts : List String} {tokens : List (List Token)} {level : Nat}
    {after next : List Char} (some : parts ≠ []) (h : ArePart keyed d parts tokens)
    (follows : Follows after next) : ∀ {q : Nested} {s : Lexer}, s.Inside q → q.InDocument →
    q.text = (("," ++ Json.lineBreak level).intercalate parts).toList ++ after →
    q.keyAllowed = true → q.depth + d < maxDepth →
    ∃ v a, Steps s v ∧ v.Inside { q with
      text := next, tokens := ([Token.flowEntry].intercalate tokens).reverse ++ q.tokens
      keyAllowed := a } := by
  induction h with
  | nil => exact absurd rfl some
  | @cons part ts parts tokens here later ih =>
      intro q s inside doc text allowed room
      cases later with
      | nil =>
          rw [String.intercalate_singleton] at text
          rw [List.intercalate_singleton]
          exact here.read inside doc text follows (fun _ => allowed) room
      | @cons part' ts' parts tokens here' later' =>
          obtain ⟨rest, hrest⟩ : ∃ rest, rest =
              (("," ++ Json.lineBreak level).intercalate (part' :: parts)).toList ++ after :=
            ⟨_, rfl⟩
          have text' : q.text = part.toList ++ ',' :: '\n' :: (pad (2 * level) ++ rest) := by
            rw [text, String.intercalate_cons_cons, hrest]
            simp [toList_lineBreak]
          have start : startsToken (peek rest) := by
            rw [hrest]
            exact ArePart.start (List.cons_ne_nil _ _) (.cons here' later') _ _
          obtain ⟨u, a, first, hu⟩ := here.read inside doc text' (.here rfl) (fun _ => allowed) room
          obtain ⟨w, act, hw⟩ := hu.flowEntry rfl ⟨rfl, (by decide : '\n' ≠ '#')⟩
          obtain ⟨w', settle, hw', -⟩ := hw.settle (by rw [doc.indent]; decide) (.line _) start rfl
          have comma : Next u w' := by
            refine hu.next rfl (by decide) (by decide)
              (((content?_mark hu.text).2.2.2.2 rfl).trans act) settle ?_
            rw [hw'.text]
            simp
            omega
          obtain ⟨v, a', steps, hv⟩ := ih (List.cons_ne_nil _ _) hw'
            ⟨doc.indent, doc.levels, doc.marked⟩ hrest rfl room
          refine ⟨v, a', first.trans (.head comma steps), ?_⟩
          rw [List.intercalate_cons_cons]
          simpa using hv

/-- What stands between the marks of an array or object. -/
def bodyText (level : Nat) (parts : List String) : List Char :=
  if parts = [] then []
  else (Json.lineBreak (level + 1)).toList ++
    ((("," ++ Json.lineBreak (level + 1)).intercalate parts).toList ++
      (Json.lineBreak level).toList)

theorem toList_block (opening closing : String) (level : Nat) (parts : List String) :
    (Json.block opening closing level parts).toList =
      opening.toList ++ (bodyText level parts ++ closing.toList) := by
  cases parts with
  | nil => simp [Json.block, bodyText]
  | cons part parts => simp [Json.block, bodyText]

theorem Lexer.Inside.body {parts : List String} {tokens : List (List Token)} {level : Nat}
    {y : Char} {after : List Char} (h : ArePart keyed d parts tokens) (mark : endsPart y)
    {q : Nested} {s : Lexer} (inside : s.Inside q) (doc : q.InDocument)
    (text : q.text = bodyText level parts ++ y :: after) (allowed : q.keyAllowed = true)
    (room : q.depth + d < maxDepth) :
    ∃ t v a, s.settle? = some t ∧ t.cursor.rest.length ≤ s.cursor.rest.length ∧ Steps t v ∧
      v.Inside { q with
        text := y :: after, tokens := ([Token.flowEntry].intercalate tokens).reverse ++ q.tokens
        keyAllowed := a } := by
  by_cases some : parts = []
  · subst some
    cases h
    rw [bodyText, if_pos rfl, List.nil_append] at text
    have start : startsToken (peek q.text) := by
      rw [text]
      exact (of_endsPart mark).1
    obtain ⟨text', tokens, depth, marked, indent, levels, allowed'⟩ := q
    subst text
    exact ⟨s, s, allowed', inside.settle_here start, Nat.le_refl _, .refl, inside⟩
  · rw [bodyText, if_neg some, toList_lineBreak, toList_lineBreak, List.append_assoc,
      List.append_assoc, List.cons_append, List.cons_append] at text
    obtain ⟨t, settle, ht, -⟩ := inside.settle (by rw [doc.indent]; decide) (.line _)
      (h.start some _ _) text
    obtain ⟨v, a, steps, hv⟩ := ht.parts some h (.line (2 * level) (by exact mark))
      ⟨doc.indent, doc.levels, doc.marked⟩ rfl allowed room
    refine ⟨t, v, a, settle, ?_, steps, hv⟩
    rw [ht.text, inside.text, text]
    simp
    omega

theorem bodyText_clean {parts : List String} {tokens : List (List Token)} {level : Nat}
    (h : ArePart keyed d parts tokens) : endMark ∉ bodyText level parts := by
  have separator : endMark ∉ ("," ++ Json.lineBreak (level + 1)).toList := by
    simp [toList_lineBreak, endMark, pad]
  rw [bodyText]
  split_ifs
  · exact List.not_mem_nil
  · simpa [toList_lineBreak, endMark, pad] using h.clean separator

theorem bodyText_stop (level : Nat) (parts : List String) {y : Char} (mark : endsPart y)
    (after : List Char) : isBlank (peek (bodyText level parts ++ y :: after)) = false ∧
      peek (bodyText level parts ++ y :: after) ≠ '#' := by
  rw [bodyText]
  split_ifs
  · obtain ⟨blank, -, hash⟩ := of_startsToken (of_endsPart mark).1
    exact ⟨blank, hash⟩
  · rw [toList_lineBreak]
    exact ⟨rfl, (by decide : '\n' ≠ '#')⟩

/-- The marks of a collection and the tokens that they are. -/
structure AreMarks (x y : Char) (opening closing : Token) : Prop where
  first  : startsToken x ∧ x ≠ endMark ∧ x ≠ '%' ∧ x ≠ '-' ∧ x ≠ '.'
  last   : endsPart y
  opens  : ∀ {s : Lexer} {rest : List Char}, s.cursor.rest = x :: rest →
    s.content? = s.openFlow? opening
  closes : ∀ {s : Lexer} {rest : List Char}, s.cursor.rest = y :: rest →
    s.content? = s.closeFlow? closing

theorem areMarks_square : AreMarks '[' ']' .flowSequence .flowSequenceEnd where
  first  := by decide
  last   := rfl
  opens  := fun text => (content?_mark text).1 rfl
  closes := fun text => (content?_mark text).2.2.1 rfl

theorem areMarks_curly : AreMarks '\x7b' '\x7d' .flowMapping .flowMappingEnd where
  first  := by decide
  last   := rfl
  opens  := fun text => (content?_mark text).2.1 rfl
  closes := fun text => (content?_mark text).2.2.2.1 rfl

/-- **An array or object** inside of another. -/
theorem isPart_block {x y : Char} {opening closing : Token} {parts : List String}
    {tokens : List (List Token)} (marks : AreMarks x y opening closing)
    (h : ArePart keyed d parts tokens) (level : Nat) :
    IsPart false (d + 1) (x :: (bodyText level parts ++ [y]))
      (opening :: ([Token.flowEntry].intercalate tokens ++ [closing])) where
  nonempty := by simp
  start := marks.first.1
  clean := by
    have ended : y ≠ endMark := ne_of_endsPart marks.last rfl
    simpa [ended.symm, marks.first.2.1.symm] using bodyText_clean h
  read := by
    intro q s after next inside doc text follows _ room
    have text' : q.text = x :: (bodyText level parts ++ y :: after) := by
      rw [text]
      simp
    have deeper : q.depth + 1 < maxDepth := by omega
    obtain ⟨u, act, hu⟩ := inside.openFlow deeper text' (bodyText_stop level parts marks.last after)
      opening
    have marked : (decide (opening = .flowMapping) || q.marked) = q.marked := by
      rw [doc.marked, Bool.or_true]
    rw [marked] at hu
    obtain ⟨t, v, a, settle, shorter, steps, hv⟩ := hu.body h marks.last
      ⟨doc.indent, doc.levels, doc.marked⟩ rfl rfl (by change q.depth + 1 + d < maxDepth; omega)
    have first : Next s t := by
      refine inside.next text' marks.first.2.1 marks.first.2.2
        ((marks.opens (inside.text.trans text')).trans act) settle ?_
      rwa [hu.text] at shorter
    obtain ⟨z, rest, same, may⟩ := follows.may
    obtain ⟨blank, hash, -⟩ := of_mayFollowQuoted may
    have stop : isBlank (peek after) = false ∧ peek after ≠ '#' := by rw [same]; exact ⟨blank, hash⟩
    obtain ⟨w, act', hw⟩ := hv.closeFlow_inner rfl rfl stop closing
    obtain ⟨gap, space, split⟩ := follows.gap
    obtain ⟨w', settle', hw', -⟩ := hw.settle (by rw [doc.indent]; decide) space
      (of_endsPart follows.mark).1 split
    have last : Next v w' := by
      have ne {d : Char} (hd : endsPart d = false) : y ≠ d := ne_of_endsPart marks.last hd
      refine hv.next rfl (ne rfl) ⟨ne rfl, ne rfl, ne rfl⟩ ((marks.closes hv.text).trans act')
        settle' ?_
      rw [hw'.text, split]
      simp
    refine ⟨w', false, (Relation.ReflTransGen.head first steps).tail last, ?_⟩
    simpa using hw'

/-- **A document** that is one object. -/
theorem ofText?_object {parts : List String} {tokens : List (List Token)}
    (h : ArePart keyed d parts tokens) (level : Nat) (room : d < maxDepth) :
    Token.ofText? (Json.block "\x7b" "\x7d" level parts).toList =
      some (.flowMapping :: ([Token.flowEntry].intercalate tokens ++ [.flowMappingEnd])) := by
  have marks := areMarks_curly
  obtain ⟨text, written⟩ : ∃ t, t = bodyText level parts ++ ['\x7d'] := ⟨_, rfl⟩
  have whole : (Json.block "\x7b" "\x7d" level parts).toList = '\x7b' :: text := by
    rw [toList_block, written]
    rfl
  have clean : endMark ∉ '\x7b' :: text := by
    simpa [written, endMark] using bodyText_clean h
  rw [whole]
  refine Token.ofText?_of_steps clean rfl fun {s} ready => ?_
  obtain ⟨u, act, hu⟩ := ready.openFlow rfl (written ▸ bodyText_stop level parts marks.last [])
    (by rw [innermostCloses, ready.levels]) (.inr (by decide : (-1 : Int) ≠ (0 : Nat)))
    (by decide : (-1 : Int) ≤ (0 : Nat)) .flowMapping
  obtain ⟨t, v, a, settle, shorter, steps, hv⟩ := hu.body h marks.last ⟨rfl, rfl, rfl⟩ written rfl
    (by change 0 + d < maxDepth; omega)
  have first : Next s t := by
    refine Next.of_content ready.toAt rfl (by decide) (fun _ => by decide)
      (by exact (by decide : (-1 : Int) ≤ (0 : Nat))) ((marks.opens ready.text).trans act) settle ?_
    rwa [hu.text] at shorter
  obtain ⟨w, act', hw⟩ := hv.closeFlow_outer rfl rfl ⟨rfl, by decide⟩ .flowMappingEnd
  obtain ⟨w', settle', hw'⟩ := hw.settle_pad (m := 0) (show startsToken (peek []) from rfl) rfl
  have last : Next v w' := by
    refine hv.next rfl (by decide) (by decide) ((marks.closes hv.text).trans act') settle' ?_
    rw [hw'.text, Place.text_close]
  refine ⟨w', _, (Relation.ReflTransGen.head first steps).tail last, hw', rfl, ?_⟩
  change (Token.flowMappingEnd :: (([Token.flowEntry].intercalate tokens).reverse ++
    [.flowMapping])).reverse = _
  simp

end

end Courier.Yaml
