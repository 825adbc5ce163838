import Courier.Proofs.Yaml.Cursor
import Courier.Yaml.Token.Plain

/-!
# Courier — Proofs — Reading plain texts

A plain text is read as it stands if there are only spaces between its words, no colon ends a word
and no hash starts one (`plain?_line`).  It ends with its line, and what comes after the line has
to stand left of it.  Inside a flow collection a single word is enough, up to the next mark
(`plain?_word`).
-/

namespace Courier.Yaml

/-! ### One word -/

/-- The characters of a word that is read in any surroundings. -/
def isWordPart (c : Char) : Bool := !endsWord c && !isFlowMark c && c != ':'

theorem plainWord_append {w rest : List Char} (h : ∀ c ∈ w, isWordPart c) (flow : Bool) :
    plainWord flow (w ++ rest) = w ++ plainWord flow rest := by
  induction w with
  | nil => rfl
  | cons c w ih =>
      have hc := h c (List.mem_cons_self ..)
      rw [isWordPart] at hc
      rw [List.cons_append, plainWord, if_neg, ih fun d hd => h d (List.mem_cons_of_mem _ hd)]
      · rfl
      · simp_all

/-- A word is read up to a colon with white space after it, and up to a mark. -/
theorem plain?_word {flow : Bool} {indent : Int} {c : Cursor} {w rest : List Char}
    (hw : c.rest = w ++ rest) (nonempty : w ≠ []) (parts : ∀ x ∈ w, isWordPart x)
    (hash : c.char ≠ '#') (marker : c.atDocumentMarker = false) (hyphen : c.char ≠ '-')
    (stop : plainWord flow rest = [])
    (next : isBlank (peek rest) = false ∧ isBreak (peek rest) = false)
    (inside : flow → indent ≤ c.column) :
    plain? flow indent c = some (String.ofList w, c.pass w.length) := by
  have word : plainWord flow c.rest = w := by
    rw [hw, plainWord_append parts, stop, List.append_nil]
  have after : (c.pass w.length).char = peek rest := by
    rw [Cursor.char, Cursor.rest_pass, hw, List.drop_left]
  have from_here : plainFrom? flow indent (c.rest.length + 1) [] { cursor := c } =
      some (w.reverse, c.pass w.length) := by
    rw [plainFrom?]
    simp [marker, hash, hyphen, word, nonempty, after, next.1, next.2]
  have column : ¬ (flow ∧ c.column < indent) := fun h => absurd (inside h.1) (by omega)
  rw [plain?, if_neg column, from_here]
  simp [nonempty]

/-! ### White space -/

/-- Spaces are passed.  After a word they are kept, at the start of a line they are indentation. -/
theorem passGap?_pad (indent : Int) {next : List Char}
    (stop : isBlank (peek next) = false ∧ isBreak (peek next) = false) :
    ∀ (m fuel : Nat) (g : Gap), m ≤ fuel → g.cursor.rest = pad m ++ next →
      passGap? indent fuel g = some { g with
        cursor := g.cursor.advance m
        blanks := if g.cursor.fresh then g.blanks else pad m ++ g.blanks } := by
  intro m
  induction m with
  | zero =>
      intro fuel g _ hr
      have char : g.cursor.char = peek next := by rw [Cursor.char, hr]; rfl
      cases fuel with
      | zero => simp [passGap?, pad]
      | succ fuel => rw [passGap?]; simp [char, stop.1, stop.2, pad]
  | succ m ih =>
      intro fuel g hm hr
      obtain ⟨fuel, rfl⟩ : ∃ f, fuel = f + 1 := ⟨fuel - 1, by omega⟩
      have space : g.cursor.char = ' ' := Cursor.char_of_rest hr
      have rest : (g.cursor.advance 1).rest = pad m ++ next := by
        rw [Cursor.rest_advance, hr]
        rfl
      have later (blanks : List Char) :=
        ih fuel { g with cursor := g.cursor.advance 1, blanks } (by omega) rest
      rw [passGap?]
      cases fresh : g.cursor.fresh with
      | false => simp [space, isBlank, later, fresh, pad_append_cons, Nat.add_comm]
      | true => simp [space, isBlank, later, fresh, Nat.add_comm]

/-- After the end of a line comes the indentation of the next one. -/
theorem passGap?_line (indent : Int) {next : List Char} {c : Cursor} {m : Nat}
    (stop : isBlank (peek next) = false ∧ isBreak (peek next) = false) (fresh : c.fresh = false)
    (hr : c.rest = '\n' :: (pad m ++ next)) :
    passGap? indent (c.rest.length + 1) { cursor := c } =
      some { cursor := (c.newLine 1).advance m, broken := true } := by
  have line : (c.newLine 1).rest = pad m ++ next := by
    rw [Cursor.newLine, hr]
    rfl
  have fuel : m ≤ c.rest.length := by simp [hr, pad]; omega
  have later := passGap?_pad indent stop m c.rest.length
    { cursor := c.newLine 1, broken := true } fuel line
  rw [Cursor.fresh_newLine, if_pos rfl] at later
  rw [passGap?]
  simp only [Cursor.char_of_rest hr, fresh, Cursor.passBreak_of_rest hr]
  simpa [isBlank, isBreak] using later

/-! ### A line -/

/-- The rest of a plain text is read as it stands; `before` is the character in front of it. -/
def Continues : Char → List Char → Prop
  | before, []      => before ≠ ' '
  | before, c :: cs =>
    (endsWord c → c = ' ') ∧ (c = '#' → before ≠ ' ') ∧
      (c = ':' → cs ≠ [] ∧ endsWord (peek cs) = false) ∧ Continues c cs

/-- A text that is read as it stands. -/
def IsPlainText : List Char → Prop
  | []      => False
  | c :: cs => c ≠ ' ' ∧ c ≠ '#' ∧ Continues c (c :: cs)

theorem plainWord_line {b : Char} {t : List Char} (h : Continues b t) (rest : List Char) :
    plainWord false (t ++ '\n' :: rest) = t.takeWhile (· ≠ ' ') := by
  induction t generalizing b with
  | nil => simp [plainWord, endsWord, endsLine, isBreak]
  | cons c t ih =>
      obtain ⟨blank, -, colon, later⟩ := h
      rw [List.cons_append, plainWord]
      by_cases hc : c = ' '
      · subst hc
        rw [if_pos (.inl (by decide))]
        rfl
      · have word : endsWord c = false := by
          rw [← Bool.not_eq_true]
          exact fun no => hc (blank no)
        rw [if_neg, ih later, List.takeWhile_cons_of_pos (by simpa using hc)]
        rintro (no | ⟨rfl, no | no⟩ | no)
        · rw [word] at no
          cases no
        · rw [peek_append_of_ne_nil (colon rfl).1, (colon rfl).2] at no
          cases no
        · exact absurd no.1 (by decide)
        · exact absurd no.1 (by decide)

theorem IsPlainText.ne_nil {t : List Char} (h : IsPlainText t) : t ≠ [] := by
  rintro rfl
  exact h

theorem not_mem_of_continues {b : Char} {t : List Char} (h : Continues b t) : endMark ∉ t := by
  induction t generalizing b with
  | nil => exact List.not_mem_nil
  | cons c t ih =>
      obtain ⟨blank, -, -, later⟩ := h
      rintro (_ | ⟨_, mem⟩)
      · exact absurd (blank rfl) (by decide)
      · exact ih later mem

theorem IsPlainText.clean {t : List Char} (h : IsPlainText t) : endMark ∉ t := by
  cases t with
  | nil => exact absurd h id
  | cons c t => exact not_mem_of_continues h.2.2

/-- After a space come more spaces and then a word. -/
theorem exists_pad_of_continues {b : Char} {t : List Char} (h : Continues b (' ' :: t)) :
    ∃ k u, ' ' :: t = pad (k + 1) ++ u ∧ IsPlainText u := by
  obtain ⟨-, -, -, later⟩ := h
  induction t with
  | nil => exact absurd rfl later
  | cons c t ih =>
      have here := later
      obtain ⟨blank, hash, colon, further⟩ := later
      by_cases hc : c = ' '
      · subst hc
        obtain ⟨k, u, same, plain⟩ := ih further
        exact ⟨k + 1, u, by rw [same]; rfl, plain⟩
      · refine ⟨0, c :: t, rfl, hc, fun h => hash h rfl, blank, fun h => ?_, colon, further⟩
        exact absurd rfl (hash h)

/-- A plain text is a word, or a word, spaces and a plain text. -/
theorem IsPlainText.split {t : List Char} (h : IsPlainText t) :
    ∃ w, w ≠ [] ∧ t.takeWhile (· ≠ ' ') = w ∧
      (t = w ∨ ∃ k u, t = w ++ (pad (k + 1) ++ u) ∧ IsPlainText u) := by
  cases t with
  | nil => exact absurd h id
  | cons c t =>
      obtain ⟨space, -, -, -, -, later⟩ := h
      refine ⟨_, ?_, rfl, ?_⟩
      · simp [space]
      · rw [List.takeWhile_cons_of_pos (by simpa using space)]
        suffices tail : t = t.takeWhile (· ≠ ' ') ∨
            ∃ k u, t = t.takeWhile (· ≠ ' ') ++ (pad (k + 1) ++ u) ∧ IsPlainText u by
          rcases tail with same | ⟨k, u, same, plain⟩
          · exact .inl (congrArg (c :: ·) same)
          · exact .inr ⟨k, u, congrArg (c :: ·) same, plain⟩
        induction t generalizing c with
        | nil => exact .inl rfl
        | cons d t ih =>
            have here := later
            obtain ⟨-, -, -, further⟩ := later
            by_cases hd : d = ' '
            · subst hd
              obtain ⟨k, u, same, plain⟩ := exists_pad_of_continues here
              exact .inr ⟨k, u, by simpa using same, plain⟩
            · rw [List.takeWhile_cons_of_pos (by simpa using hd)]
              rcases ih d hd further with same | ⟨k, u, same, plain⟩
              · exact .inl (congrArg (d :: ·) same)
              · exact .inr ⟨k, u, congrArg (d :: ·) same, plain⟩

theorem plainFrom?_line {indent : Int} {m : Nat} {next : List Char}
    (stop : isBlank (peek next) = false ∧ isBreak (peek next) = false) (left : m < indent) :
    ∀ (fuel : Nat) (t : List Char), t.length < fuel → IsPlainText t → ∀ (acc : List Char) (g : Gap),
      g.cursor.rest = t ++ '\n' :: (pad m ++ next) → g.cursor.column ≠ 0 →
      indent ≤ g.cursor.column →
      plainFrom? false indent fuel acc g =
        some (t.reverse ++ ((if acc.isEmpty then [] else g.folded) ++ acc),
          g.cursor.nextLine t.length m) := by
  intro fuel
  induction fuel with
  | zero => intro t ht; omega
  | succ fuel ih =>
      intro t ht plain acc g hr column inside
      obtain ⟨hash, word⟩ : g.cursor.char ≠ '#' ∧
          plainWord false g.cursor.rest = t.takeWhile (· ≠ ' ') := by
        obtain ⟨c, cs, rfl⟩ := List.exists_cons_of_ne_nil plain.ne_nil
        rw [Cursor.char_of_rest hr, hr]
        exact ⟨plain.2.1, plainWord_line plain.2.2 _⟩
      obtain ⟨w, some, same, split⟩ := plain.split
      rw [same] at word
      have marker := Cursor.atDocumentMarker_of_column column
      rw [plainFrom?]
      simp only [marker, hash, word, List.isEmpty_eq_false_iff.mpr some, false_and, or_self,
        if_false, Bool.false_eq_true]
      generalize hacc : w.reverse ++ ((if acc.isEmpty then [] else g.folded) ++ acc) = acc'
      rcases split with rfl | ⟨k, u, rfl, later⟩
      · -- the last word: the line ends here
        have line : (g.cursor.pass t.length).rest = '\n' :: (pad m ++ next) := by
          rw [Cursor.rest_pass, hr, List.drop_left]
        have outside :
            ((((g.cursor.pass t.length).newLine 1).advance m).column : Int) < indent := by
          rw [← Cursor.nextLine, Cursor.column_nextLine]
          exact left
        rw [if_neg (by simp [Cursor.char_of_rest line, isBreak]),
          passGap?_line indent stop (Cursor.fresh_pass ..) line]
        simp only [not_false_eq_true, true_and, if_pos outside, ← hacc]
        rfl
      · have gap : (g.cursor.pass w.length).rest =
            pad (k + 1) ++ (u ++ '\n' :: (pad m ++ next)) := by
          rw [Cursor.rest_pass, hr, List.append_assoc, List.append_assoc, List.drop_left]
        have space : (g.cursor.pass w.length).char = ' ' := Cursor.char_of_rest gap
        have word_next : isBlank (peek (u ++ '\n' :: (pad m ++ next))) = false ∧
            isBreak (peek (u ++ '\n' :: (pad m ++ next))) = false := by
          obtain ⟨c, cs, rfl⟩ := List.exists_cons_of_ne_nil later.ne_nil
          have : endsWord c = false := by
            rw [← Bool.not_eq_true]
            exact fun no => later.1 (later.2.2.1 no)
          exact ⟨(not_endsWord_iff.mp this).1, (not_endsWord_iff.mp this).2.1⟩
        have fuel_gap : k + 1 ≤ (g.cursor.pass w.length).rest.length + 1 := by
          rw [gap, List.length_append, length_pad]
          omega
        have passed := passGap?_pad indent word_next (k + 1) _
          { cursor := g.cursor.pass w.length } fuel_gap gap
        have rest : ((g.cursor.pass w.length).advance (k + 1)).rest =
            u ++ '\n' :: (pad m ++ next) := by
          rw [Cursor.rest_advance, gap, List.drop_left' (by simp [pad])]
        rw [if_neg (by simp [space, isBlank]), passed]
        simp only [not_false_eq_true, true_and]
        have short : u.length < fuel := by
          simp only [List.length_append, length_pad] at ht
          omega
        rw [if_neg, ih u short later acc' _ rest]
        · have same_line : ((g.cursor.pass w.length).advance (k + 1)).nextLine u.length m =
              g.cursor.nextLine (w ++ (pad (k + 1) ++ u)).length m := by
            simp [Cursor.nextLine]
          simp [same_line, ← hacc, some, Gap.folded]
        · simp
        · simp
          omega
        · simp
          omega

/-- **A plain text in its line.** -/
theorem plain?_line {indent : Int} {m : Nat} {t next : List Char} {c : Cursor}
    (plain : IsPlainText t) (hr : c.rest = t ++ '\n' :: (pad m ++ next))
    (stop : isBlank (peek next) = false ∧ isBreak (peek next) = false) (left : m < indent)
    (column : c.column ≠ 0) (inside : indent ≤ c.column) :
    plain? false indent c = some (String.ofList t, c.nextLine t.length m) := by
  have fuel : t.length < c.rest.length + 1 := by
    rw [hr, List.length_append]
    omega
  have read := plainFrom?_line stop left _ t fuel plain [] { cursor := c } hr column inside
  rw [plain?, if_neg (by simp), read]
  simp [plain.ne_nil]

end Courier.Yaml
