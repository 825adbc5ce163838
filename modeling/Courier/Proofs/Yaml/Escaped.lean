import Courier.Json.Printer
import Courier.Proofs.Text.Numeral
import Courier.Proofs.Yaml.Quoted
import Courier.Yaml.Style

/-!
# Courier — Proofs — Characters between quotes

Every character that a writer puts between quotes is spelled there: in single quotes
(`spelled_singleQuoted`), in double quotes with the escapes of YAML (`spelled_writeEscaped`) and
with those of JSON (`spelled_escapeChar`).  Single quotes hold no tabs, line breaks and NULs; there
is no escape for them.
-/

namespace Courier.Text

theorem digitValue?_toUpper (base : Nat) (c : Char) :
    digitValue? base c.toUpper = digitValue? base c := by
  unfold Char.toUpper
  split
  · rename_i lower
    have low : 97 ≤ c.val.toNat := by simpa [UInt32.le_iff_toNat_le] using lower.1
    have high : c.val.toNat ≤ 122 := by simpa [UInt32.le_iff_toNat_le] using lower.2
    have here : c.toNat = c.val.toNat := rfl
    have upper : ∀ h, (⟨c.val + ('A'.val - 'a'.val), h⟩ : Char).toNat = c.val.toNat - 32 := by
      intro h
      change (c.val + ('A'.val - 'a'.val)).toNat = _
      simp [UInt32.toNat_add]
      omega
    simp only [digitValue?, here, upper]
    split_ifs <;> first | omega | rfl
  · rfl

theorem digitsFrom_map_toUpper (base acc : Nat) (cs : List Char) :
    digitsFrom base acc (cs.map Char.toUpper) = digitsFrom base acc cs := by
  induction cs generalizing acc with
  | nil => rfl
  | cons c cs ih =>
      rw [List.map_cons, digitsFrom, digitsFrom, digitValue?_toUpper]
      cases digitValue? base c with
      | none => rfl
      | some v => exact ih _

theorem digitsFrom_replicate_zero {base : Nat} (h : 0 < base) (k : Nat) (cs : List Char) :
    digitsFrom base 0 (List.replicate k '0' ++ cs) = digitsFrom base 0 cs := by
  induction k with
  | zero => rfl
  | succ k ih =>
      have zero : digitValue? base '0' = some 0 := if_pos h
      rw [List.replicate_succ, List.cons_append, digitsFrom, zero]
      simpa using ih

end Courier.Text

namespace Courier.Yaml

section
variable {quote x : Char}

/-! ### Without an escape -/

theorem spells_self (word : endsWord x = false) (other : x ≠ quote)
    (plain : x = '\\' → quote = '\'') : Spells quote [x] x where
  start := word
  clean := by
    rw [List.mem_singleton]
    rintro rfl
    cases word
  step := by
    intro fuel acc rest c hr
    have char : c.char = x := Cursor.char_of_rest hr
    have no_escape : ¬ (x = '\\' ∧ quote ≠ '\'') := fun h => h.2 (plain h.1)
    rw [quotedWord?]
    simp only [char, word, other, if_neg no_escape, if_false, Bool.false_eq_true]
    rfl

theorem spells_quote : Spells '\'' ['\'', '\''] '\'' where
  start := rfl
  clean := by decide
  step := by
    intro fuel acc rest c hr
    have char : c.char = '\'' := Cursor.char_of_rest hr
    have next : c.next = '\'' := Cursor.next_of_rest hr
    rw [quotedWord?]
    simp only [char, next]
    rfl

/-- **In single quotes** a quote is written twice. -/
theorem spelled_singleQuoted (h : x = ' ' ∨ endsWord x = false) :
    Spelled '\'' (fun c => if c = '\'' then ['\'', '\''] else [c]) x := by
  by_cases space : x = ' '
  · subst space
    rfl
  · have word := h.resolve_left space
    rw [Spelled, if_neg space]
    by_cases same : x = '\''
    · subst same
      exact spells_quote
    · simp only [if_neg same]
      exact spells_self word same fun _ => rfl

/-! ### Escapes -/

theorem spells_escape {body : List Char}
    (h : ∀ rest, escaped? (body ++ rest) = some (x, body.length))
    (line : isBreak (peek body) = false) (nonempty : body ≠ []) (clean : endMark ∉ body) :
    Spells '\x22' ('\\' :: body) x where
  start := rfl
  clean := by simpa [endMark] using clean
  step := by
    intro fuel acc rest c hr
    have char : c.char = '\\' := Cursor.char_of_rest hr
    have next : c.next = peek body := by
      rw [Cursor.next_of_rest hr]
      exact peek_append_of_ne_nil nonempty rest
    have read : escaped? (c.rest.drop 1) = some (x, body.length) := by
      rw [hr]
      exact h rest
    rw [quotedWord?]
    simp only [char, next, line, read]
    rfl

theorem spells_letter {letter : Char} {n : Nat} (h : escapes.lookup letter = some n)
    (line : endsLine letter = false) : Spells '\x22' ['\\', letter] (Char.ofNat n) := by
  rw [endsLine, Bool.or_eq_false_iff, beq_eq_false_iff_ne] at line
  refine spells_escape (fun rest => ?_) line.1 (by simp) (by simpa using line.2.symm)
  rw [escaped?]
  simp only [List.cons_append, peek, h]
  rfl

/-- An escape with as many hexadecimal digits as its letter asks for. -/
theorem spells_hex {letter : Char} {count : Nat} {ds : List Char}
    (other : escapes.lookup letter = none) (digits : escapeDigits? letter = some count)
    (length : ds.length = count) (value : Text.natural? 16 ds = some x.toNat)
    (line : endsLine letter = false) : Spells '\x22' ('\\' :: letter :: ds) x := by
  rw [endsLine, Bool.or_eq_false_iff, beq_eq_false_iff_ne] at line
  have clean : endMark ∉ ds := fun mem => by
    rw [Text.natural?_eq_none_of_digitValue? mem rfl] at value
    cases value
  refine spells_escape (fun rest => ?_) line.1 (by simp) (by simp [clean, line.2.symm])
  have valid : x.toNat.isValidChar := x.valid
  rw [escaped?]
  simp only [List.cons_append, peek, other, digits]
  simp [← length, value, valid]

theorem length_upperHex {width n : Nat} (positive : width ≠ 0) (h : n < 16 ^ width) :
    (upperHex width n).length = width := by
  have short :=
    (Nat.length_toDigits_le_iff (b := 16) (by decide) (Nat.pos_of_ne_zero positive)).mpr h
  simp only [upperHex, List.length_append, List.length_replicate, List.length_map]
  omega

theorem natural?_upperHex (width n : Nat) : Text.natural? 16 (upperHex width n) = some n := by
  have nonempty : upperHex width n ≠ [] := by simp [upperHex, Nat.toDigits_ne_nil]
  rw [Text.natural?_of_ne_nil nonempty, upperHex, Text.digitsFrom_replicate_zero (by decide),
    Text.digitsFrom_map_toUpper, Text.digitsFrom_toDigits (by decide) (by decide)]

/-- The writer's letters are the reader's. -/
theorem escapes_of_letterEscapes :
    ∀ e ∈ letterEscapes, escapes.lookup e.2 = some e.1 ∧ endsLine e.2 = false := by
  decide

/-- A character that stands for itself is no white space in this reader's view. -/
theorem endsWord_of_printable (printable : isPrintable x) (line : breaksLine x = false)
    (space : x ≠ ' ') : endsWord x = false := by
  have tab : x ≠ '\t' := by rintro rfl; exact absurd printable (by decide)
  have zero : x ≠ endMark := by rintro rfl; exact absurd printable (by decide)
  simp [breaksLine] at line
  simp [endsWord, endsLine, isBlank, space, tab, zero, line]

/-- **In double quotes**, with the escapes of YAML. -/
theorem spelled_writeEscaped (x : Char) : Spelled '\x22' writeEscaped x := by
  by_cases space : x = ' '
  · subst space
    rw [Spelled, if_pos rfl]
    rfl
  · rw [Spelled, if_neg space, writeEscaped]
    by_cases itself : isPrintable x ∧ ¬ breaksLine x ∧ x ≠ '\x22' ∧ x ≠ '\\'
    · obtain ⟨printable, line, quote, backslash⟩ := itself
      rw [if_pos ⟨printable, line, quote, backslash⟩]
      exact spells_self (endsWord_of_printable printable (by simpa using line) space) quote
        fun h => absurd h backslash
    · rw [if_neg itself]
      cases letters : letterEscapes.lookup x.toNat with
      | some letter =>
          obtain ⟨_, _, split, -⟩ := List.lookup_eq_some_iff.mp letters
          have known := escapes_of_letterEscapes (x.toNat, letter) (by rw [split]; simp)
          simpa using spells_letter known.1 known.2
      | none =>
          have valid : x.toNat < 0x110000 := by
            have := x.valid
            simp only [UInt32.isValidChar, Nat.isValidChar] at this
            have here : x.toNat = x.val.toNat := rfl
            omega
          have value (width : Nat) := natural?_upperHex width x.toNat
          dsimp only
          split_ifs with byte pair
          · exact spells_hex rfl rfl (length_upperHex (by decide) (by omega)) (value 2) rfl
          · exact spells_hex rfl rfl (length_upperHex (by decide) (by omega)) (value 4) rfl
          · exact spells_hex rfl rfl (length_upperHex (by decide) (by omega)) (value 8) rfl

/-- **In double quotes**, with the escapes of JSON. -/
theorem spelled_escapeChar (x : Char) : Spelled '\x22' Json.escapeChar x := by
  by_cases space : x = ' '
  · subst space
    rw [Spelled, if_pos rfl]
    rfl
  · rw [Spelled, if_neg space, Json.escapeChar]
    have back {n : Nat} (h : x.toNat = n) : Char.ofNat n = x := h ▸ Char.ofNat_toNat x
    split_ifs with quote backslash feed ret tab bell form control
    · subst quote
      exact spells_letter (n := 0x22) rfl rfl
    · subst backslash
      exact spells_letter (n := 0x5C) rfl rfl
    · subst feed
      exact spells_letter (n := 0xA) rfl rfl
    · subst ret
      exact spells_letter (n := 0xD) rfl rfl
    · subst tab
      exact spells_letter (n := 0x9) rfl rfl
    · exact back bell ▸ spells_letter (n := 0x8) rfl rfl
    · exact back form ▸ spells_letter (n := 0xC) rfl rfl
    · refine spells_hex rfl rfl rfl ?_ rfl
      have high : Text.digitValue? 16 (x.toNat / 16).digitChar = some (x.toNat / 16) :=
        Text.digitValue?_digitChar (by decide) (by omega)
      have low : Text.digitValue? 16 (x.toNat % 16).digitChar = some (x.toNat % 16) :=
        Text.digitValue?_digitChar (by decide) (by omega)
      have zero : Text.digitValue? 16 '0' = some 0 := rfl
      simp [Text.natural?, Text.digitsFrom, zero, high, low]
      omega
    · refine spells_self ?_ quote fun h => absurd h backslash
      have zero : x ≠ endMark := by rintro rfl; exact control (by decide)
      simp [endsWord, endsLine, isBlank, isBreak, space, tab, zero, feed, ret]

end

end Courier.Yaml
