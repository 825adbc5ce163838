import Courier.Yaml.Cursor

/-!
# Courier — Proofs — Passing characters

Where a cursor is after it has passed characters of a line, in one go or in several, and after it
has gone on to a further line.
-/

namespace Courier.Yaml

/-! ### Characters -/

theorem peek_append_of_ne_nil {cs : List Char} (h : cs ≠ []) (rest : List Char) :
    peek (cs ++ rest) = peek cs := by
  cases cs with
  | nil => exact absurd rfl h
  | cons c cs => rfl

theorem peek_eq_peekNext (c : Char) (cs : List Char) : peek cs = peekNext (c :: cs) := by
  cases cs <;> rfl

/-- A character at which a word does not end. -/
theorem not_endsWord_iff {c : Char} :
    endsWord c = false ↔ isBlank c = false ∧ isBreak c = false ∧ c ≠ endMark := by
  simp [endsWord, endsLine]

/-! ### Spaces -/

/-- Spaces, as at the start of a line. -/
def pad (n : Nat) : List Char := List.replicate n ' '

@[simp] theorem length_pad (n : Nat) : (pad n).length = n := List.length_replicate

@[simp] theorem reverse_pad (n : Nat) : (pad n).reverse = pad n := List.reverse_replicate

theorem pad_append_cons (n : Nat) (cs : List Char) : pad n ++ ' ' :: cs = pad (n + 1) ++ cs := by
  rw [pad, pad, List.replicate_succ', List.append_assoc]
  rfl

/-- A text is a word, or a word and spaces in front of the rest. -/
theorem exists_word (t : List Char) :
    ∃ w, (∀ x ∈ w, x ≠ ' ') ∧
      (t = w ∨ ∃ k u, t = w ++ (pad (k + 1) ++ u) ∧ u.head? ≠ some ' ') := by
  induction t with
  | nil => exact ⟨[], by simp, .inl rfl⟩
  | cons c t ih =>
      obtain ⟨w, hw, split⟩ := ih
      by_cases hc : c = ' '
      · subst hc
        refine ⟨[], by simp, .inr ?_⟩
        cases w with
        | nil =>
            rcases split with rfl | ⟨k, u, rfl, head⟩
            · exact ⟨0, [], rfl, by simp⟩
            · exact ⟨k + 1, u, rfl, head⟩
        | cons d w =>
            have head : (d :: w).head? ≠ some ' ' := by simpa using hw d (List.mem_cons_self ..)
            refine ⟨0, t, rfl, ?_⟩
            rcases split with rfl | ⟨k, u, rfl, -⟩
            · exact head
            · exact head
      · refine ⟨c :: w, ?_, ?_⟩
        · simpa [hc] using hw
        · rcases split with rfl | ⟨k, u, rfl, head⟩
          · exact .inl rfl
          · exact .inr ⟨k, u, rfl, head⟩

namespace Cursor

section
variable (c : Cursor)

@[simp] theorem rest_advance (n : Nat) : (c.advance n).rest = c.rest.drop n := rfl
@[simp] theorem column_advance (n : Nat) : (c.advance n).column = c.column + n := rfl
@[simp] theorem line_advance (n : Nat) : (c.advance n).line = c.line := rfl
@[simp] theorem fresh_advance (n : Nat) : (c.advance n).fresh = c.fresh := rfl
@[simp] theorem rest_pass (n : Nat) : (c.pass n).rest = c.rest.drop n := rfl
@[simp] theorem column_pass (n : Nat) : (c.pass n).column = c.column + n := rfl
@[simp] theorem line_pass (n : Nat) : (c.pass n).line = c.line := rfl
@[simp] theorem index_pass (n : Nat) : (c.pass n).index = c.index + n := rfl
@[simp] theorem fresh_pass (n : Nat) : (c.pass n).fresh = false := rfl

@[simp] theorem advance_zero : c.advance 0 = c := rfl

@[simp] theorem advance_advance (m n : Nat) : (c.advance m).advance n = c.advance (m + n) := by
  simp [advance, Nat.add_assoc]

@[simp] theorem pass_pass (m n : Nat) : (c.pass m).pass n = c.pass (m + n) := by
  simp [pass, advance, Nat.add_assoc]

@[simp] theorem advance_pass (m n : Nat) : (c.advance m).pass n = c.pass (m + n) := by
  simp [pass, advance, Nat.add_assoc]

@[simp] theorem fresh_newLine (n : Nat) : (c.newLine n).fresh = true := rfl

/-- In the next line, after its indentation; `n` characters of this line stand before its end. -/
def nextLine (n column : Nat) : Cursor := ((c.pass n).newLine 1).advance column

@[simp] theorem rest_nextLine (n column : Nat) :
    (c.nextLine n column).rest = c.rest.drop (n + 1 + column) := by
  simp [nextLine, newLine, Nat.add_assoc]

@[simp] theorem column_nextLine (n column : Nat) : (c.nextLine n column).column = column :=
  Nat.zero_add column

@[simp] theorem line_nextLine (n column : Nat) : (c.nextLine n column).line = c.line + 1 := rfl
@[simp] theorem fresh_nextLine (n column : Nat) : (c.nextLine n column).fresh = true := rfl

end

variable {c : Cursor} {x : Char} {cs : List Char}

theorem pass_zero (h : c.fresh = false) : c.pass 0 = c := by
  obtain ⟨rest, index, line, column, fresh⟩ := c
  cases h
  rfl

theorem char_of_rest (h : c.rest = x :: cs) : c.char = x := by rw [char, h]; rfl

theorem next_of_rest (h : c.rest = x :: cs) : c.next = peek cs := by
  rw [next, h]
  cases cs <;> rfl

theorem passBreak_of_rest (h : c.rest = '\n' :: cs) : c.passBreak = c.newLine 1 := by
  rw [passBreak, char_of_rest h, if_neg fun no => absurd no.1 (by decide)]

theorem rest_nextLine_of {w next : List Char} {m : Nat}
    (h : c.rest = w ++ '\n' :: (pad m ++ next)) : (c.nextLine w.length m).rest = next := by
  have line : (c.rest.drop w.length).drop 1 = pad m ++ next := by
    rw [h, List.drop_left]
    rfl
  rw [rest_nextLine, ← List.drop_drop, ← List.drop_drop, line, List.drop_left' (length_pad m)]

theorem atDocumentMarker_of_column (h : c.column ≠ 0) : c.atDocumentMarker = false := by
  simp [atDocumentMarker, atMarker, h]

/-- Without white space in front there is nothing to pass. -/
theorem passBlanks?_of_peek (tabs : Bool) (blank : isBlank (Yaml.peek c.rest) = false)
    (hash : Yaml.peek c.rest ≠ '#') : c.passBlanks? tabs = some (false, false, c) := by
  have nothing : c.rest.takeWhile (fun x => x == ' ' || (tabs && x == '\t')) = [] := by
    cases h : c.rest with
    | nil => rfl
    | cons x cs =>
        rw [h] at blank
        rw [peek, isBlank, Bool.or_eq_false_iff] at blank
        rw [List.takeWhile_cons_of_neg]
        simp [blank.1, blank.2]
  rw [passBlanks?]
  simp only [nothing, List.length_nil, advance_zero]
  exact if_pos hash

theorem passBlanks?_of_rest (tabs : Bool) (h : c.rest = x :: cs) (blank : isBlank x = false)
    (hash : x ≠ '#') : c.passBlanks? tabs = some (false, false, c) :=
  passBlanks?_of_peek tabs (by rwa [h]) (by rwa [h])

theorem passBlanks?_of_space (h : c.rest = ' ' :: cs) (blank : isBlank (Yaml.peek cs) = false)
    (hash : Yaml.peek cs ≠ '#') : c.passBlanks? true = some (false, true, c.advance 1) := by
  have one : c.rest.takeWhile (fun x => x == ' ' || (true && x == '\t')) = [' '] := by
    rw [h]
    cases cs with
    | nil => rfl
    | cons x cs =>
        rw [peek, isBlank, Bool.or_eq_false_iff] at blank
        simp [blank.1, blank.2]
  have after : (c.advance 1).rest = cs := congrArg (List.drop 1) h
  rw [passBlanks?]
  simp only [one, List.length_singleton]
  rw [if_pos (by rwa [Cursor.char, after])]
  rfl

end Cursor

end Courier.Yaml
