import Courier.Proofs.Yaml.Cursor
import Courier.Yaml.Token.Quoted

/-!
# Courier — Proofs — Reading quoted texts

Between quotes every character but the space is spelled, as itself or by several characters that
are read in one go (`Spells`), and spaces stand as they are.  Such a text in one line is read back
(`quotedFrom?_line`).
-/

namespace Courier.Yaml

/-- Between these quotes, `w` is read as `x`. -/
structure Spells (quote : Char) (w : List Char) (x : Char) : Prop where
  start : endsWord (peek w) = false
  clean : endMark ∉ w
  step  : ∀ (fuel : Nat) (acc rest : List Char) (c : Cursor), c.rest = w ++ rest →
    quotedWord? quote (fuel + 1) acc c = quotedWord? quote fuel (x :: acc) (c.pass w.length)

theorem Spells.ne_nil {quote x : Char} {w : List Char} (h : Spells quote w x) : w ≠ [] := by
  rintro rfl
  exact absurd h.start (by decide)

/-- A character is spelled, or it is a space. -/
def Spelled (quote : Char) (write : Char → List Char) (x : Char) : Prop :=
  if x = ' ' then write x = [' '] else Spells quote (write x) x

section
variable {quote : Char} {write : Char → List Char}

theorem peek_flatMap {x : Char} (h : Spells quote (write x) x) (xs rest : List Char) :
    peek ((x :: xs).flatMap write ++ rest) = peek (write x) := by
  rw [List.flatMap_cons, List.append_assoc, peek_append_of_ne_nil h.ne_nil]

theorem quotedWord?_flatMap {t : List Char} (h : ∀ x ∈ t, Spells quote (write x) x) :
    ∀ (fuel : Nat) (acc rest : List Char) (c : Cursor), c.fresh = false →
      c.rest = t.flatMap write ++ rest →
      quotedWord? quote (t.length + fuel) acc c =
        quotedWord? quote fuel (t.reverse ++ acc) (c.pass (t.flatMap write).length) := by
  induction t with
  | nil =>
      intro fuel acc rest c fresh _
      rw [List.flatMap_nil, List.length_nil, Cursor.pass_zero fresh, Nat.zero_add]
      rfl
  | cons x t ih =>
      intro fuel acc rest c _ hr
      rw [List.flatMap_cons, List.append_assoc] at hr
      have first := (h x (List.mem_cons_self ..)).step (t.length + fuel) acc _ c hr
      have later := ih (fun y hy => h y (List.mem_cons_of_mem _ hy)) fuel (x :: acc) rest
        (c.pass (write x).length) rfl (by rw [Cursor.rest_pass, hr, List.drop_left])
      rw [List.length_cons, Nat.add_right_comm, first, later, List.flatMap_cons, Cursor.pass_pass,
        List.length_append, List.reverse_cons, List.append_assoc]
      rfl

theorem passQuotedGap?_spaces (indent : Int) {next : List Char}
    (stop : isBlank (peek next) = false ∧ isBreak (peek next) = false) :
    ∀ (m fuel : Nat) (g : QuotedGap), m ≤ fuel → g.newLine = false →
      g.cursor.rest = pad m ++ next →
      passQuotedGap? indent fuel g =
        some { g with cursor := g.cursor.advance m, blanks := pad m ++ g.blanks } := by
  intro m
  induction m with
  | zero =>
      intro fuel g _ _ hr
      have char : g.cursor.char = peek next := by rw [Cursor.char, hr]; rfl
      cases fuel with
      | zero => rfl
      | succ fuel => rw [passQuotedGap?]; simp [char, stop.1, stop.2, pad]
  | succ m ih =>
      intro fuel g hm hf hr
      obtain ⟨fuel, rfl⟩ : ∃ f, fuel = f + 1 := ⟨fuel - 1, by omega⟩
      have space : g.cursor.char = ' ' := Cursor.char_of_rest hr
      have rest : (g.cursor.advance 1).rest = pad m ++ next := by
        rw [Cursor.rest_advance, hr]
        rfl
      have later := ih fuel { g with cursor := g.cursor.advance 1, blanks := ' ' :: g.blanks }
        (by omega) hf rest
      simp only [hf] at later
      rw [passQuotedGap?]
      simp only [space, hf]
      simp [isBlank, later, pad_append_cons, Nat.add_comm]

/-- The word up to a space or the quote. -/
theorem quotedWord?_word {t : List Char} (h : ∀ x ∈ t, Spells quote (write x) x)
    {fuel : Nat} (acc : List Char) {rest : List Char} {c : Cursor} (fresh : c.fresh = false)
    (hr : c.rest = t.flatMap write ++ rest) (enough : t.length < fuel)
    (stop : peek rest = ' ' ∨ peek rest = quote ∧ (quote = '\'' → peekNext rest ≠ '\'')) :
    quotedWord? quote fuel acc c =
      some (t.reverse ++ acc, c.pass (t.flatMap write).length, false) := by
  obtain ⟨more, rfl⟩ : ∃ m, fuel = t.length + (m + 1) := ⟨fuel - t.length - 1, by omega⟩
  have here : (c.pass (t.flatMap write).length).rest = rest := by
    rw [Cursor.rest_pass, hr, List.drop_left]
  rw [quotedWord?_flatMap h (more + 1) acc rest c fresh hr, quotedWord?]
  simp only [Cursor.char, Cursor.next, here]
  rcases stop with space | ⟨same, other⟩
  · rw [space]
    rfl
  · rw [same]
    split
    · rfl
    · rw [if_pos rfl, if_neg]
      rintro ⟨single, again⟩
      exact other single (again.trans single)

theorem length_le_flatMap {t : List Char} (h : ∀ x ∈ t, Spelled quote write x) :
    t.length ≤ (t.flatMap write).length := by
  induction t with
  | nil => exact Nat.le_refl 0
  | cons x t ih =>
      have first : 0 < (write x).length := by
        have hx := h x (List.mem_cons_self ..)
        rw [Spelled] at hx
        split at hx
        · simp [hx]
        · exact List.length_pos_iff.mpr hx.ne_nil
      have later := ih fun y hy => h y (List.mem_cons_of_mem _ hy)
      rw [List.flatMap_cons, List.length_append, List.length_cons]
      omega

theorem Spelled.clean {x : Char} (h : Spelled quote write x) : endMark ∉ write x := by
  rw [Spelled] at h
  split at h
  · rw [h]
    decide
  · exact h.clean

theorem Spelled.spells {x : Char} (h : Spelled quote write x) (word : x ≠ ' ') :
    Spells quote (write x) x := by
  rwa [Spelled, if_neg word] at h

theorem flatMap_pad (space : write ' ' = [' ']) (k : Nat) : (pad k).flatMap write = pad k := by
  induction k with
  | zero => rfl
  | succ k ih =>
      rw [pad, List.replicate_succ, List.flatMap_cons, space]
      exact congrArg (' ' :: ·) ih

theorem endsWord_peek_flatMap {t : List Char} (h : ∀ x ∈ t, Spelled quote write x)
    (word : endsWord quote = false) (head : t.head? ≠ some ' ') (follow : List Char) :
    endsWord (peek (t.flatMap write ++ quote :: follow)) = false := by
  cases t with
  | nil => exact word
  | cons x t =>
      have other : x ≠ ' ' := by simpa using head
      have spells := (h x (List.mem_cons_self ..)).spells other
      rw [peek_flatMap spells]
      exact spells.start

theorem ne_endMark_of_line {t follow : List Char} (space : write ' ' = [' '])
    (word : endsWord quote = false) (h : ∀ x ∈ t, Spelled quote write x) :
    peek (t.flatMap write ++ quote :: follow) ≠ endMark := by
  by_cases head : t.head? = some ' '
  · obtain ⟨t, rfl⟩ := List.head?_eq_some_iff.mp head
    rw [List.flatMap_cons, space]
    exact (by decide : ' ' ≠ endMark)
  · exact (not_endsWord_iff.mp (endsWord_peek_flatMap h word head follow)).2.2

/-- **A text between quotes** in one line. -/
theorem quotedFrom?_line {indent : Int} {follow : List Char} (space : write ' ' = [' '])
    (word : endsWord quote = false) (after : quote = '\'' → peek follow ≠ '\'') :
    ∀ (fuel : Nat) (t : List Char), t.length < fuel → (∀ x ∈ t, Spelled quote write x) →
      ∀ (acc : List Char) (c : Cursor), c.fresh = false →
      c.rest = t.flatMap write ++ quote :: follow → c.column ≠ 0 → indent ≤ c.column →
      quotedFrom? quote indent fuel acc c =
        some (t.reverse ++ acc, c.pass ((t.flatMap write).length + 1)) := by
  intro fuel
  induction fuel with
  | zero => intro t ht; omega
  | succ fuel ih =>
      intro t ht h acc c fresh hr column inside
      have more : ¬ (c.atDocumentMarker ∨ c.atEnd ∨ c.column < indent) := by
        rintro (no | no | no)
        · rw [Cursor.atDocumentMarker_of_column column] at no
          cases no
        · have mark := eq_of_beq no
          rw [Cursor.char, hr] at mark
          exact ne_endMark_of_line space word h mark
        · omega
      have enough : t.length < c.rest.length + 1 := by
        have := length_le_flatMap h
        rw [hr, List.length_append]
        omega
      obtain ⟨w, hw, rfl | ⟨k, u, rfl, head⟩⟩ := exists_word t
      · -- the last word: the quote follows
        have spells : ∀ x ∈ t, Spells quote (write x) x := fun x hx => (h x hx).spells (hw x hx)
        have read := quotedWord?_word spells acc fresh hr enough (.inr ⟨rfl, fun h => by
          rw [← peek_eq_peekNext]
          exact after h⟩)
        have closing : (c.pass (t.flatMap write).length).char = quote :=
          Cursor.char_of_rest (by rw [Cursor.rest_pass, hr, List.drop_left])
        rw [quotedFrom?]
        simp only [if_neg more, read, if_pos closing, Cursor.pass_pass]
      · have spells : ∀ x ∈ w, Spells quote (write x) x := fun x hx =>
          (h x (List.mem_append_left _ hx)).spells (hw x hx)
        have later : ∀ x ∈ u, Spelled quote write x := fun x hx =>
          h x (List.mem_append_right _ (List.mem_append_right _ hx))
        rw [List.flatMap_append, List.flatMap_append, flatMap_pad space, List.append_assoc,
          List.append_assoc] at hr
        have word_enough : w.length < c.rest.length + 1 := by
          rw [List.length_append] at enough
          omega
        have read := quotedWord?_word spells acc fresh hr word_enough (.inl rfl)
        have gap : (c.pass (w.flatMap write).length).rest =
            pad (k + 1) ++ (u.flatMap write ++ quote :: follow) := by
          rw [Cursor.rest_pass, hr, List.drop_left]
        have stop := not_endsWord_iff.mp (endsWord_peek_flatMap later word head follow)
        have gap_enough : k + 1 ≤ (c.pass (w.flatMap write).length).rest.length + 1 := by
          rw [gap, List.length_append, length_pad]
          omega
        have passed := passQuotedGap?_spaces indent ⟨stop.1, stop.2.1⟩ (k + 1) _
          { cursor := c.pass (w.flatMap write).length } gap_enough rfl gap
        have space_next : (c.pass (w.flatMap write).length).char ≠ quote := by
          rw [Cursor.char_of_rest gap]
          rintro rfl
          exact absurd word (by decide)
        have short : u.length < fuel := by
          simp only [List.length_append, length_pad] at ht
          omega
        have rest := ih u short later (pad (k + 1) ++ (w.reverse ++ acc))
          ((c.pass (w.flatMap write).length).advance (k + 1)) rfl
          (by rw [Cursor.rest_advance, gap, List.drop_left' (length_pad _)])
          (by simp) (by rw [Cursor.column_advance, Cursor.column_pass]; omega)
        rw [quotedFrom?]
        simp only [if_neg more, read, if_neg space_next, passed]
        simp only [QuotedGap.folded, Bool.false_eq_true, not_false_eq_true, if_true,
          List.append_nil]
        rw [rest, Cursor.advance_pass, Cursor.pass_pass]
        simp [flatMap_pad space, -List.length_flatMap, Nat.add_assoc]

theorem of_mayFollowQuoted {flow : Bool} {x : Char} (h : mayFollowQuoted flow true x) :
    isBlank x = false ∧ x ≠ '#' ∧ x ≠ '\'' := by
  refine ⟨?_, ?_, ?_⟩
  · rw [← Bool.not_eq_true]
    intro blank
    rw [isBlank, Bool.or_eq_true, beq_iff_eq, beq_iff_eq] at blank
    rcases blank with rfl | rfl <;> cases flow <;> exact absurd h (by decide)
  · rintro rfl
    cases flow <;> exact absurd h (by decide)
  · rintro rfl
    cases flow <;> exact absurd h (by decide)

theorem rest_after_quoted {c : Cursor} {t follow : List Char}
    (hr : c.rest = quote :: (t.flatMap write ++ quote :: follow)) :
    (c.pass ((t.flatMap write).length + 2)).rest = follow := by
  have whole : c.rest = quote :: (t.flatMap write ++ [quote]) ++ follow := by
    rw [hr]
    simp
  rw [Cursor.rest_pass, whole]
  exact List.drop_left' (by simp [-List.length_flatMap])

/-- **A quoted text** with what comes after it in its line. -/
theorem quoted?_line {flow : Bool} {indent : Int} {c : Cursor} {t follow : List Char} {x : Char}
    (space : write ' ' = [' ']) (word : endsWord quote = false)
    (h : ∀ x ∈ t, Spelled quote write x)
    (hr : c.rest = quote :: (t.flatMap write ++ quote :: x :: follow))
    (may : mayFollowQuoted flow true x) (inside : indent ≤ c.column + 1) :
    quoted? flow indent c =
      some (String.ofList t, c.pass ((t.flatMap write).length + 2)) := by
  obtain ⟨blank, hash, single⟩ := of_mayFollowQuoted may
  have other : peek (x :: follow) ≠ '\'' := single
  have body : (c.pass 1).rest = t.flatMap write ++ quote :: x :: follow := by
    rw [Cursor.rest_pass, hr]
    rfl
  have fuel : t.length < c.rest.length + 1 := by
    have := length_le_flatMap h
    rw [hr, List.length_cons, List.length_append]
    omega
  have read := quotedFrom?_line space word (fun _ => other) _ t fuel h [] (c.pass 1) rfl body
    (by simp) (by simpa using inside)
  have rest := rest_after_quoted hr
  have blanks := Cursor.passBlanks?_of_rest true rest blank hash
  rw [Cursor.pass_pass, Nat.add_comm 1] at read
  rw [quoted?, Cursor.char_of_rest hr, read]
  simp only [bind, Option.bind, blanks, Cursor.char_of_rest rest, Cursor.line_pass,
    beq_self_eq_true, if_pos may]
  simp

end

end Courier.Yaml
