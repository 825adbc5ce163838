import Courier.Binary64.Text
import Courier.Proofs.Text.Numeral
import Courier.Proofs.Text.Span

/-!
# Courier — Proofs — Texts that are binary64 numbers

A text with a character that stands in no numeral, in no exponent and in no name of an infinity
is no number (`ofText?_eq_none_of_mem`), and no number is displayed with such a character
(`isNumberChar_of_mem_display`).
-/

namespace Courier.Binary64

theorem word?_of_mem {cs : List Char} {c : Char} (hc : c ∈ cs) (h : c.isAlpha = false)
    (negative : Bool) : word? negative cs = none := by
  have no {word : String} (letters : word.toList.all Char.isAlpha) :=
    Text.lower_ne_of_mem hc h letters
  rw [word?, if_neg (not_or.mpr ⟨no (by decide), no (by decide)⟩), if_neg (no (by decide))]

/-- The characters of numbers: letters, digits, signs and points. -/
def isNumberChar (c : Char) : Bool := c.isAlphanum || c == '+' || c == '-' || c == '.'

section
variable {c : Char}

theorem not_isDigit (h : isNumberChar c = false) : c.isDigit = false := by
  rw [isNumberChar, Char.isAlphanum] at h
  simp_all

theorem not_isAlpha (h : isNumberChar c = false) : c.isAlpha = false := by
  rw [isNumberChar, Char.isAlphanum] at h
  simp_all

theorem ne_of_isNumberChar (h : isNumberChar c = false) {d : Char} (hd : isNumberChar d) :
    c ≠ d := by
  rintro rfl
  rw [h] at hd
  cases hd

/-- What is not taken is still there. -/
theorem mem_drop_of_stop {p : Char → Bool} {cs : List Char} (hc : c ∈ cs) (stop : p c = false) :
    c ∈ cs.drop (cs.takeWhile p).length := by
  rw [Text.drop_takeWhile]
  rw [← List.takeWhile_append_dropWhile (p := p) (l := cs)] at hc
  refine (List.mem_append.mp hc).resolve_left fun taken => ?_
  rw [List.mem_takeWhile_imp taken] at stop
  cases stop

theorem mem_tail (h : isNumberChar c = false) {d : Char} {ds : List Char} (hc : c ∈ d :: ds)
    (hd : isNumberChar d) : c ∈ ds :=
  (List.mem_cons.mp hc).resolve_left (ne_of_isNumberChar h hd)

theorem power?_eq_none_of_mem {cs : List Char} (hc : c ∈ cs) (h : isNumberChar c = false) :
    power? cs = none :=
  Text.integer?_eq_none_of_mem hc (not_isDigit h) (ne_of_isNumberChar h (by decide))
    (ne_of_isNumberChar h (by decide))

theorem unsigned?_eq_none_of_mem {cs : List Char} (hc : c ∈ cs) (h : isNumberChar c = false)
    (negative : Bool) : unsigned? negative cs = none := by
  unfold unsigned?
  extract_lets whole rest
  have there : c ∈ rest := mem_drop_of_stop hc (not_isDigit h)
  clear_value rest
  split
  rename_i fraction rest' point
  extract_lets digits number
  -- no fraction takes the character either, so that the exponent would have it
  have there' : c ∈ rest' := by
    split at point
    · rw [← (Prod.mk.inj point).2]
      exact mem_drop_of_stop (mem_tail h there (by decide)) (not_isDigit h)
    · rw [← (Prod.mk.inj point).2]
      exact there
  cases rest' with
  | nil => cases there'
  | cons d rest' =>
      dsimp only
      split
      · rename_i e
        have letter : isNumberChar d := by rcases e with rfl | rfl <;> decide
        rw [power?_eq_none_of_mem (mem_tail h there' letter) h]
        rfl
      · rfl

theorem unsignedOrWord?_eq_none_of_mem {cs : List Char} (hc : c ∈ cs)
    (h : isNumberChar c = false) (negative : Bool) : unsignedOrWord? negative cs = none := by
  rw [unsignedOrWord?, word?_of_mem hc (not_isAlpha h), unsigned?_eq_none_of_mem hc h]
  rfl

theorem ofText?_eq_none_of_mem {cs : List Char} (hc : c ∈ cs) (h : isNumberChar c = false) :
    ofText? cs = none := by
  unfold ofText?
  split
  · exact unsignedOrWord?_eq_none_of_mem (mem_tail h hc (by decide)) h _
  · exact unsignedOrWord?_eq_none_of_mem (mem_tail h hc (by decide)) h _
  · exact unsignedOrWord?_eq_none_of_mem hc h _

end

/-! ### What is displayed -/

section
variable {c : Char}

theorem isNumberChar_of_isDigit (h : c.isDigit) : isNumberChar c := by
  rw [isNumberChar, Char.isAlphanum, h]
  simp

theorem isNumberChar_of_mem_toDigits {n : Nat} (h : c ∈ Nat.toDigits 10 n) : isNumberChar c :=
  isNumberChar_of_isDigit (Text.isDigit_of_mem_toDigits h)

theorem isNumberChar_of_mem_toString {n : Int} (h : c ∈ (toString n).toList) :
    isNumberChar c := by
  rw [Text.toList_toString, List.mem_append] at h
  rcases h with sign | digit
  · split_ifs at sign
    · rw [List.mem_singleton.mp sign]
      decide
    · cases sign
  · exact isNumberChar_of_mem_toDigits digit

theorem isNumberChar_of_mem_paddedDigits {width n : Nat} (h : c ∈ paddedDigits width n) :
    isNumberChar c := by
  rcases List.mem_append.mp h with zero | digit
  · rw [List.eq_of_mem_replicate zero]
    decide
  · exact isNumberChar_of_mem_toDigits digit

theorem mem_of_mem_trimZeros {cs : List Char} (h : c ∈ trimZeros cs) : c ∈ cs :=
  List.mem_reverse.mp ((List.dropWhile_suffix _).subset (List.mem_reverse.mp h))

theorem isNumberChar_of_mem_positional {d : Decimal} (h : c ∈ d.positional.toList) :
    isNumberChar c := by
  have natural {n : Nat} (mem : c ∈ (toString n).toList) : isNumberChar c :=
    isNumberChar_of_mem_toDigits (Nat.toList_repr ▸ mem)
  rw [Decimal.positional] at h
  dsimp only at h
  split_ifs at h
  · exact natural h
  · rw [String.toList_append, String.toList_append, List.mem_append, List.mem_append] at h
    rcases h with (whole | point) | fraction
    · exact natural whole
    · rw [List.mem_singleton.mp point]
      decide
    · rw [String.toList_ofList] at fraction
      exact isNumberChar_of_mem_paddedDigits (mem_of_mem_trimZeros fraction)

/-- A number is displayed with characters of numbers. -/
theorem isNumberChar_of_mem_display {x : Binary64} (h : c ∈ x.display.toList) :
    isNumberChar c := by
  cases x with
  | nan =>
      rw [display] at h
      exact List.all_eq_true.mp (by decide : "NaN".toList.all isNumberChar) c h
  | infinite negative =>
      rw [display] at h
      split_ifs at h
      · exact List.all_eq_true.mp (by decide : "-inf".toList.all isNumberChar) c h
      · exact List.all_eq_true.mp (by decide : "inf".toList.all isNumberChar) c h
  | finite negative m e =>
      rw [display, String.toList_append, List.mem_append] at h
      rcases h with sign | number
      · split_ifs at sign
        · rw [List.mem_singleton.mp sign]
          decide
        · cases sign
      · exact isNumberChar_of_mem_positional number

end

end Courier.Binary64
