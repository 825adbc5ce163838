/-!
# Courier — Proofs — A text and the part in front

Readers take characters from the front of a text as long as a test holds, and go on with the rest,
which they find by counting what they took.
-/

namespace Courier.Text

variable {α : Type} {p : α → Bool}

theorem drop_takeWhile (p : α → Bool) (cs : List α) :
    cs.drop (cs.takeWhile p).length = cs.dropWhile p := by
  induction cs with
  | nil => rfl
  | cons c cs ih => by_cases h : p c <;> simp [h, ih]

/-- What the test holds for is taken as a whole, up to the first character that it fails. -/
theorem takeWhile_append_of_all {cs rest : List α} (all : ∀ c ∈ cs, p c)
    (stop : ∀ c ∈ rest.head?, p c = false) : (cs ++ rest).takeWhile p = cs := by
  rw [List.takeWhile_append_of_pos all]
  cases rest with
  | nil => exact List.append_nil cs
  | cons c rest => rw [List.takeWhile_cons_of_neg (by simp [stop c rfl]), List.append_nil]

end Courier.Text
