import Mathlib.Data.List.Nodup

/-!
# Courier — Proofs — Lists of named values

What a search for a name finds.  Of names that all differ each has the one value that it stands
with, wherever in the list.
-/

namespace Courier

variable {α : Type}

theorem lookup_cons (n name : String) (v : α) (es : List (String × α)) :
    ((name, v) :: es).lookup n = if n = name then some v else es.lookup n := by
  by_cases h : n = name <;> simp [List.lookup_cons, h, beq_eq_false_iff_ne.2]

/-- What is found for a name stands there with it. -/
theorem mem_of_lookup {κ : Type} [BEq κ] [LawfulBEq κ] {es : List (κ × α)} {n : κ} {v : α}
    (h : es.lookup n = some v) : (n, v) ∈ es := by
  obtain ⟨before, after, rfl, -⟩ := List.lookup_eq_some_iff.mp h
  exact List.mem_append_right _ (List.mem_cons_self ..)

/-- Of names that all differ each has the value that it stands with. -/
theorem lookup_of_mem {es : List (String × α)} (once : (es.map (·.1)).Nodup) {n : String} {v : α}
    (h : (n, v) ∈ es) : es.lookup n = some v := by
  induction es with
  | nil => cases h
  | cons e es ih =>
      obtain ⟨m, w⟩ := e
      rw [List.map_cons, List.nodup_cons] at once
      rw [lookup_cons]
      rcases List.mem_cons.mp h with same | later
      · cases same
        exact if_pos rfl
      · have other : n ≠ m := by
          rintro rfl
          exact once.1 (List.mem_map.mpr ⟨_, later, rfl⟩)
        rw [if_neg other, ih once.2 later]

/-- The order of names that all differ does not matter to a search. -/
theorem lookup_perm {es es' : List (String × α)} (once : (es.map (·.1)).Nodup) (h : es.Perm es')
    (n : String) : es.lookup n = es'.lookup n := by
  have once' : (es'.map (·.1)).Nodup := (h.map _).nodup_iff.mp once
  refine Option.ext fun v => ⟨fun found => ?_, fun found => ?_⟩
  · exact lookup_of_mem once' (h.mem_iff.mp (mem_of_lookup found))
  · exact lookup_of_mem once (h.mem_iff.mpr (mem_of_lookup found))

end Courier
