import Courier.Json.Codec
import Courier.Proofs.Named
import Courier.Proofs.Text.Numeral

/-!
# Courier — Proofs — Values and records read back

What is written for a simple value is read as that value, a number as far as its field holds it.

A record is read field by field.  So members that are no fields of it do no harm, their order is
free, and a field that has been taken out gives its default: a record that was edited in this way
(`Json.Edited`) has in each field the value that was written there, or the default
(`Json.getOr?_of_kept`).
-/

namespace Courier.Json

/-! ### Simple values -/

theorem signed?_int {bits : Nat} {n : Int} (h : Text.fitsSigned bits n) :
    signed? bits (.int n) = some n := if_pos h

theorem unsigned?_int {bits n : Nat} (h : n < 2 ^ bits) : unsigned? bits (.int n) = some n := by
  have fits : Text.fitsUnsigned bits n := Text.fitsUnsigned_iff.mpr ⟨by omega, by exact_mod_cast h⟩
  rw [unsigned?, if_pos fits, Int.toNat_natCast]

/-- A list is read back if its items are. -/
theorem list?_map {α : Type} {read : Json → Option α} {write : α → Json} {as : List α}
    (h : ∀ a ∈ as, read (write a) = some a) : list? read (.arr (as.map write)) = some as := by
  rw [list?]
  induction as with
  | nil => rfl
  | cons a as ih =>
      have first := h a (List.mem_cons_self ..)
      have rest := ih fun a ha => h a (List.mem_cons_of_mem _ ha)
      rw [List.map_cons, all?, first, rest]
      rfl

/-- A value that may be missing is read as the value is, if that is not null. -/
theorem optional?_of_some {α : Type} {read : Json → Option α} {v : Json} (h : v ≠ null) :
    optional? read v = (read v).map some := by
  cases v with
  | null => exact absurd rfl h
  | _ => rfl

theorem optional?_ofText? (s : Option String) : optional? text? (ofText? s) = some s := by
  cases s <;> rfl

/-! ### Records -/

/-- `v'` is what the record `v` with these fields becomes when any of its members are taken out,
any others that are no fields are added, and all are put in any order. -/
inductive Edited (fields : List String) : Json → Json → Prop where
  | intro {members members' : List (String × Json)} (distinct : (members'.map (·.1)).Nodup)
      (kept : ∀ e ∈ members', e.1 ∈ fields → e ∈ members) :
      Edited fields (.obj members) (.obj members')

theorem edited_obj_iff {fields : List String} {members : List (String × Json)} {v' : Json} :
    Edited fields (.obj members) v' ↔
      ∃ members', v' = .obj members' ∧ (members'.map (·.1)).Nodup ∧
        ∀ e ∈ members', e.1 ∈ fields → e ∈ members := by
  constructor
  · rintro ⟨distinct, kept⟩
    exact ⟨_, rfl, distinct, kept⟩
  · rintro ⟨members', rfl, distinct, kept⟩
    exact .intro distinct kept

/-- Some members of an object, and others behind them. -/
def reworked (left : String → Bool) (more : List (String × Json)) : Json → Json
  | obj members => obj (members.filter (fun e => left e.1) ++ more)
  | v           => v

/-- Members with unknown names, each once. -/
structure Unknown (fields : List String) (more : List (String × Json)) : Prop where
  distinct : (more.map (·.1)).Nodup
  unknown  : ∀ e ∈ more, e.1 ∉ fields

theorem unknown_nil (fields : List String) : Unknown fields [] := ⟨.nil, nofun⟩

/-- Every choice of the members that are left, with any unknown ones, is an edit. -/
theorem edited_reworked {fields : List String} {members more : List (String × Json)}
    (once : fields.Nodup) (written : members.map (·.1) = fields) (others : Unknown fields more)
    (left : String → Bool) : Edited fields (.obj members) (reworked left more (.obj members)) := by
  have own {e : String × Json} (he : e ∈ members.filter fun e => left e.1) : e ∈ members :=
    (List.mem_filter.mp he).1
  refine .intro ?_ ?_
  · rw [List.map_append]
    refine List.nodup_append'.mpr ⟨?_, others.distinct, ?_⟩
    · exact (written ▸ once).sublist (List.filter_sublist.map _)
    · rintro name hleft hmore
      obtain ⟨e, he, rfl⟩ := List.mem_map.mp hleft
      obtain ⟨e', he', same⟩ := List.mem_map.mp hmore
      have known : e.1 ∈ fields := written ▸ List.mem_map_of_mem (own he)
      exact others.unknown e' he' (same ▸ known)
  · intro e he known
    rcases List.mem_append.mp he with he | he
    · exact own he
    · exact absurd known (others.unknown e he)

/-- A field of an edited record is as it was, if it is still there. -/
theorem lookup_of_kept {fields : List String} {members members' : List (String × Json)}
    (kept : ∀ e ∈ members', e.1 ∈ fields → e ∈ members) (once : (members.map (·.1)).Nodup)
    {field : String} (known : field ∈ fields) {v : Json} (there : members'.lookup field = some v) :
    members.lookup field = some v :=
  lookup_of_mem once (kept _ (mem_of_lookup there) known)

/-- A field that was written with the value `a` is read as that value, or as its default. -/
theorem getOr?_of_kept {fields : List String} {members members' : List (String × Json)}
    (kept : ∀ e ∈ members', e.1 ∈ fields → e ∈ members) (once : (members.map (·.1)).Nodup)
    {field : String} (known : field ∈ fields) {v : Json} (written : members.lookup field = some v)
    {α : Type} {read : Json → Option α} {a : α} (back : read v = some a) (default : α) :
    getOr? members' field default read =
      some (if (members'.lookup field).isSome then a else default) := by
  cases there : members'.lookup field with
  | none => rw [getOr?, there]; rfl
  | some v' =>
      have same := lookup_of_kept kept once known there
      cases Option.some.inj (written.symm.trans same)
      rw [getOr?, there]
      exact back

end Courier.Json
