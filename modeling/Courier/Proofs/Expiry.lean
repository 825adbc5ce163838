import Courier.Descriptor
import Mathlib.Order.Basic

/-!
# Courier — Proofs — How long a time to live lasts

A time to live in milliseconds becomes an expiry in tenths of a second.  Every time to live but zero
leaves at least one tenth and at most the greatest number that the field takes, and that number is
far below what the 32 bits of a count hold, so a count is never cut short (`exists_ofTimeToLive`).
Tenths that a time to live can leave are read back exactly (`ofTimeToLive_tenths`).
-/

namespace Courier.Expiry

theorem ofTimeToLive_eq_unlimited_iff {millis : Nat} :
    ofTimeToLive millis = .unlimited ↔ millis = 0 := by
  constructor
  · intro h
    by_contra some
    rw [ofTimeToLive, if_neg some] at h
    cases h
  · rintro rfl
    rfl

/-- The tenths of a time to live, brought into the range of the field. -/
theorem exists_ofTimeToLive {millis : Nat} (pos : 0 < millis) :
    ∃ count : UInt32, ofTimeToLive millis = .tenths count ∧
      count.toNat = min (max (millis / 100) 1) maxTenths := by
  have small : min (max (millis / 100) 1) maxTenths < 2 ^ 32 := by
    simp only [maxTenths]
    omega
  exact ⟨_, if_neg (Nat.ne_of_gt pos), UInt32.toNat_ofNat_of_lt' small⟩

theorem millis?_ofTimeToLive {millis : Nat} (pos : 0 < millis) :
    (ofTimeToLive millis).millis? = some (min (max (millis / 100) 1) maxTenths * 100) := by
  obtain ⟨count, converted, whole⟩ := exists_ofTimeToLive pos
  rw [converted, millis?, millisOf, whole]

/-- What a count of tenths came from. -/
theorem toNat_of_ofTimeToLive {millis : Nat} {count : UInt32}
    (h : ofTimeToLive millis = .tenths count) :
    0 < millis ∧ count.toNat = min (max (millis / 100) 1) maxTenths := by
  have pos : 0 < millis := by
    rw [Nat.pos_iff_ne_zero]
    intro zero
    rw [ofTimeToLive_eq_unlimited_iff.mpr zero] at h
    cases h
  obtain ⟨_, converted, whole⟩ := exists_ofTimeToLive pos
  cases h.symm.trans converted
  exact ⟨pos, whole⟩

/-- A positive time to live leaves at least one tenth of a second, and none leaves no limit. -/
theorem ofTimeToLive_ne_tenths_zero (millis : Nat) : ofTimeToLive millis ≠ .tenths 0 := by
  intro h
  have whole := (toNat_of_ofTimeToLive h).2
  simp only [maxTenths, UInt32.toNat_zero] at whole
  omega

/-- Of two times to live the longer does not end before the shorter. -/
theorem le_of_ofTimeToLive {millis millis' : Nat} (le : millis ≤ millis') {count count' : UInt32}
    (h : ofTimeToLive millis = .tenths count) (h' : ofTimeToLive millis' = .tenths count') :
    count ≤ count' := by
  have tenths : millis / 100 ≤ millis' / 100 := Nat.div_le_div_right le
  rw [UInt32.le_iff_toNat_le, (toNat_of_ofTimeToLive h).2, (toNat_of_ofTimeToLive h').2]
  omega

/-- The lifetime of a count of tenths, as a time to live, is that count. -/
theorem ofTimeToLive_tenths {count : UInt32} (pos : 1 ≤ count.toNat)
    (le : count.toNat ≤ maxTenths) : ofTimeToLive (count.toNat * 100) = .tenths count := by
  have some : 0 < count.toNat * 100 := by omega
  obtain ⟨count', converted, whole⟩ := exists_ofTimeToLive some
  have same : count'.toNat = count.toNat := by
    rw [whole]
    simp only [maxTenths] at le ⊢
    omega
  rw [converted, UInt32.toNat_inj.mp same]

end Courier.Expiry
