import Courier.Instant
import Courier.Proofs.Text.Numeral

/-!
# Courier — Proofs — Instants as one number

Outside leap seconds an instant is the number of nanoseconds since the epoch
(`Instant.sinceEpoch`).  Its milliseconds are that number rounded down, before the epoch as well
(`Instant.millis_eq`), and adding milliseconds adds to the number, as long as the sum is before the
end of the calendar (`Instant.addMillis?_eq_some_iff`, `Instant.addMillis?_eq_none_iff`).
-/

namespace Courier.Instant

/-- Nanoseconds since the epoch. -/
def sinceEpoch (t : Instant) : Int := t.seconds * 1000000000 + t.nanos

/-- The first nanosecond of the calendar. -/
def calendarStart : Int := firstSecond * 1000000000

/-- The first nanosecond after the calendar. -/
def calendarEnd : Int := (lastSecond + 1) * 1000000000

/-- Milliseconds are nanoseconds rounded down. -/
theorem millis_eq (t : Instant) : t.millis = t.sinceEpoch / 1000000 := by
  simp only [millis, secondMillis, sinceEpoch]
  omega

theorem isLeap_eq_false_iff {t : Instant} : t.isLeap = false ↔ t.nanos < 1000000000 := by
  rw [isLeap, decide_eq_false_iff_not, Nat.not_le, nanosPerSecond]

/-- The milliseconds of the calendar have 64 bits. -/
theorem fitsSigned_millis (t : Instant) :
    Text.fitsSigned 64 t.secondMillis ∧ Text.fitsSigned 64 t.millis := by
  have few := t.nanos_lt
  have within := t.inCalendar
  simp only [nanosPerSecond] at few
  simp only [firstSecond, lastSecond] at within
  simp only [Text.fitsSigned_iff, millis, secondMillis]
  omega

theorem calendarStart_le (t : Instant) : calendarStart ≤ t.sinceEpoch := by
  have := t.inCalendar.1
  simp only [calendarStart, sinceEpoch]
  omega

/-! ### The instant of a number of nanoseconds -/

/-- The instant so many nanoseconds after the epoch, if the calendar has it. -/
def ofNanos? (n : Int) : Option Instant := ofUnix? (n / 1000000000) (n % 1000000000).toNat

theorem ofNanos?_eq_some_iff {n : Int} {u : Instant} :
    ofNanos? n = some u ↔ u.isLeap = false ∧ u.sinceEpoch = n := by
  obtain ⟨seconds, nanos, nanos_lt, inCalendar⟩ := u
  rw [isLeap_eq_false_iff, ofNanos?, ofUnix?]
  simp only [sinceEpoch]
  constructor
  · intro h
    split at h
    · cases h
      omega
    · cases h
  · rintro ⟨plain, rfl⟩
    have whole : (seconds * 1000000000 + nanos) / 1000000000 = seconds := by omega
    have rest : ((seconds * 1000000000 + nanos) % 1000000000).toNat = nanos := by omega
    rw [dif_pos]
    · simp only [whole, rest]
    · rw [whole, rest]
      exact ⟨.inl plain, inCalendar⟩

/-- Only numbers outside the calendar have no instant. -/
theorem ofNanos?_eq_none_iff {n : Int} :
    ofNanos? n = none ↔ n < calendarStart ∨ calendarEnd ≤ n := by
  have small : (n % 1000000000).toNat < nanosPerSecond := by
    simp only [nanosPerSecond]
    omega
  rw [ofNanos?, ofUnix?]
  simp only [small, true_or, true_and, dite_eq_right_iff, reduceCtorEq, imp_false, calendarStart,
    calendarEnd]
  omega

/-! ### Adding milliseconds -/

theorem addMillis?_eq_ofNanos? {t : Instant} (plain : t.isLeap = false) (millis : Nat) :
    t.addMillis? millis = ofNanos? (t.sinceEpoch + millis * 1000000) := by
  have few : t.nanos < 1000000000 := isLeap_eq_false_iff.mp plain
  have counted : ¬ (t.isLeap ∧ millis < 1000 ∧
      t.nanos + fractionNanos millis < 2 * nanosPerSecond) := by simp [plain]
  rw [addMillis?, dif_neg counted, ofNanos?, secondAfter, nanosAfter, fractionNanos, sinceEpoch,
    nanosPerSecond]
  congr 1
  · omega
  · omega

/-- Past the end of the calendar or not, the numbers of a sum have 64 bits. -/
theorem fitsSigned_after (t : Instant) {millis : Nat} (h : millis < 2 ^ 63) :
    Text.fitsSigned 64 (t.nanosAfter millis) ∧ Text.fitsSigned 64 (t.secondAfter millis) := by
  have within := t.inCalendar
  simp only [firstSecond, lastSecond] at within
  simp only [Text.fitsSigned_iff, secondAfter, nanosAfter, fractionNanos, nanosPerSecond]
  omega

theorem addMillis?_eq_some_iff {t u : Instant} (plain : t.isLeap = false) {millis : Nat} :
    t.addMillis? millis = some u ↔
      u.isLeap = false ∧ u.sinceEpoch = t.sinceEpoch + millis * 1000000 := by
  rw [addMillis?_eq_ofNanos? plain, ofNanos?_eq_some_iff]

theorem addMillis?_eq_none_iff {t : Instant} (plain : t.isLeap = false) {millis : Nat} :
    t.addMillis? millis = none ↔ calendarEnd ≤ t.sinceEpoch + millis * 1000000 := by
  have start := calendarStart_le t
  rw [addMillis?_eq_ofNanos? plain, ofNanos?_eq_none_iff]
  omega

end Courier.Instant
