/-!
# Courier — Instants

A point of time inside the supported calendar, from the start of the year -262143 to the end of
the year 262142, in whole seconds since the epoch and nanoseconds.  Nanoseconds from one to two
thousand million tell a leap second that follows the second.  Milliseconds are floored, also
before the epoch (`Instant.millis`), and adding milliseconds fails past the end of the calendar
(`Instant.addMillis?`).
-/

namespace Courier

def nanosPerSecond : Nat := 1000000000

def firstSecond : Int := -8334601228800

def lastSecond : Int := 8210266876799

/-- A point of time. -/
structure Instant where
  seconds    : Int
  nanos      : Nat
  nanos_lt   : nanos < 2 * nanosPerSecond
  inCalendar : firstSecond ≤ seconds ∧ seconds ≤ lastSecond
  deriving DecidableEq

namespace Instant

/-- The instant of a second and nanoseconds, if the calendar has it; only the last second of a
minute can have a leap second after it. -/
def ofUnix? (seconds : Int) (nanos : Nat) : Option Instant :=
  if h : (nanos < nanosPerSecond ∨ (nanos < 2 * nanosPerSecond ∧ seconds % 60 = 59)) ∧
      firstSecond ≤ seconds ∧ seconds ≤ lastSecond then
    some ⟨seconds, nanos, by have := h.1; simp only [nanosPerSecond] at *; omega, h.2⟩
  else none

/-- The instant of a count of milliseconds since the epoch. -/
def ofMillis? (millis : Int) : Option Instant :=
  ofUnix? (millis / 1000) ((millis % 1000).toNat * 1000000)

/-- The milliseconds of the whole seconds since the epoch. -/
def secondMillis (t : Instant) : Int := t.seconds * 1000

/-- Whole milliseconds since the epoch, rounded down. -/
def millis (t : Instant) : Int := t.secondMillis + (t.nanos / 1000000 : Nat)

/-- Whether this is in the leap second that follows the second. -/
def isLeap (t : Instant) : Bool := nanosPerSecond ≤ t.nanos

/-- The nanoseconds of the milliseconds that make no whole second. -/
def fractionNanos (millis : Nat) : Nat := millis % 1000 * 1000000

/-- The nanoseconds of the sum, which may be another second. -/
def nanosAfter (t : Instant) (millis : Nat) : Nat := t.nanos % nanosPerSecond + fractionNanos millis

/-- The second of the instant `millis` later. -/
def secondAfter (t : Instant) (millis : Nat) : Int :=
  t.seconds + (millis / 1000 : Nat) + (t.nanosAfter millis / nanosPerSecond : Nat)

/-- The instant `millis` later.  A stay within a leap second keeps it; leaving it counts on from
the second before. -/
def addMillis? (t : Instant) (millis : Nat) : Option Instant :=
  if h : t.isLeap ∧ millis < 1000 ∧ t.nanos + fractionNanos millis < 2 * nanosPerSecond then
    some ⟨t.seconds, t.nanos + fractionNanos millis, h.2.2, t.inCalendar⟩
  else ofUnix? (t.secondAfter millis) (t.nanosAfter millis % nanosPerSecond)

end Instant

end Courier
