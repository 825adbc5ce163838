import Courier.Message
import Courier.Proofs.Instant
import Courier.Proofs.Text.Numeral

/-!
# Courier — Proofs — The expiration header

A message that was put with a finite expiry expires so many tenths of a second after its put time.
The instants are exact to the nanosecond and the headers are milliseconds, both rounded down; a
tenth of a second is whole milliseconds, so rounding the sum is adding to the rounded put time.

A message can outlive the calendar.  It does if the exact instant is past the end, and then its
header says that it never expires.

**The expiration header** (`expiration_exact`): for every expiry, and every put time outside leap
seconds, what the header says, and that no number on the way to it leaves 64 bits.
-/

namespace Courier

/-! ### Instants of expiration -/

namespace Descriptor

/-- An expiration needs a put time and a finite expiry. -/
theorem expiresAt?_eq {d : Descriptor} {t : Instant} {count : UInt32} (put : d.putTime = some t)
    (finite : d.expiry = .tenths count) :
    d.expiresAt? = t.addMillis? (count.toNat * 100) := by
  simp only [expiresAt?, put, finite, Expiry.millis?]
  rfl

theorem expiresAt?_of_unlimited {d : Descriptor} (unlimited : d.expiry = .unlimited) :
    d.expiresAt? = none := by
  simp only [expiresAt?, unlimited, Expiry.millis?]
  cases d.putTime <;> rfl

theorem expiresAt?_of_not_put {d : Descriptor} (never : d.putTime = none) :
    d.expiresAt? = none := by
  simp only [expiresAt?, never]
  rfl

end Descriptor

theorem Expiry.millisOf_lt (count : UInt32) : millisOf count < 2 ^ 63 := by
  have := count.toNat_lt
  rw [millisOf]
  omega

namespace Message

/-- When the message was put, if it was. -/
def putTime? (m : Message) : Option Instant := m.descriptor.bind (·.putTime)

theorem putTime_descriptorOrNew (m : Message) : m.descriptorOrNew.putTime = m.putTime? := by
  obtain ⟨body, descriptor⟩ := m
  cases descriptor <;> rfl

theorem timestamp_eq (m : Message) : m.timestamp = (m.putTime?.map (·.millis)).getD 0 := rfl

theorem expiration_eq_expiresAt? (m : Message) :
    m.expiration = (m.descriptorOrNew.expiresAt?.map (·.millis)).getD 0 := by
  obtain ⟨body, descriptor⟩ := m
  cases descriptor <;> rfl

/-! ### The header -/

/-- No number on the way to the expiration header leaves 64 bits: the lifetime, the second and the
nanoseconds of the sum, within the calendar or not, and the milliseconds of both instants. -/
structure ExpirationFits (m : Message) : Prop where
  lifetime   : ∀ count, m.descriptorOrNew.expiry = .tenths count →
    Text.fitsSigned 64 (Expiry.millisOf count)
  sum        : ∀ t count, m.putTime? = some t → m.descriptorOrNew.expiry = .tenths count →
    Text.fitsSigned 64 (t.nanosAfter (Expiry.millisOf count)) ∧
      Text.fitsSigned 64 (t.secondAfter (Expiry.millisOf count))
  put        : ∀ t, m.putTime? = some t →
    Text.fitsSigned 64 t.secondMillis ∧ Text.fitsSigned 64 t.millis
  expires    : ∀ t, m.descriptorOrNew.expiresAt? = some t →
    Text.fitsSigned 64 t.secondMillis ∧ Text.fitsSigned 64 t.millis
  timestamp  : Text.fitsSigned 64 m.timestamp
  expiration : Text.fitsSigned 64 m.expiration

/-- What the expiration header of a message says.  It is 0 without a lifetime, without a put time
and past the end of the calendar, and else the put time and a hundred milliseconds for each tenth,
both counted in nanoseconds and rounded down; and its numbers have 64 bits. -/
structure ExpirationHeader (m : Message) : Prop where
  unlimited : m.descriptorOrNew.expiry = .unlimited → m.expiration = 0
  neverPut  : m.putTime? = none → m.expiration = 0
  past      : ∀ t count, m.putTime? = some t → m.descriptorOrNew.expiry = .tenths count →
    Instant.calendarEnd ≤ t.sinceEpoch + count.toNat * 100000000 → m.expiration = 0
  within    : ∀ t count, m.putTime? = some t → m.descriptorOrNew.expiry = .tenths count →
    t.sinceEpoch + count.toNat * 100000000 < Instant.calendarEnd →
      m.timestamp = t.sinceEpoch / 1000000 ∧
      m.expiration = (t.sinceEpoch + count.toNat * 100000000) / 1000000 ∧
      m.expiration = m.timestamp + 100 * count.toNat
  fits      : m.ExpirationFits

section
variable {m : Message} {t : Instant} {count : UInt32}

theorem expiration_of_past (put : m.putTime? = some t)
    (finite : m.descriptorOrNew.expiry = .tenths count) (plain : t.isLeap = false)
    (past : Instant.calendarEnd ≤ t.sinceEpoch + count.toNat * 100000000) :
    m.expiration = 0 := by
  rw [← putTime_descriptorOrNew] at put
  have none : t.addMillis? (count.toNat * 100) = none := by
    rw [Instant.addMillis?_eq_none_iff plain]
    omega
  rw [expiration_eq_expiresAt?, Descriptor.expiresAt?_eq put finite, none]
  rfl

theorem expiration_of_within (put : m.putTime? = some t)
    (finite : m.descriptorOrNew.expiry = .tenths count) (plain : t.isLeap = false)
    (within : t.sinceEpoch + count.toNat * 100000000 < Instant.calendarEnd) :
    m.expiration = (t.sinceEpoch + count.toNat * 100000000) / 1000000 := by
  rw [← putTime_descriptorOrNew] at put
  cases sum : t.addMillis? (count.toNat * 100) with
  | none =>
      rw [Instant.addMillis?_eq_none_iff plain] at sum
      omega
  | some u =>
      have exact := ((Instant.addMillis?_eq_some_iff plain).mp sum).2
      rw [expiration_eq_expiresAt?, Descriptor.expiresAt?_eq put finite, sum, Option.map_some,
        Option.getD_some, Instant.millis_eq, exact]
      omega

end

theorem expirationFits (m : Message) : m.ExpirationFits where
  lifetime count _ := by
    have := Expiry.millisOf_lt count
    rw [Text.fitsSigned_iff]
    omega
  sum t count _ _ := t.fitsSigned_after (Expiry.millisOf_lt count)
  put t _ := t.fitsSigned_millis
  expires t _ := t.fitsSigned_millis
  timestamp := by
    rw [timestamp_eq]
    cases m.putTime? with
    | none => decide
    | some t => exact t.fitsSigned_millis.2
  expiration := by
    rw [expiration_eq_expiresAt?]
    cases m.descriptorOrNew.expiresAt? with
    | none => decide
    | some t => exact t.fitsSigned_millis.2

/-- **The expiration header.**  Whatever a message's expiry and its put time, as long as that is in
no leap second: the header says when the message expires, or 0 if it never does, and is computed
within 64 bits. -/
theorem expiration_exact (m : Message) (plain : ∀ t, m.putTime? = some t → t.isLeap = false) :
    m.ExpirationHeader where
  unlimited h := by rw [expiration_eq_expiresAt?, Descriptor.expiresAt?_of_unlimited h]; rfl
  neverPut h := by
    rw [← putTime_descriptorOrNew] at h
    rw [expiration_eq_expiresAt?, Descriptor.expiresAt?_of_not_put h]
    rfl
  past t count put finite past := expiration_of_past put finite (plain t put) past
  within t count put finite within := by
    have rounded : m.timestamp = t.sinceEpoch / 1000000 := by
      rw [timestamp_eq, put, Option.map_some, Option.getD_some, Instant.millis_eq]
    have expires := expiration_of_within put finite (plain t put) within
    refine ⟨rounded, expires, ?_⟩
    rw [expires, rounded]
    omega
  fits := m.expirationFits

/-- The longest expiry, from a nanosecond before the epoch, and the shortest, a tenth before the
end of the calendar and a nanosecond less. -/
theorem expiration_at_bounds :
    let early : Instant := ⟨-1, 999999999, by decide, by decide⟩
    let late : Instant := ⟨8210266876799, 900000000, by decide, by decide⟩
    let first : Message :=
      ⟨.text none, some { expiry := .tenths 4294967295, putTime := some early }⟩
    let last : Message := ⟨.text none, some { expiry := .tenths 1, putTime := some late }⟩
    (∀ t, first.putTime? = some t → t.isLeap = false) ∧
      (∀ t, last.putTime? = some t → t.isLeap = false) ∧
      early.sinceEpoch + (4294967295 : UInt32).toNat * 100000000 < Instant.calendarEnd ∧
      Instant.calendarEnd ≤ late.sinceEpoch + (1 : UInt32).toNat * 100000000 ∧
      first.timestamp = early.sinceEpoch / 1000000 ∧ early.sinceEpoch / 1000000 = -1 ∧
      first.expiration = first.timestamp + 100 * (4294967295 : UInt32).toNat ∧
      last.expiration = 0 := by
  intro early late first last
  have plain : ∀ t, first.putTime? = some t → t.isLeap = false := by
    rintro t ⟨⟩
    rfl
  have plain' : ∀ t, last.putTime? = some t → t.isLeap = false := by
    rintro t ⟨⟩
    rfl
  have within :
      early.sinceEpoch + (4294967295 : UInt32).toNat * 100000000 < Instant.calendarEnd := by
    decide
  have past : Instant.calendarEnd ≤ late.sinceEpoch + (1 : UInt32).toNat * 100000000 := by decide
  obtain ⟨put, -, expires⟩ := (expiration_exact first plain).within early _ rfl rfl within
  exact ⟨plain, plain', within, past, put, by decide, expires,
    (expiration_exact last plain').past late _ rfl rfl past⟩

end Message

end Courier
