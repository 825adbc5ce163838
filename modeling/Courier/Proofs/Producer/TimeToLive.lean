import Courier.Proofs.Producer.Outcome
import Mathlib

/-!
# Courier — Proofs — Times to live and the sends that have one

A producer's time to live is a number of milliseconds, and what it puts is a number of tenths of a
second.  From a tenth of a second on the lifetime is the time to live rounded down to whole tenths;
a shorter time to live is taken for one tenth, and one that is too long for the field for the
longest that the field has.  So a lifetime is never zero, which a queue manager would refuse.

**Times to live** (`timeToLive_exact`): the expiry and the lifetime of every time to live, and that
no send of a producer with a time to live is refused for its expiry.
-/

namespace Courier

namespace Producer

/-- A producer with a time to live writes its own expiry, so the one that the message carries is not
what is refused. -/
theorem reasonCode_ne_expiryError {p : Producer} (lives : 0 < p.timeToLive) {queue : String}
    {m : Message} {draw : Draw} {qm : QueueManager} {x : SendException}
    (no : (p.send queue m draw qm).answer = .error x) :
    x.reasonCode ≠ some .expiryError := by
  cases there : qm.storageLost with
  | true =>
      have lost : qm.openQueue queue .forSend = (.error (.failed .opening .resourceProblem), qm) :=
        if_pos there
      rw [send_eq_of_not_opened lost] at no
      cases no
      decide
  | false =>
      obtain ⟨f, applies, rfl⟩ := exists_fault_of_send_error there no
      cases f with
      | noLifetime =>
          have noTime := (noLifetime_applies_iff (Int.le_of_lt lives) queue m qm).mp applies
          exact absurd noTime.1 (Int.ne_of_gt lives)
      | _ => decide

end Producer

/-- **Times to live.**  Zero stands for no limit.  Every other time to live becomes a count of
tenths from 1 to the greatest of the field, none of it cut off, and a longer one never a smaller
count.  The lifetime is a tenth of a second for less than that, then the time to live less what it
has beyond whole tenths, and at last the greatest lifetime of the field.  A lifetime of the field is
the time to live of its own expiry.  A producer with a time to live is never told that its expiry
was wrong, whatever its message carries and whatever the state of the queue manager. -/
theorem timeToLive_exact :
    (∀ millis, Expiry.ofTimeToLive millis = .unlimited ↔ millis = 0) ∧
    (∀ millis, 0 < millis → ∃ count : UInt32, Expiry.ofTimeToLive millis = .tenths count ∧
      1 ≤ count.toNat ∧ count.toNat ≤ 2 ^ 31 - 1 ∧
      count.toNat = min (max (millis / 100) 1) (2 ^ 31 - 1)) ∧
    (∀ millis millis' count count', millis ≤ millis' →
      Expiry.ofTimeToLive millis = .tenths count → Expiry.ofTimeToLive millis' = .tenths count' →
        count ≤ count') ∧
    (∀ millis, 0 < millis → millis < 100 → (Expiry.ofTimeToLive millis).millis? = some 100) ∧
    (∀ millis, 100 ≤ millis → millis < 100 * 2 ^ 31 → ∃ lifetime,
      (Expiry.ofTimeToLive millis).millis? = some lifetime ∧
        lifetime ≤ millis ∧ millis < lifetime + 100) ∧
    (∀ millis, 100 * 2 ^ 31 ≤ millis →
      (Expiry.ofTimeToLive millis).millis? = some ((2 ^ 31 - 1) * 100)) ∧
    (∀ count : UInt32, 1 ≤ count.toNat → count.toNat ≤ 2 ^ 31 - 1 → ∃ lifetime,
      (Expiry.tenths count).millis? = some lifetime ∧
        Expiry.ofTimeToLive lifetime = .tenths count) ∧
    (∀ (p : Producer) (queue : String) (m : Message) (draw : Draw) (qm : QueueManager)
      (x : SendException), 0 < p.timeToLive → (p.send queue m draw qm).answer = .error x →
        x.reasonCode ≠ some .expiryError) := by
  have greatest : Expiry.maxTenths = 2 ^ 31 - 1 := rfl
  refine ⟨fun _ => Expiry.ofTimeToLive_eq_unlimited_iff, fun millis pos => ?_,
    fun _ _ _ _ le h h' => Expiry.le_of_ofTimeToLive le h h', fun millis pos small => ?_,
    fun millis large small => ?_, fun millis large => ?_, fun count pos le => ?_,
    fun _ _ _ _ _ _ lives no => Producer.reasonCode_ne_expiryError lives no⟩
  · obtain ⟨count, converted, whole⟩ := Expiry.exists_ofTimeToLive pos
    rw [greatest] at whole
    exact ⟨count, converted, by omega, by omega, whole⟩
  · have one : min (max (millis / 100) 1) Expiry.maxTenths * 100 = 100 := by
      rw [greatest]
      omega
    rw [Expiry.millis?_ofTimeToLive pos, one]
  · refine ⟨_, Expiry.millis?_ofTimeToLive (by omega), ?_, ?_⟩ <;> rw [greatest] <;> omega
  · have most : min (max (millis / 100) 1) Expiry.maxTenths * 100 = (2 ^ 31 - 1) * 100 := by
      rw [greatest]
      omega
    rw [Expiry.millis?_ofTimeToLive (by omega), most]
  · exact ⟨_, rfl, Expiry.ofTimeToLive_tenths pos le⟩

/-- The times to live at the ends of each range, and a message that carries an expiry of zero
tenths: sent by a producer with one millisecond to live, it is refused for its length. -/
theorem timeToLive_at_bounds :
    let p : Producer := ⟨.autoAcknowledge, .nonPersistent, 1⟩
    let m : Message := ⟨.text (some "hello"), some { expiry := .tenths 0 }⟩
    let draw : Draw := ⟨⟨0, 0, by decide, by decide⟩, Vector.replicate 16 7⟩
    let qm := QueueManager.ofOptions { maxMessageLength := 4 }
    let x := SendException.ofTransport (.failed .put .messageTooBig)
    (∃ count : UInt32, Expiry.ofTimeToLive (2 ^ 64 - 1) = .tenths count ∧
      1 ≤ count.toNat ∧ count.toNat ≤ 2 ^ 31 - 1 ∧
      count.toNat = min (max ((2 ^ 64 - 1) / 100) 1) (2 ^ 31 - 1)) ∧
    Expiry.ofTimeToLive 199 = .tenths 1 ∧ Expiry.ofTimeToLive 200 = .tenths 2 ∧
    (1 : UInt32) ≤ 2 ∧
    (Expiry.ofTimeToLive 99).millis? = some 100 ∧
    (∃ lifetime, (Expiry.ofTimeToLive (100 * 2 ^ 31 - 1)).millis? = some lifetime ∧
      lifetime ≤ 100 * 2 ^ 31 - 1 ∧ 100 * 2 ^ 31 - 1 < lifetime + 100) ∧
    (Expiry.ofTimeToLive (100 * 2 ^ 31)).millis? = some ((2 ^ 31 - 1) * 100) ∧
    (∃ lifetime, (Expiry.tenths 2147483647).millis? = some lifetime ∧
      Expiry.ofTimeToLive lifetime = .tenths 2147483647) ∧
    0 < p.timeToLive ∧ (p.send "DEV.QUEUE.1" m draw qm).answer = .error x ∧
    x.reasonCode ≠ some .expiryError := by
  obtain ⟨-, count, mono, short, whole, long, back, sends⟩ := timeToLive_exact
  refine ⟨count _ (by decide), rfl, rfl, mono 199 200 1 2 (by decide) rfl rfl,
    short 99 (by decide) (by decide), whole _ (by decide) (by decide), long _ (by decide),
    back 2147483647 (by decide) (by decide), by decide, rfl, ?_⟩
  exact sends ⟨.autoAcknowledge, .nonPersistent, 1⟩ "DEV.QUEUE.1"
    ⟨.text (some "hello"), some { expiry := .tenths 0 }⟩
    ⟨⟨0, 0, by decide, by decide⟩, Vector.replicate 16 7⟩ (.ofOptions { maxMessageLength := 4 }) _
    (by decide) rfl

end Courier
