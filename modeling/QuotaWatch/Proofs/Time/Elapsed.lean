import Mathlib
import QuotaWatch.Gate.Basic
/-!
**Elapsed time between instants a clock can show.**

The difference of two instants is computed in 64-bit arithmetic and checked by adding it back,
clamping when the check fails. Between two valid instants the check is exact: the result is the
true distance in nanoseconds, clamped to the range of durations. A cooldown therefore blocks
exactly while less than its interval has passed, and an instant before the recorded one is within
any positive cooldown.

Main definitions:

* `Instant.Valid` — an instant whose seconds fit in 64 bits, with nanoseconds under a second;
* `Instant.nanos` — an instant as a count of nanoseconds;
* `Instant.clampNanos` — a count clamped to the range of durations.

Main results:

* `Instant.add_eq` — adding a duration to a valid instant;
* `Instant.sub_toInt` — the difference of two valid instants is their true distance, clamped;
* `cooldownBlocks_some`, `cooldown_passed` — **a cooldown blocks exactly while its interval has
  not truly passed**.
-/

namespace QuotaWatch

namespace Instant

/-- An instant a clock can show: its seconds fit in a signed 64-bit word and its nanoseconds in
a second. -/
def Valid (t : Instant) : Prop := -(2 ^ 63) ≤ t.sec ∧ t.sec < 2 ^ 63 ∧ t.nsec < 1000000000

instance (t : Instant) : Decidable t.Valid := inferInstanceAs (Decidable (_ ∧ _ ∧ _))

/-- Nanoseconds since the first instant of year one. -/
def nanos (t : Instant) : Int := t.sec * 1000000000 + t.nsec

/-- The balanced residue modulo `2^64`, spelled out. -/
theorem bmod64 (x : Int) : x.bmod 18446744073709551616 = if x % 18446744073709551616 < 9223372036854775808 then
    x % 18446744073709551616 else x % 18446744073709551616 - 18446744073709551616 := by
  rw [Int.bmod_def]
  rfl

theorem secMax_eq : secMax = 9223372036854775807 := rfl

theorem secMin_eq : secMin = -9223372036854775807 := rfl

theorem same_eq_true_iff {t u : Instant} : t.same u = true ↔ t.sec = u.sec ∧ t.nsec = u.nsec := by
  simp [same]

/-- Between instants whose nanoseconds are within a second, "before" is the order of their
nanosecond counts. -/
theorem before_eq_true_iff {t u : Instant} (ht : t.nsec < 1000000000) (hu : u.nsec < 1000000000) :
    t.before u = true ↔ t.nanos < u.nanos := by
  simp only [before, nanos, Bool.or_eq_true, decide_eq_true_eq, Bool.and_eq_true, beq_iff_eq]
  omega

/-! ### Adding a duration -/

/-- Adding seconds saturates exactly when the sum leaves the 64-bit range. -/
theorem addSec_eq {s d : Int} (hs₁ : -9223372036854775808 ≤ s) (hs₂ : s < 9223372036854775808)
    (hd₁ : -4611686018427387904 ≤ d) (hd₂ : d < 4611686018427387904) :
    addSec s d = if s + d ≥ 9223372036854775808 then secMax
      else if s + d < -9223372036854775808 then secMin else s + d := by
  simp only [addSec, Int64.toInt_ofInt, Int64.size, bmod64, secMax_eq, secMin_eq]
  simp only [beq_iff_eq, decide_eq_decide]
  split_ifs <;> omega

/-- A duration is a signed 64-bit count. -/
theorem toInt_bounds (d : Duration) : -9223372036854775808 ≤ d.toInt ∧ d.toInt < 9223372036854775808 := by
  have h1 := Int64.le_toInt d.nanos
  have h2 := Int64.toInt_lt d.nanos
  simp only [Duration.toInt]
  constructor <;> omega

/-- **Adding a duration.** To an instant whose seconds fit in 64 bits, adding a duration gives
the exact sum: its nanoseconds are those within the second, and its seconds are saturated at the
ends of the 64-bit range. -/
theorem add_eq {u : Instant} (hu : u.Valid) (d : Duration) :
    u.add d = { u with
      sec := if (u.nanos + d.toInt) / 1000000000 ≥ 9223372036854775808 then secMax
        else if (u.nanos + d.toInt) / 1000000000 < -9223372036854775808 then secMin
        else (u.nanos + d.toInt) / 1000000000,
      nsec := ((u.nanos + d.toInt) % 1000000000).toNat } := by
  obtain ⟨h1, h2, h3⟩ := hu
  obtain ⟨hd1, hd2⟩ := toInt_bounds d
  have hqr := Int.tmod_add_tdiv_mul d.toInt 1000000000
  have hr1 := Int.lt_tmod_of_pos d.toInt (by decide : (0 : Int) < 1000000000)
  have hr2 := Int.tmod_lt_of_pos d.toInt (by decide : (0 : Int) < 1000000000)
  simp only [add, nanos]
  generalize d.toInt.tdiv 1000000000 = q at hqr ⊢
  generalize d.toInt.tmod 1000000000 = r at hqr hr1 hr2 ⊢
  generalize d.toInt = δ at hqr hd1 hd2 ⊢
  -- whichever way the nanoseconds carry, the seconds and nanoseconds are those of the exact sum
  have key : ∀ q' n' : Int, q' * 1000000000 + n' = q * 1000000000 + u.nsec + r → 0 ≤ n' →
      n' < 1000000000 →
      ({ u with sec := addSec u.sec q', nsec := n'.toNat } : Instant) =
        { u with
          sec := if (u.sec * 1000000000 + u.nsec + δ) / 1000000000 ≥ 9223372036854775808 then secMax
            else if (u.sec * 1000000000 + u.nsec + δ) / 1000000000 < -9223372036854775808 then secMin
            else (u.sec * 1000000000 + u.nsec + δ) / 1000000000,
          nsec := ((u.sec * 1000000000 + u.nsec + δ) % 1000000000).toNat } := by
    intro q' n' hsum hn1 hn2
    rw [addSec_eq h1 h2 (by omega) (by omega)]
    simp only [Instant.mk.injEq, and_true]
    constructor
    · split_ifs <;> omega
    · omega
  by_cases ha : (u.nsec : Int) + r ≥ 1000000000
  · simp only [ha, if_true]
    exact key _ _ (by omega) (by omega) (by omega)
  · by_cases hb : (u.nsec : Int) + r < 0
    · simp only [ha, hb, if_true, if_false]
      exact key _ _ (by omega) (by omega) (by omega)
    · simp only [ha, hb, if_false]
      exact key _ _ (by omega) (by omega) (by omega)

/-! ### The difference of two instants -/

/-- The candidate difference is the true difference wrapped into 64 bits. -/
theorem sub_candidate_toInt (t u : Instant) :
    (Int64.ofInt (t.sec - u.sec) * 1000000000 + Int64.ofInt ((t.nsec : Int) - u.nsec)).toInt =
      (t.nanos - u.nanos).bmod 18446744073709551616 := by
  rw [Int64.toInt_add, Int64.toInt_mul, Int64.toInt_ofInt, Int64.toInt_ofInt]
  have h9 : (1000000000 : Int64).toInt = 1000000000 := by decide
  rw [h9]
  simp only [Int64.size]
  rw [Int.bmod_mul_bmod, ← Int.bmod_add_bmod, Int.bmod_bmod, Int.bmod_add_bmod, Int.add_bmod_bmod]
  congr 1
  simp only [nanos]
  omega

/-- The largest and smallest durations bound a count of nanoseconds. -/
def clampNanos (x : Int) : Int := max (-9223372036854775808) (min 9223372036854775807 x)

/-- **The difference of two valid instants** is their true distance in nanoseconds, clamped to
the range of durations: the check that adds the candidate back fails exactly when the distance
does not fit. -/
theorem sub_toInt {t u : Instant} (ht : t.Valid) (hu : u.Valid) :
    (t.sub u).toInt = clampNanos (t.nanos - u.nanos) := by
  have hc := sub_candidate_toInt t u
  unfold sub
  dsimp only
  generalize (Int64.ofInt (t.sec - u.sec) * 1000000000 + Int64.ofInt ((t.nsec : Int) - u.nsec)) = x at hc ⊢
  have hx : ({ nanos := x } : Duration).toInt = x.toInt := rfl
  have hxb := toInt_bounds ⟨x⟩
  rw [hx] at hxb
  have hmin : Duration.min.toInt = -9223372036854775808 := by decide
  have hmax : Duration.max.toInt = 9223372036854775807 := by decide
  have ht' := ht
  obtain ⟨ht1, ht2, ht3⟩ := ht'
  have hu' := hu
  obtain ⟨hu1, hu2, hu3⟩ := hu'
  by_cases hlo : t.nanos - u.nanos < -9223372036854775808
  · -- too far before: the candidate wrapped around, and the difference is the smallest one
    have hsame : (u.add ⟨x⟩).same t = false := by
      rw [Bool.eq_false_iff, ne_eq, add_eq hu, same_eq_true_iff, hx]
      simp only [nanos] at hlo ⊢
      rintro ⟨h1, h2⟩
      clear hc
      split_ifs at h1 <;> simp only [secMax_eq, secMin_eq] at h1 <;> omega
    have hbefore : t.before u = true := (before_eq_true_iff ht3 hu3).2 (by omega)
    rw [hsame, hbefore]
    simp only [clampNanos, Bool.false_eq_true, if_true, if_false, hmin]
    omega
  by_cases hhi : t.nanos - u.nanos > 9223372036854775807
  · -- too far after: the candidate wrapped around, and the difference is the largest one
    have hsame : (u.add ⟨x⟩).same t = false := by
      rw [Bool.eq_false_iff, ne_eq, add_eq hu, same_eq_true_iff, hx]
      simp only [nanos] at hhi ⊢
      rintro ⟨h1, h2⟩
      clear hc
      split_ifs at h1 <;> simp only [secMax_eq, secMin_eq] at h1 <;> omega
    have hbefore : t.before u = false := by
      rw [Bool.eq_false_iff, ne_eq, before_eq_true_iff ht3 hu3]
      omega
    rw [hsame, hbefore]
    simp only [clampNanos, Bool.false_eq_true, if_false, hmax]
    omega
  -- in range: the candidate is the exact difference, and `u` plus it is `t`
  have hδ : x.toInt = t.nanos - u.nanos := by
    rw [hc, bmod64]
    split_ifs <;> omega
  have hsame : (u.add ⟨x⟩).same t = true := by
    rw [add_eq hu, same_eq_true_iff, hx, hδ]
    simp only [nanos]
    constructor
    · split_ifs <;> simp only [secMax_eq, secMin_eq] <;> omega
    · omega
  rw [hsame]
  simp only [if_true, hx, hδ, clampNanos]
  omega

end Instant

/-- **A cooldown blocks exactly while its interval has not truly passed**, for an interval above
the smallest duration. -/
theorem cooldownBlocks_some {now last : Instant} (hn : now.Valid) (hl : last.Valid) {d : Duration}
    (hd : -9223372036854775808 < d.toInt) :
    cooldownBlocks now (some last) d = decide (now.nanos - last.nanos < d.toInt) := by
  have hs := Instant.sub_toInt hn hl
  have hb := Instant.toInt_bounds d
  have hlt : now.sub last < d ↔ (now.sub last).toInt < d.toInt := Int64.lt_iff_toInt_lt
  simp only [cooldownBlocks]
  rw [decide_eq_decide, hlt, hs, Instant.clampNanos]
  omega

/-- **A cooldown that does not block has truly passed**, at a reading no earlier than the recorded
one: whatever the interval, the true distance is at least it. -/
theorem cooldown_passed {now last : Instant} (hn : now.Valid) (hl : last.Valid)
    (hle : last.nanos ≤ now.nanos) {d : Duration} (h : cooldownBlocks now (some last) d = false) :
    last.nanos + d.toInt ≤ now.nanos := by
  have hs := Instant.sub_toInt hn hl
  have hlt : now.sub last < d ↔ (now.sub last).toInt < d.toInt := Int64.lt_iff_toInt_lt
  simp only [cooldownBlocks, decide_eq_false_iff_not] at h
  rw [hlt, hs, Instant.clampNanos] at h
  omega

end QuotaWatch
