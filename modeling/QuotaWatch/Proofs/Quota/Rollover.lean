import Mathlib.Tactic.Ring
import QuotaWatch.Proofs.Time.Stamp
import QuotaWatch.Proofs.Refresh.Lifecycle
/-!
**Rolling an overdue reset forward.**

The reset moves on by whole window lengths, computed in 64-bit words: the gap as a duration
(capped near 292 years), divided into steps, plus one, times the step, then single steps. When
the product wraps the result is still within one step past now, but off the window's grid.

Main definitions:

* `Instant.FirstStepAfter` — the first instant of a grid of steps from a start that is after now.

Main results:

* `jump_toInt` — the whole-cycle jump in 64-bit arithmetic;
* `stepPast_spec`, `rollForward_spec` — rolling a reset forward lands after now, within one step
  of it, on the grid when the jump does not wrap;
* `Window.normalize_settled`, `Snapshot.normalize_normalize` — normalizing again at an earlier or
  equal time changes nothing;
* `Window.normalize_rolls_forward` — **normalizing an overdue window rolls its reset forward**;
* `Window.year_one_reset_rolls_off_grid` — a reset at year one rolls off its grid.
-/

namespace QuotaWatch

/-! ### 64-bit words -/

theorem bmod64_of_lt {z : Int} (hlo : -(2 ^ 63) ≤ z) (hhi : z < 2 ^ 63) : z.bmod (2 ^ 64) = z :=
  Int.bmod_eq_of_le (by norm_num; omega) (by norm_num; omega)

theorem bmod64_of_ge {z : Int} (hlo : 2 ^ 63 ≤ z) (hhi : z < 2 ^ 64) :
    z.bmod (2 ^ 64) = z - 2 ^ 64 := by
  rw [Int.bmod_def, Int.emod_eq_of_lt (by omega) (by norm_num; omega)]
  norm_num
  omega

/-- **The whole-cycle jump in 64-bit arithmetic**: one more than the number of whole steps `s` in a
gap `g`, times `s`. It is exact when the true product fits in a word, and otherwise it wraps
around below zero. -/
theorem jump_toInt {g s : Int64} (hg : 0 ≤ g.toInt) (hs : 0 < s.toInt) :
    ((s * (g / s + 1)).toInt = s.toInt * (g.toInt / s.toInt + 1) ∧
        s.toInt * (g.toInt / s.toInt + 1) < 2 ^ 63) ∨
      ((s * (g / s + 1)).toInt < 0 ∧ 2 ^ 63 ≤ s.toInt * (g.toInt / s.toInt + 1)) := by
  have hne : s ≠ -1 := fun h => by subst h; simp at hs
  have hdiv : (g / s).toInt = g.toInt / s.toInt := by
    rw [Int64.toInt_div_of_ne_right _ _ hne, Int.tdiv_eq_ediv_of_nonneg hg]
  have hg1 := Int64.toInt_lt g
  have hs1 := Int64.toInt_lt s
  have hq0 : 0 ≤ g.toInt / s.toInt := Int.ediv_nonneg hg hs.le
  have hsq : s.toInt * (g.toInt / s.toInt) ≤ g.toInt := Int.mul_ediv_self_le hs.ne'
  have h1 : (1 : Int64).toInt = 1 := rfl
  rw [Int64.toInt_mul, Int64.toInt_add, hdiv, h1]
  generalize g.toInt / s.toInt = q at hq0 hsq ⊢
  have hsq0 : 0 ≤ s.toInt * q := Int.mul_nonneg hs.le hq0
  have hqle : q ≤ s.toInt * q := le_mul_of_one_le_left hq0 (by omega)
  by_cases hsmall : q + 1 < 2 ^ 63
  · rw [bmod64_of_lt (by omega) hsmall]
    have hmul : s.toInt * (q + 1) = s.toInt * q + s.toInt := by ring
    by_cases hfit : s.toInt * (q + 1) < 2 ^ 63
    · exact .inl ⟨bmod64_of_lt (by omega) hfit, hfit⟩
    · right
      rw [bmod64_of_ge (z := s.toInt * (q + 1)) (by omega) (by omega)]
      omega
  · -- only a step of one nanosecond leaves this many whole steps, and then the count itself
    -- wraps to the least word
    have hs' : s.toInt = 1 := by
      by_contra hne1
      have : 2 * q ≤ s.toInt * q := Int.mul_le_mul_of_nonneg_right (by omega) hq0
      omega
    obtain rfl : q = 2 ^ 63 - 1 := by omega
    rw [hs']
    right
    decide

/-- One more than the whole steps of `s` in `x` passes `x` by at most one step. -/
theorem steps_past_bounds {x s : Int} (hs : 0 < s) : x < s * (x / s + 1) ∧ s * (x / s + 1) ≤ x + s := by
  have h1 := Int.lt_ediv_add_one_mul_self x hs
  have h2 := Int.ediv_mul_le x hs.ne'
  have hmul : s * (x / s + 1) = x / s * s + s := by ring
  have hmul' : (x / s + 1) * s = x / s * s + s := by ring
  omega

/-! ### Instants as counts of nanoseconds -/

namespace Instant

@[simp] theorem totalNanos_eq (t : Instant) : t.totalNanos = t.nanos := rfl

@[simp] theorem ofTotalNanos_nanos (n off : Int) : (ofTotalNanos n off).nanos = n := by
  simp only [ofTotalNanos, nanos]
  omega

theorem ofTotalNanos_nsec_lt (n off : Int) : (ofTotalNanos n off).nsec < 1000000000 := by
  simp only [ofTotalNanos]
  omega

theorem before_eq_false_iff {t u : Instant} (ht : t.nsec < 1000000000) (hu : u.nsec < 1000000000) :
    t.before u = false ↔ u.nanos ≤ t.nanos := by
  rw [Bool.eq_false_iff, ne_eq, before_eq_true_iff ht hu]
  omega

/-- Far from the ends of the 64-bit range of seconds, adding a duration is exact. -/
theorem add_nanos {u : Instant} (hlo : -(2 ^ 62) ≤ u.sec) (hhi : u.sec < 2 ^ 62)
    (hns : u.nsec < 1000000000) (d : Duration) :
    (u.add d).nanos = u.nanos + d.toInt ∧ (u.add d).nsec < 1000000000 := by
  have hd := toInt_bounds d
  rw [add_eq ⟨by omega, by omega, hns⟩]
  simp only [nanos] at hd ⊢
  split_ifs <;> omega

/-- `r` is the first instant strictly after `now` that lies a whole positive number of steps `s`
after `from_`. -/
def FirstStepAfter (from_ now : Instant) (s : Int) (r : Instant) : Prop :=
  ∃ k : Int, 0 < k ∧ r.nanos = from_.nanos + k * s ∧ now.nanos < r.nanos ∧
    ∀ j : Int, now.nanos < from_.nanos + j * s → k ≤ j

/-- One more than the whole steps from `from_` to `now` is the first step after `now`. -/
theorem firstStepAfter_of_eq {from_ now r : Instant} {s : Int} (hs : 0 < s)
    (hle : from_.nanos ≤ now.nanos) (hr : r.nanos = from_.nanos + s * ((now.nanos - from_.nanos) / s + 1)) :
    from_.FirstStepAfter now s r := by
  obtain ⟨hpast, -⟩ := steps_past_bounds (x := now.nanos - from_.nanos) hs
  have hq0 : 0 ≤ (now.nanos - from_.nanos) / s := Int.ediv_nonneg (by omega) hs.le
  refine ⟨(now.nanos - from_.nanos) / s + 1, by omega, by rw [hr, Int.mul_comm], by omega, ?_⟩
  intro j hj
  -- fewer steps stay at or before `now`: `j` whole steps fit in the gap
  by_contra hlt
  have hjq : j * s ≤ (now.nanos - from_.nanos) / s * s := Int.mul_le_mul_of_nonneg_right (by omega) hs.le
  have hq := Int.ediv_mul_le (now.nanos - from_.nanos) hs.ne'
  omega

end Instant

open Instant

/-! ### Rolling forward -/

/-- Stepping past `now` from `next`: `next` itself when it is already after `now`, and otherwise
the first of its steps after `now`. -/
theorem stepPast_spec {next now : Instant} {step : Duration} (hs : 0 < step.toInt)
    (hnext : next.nsec < 1000000000) (hnow : now.nsec < 1000000000) :
    let r := stepPast next step now
    r.nsec < 1000000000 ∧ now.nanos < r.nanos ∧
      (now.nanos < next.nanos → r = next) ∧ (next.nanos ≤ now.nanos → r.nanos ≤ now.nanos + step.toInt) := by
  unfold stepPast
  by_cases ha : next.after now = true
  · have hlt : now.nanos < next.nanos := (before_eq_true_iff hnow hnext).1 ha
    simp only [ha, if_true]
    exact ⟨hnext, hlt, fun _ => trivial, fun h => absurd h (not_le.2 hlt)⟩
  · have hle : next.nanos ≤ now.nanos := (before_eq_false_iff hnow hnext).1 (Bool.eq_false_iff.2 ha)
    simp only [ha, Bool.false_eq_true, if_false, totalNanos_eq, ofTotalNanos_nanos]
    obtain ⟨h1, h2⟩ := steps_past_bounds (x := now.nanos - next.nanos) hs
    refine ⟨ofTotalNanos_nsec_lt _ _, ?_, fun h => absurd hle (not_le.2 h), fun _ => ?_⟩ <;>
      · rw [Int.mul_comm]
        omega

theorem rollForward_eq {from_ now : Instant} {step : Duration} (hs : 0 < step.toInt)
    (hdue : now.before from_ = false) :
    rollForward from_ step now =
      stepPast (from_.add ⟨step.nanos * ((now.sub from_).nanos / step.nanos + 1)⟩) step now := by
  rw [rollForward, if_neg (by omega), after, hdue, if_neg Bool.false_ne_true]

/-- **Rolling a reset forward.** From a reset time at or before `now`, with a positive step, the
roll lands strictly after `now` and at most one step after it; and when the gap plus one step fits
in a duration, it lands on the first whole number of steps after `now`. -/
theorem rollForward_spec {from_ now : Instant} {step : Duration} (hf : from_.Stampable)
    (hn : now.Stampable) (hs : 0 < step.toInt) (hdue : now.before from_ = false) :
    let r := rollForward from_ step now
    r.nsec < 1000000000 ∧ now.nanos < r.nanos ∧ r.nanos ≤ now.nanos + step.toInt ∧
      (now.nanos - from_.nanos + step.toInt < 2 ^ 63 →
        r.nanos = from_.nanos + step.toInt * ((now.nanos - from_.nanos) / step.toInt + 1)) := by
  have hfb := hf.sec_bounds
  have hle : from_.nanos ≤ now.nanos := (before_eq_false_iff hn.nsec_lt hf.nsec_lt).1 hdue
  -- the gap as the clock computes it: the true one, or the largest duration
  have hg : (now.sub from_).nanos.toInt = clampNanos (now.nanos - from_.nanos) :=
    sub_toInt hn.valid hf.valid
  have hg0 : 0 ≤ (now.sub from_).nanos.toInt := by
    rw [hg, clampNanos]
    omega
  -- the jump, exact or wrapped below zero, and the instant it reaches
  have hjump := jump_toInt hg0 hs
  obtain ⟨hnx, hnxs⟩ := add_nanos (u := from_) (by omega) (by omega) hf.nsec_lt
    ⟨step.nanos * ((now.sub from_).nanos / step.nanos + 1)⟩
  rw [rollForward_eq hs hdue]
  generalize from_.add ⟨step.nanos * ((now.sub from_).nanos / step.nanos + 1)⟩ = next at hnx hnxs
  obtain ⟨h1, h2, h3, h4⟩ := stepPast_spec hs hnxs hn.nsec_lt
  generalize stepPast next step now = r at h1 h2 h3 h4
  change next.nanos = from_.nanos + (step.nanos * ((now.sub from_).nanos / step.nanos + 1)).toInt at hnx
  change 0 < step.nanos.toInt at hs
  change next.nanos ≤ now.nanos → r.nanos ≤ now.nanos + step.nanos.toInt at h4
  show r.nsec < 1000000000 ∧ now.nanos < r.nanos ∧ r.nanos ≤ now.nanos + step.nanos.toInt ∧
    (now.nanos - from_.nanos + step.nanos.toInt < 2 ^ 63 →
      r.nanos = from_.nanos + step.nanos.toInt * ((now.nanos - from_.nanos) / step.nanos.toInt + 1))
  generalize (now.sub from_).nanos = g at hg hg0 hjump hnx
  generalize step.nanos = s at hs hjump hnx h4 ⊢
  generalize (s * (g / s + 1)).toInt = p at hjump hnx
  obtain ⟨hb1, hb2⟩ := steps_past_bounds (x := g.toInt) hs
  refine ⟨h1, h2, ?_, fun hfit => ?_⟩
  · by_cases hpast : now.nanos < next.nanos
    · -- already past: the jump was not wrapped, and one more step than the gap holds
      rw [h3 hpast]
      rw [clampNanos] at hg
      omega
    · exact h4 (by omega)
  · -- no wrap: the clock's gap is the true one, the jump is exact and already past `now`
    have hgap : g.toInt = now.nanos - from_.nanos := by
      rw [hg, clampNanos]
      omega
    rw [hgap] at hjump hb1 hb2
    rcases hjump with ⟨rfl, -⟩ | ⟨-, hbig⟩
    · rw [h3 (by omega), hnx]
    · omega

/-! ### Normalizing windows and snapshots -/

namespace Window

theorem normalize_of_due {w : Window} {now : Instant} (hfresh : w.assumedReset = false)
    (hdue : now.before w.resetsAt = false) :
    w.normalize now = ({ w with
      usedPercent := 0, isStale := true, assumedReset := true,
      resetsAt := rollForward w.resetsAt w.length now }, true) := by
  simp [normalize, hfresh, hdue]

/-- A window current at a time is left as it is. -/
theorem normalize_of_currentAt {w : Window} {now : Instant} (h : w.CurrentAt now) :
    w.normalize now = (w, false) := by
  rcases h with h | h <;> simp [normalize, h]

/-- A window current at a time is current at every earlier or equal time. -/
theorem CurrentAt.anti {w : Window} {t t' : Instant} (h : w.CurrentAt t) (hle : t.before t' = false) :
    w.CurrentAt t' := by
  rcases h with h | h
  · exact .inl h
  · right
    simp only [Instant.before, Bool.or_eq_true, decide_eq_true_eq, Bool.and_eq_true, beq_iff_eq,
      Bool.or_eq_false_iff, decide_eq_false_iff_not, Bool.and_eq_false_iff, beq_eq_false_iff_ne] at *
    omega

/-- Normalizing again, no later than the first time, leaves the window as it is. -/
theorem normalize_settled (w : Window) {t t' : Instant} (hle : t.before t' = false) :
    (w.normalize t).1.normalize t' = ((w.normalize t).1, false) :=
  normalize_of_currentAt ((normalize_currentAt w t).anti hle)

end Window

namespace Snapshot

/-- **Normalizing is settled**: normalizing again at an earlier or equal time changes nothing. -/
theorem normalize_normalize (s : Snapshot) {t t' : Instant} (hle : t.before t' = false) :
    (s.normalize t).normalize t' = s.normalize t := by
  rw [normalize_eq s t, normalize_eq _ t']
  simp only [Window.normalize_settled _ hle]

end Snapshot

namespace Window

/-- **Normalizing an overdue window.** A window not assumed reset whose reset time is at or
before `now`, both of four-digit years, comes back changed: no usage, stale, assumed reset, and
otherwise as it was but for its reset time. A window length that wrapped to zero or below puts the
reset at `now`. With a positive length the reset is strictly after `now` and the cycle it closes
starts at or before `now`; when the gap plus one length fits in a duration, the reset is the first
whole number of lengths after `now`. Normalizing a snapshot a second time, at an earlier or equal
time, changes nothing. -/
theorem normalize_rolls_forward (w : Window) (now : Instant) (hw : w.resetsAt.Stampable)
    (hn : now.Stampable) (hfresh : w.assumedReset = false) (hdue : now.before w.resetsAt = false) :
    (w.normalize now).2 = true ∧
      (w.normalize now).1 = { w with
        usedPercent := 0, isStale := true, assumedReset := true,
        resetsAt := (w.normalize now).1.resetsAt } ∧
      (w.length.toInt ≤ 0 → (w.normalize now).1.resetsAt = now) ∧
      (0 < w.length.toInt →
        now.before (w.normalize now).1.resetsAt = true ∧ now.before (w.normalize now).1.cycleStart = false ∧
        (now.nanos - w.resetsAt.nanos + w.length.toInt < 2 ^ 63 →
          w.resetsAt.FirstStepAfter now w.length.toInt (w.normalize now).1.resetsAt)) ∧
      ∀ (s : Snapshot) (t t' : Instant), t.before t' = false → (s.normalize t).normalize t' = s.normalize t := by
  rw [normalize_of_due hfresh hdue]
  refine ⟨rfl, rfl, fun hlen => ?_, fun hlen => ?_, fun s t t' hle => s.normalize_normalize hle⟩
  · simp [rollForward, hlen]
  obtain ⟨hr1, hr2, hr3, hr4⟩ := rollForward_spec hw hn hlen hdue
  have hnb := hn.sec_bounds
  have hlenb := toInt_bounds w.length
  -- the cycle the new reset closes starts one length before it
  have hneg : (-w.length).toInt = -w.length.toInt := by
    have hpos : 0 < w.length.nanos.toInt := hlen
    have hlt := Int64.toInt_lt w.length.nanos
    change (-w.length.nanos).toInt = -w.length.nanos.toInt
    rw [Int64.toInt_neg, bmod64_of_lt (by omega) (by omega)]
  have hrsec : -(2 ^ 62) ≤ (rollForward w.resetsAt w.length now).sec ∧
      (rollForward w.resetsAt w.length now).sec < 2 ^ 62 := by
    have hns := hn.nsec_lt
    simp only [nanos] at hr2 hr3
    omega
  obtain ⟨hcs, hcsn⟩ := add_nanos hrsec.1 hrsec.2 hr1 (-w.length)
  refine ⟨(before_eq_true_iff hn.nsec_lt hr1).2 hr2, ?_, fun hfit => ?_⟩
  · show now.before ((rollForward w.resetsAt w.length now).add (-w.length)) = false
    rw [before_eq_false_iff hn.nsec_lt hcsn, hcs, hneg]
    omega
  · have hle : w.resetsAt.nanos ≤ now.nanos := (before_eq_false_iff hn.nsec_lt hw.nsec_lt).1 hdue
    exact firstStepAfter_of_eq hlen hle (hr4 hfit)

/-- A weekly window read without a reset time, normalized at 2025-01-15 10:00 UTC: both instants
have four-digit years, and the window is overdue. -/
theorem normalize_rolls_forward_at_year_one :
    let w : Window := { resetsAt := Instant.zero, kind := .weekly, usedPercent := 10, windowMinutes := 10080 }
    let now : Instant := ⟨63872532000, 0, 0⟩
    w.resetsAt.Stampable ∧ now.Stampable ∧ w.assumedReset = false ∧ now.before w.resetsAt = false ∧
    (w.normalize now).2 = true ∧
      (w.normalize now).1 = { w with
        usedPercent := 0, isStale := true, assumedReset := true,
        resetsAt := (w.normalize now).1.resetsAt } ∧
      (w.length.toInt ≤ 0 → (w.normalize now).1.resetsAt = now) ∧
      (0 < w.length.toInt →
        now.before (w.normalize now).1.resetsAt = true ∧ now.before (w.normalize now).1.cycleStart = false ∧
        (now.nanos - w.resetsAt.nanos + w.length.toInt < 2 ^ 63 →
          w.resetsAt.FirstStepAfter now w.length.toInt (w.normalize now).1.resetsAt)) ∧
      ∀ (s : Snapshot) (t t' : Instant), t.before t' = false → (s.normalize t).normalize t' = s.normalize t := by
  intro w now
  have hw : w.resetsAt.Stampable := ⟨by decide, by decide, by decide⟩
  have hn : now.Stampable := ⟨by decide, by decide, by decide⟩
  have hdue : now.before w.resetsAt = false := by decide
  exact ⟨hw, hn, rfl, hdue, normalize_rolls_forward w now hw hn rfl hdue⟩

/-- **A reset at year one rolls off its grid.** A weekly window whose reset is the first instant
of year one, normalized at 2025-01-15 10:00 UTC, is 2025 years overdue, more than a duration
holds: the week after now on its grid is 2025-01-20 00:00, but the wrapped jump lands the reset at
2025-01-16 00:25:26.290448384, no whole number of weeks after year one. -/
theorem year_one_reset_rolls_off_grid :
    let w : Window := { resetsAt := Instant.zero, kind := .weekly, usedPercent := 10, windowMinutes := 10080 }
    let now : Instant := ⟨63872532000, 0, 0⟩
    w.resetsAt.FirstStepAfter now w.length.toInt ⟨63872928000, 0, 0⟩ ∧
      (w.normalize now).1.resetsAt = ⟨63872583926, 290448384, 0⟩ ∧
      ¬ w.resetsAt.FirstStepAfter now w.length.toInt (w.normalize now).1.resetsAt := by
  intro w now
  have hlen : w.length.toInt = 604800000000000 := by decide
  have hr : (w.normalize now).1.resetsAt = ⟨63872583926, 290448384, 0⟩ := by decide
  have hzero : w.resetsAt.nanos = 0 := rfl
  refine ⟨⟨105610, by decide, ?_, ?_, fun j hj => ?_⟩, hr, ?_⟩
  · rw [hzero, hlen]
    rfl
  · decide
  · rw [hzero, hlen] at hj
    simp only [nanos, now] at hj
    omega
  · rintro ⟨k, -, hk, -⟩
    rw [hr, hzero, hlen] at hk
    simp only [nanos] at hk
    omega

end Window

end QuotaWatch
