import Mathlib
import QuotaWatch.Proofs.Refresh.Lifecycle
/-!
**Readings merged in any order.**

Merging keeps the snapshot of the latest capture: an earlier reading is dropped, a later one
replaces every window save an assumed-reset window it predates the cycle of. Readings of events
are never assumed reset, hence the order law; two readings of one moment in different zones are
different times, and then the order matters.

Main definitions:

* `Snapshot.numericUsage` — a snapshot whose percentages are numbers;
* `Snapshot.later` — the later of two snapshots by capture time;
* `Snapshot.FreshReading` — a reading with no window assumed reset.

Main results:

* `Window.merge_merge_of_before` — merging two fresh windows in order is merging the later;
* `Snapshot.merge_older_after`, `Snapshot.merge_newer_after` — a reading older than the last one
  merged is dropped, and a fresh one is forgotten once a later one is merged;
* `Snapshot.foldl_merge_eq_later`, `Snapshot.foldl_later_newest` — merging a run of fresh
  readings keeps the newest;
* `Snapshot.merge_order_law` — **merging readings of events does not depend on their order**;
* `Snapshot.same_moment_order_matters` — two readings of one moment in different zones.
-/

namespace QuotaWatch

/-! ### The order of capture times -/

namespace Instant

theorem before_trans {t u v : Instant} (h₁ : t.before u = true) (h₂ : u.before v = true) :
    t.before v = true := by
  simp only [before, Bool.or_eq_true, decide_eq_true_eq, Bool.and_eq_true, beq_iff_eq] at *
  omega

theorem before_asymm {t u : Instant} (h : t.before u = true) : u.before t = false := by
  simp only [before, Bool.or_eq_true, decide_eq_true_eq, Bool.and_eq_true, beq_iff_eq,
    Bool.or_eq_false_iff, decide_eq_false_iff_not, Bool.and_eq_false_iff, beq_eq_false_iff_ne] at *
  omega

/-- Of two different moments, one is before the other. -/
theorem before_or_before {t u : Instant} (h : t.same u = false) :
    t.before u = true ∨ u.before t = true := by
  simp only [same, before, Bool.or_eq_true, decide_eq_true_eq, Bool.and_eq_true, beq_iff_eq,
    Bool.and_eq_false_iff, beq_eq_false_iff_ne] at *
  omega

theorem same_self (t : Instant) : t.same t = true := by
  simp [same]

end Instant

/-- A double that is not NaN equals itself. -/
theorem float_beq_self {x : Float} (h : x.isNaN = false) : (x == x) = true := by
  change x.toModel.unpack.beq x.toModel.unpack = true
  simp only [Float.isNaN, Float.Model.isNaN] at h
  cases hu : x.toModel.unpack with
  | notANumber => simp [hu, Float.Model.UnpackedFloat.isNaN] at h
  | infinity s => cases s <;> rfl
  | zero s => cases s <;> rfl
  | finite s m e hm =>
    cases s <;> simp [Float.Model.UnpackedFloat.beq, Float.Model.UnpackedFloat.compare]

/-! ### Windows -/

namespace Window

theorem same_self {w : Window} (h : w.usedPercent.isNaN = false) : w.same w = true := by
  simp [same, float_beq_self h, Instant.same_self]

/-- A window that is not assumed reset gives way to any reading. -/
theorem merge_of_fresh {prev : Window} (h : prev.assumedReset = false) (next : Window)
    (observedAt : Instant) : prev.merge next observedAt = next := by
  simp [merge, h]

/-- Merging a window with itself keeps it. -/
theorem merge_self (w : Window) (observedAt : Instant) : w.merge w observedAt = w := by
  simp [merge]

/-- After a fresh reading, a later one decides the window as if the first had not come: the
first either kept the previous window, and the later one meets the same choice, or it replaced
it, and then the later one is past the previous cycle too. -/
theorem merge_merge_of_before {p a b : Window} {ta tb : Instant} (ha : a.assumedReset = false)
    (hab : ta.before tb = true) : (p.merge a ta).merge b tb = p.merge b tb := by
  by_cases hkeep : (p.assumedReset && ta.before p.cycleStart) = true
  · have hkept : p.merge a ta = p := by rw [merge, if_pos hkeep]
    rw [hkept]
  · have hreplaced : p.merge a ta = a := by rw [merge, if_neg hkeep]
    rw [hreplaced, merge_of_fresh ha, merge, if_neg]
    -- a reading after one past the previous cycle is past it too
    simp only [Bool.and_eq_true, not_and, Bool.not_eq_true] at hkeep ⊢
    intro hreset
    cases hcycle : tb.before p.cycleStart
    · rfl
    · have hta := hkeep hreset
      rw [Instant.before_trans hab hcycle] at hta
      cases hta

end Window

/-! ### Snapshots -/

namespace Snapshot

/-- Neither window's usage is NaN. -/
def numericUsage (s : Snapshot) : Bool :=
  !s.fiveHour.usedPercent.isNaN && !s.weekly.usedPercent.isNaN

/-- Of two readings, the one captured later; the first when neither is before the other. -/
def later (s t : Snapshot) : Snapshot := if s.capturedAt.before t.capturedAt then t else s

theorem same_self {s : Snapshot} (h : s.numericUsage = true) : s.same s = true := by
  simp only [numericUsage, Bool.and_eq_true, Bool.not_eq_true'] at h
  simp [same, Instant.same_self, Window.same_self h.1, Window.same_self h.2]

/-- A reading captured before the snapshot is dropped. -/
theorem merge_some_of_before {p next : Snapshot} (h : next.capturedAt.before p.capturedAt = true) :
    merge (some p) next = (p, false) := by
  simp [merge, h]

/-- A reading is never captured before the snapshot it was merged into. -/
theorem merge_capturedAt_of_not_before {prev : Option Snapshot} {next : Snapshot}
    (h : ∀ p ∈ prev, next.capturedAt.before p.capturedAt = false) :
    (merge prev next).1.capturedAt = next.capturedAt := by
  cases prev with
  | none => rfl
  | some p => simp [merge, h p rfl]

/-- The capture time after a merge is one of the two, and never before either. -/
theorem merge_capturedAt_cases (prev : Option Snapshot) (next : Snapshot) :
    (merge prev next).1.capturedAt = next.capturedAt ∨
      ∃ p ∈ prev, (merge prev next).1 = p ∧ next.capturedAt.before p.capturedAt = true := by
  cases prev with
  | none => exact .inl rfl
  | some p =>
    by_cases h : next.capturedAt.before p.capturedAt = true
    · exact .inr ⟨p, rfl, by simp [merge, h], h⟩
    · exact .inl (merge_capturedAt_of_not_before (by simpa using h))

/-- **A reading older than the last one merged is dropped.** -/
theorem merge_older_after (prev : Option Snapshot) {a b : Snapshot}
    (hab : a.capturedAt.before b.capturedAt = true) :
    merge (some (merge prev b).1) a = ((merge prev b).1, false) := by
  -- the merged snapshot is captured at `b`, or at a time `b` precedes
  have hbefore : a.capturedAt.before (merge prev b).1.capturedAt = true := by
    rcases merge_capturedAt_cases prev b with h | ⟨p, -, hp, hbp⟩
    · rw [h]
      exact hab
    · rw [hp]
      exact Instant.before_trans hab hbp
  exact merge_some_of_before hbefore

/-- **A fresh reading is forgotten once a later one is merged**: the result is what merging the
later reading alone gives. -/
theorem merge_newer_after (prev : Option Snapshot) {a b : Snapshot}
    (hfive : a.fiveHour.assumedReset = false) (hweekly : a.weekly.assumedReset = false)
    (hab : a.capturedAt.before b.capturedAt = true) :
    (merge (some (merge prev a).1) b).1 = (merge prev b).1 := by
  cases prev with
  | none =>
    -- merged into nothing, `a` is kept whole, and its fresh windows give way to `b`'s
    simp [merge, Instant.before_asymm hab, Window.merge_of_fresh hfive,
      Window.merge_of_fresh hweekly]
  | some p =>
    by_cases hap : a.capturedAt.before p.capturedAt = true
    · -- `a` was dropped
      simp [merge, hap]
    · -- `a` was merged window by window, and `b` comes after both
      have hbp : b.capturedAt.before p.capturedAt = false := by
        cases h : b.capturedAt.before p.capturedAt
        · rfl
        · exact absurd (Instant.before_trans hab h) hap
      simp [merge, hap, hbp, Instant.before_asymm hab, Window.merge_merge_of_before hfive hab,
        Window.merge_merge_of_before hweekly hab]

/-- Merging a snapshot into itself gives it back, unchanged when its usage is a number. -/
theorem merge_self {p : Snapshot} (hp : p.numericUsage = true) : merge (some p) p = (p, false) := by
  simp [merge, Instant.before_irrefl, Window.merge_self, same_self hp]

/-- The change flag says whether the result differs from a previous snapshot whose usage is a
number. -/
theorem merge_changed_eq {p : Snapshot} (hp : p.numericUsage = true) (next : Snapshot) :
    (merge (some p) next).2 = !(merge (some p) next).1.same p := by
  by_cases h : next.capturedAt.before p.capturedAt = true
  · simp [merge, h, same_self hp]
  · simp [merge, h]

/-! ### Folds -/

section Fold

variable (prev : Option Snapshot)

/-- Readings as the event source gives them: both windows fresh. -/
def FreshReading (s : Snapshot) : Prop :=
  s.fiveHour.assumedReset = false ∧ s.weekly.assumedReset = false

/-- Folding readings of pairwise different moments into the merge of a first one is merging the
latest of them all. -/
theorem foldl_merge_eq_later {first : Snapshot} {l : List Snapshot}
    (hfresh : ∀ s ∈ first :: l, FreshReading s)
    (hdistinct : (first :: l).Pairwise fun s t => s.capturedAt.same t.capturedAt = false) :
    l.foldl (fun acc s => some (merge acc s).1) (some (merge prev first).1) =
      some (merge prev (l.foldl later first)).1 := by
  -- the induction carries the latest reading so far, and every reading still to come differs
  -- from it in time
  induction l generalizing first with
  | nil => rfl
  | cons s rest ih =>
    have hfs : first.capturedAt.same s.capturedAt = false :=
      List.rel_of_pairwise_cons hdistinct (List.mem_cons_self ..)
    obtain ⟨hfirst, hrest⟩ := List.pairwise_cons.1 hdistinct
    rw [List.foldl_cons, List.foldl_cons]
    rcases Instant.before_or_before hfs with hlt | hgt
    · -- `s` is later: the first reading is forgotten
      rw [merge_newer_after prev (hfresh first (by simp)).1 (hfresh first (by simp)).2 hlt,
        later, if_pos hlt]
      exact ih (fun t ht => hfresh t (List.mem_cons_of_mem _ ht)) hrest
    · -- `s` is older: it is dropped
      rw [merge_older_after prev hgt, later, if_neg (by rw [Instant.before_asymm hgt]; simp)]
      refine ih (fun t ht => ?_) ?_
      · rcases List.mem_cons.1 ht with rfl | ht
        · exact hfresh t (by simp)
        · exact hfresh t (by simp [ht])
      · exact List.Pairwise.cons (fun t ht => hfirst t (List.mem_cons_of_mem _ ht))
          (List.pairwise_cons.1 hrest).2

end Fold

/-- The latest of a first reading and a list is one of them, and none of them is after it. -/
theorem foldl_later_newest (first : Snapshot) (l : List Snapshot) :
    l.foldl later first ∈ first :: l ∧
      ∀ s ∈ first :: l, (l.foldl later first).capturedAt.before s.capturedAt = false := by
  induction l generalizing first with
  | nil => simp [Instant.before_irrefl]
  | cons s rest ih =>
    obtain ⟨hmem, hmax⟩ := ih (later first s)
    -- the later of the two is not before either of them
    have hpair : ∀ t ∈ [first, s], (later first s).capturedAt.before t.capturedAt = false := by
      by_cases h : first.capturedAt.before s.capturedAt = true
      · simp [later, h, Instant.before_irrefl, Instant.before_asymm h]
      · simp_all [later, Instant.before_irrefl]
    refine ⟨?_, fun t ht => ?_⟩
    · rw [List.foldl_cons]
      rcases List.mem_cons.1 hmem with h | h
      · rw [h]
        unfold later
        split <;> simp
      · exact List.mem_cons_of_mem _ (List.mem_cons_of_mem _ h)
    · rw [List.foldl_cons]
      rcases List.mem_cons.1 ht with rfl | ht
      · exact Instant.before_eq_false_trans (hmax _ (List.mem_cons_self ..)) (hpair t (by simp))
      · rcases List.mem_cons.1 ht with rfl | ht
        · exact Instant.before_eq_false_trans (hmax _ (List.mem_cons_self ..)) (hpair t (by simp))
        · exact hmax t (List.mem_cons_of_mem _ ht)

/-- A snapshot read from an event is a fresh reading. -/
theorem freshReading_of_ofEvent {ev : Option UsageEvent} {source : String} {s : Snapshot}
    (h : ofEvent ev source = .ok s) : FreshReading s :=
  ofEvent_fresh h

/-- **Merging readings of events does not depend on their order.** Two readings of different
moments give the same snapshot in either order, the one that merging the later alone gives; a
fold over readings of pairwise different moments gives the merge of the newest; and, for a
previous snapshot whose usage is a number, merging it into itself changes nothing and the change
flag says whether the result differs from it. -/
theorem merge_order_law :
    (∀ (prev : Option Snapshot) (a b : Snapshot),
      (∃ ev source, ofEvent ev source = .ok a) → (∃ ev source, ofEvent ev source = .ok b) →
      a.capturedAt.same b.capturedAt = false →
      (merge (some (merge prev a).1) b).1 = (merge (some (merge prev b).1) a).1 ∧
        (merge (some (merge prev a).1) b).1 = (merge prev (later a b)).1) ∧
    (∀ (prev : Option Snapshot) (l : List Snapshot), l ≠ [] →
      (∀ s ∈ l, ∃ ev source, ofEvent ev source = .ok s) →
      l.Pairwise (fun s t => s.capturedAt.same t.capturedAt = false) →
      ∃ newest ∈ l, (∀ s ∈ l, newest.capturedAt.before s.capturedAt = false) ∧
        l.foldl (fun acc s => some (merge acc s).1) prev = some (merge prev newest).1) ∧
    (∀ p : Snapshot, p.numericUsage = true →
      merge (some p) p = (p, false) ∧
        ∀ next, (merge (some p) next).2 = !(merge (some p) next).1.same p) := by
  refine ⟨?_, ?_, fun p hp => ⟨merge_self hp, merge_changed_eq hp⟩⟩
  · rintro prev a b ⟨eva, srca, ha⟩ ⟨evb, srcb, hb⟩ hab
    have hfa := freshReading_of_ofEvent ha
    have hfb := freshReading_of_ofEvent hb
    rcases Instant.before_or_before hab with hlt | hgt
    · rw [merge_newer_after prev hfa.1 hfa.2 hlt, merge_older_after prev hlt, later, if_pos hlt]
      exact ⟨rfl, rfl⟩
    · rw [merge_older_after prev hgt, merge_newer_after prev hfb.1 hfb.2 hgt, later,
        if_neg (by rw [Instant.before_asymm hgt]; simp)]
      exact ⟨rfl, rfl⟩
  · rintro prev (_ | ⟨first, l⟩) hne hev hdistinct
    · exact absurd rfl hne
    · have hfresh : ∀ s ∈ first :: l, FreshReading s := fun s hs =>
        let ⟨_, _, h⟩ := hev s hs
        freshReading_of_ofEvent h
      obtain ⟨hmem, hmax⟩ := foldl_later_newest first l
      refine ⟨l.foldl later first, hmem, hmax, ?_⟩
      rw [List.foldl_cons]
      exact foldl_merge_eq_later prev hfresh hdistinct

/-- Two readings of `2025-01-15T10:00:00Z`, the second written as `11:00:00+01:00`: their times
differ, neither is before the other, and the one merged second wins. -/
theorem same_moment_order_matters :
    let weekly : RateLimit := { resetsAt := ⟨63872928000, 0, 0⟩, usedPercent := 20, windowMinutes := 10080 }
    let ev₁ : UsageEvent :=
      { timestamp := ⟨63872532000, 0, 0⟩, secondary := some weekly,
        primary := some { resetsAt := ⟨63872546400, 0, 0⟩, usedPercent := 10, windowMinutes := 300 } }
    let ev₂ : UsageEvent :=
      { timestamp := ⟨63872532000, 0, 3600⟩, secondary := some weekly,
        primary := some { resetsAt := ⟨63872546400, 0, 0⟩, usedPercent := 30, windowMinutes := 300 } }
    Instant.parseRfc3339Loose? "2025-01-15T11:00:00+01:00" = some ev₂.timestamp ∧
      ∃ a b : Snapshot, ofEvent (some ev₁) sessionLog = .ok a ∧ ofEvent (some ev₂) sessionLog = .ok b ∧
        a.capturedAt ≠ b.capturedAt ∧
        (merge (some (merge none a).1) b).1.capturedAt ≠ (merge (some (merge none b).1) a).1.capturedAt := by
  intro weekly ev₁ ev₂
  refine ⟨by decide +kernel, _, _, rfl, rfl, by decide, ?_⟩
  decide

end Snapshot

end QuotaWatch
