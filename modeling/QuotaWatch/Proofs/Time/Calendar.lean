import Mathlib.Tactic.IntervalCases
import QuotaWatch.Proofs.Time.Elapsed
/-!
**The calendar, read both ways.**

`Instant.civilFromDays` splits a day number into eras, years from the first of March, months
and days; `Instant.ofCivil` counts the days back by another formula in 64-bit arithmetic. For
years 0 to 9999 reading back the date and time of an instant gives the instant, to the clock's
precision, and an earlier date is an earlier day. Both go through the day a year from the first
of March starts on; the year-of-era formula is checked at the ends of each of the 400 years and
carried between them because it never decreases.

Main definitions:

* `Instant.startOfYear`, `Instant.yearOfDay` — the day a year from the first of March starts on,
  and the year of a day of an era;
* `Instant.ValidDate` — a month of the year and a day of the month;
* `Instant.dateOfMarchDay` — the date of a day of a year from the first of March;
* `Instant.truncMillis` — an instant cut to the millisecond.

Main results:

* `Instant.yearOfDay_spec` — the year of a day of an era;
* `Instant.civilFromDays_eq`, `Instant.daysFromCivil_civilFromDays` — the calendar date of a day,
  and counting the days to it gives the day back;
* `Instant.zeroDays_eq` — the two counts of days agree;
* `Instant.daysFromCivil_lt` — the calendar keeps the order of days;
* `Instant.ofCivil_eq`, `Instant.ofCivil_civil` — **reading back the date and clock time of an
  instant gives the instant**, to the millisecond.
-/

namespace QuotaWatch

namespace Instant

/-! ### 64-bit arithmetic -/

theorem wrap64_eq (x : Int) :
    wrap64 x = (x + 9223372036854775808) % 18446744073709551616 - 9223372036854775808 := by
  have h63 : Int.pow 2 63 = 9223372036854775808 := by decide
  have h64 : Int.pow 2 64 = 18446744073709551616 := by decide
  simp only [wrap64, h63, h64]

theorem unsigned64_of_lt {x : Int} (h0 : 0 ≤ x) (h1 : x < 18446744073709551616) : unsigned64 x = x := by
  have h64 : Int.pow 2 64 = 18446744073709551616 := by decide
  rw [unsigned64, h64]
  exact Int.emod_eq_of_lt h0 h1

theorem wrap64_of_lt {x : Int} (h0 : -9223372036854775808 ≤ x) (h1 : x < 9223372036854775808) :
    wrap64 x = x := by
  rw [wrap64_eq]
  omega

/-! ### Years that start on the first of March -/

/-- Days from `0000-03-01` to the first of March of year `y`: each year of 365 days, and one
more for each year whose February has a 29th. -/
def startOfYear (y : Int) : Int := 365 * y + y / 4 - y / 100 + y / 400

/-- An era of 400 years has 146097 days. -/
theorem startOfYear_add_era (y k : Int) : startOfYear (y + k * 400) = startOfYear y + k * 146097 := by
  unfold startOfYear
  omega

/-- A year that starts on the first of March has a 29th of February when the calendar year it
ends in is a leap year. -/
theorem startOfYear_sub_pred (y : Int) :
    startOfYear y = startOfYear (y - 1) + if isLeap y then 366 else 365 := by
  unfold startOfYear isLeap
  split <;> simp_all <;> omega

/-- The year start as the sum of the whole centuries before it and the years of its century. -/
theorem startOfYear_century (c r : Int) (h0 : 0 ≤ r) (h1 : r < 100) :
    startOfYear (100 * c + r) = 146097 * c / 4 + 1461 * r / 4 := by
  have h4 : (100 * c + r) / 4 = 25 * c + r / 4 := by omega
  have h100 : (100 * c + r) / 100 = c := by omega
  have h400 : (100 * c + r) / 400 = c / 4 := by omega
  have hc : 146097 * c / 4 = 36524 * c + c / 4 := by omega
  have hr : 1461 * r / 4 = 365 * r + r / 4 := by omega
  unfold startOfYear
  rw [h4, h100, h400, hc, hr]
  omega

/-- The year of an era in which day `doe` of the era falls, both counted from the era's first
of March: the formula by which the calendar finds it. -/
def yearOfDay (doe : Int) : Int := (doe - doe / 1460 + doe / 36524 - doe / 146096) / 365

/-- The formula gives each year of an era for its first and its last day. -/
theorem yearOfDay_table : ∀ y : Nat, y < 400 →
    yearOfDay (startOfYear y) = y ∧ yearOfDay (startOfYear (y + 1) - 1) = y := by
  decide +kernel

theorem yearOfDay_mono {a b : Int} (hab : a ≤ b) : yearOfDay a ≤ yearOfDay b := by
  unfold yearOfDay
  apply Int.ediv_le_ediv (by decide)
  omega

/-- **The year of a day of an era**: the day lies between the first of March of that year and
the next. -/
theorem yearOfDay_spec {doe : Int} (h0 : 0 ≤ doe) (h1 : doe < 146097) :
    0 ≤ yearOfDay doe ∧ yearOfDay doe < 400 ∧ startOfYear (yearOfDay doe) ≤ doe ∧
      doe < startOfYear (yearOfDay doe + 1) := by
  have hlo : yearOfDay 0 ≤ yearOfDay doe := yearOfDay_mono h0
  have hhi : yearOfDay doe ≤ yearOfDay (startOfYear ((399 : Nat) + 1) - 1) :=
    yearOfDay_mono (by simp only [startOfYear]; omega)
  rw [(yearOfDay_table 399 (by decide)).2] at hhi
  have hzero : yearOfDay 0 = 0 := by decide
  refine ⟨by omega, by omega, ?_, ?_⟩
  · -- a day before the year's start would be in the last day of the year before, or earlier
    by_contra hlt
    rw [not_le] at hlt
    have hpos : yearOfDay doe ≠ 0 := by
      intro h
      rw [h] at hlt
      simp only [startOfYear] at hlt
      omega
    obtain ⟨k, hk⟩ : ∃ k : Nat, yearOfDay doe = k + 1 := ⟨(yearOfDay doe - 1).toNat, by omega⟩
    have hle := yearOfDay_mono (show doe ≤ startOfYear ((k : Nat) + 1) - 1 by rw [← hk]; omega)
    rw [(yearOfDay_table k (by omega)).2] at hle
    omega
  · -- a day after the next year's start would be in that year, or later
    by_contra hge
    rw [not_lt] at hge
    have hk : yearOfDay doe + 1 < 400 := by
      by_contra h
      have h399 : yearOfDay doe = 399 := by omega
      rw [h399] at hge
      simp only [startOfYear] at hge
      omega
    have hle := yearOfDay_mono hge
    have hcast : (((yearOfDay doe + 1).toNat : Nat) : Int) = yearOfDay doe + 1 := by omega
    have ht := (yearOfDay_table (yearOfDay doe + 1).toNat (by omega)).1
    rw [hcast] at ht
    omega

/-! ### Dates -/

/-- A month of the year and a day within it. -/
def ValidDate (y : Int) (m d : Nat) : Prop := 1 ≤ m ∧ m ≤ 12 ∧ 1 ≤ d ∧ d ≤ daysIn m y

/-- Days from the first of March to the first of month `m`, in the year that starts then. -/
def monthStart (m : Nat) : Int := (153 * (((m : Int) + 9) % 12) + 2) / 5

/-- January and February belong to the year that started the March before. -/
def marchShift (m : Nat) : Int := if m < 3 then 1 else 0

/-- **Counting days to a date**, from its year start: `daysFromCivil` in closed form. -/
theorem daysFromCivil_eq (y : Int) (m d : Nat) (hm1 : 1 ≤ m) (hm12 : m ≤ 12) :
    daysFromCivil y m d = startOfYear (y - marchShift m) + monthStart m + d - 1 - 719468 := by
  have hs : (if m ≤ 2 then y - 1 else y) = y - marchShift m := by
    unfold marchShift
    split <;> split <;> omega
  have hmp : ((153 * (if m > 2 then (m : Int) - 3 else (m : Int) + 9) + 2) / 5) = monthStart m := by
    unfold monthStart
    interval_cases m <;> rfl
  unfold daysFromCivil
  simp only [hs]
  rw [← hmp]
  generalize y - marchShift m = Y
  unfold startOfYear
  omega

/-- The date of day `doy` of the year that starts on the first of March of `y`: the last steps
of `civilFromDays`. -/
def dateOfMarchDay (y doy : Int) : Int × Nat × Nat :=
  let mp := (5 * doy + 2) / 153
  let d := doy - (153 * mp + 2) / 5 + 1
  let m := if mp < 10 then mp + 3 else mp - 9
  ((if m ≤ 2 then y + 1 else y), m.toNat, d.toNat)

/-- A day of a year gives a month and a day within it; the 366th is the 29th of February of a
leap year. -/
theorem dateOfMarchDay_valid {y doy : Int} (h0 : 0 ≤ doy) (h1 : doy < startOfYear (y + 1) - startOfYear y) :
    ValidDate (dateOfMarchDay y doy).1 (dateOfMarchDay y doy).2.1 (dateOfMarchDay y doy).2.2 := by
  have hlen : startOfYear (y + 1) - startOfYear y ≤ 366 := by
    unfold startOfYear
    omega
  obtain ⟨mp, hmp, hmp0, hmp1⟩ : ∃ mp, (5 * doy + 2) / 153 = mp ∧ 0 ≤ mp ∧ mp ≤ 11 :=
    ⟨_, rfl, by omega, by omega⟩
  have hd0 : (153 * mp + 2) / 5 ≤ doy := by omega
  have hd1 : doy < (153 * (mp + 1) + 2) / 5 := by omega
  unfold dateOfMarchDay ValidDate
  simp only [hmp]
  simp only [startOfYear] at h1
  interval_cases mp <;> simp [daysIn, isLeap] <;> omega

theorem daysFromCivil_dateOfMarchDay {y doy : Int} (h0 : 0 ≤ doy)
    (h1 : doy < startOfYear (y + 1) - startOfYear y) :
    daysFromCivil (dateOfMarchDay y doy).1 (dateOfMarchDay y doy).2.1 (dateOfMarchDay y doy).2.2 =
      startOfYear y + doy - 719468 := by
  simp only [dateOfMarchDay, daysFromCivil, startOfYear] at *
  have hmp : 0 ≤ (5 * doy + 2) / 153 ∧ (5 * doy + 2) / 153 ≤ 11 := by omega
  split_ifs <;> omega

/-- **The calendar date of a day**: the day falls in a year that starts on the first of March,
and its date is that of its place in the year. -/
theorem civilFromDays_eq (z : Int) : ∃ y doy, 0 ≤ doy ∧ doy < startOfYear (y + 1) - startOfYear y ∧
    z + 719468 = startOfYear y + doy ∧ civilFromDays z = dateOfMarchDay y doy := by
  have hdoe0 : 0 ≤ z + 719468 - (z + 719468) / 146097 * 146097 := by omega
  have hdoe1 : z + 719468 - (z + 719468) / 146097 * 146097 < 146097 := by omega
  obtain ⟨h0, h1, h2, h3⟩ := yearOfDay_spec hdoe0 hdoe1
  generalize hera : (z + 719468) / 146097 = era at *
  generalize hdoe : z + 719468 - era * 146097 = doe at *
  -- within the era the year starts are the plain formula: no 400-year term
  have hs : startOfYear (yearOfDay doe) =
      365 * yearOfDay doe + yearOfDay doe / 4 - yearOfDay doe / 100 := by
    unfold startOfYear
    omega
  refine ⟨yearOfDay doe + era * 400, doe - (365 * yearOfDay doe + yearOfDay doe / 4 - yearOfDay doe / 100),
    by omega, ?_, ?_, ?_⟩
  · rw [show yearOfDay doe + era * 400 + 1 = yearOfDay doe + 1 + era * 400 by omega,
      startOfYear_add_era, startOfYear_add_era]
    omega
  · rw [startOfYear_add_era]
    omega
  · subst hdoe hera
    rfl

theorem civilFromDays_valid (z : Int) :
    ValidDate (civilFromDays z).1 (civilFromDays z).2.1 (civilFromDays z).2.2 := by
  obtain ⟨y, doy, h0, h1, -, heq⟩ := civilFromDays_eq z
  rw [heq]
  exact dateOfMarchDay_valid h0 h1

/-- **Counting the days to the calendar date of a day gives the day back.** -/
theorem daysFromCivil_civilFromDays (z : Int) :
    daysFromCivil (civilFromDays z).1 (civilFromDays z).2.1 (civilFromDays z).2.2 = z := by
  obtain ⟨y, doy, h0, h1, hz, heq⟩ := civilFromDays_eq z
  rw [heq, daysFromCivil_dateOfMarchDay h0 h1]
  omega

/-! ### The count of `ofCivil` -/

/-- The count of days of `ofCivil`, in closed form: from the zero point, the year start and the
month's offset in the year. -/
theorem zeroDays_eq_startOfYear {year : Int} {month : Nat} {day : Int} (hy0 : 0 ≤ year)
    (hy1 : year < 4294967296) (hm0 : 1 ≤ month) (hm1 : month ≤ 12) (hd0 : 1 ≤ day) (hd1 : day ≤ 31) :
    zeroDays year month day = startOfYear (year - marchShift month + zeroYears) + monthStart month + day - 1 := by
  have hj : (((if month < 3 then 1 else 0 : Nat)) : Int) = marchShift month := by
    unfold marchShift
    split <;> rfl
  -- the month's offset within the year, by the table of the twelve months
  have ha : (((979 * (month + 12 * if month < 3 then 1 else 0) - 2919) % Nat.pow 2 32 / 32 : Nat) : Int) =
      monthStart month := by
    unfold monthStart
    interval_cases month <;> rfl
  have hs : 0 ≤ marchShift month ∧ marchShift month ≤ 1 := by
    unfold marchShift
    split <;> omega
  have e1 : unsigned64 year = year := unsigned64_of_lt hy0 (by omega)
  have e2 : unsigned64 (year - marchShift month + zeroYears) = year - marchShift month + zeroYears :=
    unsigned64_of_lt (by unfold zeroYears; omega) (by unfold zeroYears; omega)
  unfold zeroDays
  simp only [hj, e1, e2]
  generalize hY : year - marchShift month + zeroYears = Y at *
  have hY0 : 0 ≤ Y := by unfold zeroYears at hY; omega
  have hY1 : Y < 4294967296 + 292277022400 := by unfold zeroYears at hY; omega
  have hcday : ((1461 * (Y % 100).toNat % Nat.pow 2 32 / 4 : Nat) : Int) = 1461 * (Y % 100) / 4 := by
    have h32 : Nat.pow 2 32 = 4294967296 := by decide
    rw [h32]
    omega
  have e3 : unsigned64 (146097 * (Y / 100)) = 146097 * (Y / 100) := unsigned64_of_lt (by omega) (by omega)
  rw [Nat.cast_add, hcday, ha, e3]
  have hms : 0 ≤ monthStart month ∧ monthStart month ≤ 337 := by
    unfold monthStart
    omega
  have hcy : 0 ≤ 1461 * (Y % 100) / 4 ∧ 1461 * (Y % 100) / 4 < 36525 := by omega
  have hcd : 0 ≤ 146097 * (Y / 100) / 4 ∧ 146097 * (Y / 100) / 4 < 2 ^ 62 := by omega
  rw [wrap64_of_lt (x := 1461 * (Y % 100) / 4 + monthStart month + day) (by omega) (by omega),
    wrap64_of_lt (by omega) (by omega), unsigned64_of_lt (by omega) (by omega)]
  -- the whole centuries and the years of the last one
  have hsplit : Y = 100 * (Y / 100) + Y % 100 := by omega
  conv_rhs => rw [hsplit, startOfYear_century _ _ (by omega) (by omega)]
  omega

/-- **The two counts of days agree**, up to their zero points. -/
theorem zeroDays_eq {year : Int} {month day : Nat} (hy0 : 0 ≤ year) (hy1 : year < 4294967296)
    (hd : ValidDate year month day) :
    zeroDays year month day = zeroToUnixDays + daysFromCivil year month day := by
  obtain ⟨hm0, hm1, hd0, hd1⟩ := hd
  have h31 : daysIn month year ≤ 31 := by
    unfold daysIn
    split_ifs <;> omega
  rw [zeroDays_eq_startOfYear hy0 hy1 hm0 hm1 (by omega) (by omega), daysFromCivil_eq year month day hm0 hm1,
    show year - marchShift month + zeroYears = year - marchShift month + 730692556 * 400 by rfl,
    startOfYear_add_era]
  unfold zeroToUnixDays zeroYears
  omega

/-! ### The order of dates -/

theorem daysIn_ge (m : Nat) (y : Int) : 28 ≤ daysIn m y := by
  unfold daysIn
  split_ifs <;> omega

theorem daysIn_le (m : Nat) (y : Int) : daysIn m y ≤ 31 := by
  unfold daysIn
  split_ifs <;> omega

/-- The first of the next month is `daysIn m y` days after the first of month `m`. -/
theorem daysFromCivil_succ_month (y : Int) {m : Nat} (h1 : 1 ≤ m) (h12 : m < 12) :
    daysFromCivil y (m + 1) 1 = daysFromCivil y m 1 + daysIn m y := by
  rw [daysFromCivil_eq y (m + 1) 1 (by omega) (by omega), daysFromCivil_eq y m 1 h1 (by omega)]
  have hl := startOfYear_sub_pred y
  -- February ends where the year that started in March ends: its length decides
  rcases Bool.eq_false_or_eq_true (isLeap y) with hy | hy <;>
    interval_cases m <;> simp [monthStart, marchShift, daysIn, hy] at hl ⊢ <;> omega

theorem daysFromCivil_next_year (y : Int) : daysFromCivil (y + 1) 1 1 = daysFromCivil y 12 1 + 31 := by
  rw [daysFromCivil_eq (y + 1) 1 1 (by omega) (by omega), daysFromCivil_eq y 12 1 (by omega) (by omega)]
  simp only [monthStart, marchShift]
  norm_num
  omega

/-- The number of a month, counted from January of year zero. -/
def monthIndex (y : Int) (m : Nat) : Int := 12 * y + m - 1

/-- **A month ends before any later month starts**, by induction on the months between them. -/
theorem daysFromCivil_month_le (n : Nat) {y y' : Int} {m m' : Nat} (hm1 : 1 ≤ m) (hm12 : m ≤ 12)
    (hm1' : 1 ≤ m') (hm12' : m' ≤ 12) (h : monthIndex y' m' = monthIndex y m + n + 1) :
    daysFromCivil y m 1 + daysIn m y ≤ daysFromCivil y' m' 1 := by
  induction n generalizing y m with
  | zero =>
    -- the next month, in this year or the next
    unfold monthIndex at h
    by_cases h12 : m < 12
    · obtain ⟨rfl, rfl⟩ : y' = y ∧ m' = m + 1 := by omega
      rw [daysFromCivil_succ_month _ hm1 h12]
    · obtain ⟨rfl, rfl, rfl⟩ : y' = y + 1 ∧ m' = 1 ∧ m = 12 := by omega
      rw [daysFromCivil_next_year]
      simp [daysIn]
  | succ n ih =>
    unfold monthIndex at h
    by_cases h12 : m < 12
    · have hnext := ih (y := y) (m := m + 1) (by omega) (by omega) (by unfold monthIndex; push_cast; omega)
      rw [daysFromCivil_succ_month y hm1 h12] at hnext
      have := daysIn_ge (m + 1) y
      omega
    · obtain rfl : m = 12 := by omega
      have hnext := ih (y := y + 1) (m := 1) (by omega) (by omega) (by unfold monthIndex; push_cast; omega)
      rw [daysFromCivil_next_year] at hnext
      have h31 : daysIn 12 y = 31 := by simp [daysIn]
      have h31' : daysIn 1 (y + 1) = 31 := by simp [daysIn]
      omega

theorem daysFromCivil_day (y : Int) (m d : Nat) (hd : 1 ≤ d) :
    daysFromCivil y m d = daysFromCivil y m 1 + (d - 1 : Nat) := by
  simp only [daysFromCivil]
  omega

/-- **The calendar keeps the order of days**: a date before another in the order of year, month
and day is an earlier day. -/
theorem daysFromCivil_lt {y y' : Int} {m m' d d' : Nat} (hv : ValidDate y m d) (hv' : ValidDate y' m' d')
    (h : y < y' ∨ y = y' ∧ (m < m' ∨ m = m' ∧ d < d')) :
    daysFromCivil y m d < daysFromCivil y' m' d' := by
  obtain ⟨hm1, hm12, hd1, hd⟩ := hv
  obtain ⟨hm1', hm12', hd1', hd'⟩ := hv'
  rw [daysFromCivil_day y m d hd1, daysFromCivil_day y' m' d' hd1']
  by_cases hsame : y = y' ∧ m = m'
  · -- the same month: the day decides
    obtain ⟨rfl, rfl⟩ := hsame
    omega
  · -- a later month: this one ends before it starts
    have hle : daysFromCivil y m 1 + daysIn m y ≤ daysFromCivil y' m' 1 :=
      daysFromCivil_month_le (monthIndex y' m' - monthIndex y m - 1).toNat hm1 hm12 hm1' hm12'
        (by unfold monthIndex; omega)
    omega

/-! ### Instants -/

theorem carry_of_lt {hi lo base : Int} (h0 : 0 ≤ lo) (h1 : lo < base) : carry hi lo base = (hi, lo) := by
  unfold carry
  simp only [show ¬lo < 0 by omega, if_false, show ¬lo ≥ base by omega]

/-- **Reading a date and a clock time**: a valid date with a time of day in range is read back as
the seconds of its day and time, for a year from 0 to `2 ^ 32`. The count of days reaches past
`2 ^ 63` seconds on the way, and comes back in range by the wrap-around of 64-bit arithmetic. -/
theorem ofCivil_eq {year : Int} {month day hour minute second nsec : Nat} (hy0 : 0 ≤ year)
    (hy1 : year < 4294967296) (hd : ValidDate year month day) (hh : hour < 24) (hmi : minute < 60)
    (hs : second < 60) (hn : nsec < 1000000000) :
    ofCivil year month day hour minute second nsec 0 =
      ⟨(daysFromCivil year month day + 719162) * 86400 + hour * 3600 + minute * 60 + second, nsec, 0⟩ := by
  have hdays := zeroDays_eq hy0 hy1 hd
  obtain ⟨hm1, hm12, hd1, hd31⟩ := hd
  unfold ofCivil
  simp (disch := omega) only [carry_of_lt, show (((month : Int) - 1 + 1).toNat) = month by omega, hdays,
    if_true, Int.toNat_natCast]
  have hD : -720000 ≤ daysFromCivil year month day ∧ daysFromCivil year month day < 2000000000000 := by
    rw [daysFromCivil_eq year month day hm1 hm12]
    have : daysIn month year ≤ 31 := by
      unfold daysIn
      split_ifs <;> omega
    unfold startOfYear monthStart marchShift
    split_ifs <;> omega
  congr 1
  simp only [wrap64_eq, zeroToUnixDays, zeroYears, unixEpochSec]
  omega

/-- An instant to the millisecond, shown in UTC. -/
def truncMillis (t : Instant) : Instant := ⟨t.sec, t.nsec / 1000000 * 1000000, 0⟩

/-- The calendar date and clock time of an instant in UTC: those of its day and of its second of
the day. -/
theorem utc_civil (t : Instant) : t.utc.civil =
    ⟨(civilFromDays (t.sec / 86400 - 719162)).1, (civilFromDays (t.sec / 86400 - 719162)).2.1,
      (civilFromDays (t.sec / 86400 - 719162)).2.2, (t.sec % 86400).toNat / 3600,
      (t.sec % 86400).toNat % 3600 / 60, (t.sec % 86400).toNat % 60, t.nsec⟩ := by
  simp only [civil, utc, inZone, Int.add_zero]

/-- **Reading back the date and clock time of an instant**, in UTC and to the millisecond, gives
the instant to the millisecond. -/
theorem ofCivil_civil {t : Instant} (hn : t.nsec < 1000000000) (hy0 : 0 ≤ t.utc.civil.year)
    (hy1 : t.utc.civil.year < 4294967296) :
    ofCivil t.utc.civil.year t.utc.civil.month t.utc.civil.day t.utc.civil.hour t.utc.civil.minute
      t.utc.civil.second (t.utc.civil.nsec / 1000000 * 1000000 : Nat) 0 = t.truncMillis := by
  rw [utc_civil] at hy0 hy1 ⊢
  dsimp only at hy0 hy1 ⊢
  rw [ofCivil_eq hy0 hy1 (civilFromDays_valid _) (by omega) (by omega) (by omega) (by omega),
    daysFromCivil_civilFromDays, truncMillis]
  congr 1
  omega

end Instant

end QuotaWatch
