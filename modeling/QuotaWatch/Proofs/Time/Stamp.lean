import Mathlib.Data.String.Basic
import QuotaWatch.Proofs.Time.Calendar
import QuotaWatch.Time.Text
/-!
**Stamps, in order and read back.**

A stamp writes an instant as zero-padded fixed-width fields from the year down to the
milliseconds, so two stamps of one layout compare character by character as the instants they
show, to the millisecond, and reading a stamp back gives the instant cut to the millisecond.
Both need a four-digit year, from 0 to 9999.

Main definitions:

* `Instant.digitChars` — a number's digits at a fixed width;
* `Instant.IsNumericStamp` — a stamp layout whose fields run from the year down to the
  milliseconds, with literals between;
* `Instant.Civil.Fits`, `Instant.Stampable` — a calendar time, and an instant, of a four-digit
  year;
* `Instant.readField` — reading one field of a stamp back.

Main results:

* `Instant.digitChars_lt_iff` — digits of one width compare as the numbers they show;
* `Instant.stampChars_lt_iff`, `Instant.Civil.fields_lt_iff` — stamps compare field by field, as
  calendar times do;
* `Instant.stamp_lt_iff` — **stamps compare as the instants they show**, to the millisecond;
* `Instant.parseStamp?_stamp` — **a numeric stamp reads back as the instant it shows**, cut to the
  millisecond.
-/

namespace QuotaWatch.Instant

/-! ### Fixed-width digits -/

/-- The last `w` decimal digits of `n`, the first digit first. -/
def digitChars : Nat → Nat → List Char
  | 0, _ => []
  | w + 1, n => digitChars w (n / 10) ++ [Nat.digitChar (n % 10)]

@[simp] theorem length_digitChars (w n : Nat) : (digitChars w n).length = w := by
  induction w generalizing n with
  | zero => rfl
  | succ w ih => simp [digitChars, ih]

theorem digitChars_zero (w : Nat) : digitChars w 0 = List.replicate w '0' := by
  induction w with
  | zero => rfl
  | succ w ih => rw [digitChars, ih, List.replicate_succ']; rfl

private theorem pad_toList_toDigits (k m : Nat) :
    (pad k m).toList = List.replicate (k - (Nat.toDigits 10 m).length) '0' ++ Nat.toDigits 10 m := by
  simp [pad, Nat.toString_eq_repr, Nat.repr_eq_ofList_toDigits]

/-- A number below `10 ^ w`, padded to `w` digits, is its last `w` digits. -/
theorem pad_toList {w n : Nat} (hw : 0 < w) (hn : n < 10 ^ w) : (pad w n).toList = digitChars w n := by
  induction w generalizing n with
  | zero => omega
  | succ w ih =>
    rw [pad_toList_toDigits, digitChars]
    by_cases h10 : n < 10
    · -- one digit, after zeros
      rw [Nat.toDigits_eq_if (by decide), if_pos h10, Nat.div_eq_of_lt h10, digitChars_zero,
        Nat.mod_eq_of_lt h10]
      simp
    · rw [Nat.toDigits_eq_if (by decide), if_neg h10]
      have hw : 0 < w := by
        rcases Nat.eq_zero_or_pos w with rfl | h
        · simp at hn; omega
        · exact h
      have ih' := ih hw (n := n / 10) (by rw [Nat.pow_succ] at hn; omega)
      rw [pad_toList_toDigits] at ih'
      rw [← ih']
      simp only [List.length_append, List.length_singleton, ← List.append_assoc]
      rw [show w + 1 - ((Nat.toDigits 10 (n / 10)).length + 1) = w - (Nat.toDigits 10 (n / 10)).length
        by omega]

theorem foldl_digitChars (w n : Nat) :
    (digitChars w n).foldl (fun n c => 10 * n + (c.toNat - 48)) 0 = n % 10 ^ w := by
  induction w generalizing n with
  | zero => simp [digitChars, Nat.mod_one]
  | succ w ih =>
    rw [digitChars, List.foldl_append, ih]
    simp only [List.foldl_cons, List.foldl_nil]
    rw [Nat.toNat_digitChar_of_lt_ten (Nat.mod_lt _ (by decide)), Nat.pow_succ, Nat.mul_comm (10 ^ w) 10,
      Nat.mod_mul]
    omega

theorem all_isDigit_digitChars (w n : Nat) : (digitChars w n).all Char.isDigit = true := by
  induction w generalizing n with
  | zero => rfl
  | succ w ih =>
    simp only [digitChars, List.all_append, ih, List.all_cons, List.all_nil, Bool.true_and, Bool.and_true]
    rw [Nat.isDigit_digitChar]
    simp [Nat.mod_lt]

theorem digitsVal?_digitChars {w n : Nat} (hw : 0 < w) (hn : n < 10 ^ w) :
    digitsVal? (digitChars w n) = some n := by
  have hne : (digitChars w n).isEmpty = false := by
    rw [List.isEmpty_eq_false_iff, ← List.length_pos_iff, length_digitChars]
    exact hw
  unfold digitsVal?
  rw [if_pos ⟨all_isDigit_digitChars w n, by simp [hne]⟩, foldl_digitChars, Nat.mod_eq_of_lt hn]

theorem digitChars_inj {w a b : Nat} (ha : a < 10 ^ w) (hb : b < 10 ^ w)
    (h : digitChars w a = digitChars w b) : a = b := by
  have := congrArg (List.foldl (fun n c => 10 * n + (c.toNat - 48)) 0) h
  rwa [foldl_digitChars, foldl_digitChars, Nat.mod_eq_of_lt ha, Nat.mod_eq_of_lt hb] at this

/-- Digits compare as the numbers they show. -/
theorem digitChar_lt_iff : ∀ i < 10, ∀ j < 10, (Nat.digitChar i < Nat.digitChar j ↔ i < j) := by
  decide

/-- Lists of one length compare by their first parts, then by the rest. -/
theorem append_lt_append_iff {α : Type} [LT α] {a a' b b' : List α} (h : a.length = a'.length) :
    a ++ b < a' ++ b' ↔ a < a' ∨ a = a' ∧ b < b' := by
  induction a generalizing a' with
  | nil =>
    obtain rfl : a' = [] := List.eq_nil_of_length_eq_zero h.symm
    simp [List.not_lt_nil]
  | cons x a ih =>
    obtain ⟨y, a', rfl⟩ := List.exists_cons_of_length_eq_add_one h.symm
    simp only [List.cons_append, List.cons_lt_cons_iff, ih (by simpa using h), List.cons.injEq]
    tauto

/-- **Digits of one width compare as the numbers they show.** -/
theorem digitChars_lt_iff {w a b : Nat} (ha : a < 10 ^ w) (hb : b < 10 ^ w) :
    digitChars w a < digitChars w b ↔ a < b := by
  induction w generalizing a b with
  | zero => simp at ha hb; subst ha hb; simp [digitChars]
  | succ w ih =>
    have ha' : a / 10 < 10 ^ w := by rw [Nat.pow_succ] at ha; omega
    have hb' : b / 10 < 10 ^ w := by rw [Nat.pow_succ] at hb; omega
    simp only [digitChars]
    rw [append_lt_append_iff (by simp), ih ha' hb', List.cons_lt_cons_iff,
      digitChar_lt_iff _ (Nat.mod_lt _ (by decide)) _ (Nat.mod_lt _ (by decide))]
    have heq : digitChars w (a / 10) = digitChars w (b / 10) ↔ a / 10 = b / 10 :=
      ⟨digitChars_inj ha' hb', fun h => by rw [h]⟩
    simp only [heq, List.not_lt_nil, and_false, or_false]
    omega

end QuotaWatch.Instant

namespace QuotaWatch

/-- Whether a part of a stamp is a literal. -/
def StampPart.isLit : StampPart → Bool
  | .lit _ => true
  | _ => false

end QuotaWatch

namespace QuotaWatch.Instant

/-! ### Numeric stamps -/

/-- The numeric fields, from the year down to the millisecond. -/
def numericFields : List StampPart := [.year, .month, .day, .hour, .minute, .second, .millis]

/-- The number a numeric field shows of a calendar time. -/
def fieldValue (c : Civil) : StampPart → Nat
  | .year => c.year.toNat
  | .month => c.month
  | .day => c.day
  | .hour => c.hour
  | .minute => c.minute
  | .second => c.second
  | .millis => c.nsec / 1000000
  | _ => 0

/-- How many digits a numeric field has. -/
def fieldWidth : StampPart → Nat
  | .year => 4
  | .millis => 3
  | _ => 2

/-- What a numeric field writes before its digits: the point of the milliseconds. -/
def fieldLead : StampPart → List Char
  | .millis => ['.']
  | _ => []

/-- A calendar time that the numeric fields show exactly: a year of four digits, a valid date and
a time of day. -/
structure Civil.Fits (c : Civil) : Prop where
  year_nonneg : 0 ≤ c.year
  year_le : c.year ≤ 9999
  date : ValidDate c.year c.month c.day
  hour_lt : c.hour < 24
  minute_lt : c.minute < 60
  second_lt : c.second < 60
  nsec_lt : c.nsec < 1000000000

variable {c c' : Civil}

theorem Civil.Fits.value_lt (hc : c.Fits) {p : StampPart} (hp : p ∈ numericFields) :
    fieldValue c p < 10 ^ fieldWidth p := by
  obtain ⟨h0, h1, ⟨hm1, hm12, hd1, hd⟩, hh, hmi, hs, hn⟩ := hc
  have := daysIn_le c.month c.year
  simp only [numericFields, List.mem_cons, List.not_mem_nil, or_false] at hp
  rcases hp with rfl | rfl | rfl | rfl | rfl | rfl | rfl <;> simp only [fieldValue, fieldWidth] <;> omega

/-- The text of a numeric field: its lead, then its digits. -/
theorem Civil.Fits.stampPart_toList (hc : c.Fits) {p : StampPart} (hp : p ∈ numericFields) :
    (stampPart c p).toList = fieldLead p ++ digitChars (fieldWidth p) (fieldValue c p) := by
  have hv := hc.value_lt hp
  simp only [numericFields, List.mem_cons, List.not_mem_nil, or_false] at hp
  rcases hp with rfl | rfl | rfl | rfl | rfl | rfl | rfl <;>
    simp only [stampPart, yearText, fieldLead, fieldValue, fieldWidth, if_neg (not_lt.2 hc.year_nonneg),
      String.toList_append, List.nil_append] at hv ⊢ <;> rw [pad_toList (by decide) hv]
  -- what is left is the point before the milliseconds
  rfl

theorem stampPart_lit (c : Civil) (l : String) : stampPart c (.lit l) = l := rfl

/-- The numbers the numeric fields of a stamp show, in their order. -/
def fieldValues (ps : List StampPart) (c : Civil) : List Nat :=
  (ps.filter fun p => !p.isLit).map (fieldValue c)

theorem isLit_of_mem_numericFields {p : StampPart} (hp : p ∈ numericFields) : p.isLit = false := by
  simp only [numericFields, List.mem_cons, List.not_mem_nil, or_false] at hp
  rcases hp with rfl | rfl | rfl | rfl | rfl | rfl | rfl <;> rfl

/-- **Stamps of one form compare as the numbers their fields show**, first field first: the
literals are the same on both sides, and each field has one width. -/
theorem stampChars_lt_iff (hc : c.Fits) (hc' : c'.Fits) (ps : List StampPart)
    (hps : ∀ p ∈ ps, p.isLit = true ∨ p ∈ numericFields) :
    ps.flatMap (fun p => (stampPart c p).toList) < ps.flatMap (fun p => (stampPart c' p).toList) ↔
      fieldValues ps c < fieldValues ps c' := by
  induction ps with
  | nil => simp [fieldValues]
  | cons p ps ih =>
    have ih := ih fun q hq => hps q (List.mem_cons_of_mem _ hq)
    rw [List.flatMap_cons, List.flatMap_cons]
    rcases hps p List.mem_cons_self with hl | hf
    · -- a literal: the same text on both sides
      cases p with
      | lit l =>
        rw [stampPart_lit, stampPart_lit, append_lt_append_iff rfl, ih]
        simp [fieldValues, StampPart.isLit]
      | _ => simp [StampPart.isLit] at hl
    · -- a field: its digits decide, then the rest
      have heq : digitChars (fieldWidth p) (fieldValue c p) = digitChars (fieldWidth p) (fieldValue c' p) ↔
          fieldValue c p = fieldValue c' p :=
        ⟨digitChars_inj (hc.value_lt hf) (hc'.value_lt hf), fun h => by rw [h]⟩
      rw [hc.stampPart_toList hf, hc'.stampPart_toList hf, append_lt_append_iff (by simp),
        append_lt_append_iff rfl, digitChars_lt_iff (hc.value_lt hf) (hc'.value_lt hf), ih]
      simp only [fieldValues, List.filter_cons, isLit_of_mem_numericFields hf, Bool.not_false, if_true,
        List.map_cons, List.cons_lt_cons_iff, List.lt_irrefl, false_or, List.append_cancel_left_eq, heq,
        true_and]

/-- A stamp of literals and the numeric fields, each once, from the year down to the millisecond. -/
def IsNumericStamp (ps : List StampPart) : Prop := ps.filter (fun p => !p.isLit) = numericFields

theorem IsNumericStamp.parts {ps : List StampPart} (h : IsNumericStamp ps) :
    ∀ p ∈ ps, p.isLit = true ∨ p ∈ numericFields := by
  intro p hp
  cases hl : p.isLit
  · right
    rw [← h, List.mem_filter]
    exact ⟨hp, by simp [hl]⟩
  · exact .inl rfl

/-- A calendar time in milliseconds since `0001-01-01`. -/
def Civil.millis (c : Civil) : Int :=
  (daysFromCivil c.year c.month c.day + 719162) * 86400000 + c.hour * 3600000 + c.minute * 60000 +
    c.second * 1000 + c.nsec / 1000000

theorem Civil.millis_lt_of_fields_lt (hc : c.Fits) (hc' : c'.Fits)
    (h : numericFields.map (fieldValue c) < numericFields.map (fieldValue c')) : c.millis < c'.millis := by
  simp only [numericFields, List.map_cons, List.map_nil, fieldValue, List.cons_lt_cons_iff,
    List.not_lt_nil, and_false, or_false] at h
  have hy := hc.year_nonneg
  have hy' := hc'.year_nonneg
  have := hc.hour_lt; have := hc.minute_lt; have := hc.second_lt; have := hc.nsec_lt
  have := hc'.hour_lt; have := hc'.minute_lt; have := hc'.second_lt; have := hc'.nsec_lt
  unfold Civil.millis
  by_cases hdate : c.year < c'.year ∨
      c.year = c'.year ∧ (c.month < c'.month ∨ c.month = c'.month ∧ c.day < c'.day)
  · -- an earlier date: an earlier day, and a day is longer than any time of day
    have := daysFromCivil_lt hc.date hc'.date hdate
    omega
  · -- the same date: the time of day decides
    obtain ⟨h1, h2, h3⟩ : c.year = c'.year ∧ c.month = c'.month ∧ c.day = c'.day := by omega
    rw [h1, h2, h3]
    omega

theorem Civil.millis_eq_of_fields_eq (hc : c.Fits) (hc' : c'.Fits)
    (h : numericFields.map (fieldValue c) = numericFields.map (fieldValue c')) : c.millis = c'.millis := by
  simp only [numericFields, List.map_cons, List.map_nil, fieldValue, List.cons.injEq, and_true] at h
  obtain ⟨h1, h2, h3, h4, h5, h6, h7⟩ := h
  have hy := hc.year_nonneg
  have hy' := hc'.year_nonneg
  have hyear : c.year = c'.year := by omega
  unfold Civil.millis
  rw [hyear, h2, h3, h4, h5, h6]
  omega

/-- **Calendar times compare field by field**: the order of their fields, from the year down, is
the order of the times. -/
theorem Civil.fields_lt_iff (hc : c.Fits) (hc' : c'.Fits) :
    numericFields.map (fieldValue c) < numericFields.map (fieldValue c') ↔ c.millis < c'.millis := by
  refine ⟨Civil.millis_lt_of_fields_lt hc hc', fun h => ?_⟩
  rcases lt_trichotomy (numericFields.map (fieldValue c)) (numericFields.map (fieldValue c')) with
    hlt | heq | hgt
  · exact hlt
  · exact absurd (Civil.millis_eq_of_fields_eq hc hc' heq) (ne_of_lt h)
  · exact absurd (Civil.millis_lt_of_fields_lt hc' hc hgt) (not_lt.2 (le_of_lt h))

/-! ### Stamps of instants -/

/-- An instant that a numeric stamp shows to the millisecond: its nanoseconds in range, and its
year in UTC of four digits. -/
structure Stampable (t : Instant) : Prop where
  nsec_lt : t.nsec < 1000000000
  year_nonneg : 0 ≤ t.utc.civil.year
  year_le : t.utc.civil.year ≤ 9999

theorem Stampable.fits {t : Instant} (ht : t.Stampable) : t.utc.civil.Fits := by
  have hv := civilFromDays_valid (t.sec / 86400 - 719162)
  have h0 := ht.year_nonneg
  have h1 := ht.year_le
  rw [utc_civil] at h0 h1 ⊢
  exact ⟨h0, h1, hv, by dsimp only; omega, by dsimp only; omega, by dsimp only; omega, ht.nsec_lt⟩

/-- The seconds of an instant of a four-digit year: its day lies within ten thousand years of the
calendar's start, far inside 64 bits. -/
theorem Stampable.sec_bounds {t : Instant} (ht : t.Stampable) : -(2 ^ 40) < t.sec ∧ t.sec < 2 ^ 40 := by
  have hv := civilFromDays_valid (t.sec / 86400 - 719162)
  have hback := daysFromCivil_civilFromDays (t.sec / 86400 - 719162)
  have hy0 := ht.year_nonneg
  have hy1 := ht.year_le
  rw [utc_civil] at hy0 hy1
  dsimp only at hy0 hy1
  rw [daysFromCivil_eq _ _ _ hv.1 hv.2.1] at hback
  have hd := daysIn_le (civilFromDays (t.sec / 86400 - 719162)).2.1 (civilFromDays (t.sec / 86400 - 719162)).1
  obtain ⟨-, -, -, hd'⟩ := hv
  unfold startOfYear monthStart marchShift at hback
  split_ifs at hback <;> exact ⟨by norm_num; omega, by norm_num; omega⟩

/-- An instant of a four-digit year is one a clock can show. -/
theorem Stampable.valid {t : Instant} (ht : t.Stampable) : t.Valid := by
  have hb := ht.sec_bounds
  exact ⟨by omega, by omega, ht.nsec_lt⟩

theorem Valid.truncMillis {t : Instant} (ht : t.Valid) : t.truncMillis.Valid :=
  ⟨ht.1, ht.2.1, by have := ht.2.2; unfold Instant.truncMillis; dsimp only; omega⟩

theorem truncMillis_nanos_le (t : Instant) : t.truncMillis.nanos ≤ t.nanos := by
  unfold truncMillis nanos
  dsimp only
  omega

/-- Cutting to the millisecond keeps the order of instants: it takes a count of nanoseconds down
to a whole millisecond. -/
theorem truncMillis_nanos_mono {u v : Instant} (h : u.nanos ≤ v.nanos) :
    u.truncMillis.nanos ≤ v.truncMillis.nanos := by
  unfold truncMillis nanos at *
  dsimp only
  omega

theorem utc_civil_millis (t : Instant) : t.utc.civil.millis = t.sec * 1000 + t.nsec / 1000000 := by
  rw [utc_civil]
  unfold Civil.millis
  dsimp only
  rw [daysFromCivil_civilFromDays]
  omega

theorem stamp_toList (t : Instant) (ps : List StampPart) :
    (t.stamp ps).toList = ps.flatMap fun p => (stampPart t.civil p).toList := by
  simp [stamp, String.toList_join, List.flatMap_map]

/-- Stamps of one layout have one length. -/
theorem stampChars_length (hc : c.Fits) (hc' : c'.Fits) (ps : List StampPart)
    (hps : ∀ p ∈ ps, p.isLit = true ∨ p ∈ numericFields) :
    (ps.flatMap fun p => (stampPart c p).toList).length =
      (ps.flatMap fun p => (stampPart c' p).toList).length := by
  induction ps with
  | nil => rfl
  | cons p ps ih =>
    rw [List.flatMap_cons, List.flatMap_cons, List.length_append, List.length_append,
      ih fun q hq => hps q (List.mem_cons_of_mem _ hq)]
    rcases hps p List.mem_cons_self with hl | hf
    · cases p with
      | lit l => rw [stampPart_lit, stampPart_lit]
      | _ => simp [StampPart.isLit] at hl
    · rw [hc.stampPart_toList hf, hc'.stampPart_toList hf]
      simp

theorem stamp_length {ps : List StampPart} (hps : IsNumericStamp ps) {t u : Instant} (ht : t.Stampable)
    (hu : u.Stampable) : (t.utc.stamp ps).length = (u.utc.stamp ps).length := by
  rw [← String.length_toList, ← String.length_toList, stamp_toList, stamp_toList,
    stampChars_length ht.fits hu.fits ps hps.parts]

/-- **Stamps compare as the instants they show**, to the millisecond. -/
theorem stamp_lt_iff {ps : List StampPart} (hps : IsNumericStamp ps) {t u : Instant} (ht : t.Stampable)
    (hu : u.Stampable) : t.utc.stamp ps < u.utc.stamp ps ↔ t.truncMillis.nanos < u.truncMillis.nanos := by
  rw [String.lt_iff, stamp_toList, stamp_toList, stampChars_lt_iff ht.fits hu.fits ps hps.parts]
  unfold fieldValues
  rw [hps, Civil.fields_lt_iff ht.fits hu.fits, utc_civil_millis, utc_civil_millis]
  unfold truncMillis nanos
  dsimp only
  omega

/-! ### Reading a stamp back -/

/-- What reading a numeric field of a stamp of `c` sets: the millisecond as whole milliseconds. -/
def readField (c acc : Civil) : StampPart → Civil
  | .year => { acc with year := (c.year.toNat : Int) }
  | .month => { acc with month := c.month }
  | .day => { acc with day := c.day }
  | .hour => { acc with hour := c.hour }
  | .minute => { acc with minute := c.minute }
  | .second => { acc with second := c.second }
  | .millis => { acc with nsec := c.nsec / 1000000 * 1000000 }
  | _ => acc

theorem digitChars_take_drop {w n : Nat} (rest : List Char) :
    (digitChars w n ++ rest).take w = digitChars w n ∧ (digitChars w n ++ rest).drop w = rest := by
  exact ⟨List.take_left' (length_digitChars w n), List.drop_left' (length_digitChars w n)⟩

theorem rangeField?_digitChars {w n lo hi : Nat} (hw : 0 < w) (hn : n < 10 ^ w) (hlo : lo ≤ n)
    (hhi : n ≤ hi) :
    rangeField? (digitChars w n) lo hi = some n := by
  simp [rangeField?, digitsVal?_digitChars hw hn, hlo, hhi]

/-- **Reading a stamp field by field**: each literal is matched and each field read back as the
number it shows. -/
theorem parseStamp_go (hc : c.Fits) (ps : List StampPart)
    (hps : ∀ p ∈ ps, p.isLit = true ∨ p ∈ numericFields) (acc : Civil) :
    parseStamp?.go ps (ps.flatMap fun p => (stampPart c p).toList) acc =
      parseStamp?.go [] [] (ps.foldl (readField c) acc) := by
  induction ps generalizing acc with
  | nil => rfl
  | cons p ps ih =>
    have ih := fun acc => ih (fun q hq => hps q (List.mem_cons_of_mem _ hq)) acc
    rw [List.flatMap_cons, List.foldl_cons]
    rcases hps p List.mem_cons_self with hl | hf
    · cases p with
      | lit l =>
        rw [stampPart_lit]
        conv_lhs => rw [parseStamp?.go]
        rw [List.take_left' String.length_toList, List.drop_left' String.length_toList, beq_self_eq_true,
          if_pos rfl, ih]
        rfl
      | _ => simp [StampPart.isLit] at hl
    · have hv := hc.value_lt hf
      rw [hc.stampPart_toList hf]
      obtain ⟨h0, h1, ⟨hm1, hm12, hd1, hd⟩, hh, hmi, hs, hn⟩ := hc
      have hd31 := daysIn_le c.month c.year
      simp only [numericFields, List.mem_cons, List.not_mem_nil, or_false] at hf
      rcases hf with rfl | rfl | rfl | rfl | rfl | rfl | rfl <;>
        simp only [fieldLead, fieldWidth, fieldValue, List.nil_append] at hv ⊢
      · simp only [parseStamp?.go.eq_4, (digitChars_take_drop _).1, (digitChars_take_drop _).2,
          digitsVal?_digitChars (by decide) hv, length_digitChars, Nat.lt_irrefl, if_false]
        exact ih _
      · simp only [parseStamp?.go.eq_5, (digitChars_take_drop _).1, (digitChars_take_drop _).2,
          rangeField?_digitChars (by decide) hv hm1 hm12, length_digitChars, Nat.lt_irrefl,
          if_false]
        exact ih _
      · simp only [parseStamp?.go.eq_6, (digitChars_take_drop _).1, (digitChars_take_drop _).2,
          rangeField?_digitChars (by decide) hv hd1 (hd.trans hd31), length_digitChars,
          Nat.lt_irrefl, if_false]
        exact ih _
      · simp only [parseStamp?.go.eq_7, (digitChars_take_drop _).1, (digitChars_take_drop _).2,
          rangeField?_digitChars (by decide) hv (Nat.zero_le _) (by omega : c.hour ≤ 23), length_digitChars,
          Nat.lt_irrefl, if_false]
        exact ih _
      · simp only [parseStamp?.go.eq_8, (digitChars_take_drop _).1, (digitChars_take_drop _).2,
          rangeField?_digitChars (by decide) hv (Nat.zero_le _) (by omega : c.minute ≤ 59), length_digitChars,
          Nat.lt_irrefl, if_false]
        exact ih _
      · simp only [parseStamp?.go.eq_9, (digitChars_take_drop _).1, (digitChars_take_drop _).2,
          rangeField?_digitChars (by decide) hv (Nat.zero_le _) (by omega : c.second ≤ 59), length_digitChars,
          Nat.lt_irrefl, if_false]
        exact ih _
      · -- the milliseconds are a point and three digits
        obtain ⟨a, b, d, hdig⟩ : ∃ a b d, digitChars 3 (c.nsec / 1000000) = [a, b, d] := by
          match h : digitChars 3 (c.nsec / 1000000), length_digitChars 3 (c.nsec / 1000000) with
          | [a, b, d], _ => exact ⟨a, b, d, rfl⟩
        have hval : digitsVal? [a, b, d] = some (c.nsec / 1000000) :=
          hdig ▸ digitsVal?_digitChars (by decide) hv
        rw [hdig]
        simp only [List.cons_append, List.nil_append, parseStamp?.go.eq_10, hval, ne_eq, not_true_eq_false,
          false_and, if_false]
        exact ih _

theorem foldl_readField_filter (c acc : Civil) (ps : List StampPart) :
    ps.foldl (readField c) acc = (ps.filter fun p => !p.isLit).foldl (readField c) acc := by
  induction ps generalizing acc with
  | nil => rfl
  | cons p ps ih =>
    -- a literal reads nothing; every other part keeps its place
    cases p <;> simp only [List.foldl_cons, List.filter_cons, StampPart.isLit, Bool.not_true, Bool.not_false,
      Bool.false_eq_true, if_true, if_false] <;> exact ih _

/-- **A numeric stamp reads back as the instant it shows**, cut to the millisecond. -/
theorem parseStamp?_stamp {ps : List StampPart} (hps : IsNumericStamp ps) {t : Instant} (ht : t.Stampable) :
    parseStamp? ps (t.utc.stamp ps) = some t.truncMillis := by
  have hc := ht.fits
  unfold parseStamp?
  rw [stamp_toList, parseStamp_go hc ps hps.parts, foldl_readField_filter, hps]
  simp only [numericFields, List.foldl_cons, List.foldl_nil, readField, parseStamp?.go.eq_1,
    Int.toNat_of_nonneg hc.year_nonneg]
  rw [if_neg (not_lt.2 hc.date.2.2.2), ofCivil_civil ht.nsec_lt ht.year_nonneg (by have := ht.year_le; omega)]

end QuotaWatch.Instant
