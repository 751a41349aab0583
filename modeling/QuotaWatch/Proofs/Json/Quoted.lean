import Mathlib
import QuotaWatch.Json.Decode
import QuotaWatch.Proofs.Text.Utf8
/-!
**Strings of a parsed document stand in its bytes.**

A string written without escapes reads as the text of the bytes between its quotes, and every
reader takes its input from the front. So in a text with no backslash, every string value of the
document the text parses to stands between quotes somewhere in the text (`Json.Quoted`). Bytes
that read as ASCII text without the null character are that text's bytes: a longer UTF-8
sequence stands for a code point of `0x80` or more, and an ill-formed byte for the replacement
character. Decoding a record member by member keeps whatever each member's reader keeps.

Main definitions:

* `Json.HasStr` — a string value somewhere in a document;
* `Json.Quoted` — a text that stands between quotes in a line;
* `Json.ReadsQuoted`, `Json.ItemsQuoted`, `Json.MembersQuoted` — the readers of values, arrays
  and objects, up to some fuel, give only strings that stand quoted in the line.

Main results:

* `Utf8.eq_asc_of_decode` — bytes that read as ASCII text are that text's bytes;
* `Json.readString_unescaped` — a string without escapes reads as the text of its bytes;
* `Json.readValue_step`, `Json.readArray_step`, `Json.readObject_step`, `Json.reads_quoted` —
  each reader keeps its strings quoted, and so do all of them at any fuel;
* `Json.parseBytes_quoted` — **every string of a parsed document stands quoted in its text**;
* `Json.decodeRecord_inv` — decoding a record keeps what every member's reader keeps.
-/

namespace QuotaWatch

namespace Utf8

theorem toNat_ofNat_of_le {n : Nat} (h : 0x80 ≤ n) :
    (Char.ofNat n).toNat = 0 ∨ 0x80 ≤ (Char.ofNat n).toNat := by
  unfold Char.ofNat
  split
  · exact .inr (by simpa [Char.ofNatAux, Char.toNat] using h)
  · exact .inl rfl

theorem toNat_ofNat_ascii {n : Nat} (h : n < 0x80) : (Char.ofNat n).toNat = n := by
  unfold Char.ofNat
  split
  · simp [Char.ofNatAux, Char.toNat]
  · rename_i hv
    exact absurd (Or.inl (by omega)) hv

/-- A group of bits of a byte, placed at `s`. -/
theorem mask_shift (x m s : Nat) : (x &&& 2 ^ m - 1) <<< s = x % 2 ^ m * 2 ^ s := by
  rw [Nat.and_two_pow_sub_one_eq_mod, Nat.shiftLeft_eq]

theorem second3_of_E0 {b b1 : UInt8} (he : b.toNat = 0xE0) (hs : second3 b b1 = true) :
    0xA0 ≤ b1.toNat ∧ b1.toNat ≤ 0xBF := by
  simp [second3, UInt8.toNat_inj.1 (by rw [he]; rfl : b.toNat = (0xE0 : UInt8).toNat),
    UInt8.le_iff_toNat_le] at hs
  omega

theorem second4_of_F0 {b b1 : UInt8} (he : b.toNat = 0xF0) (hs : second4 b b1 = true) :
    0x90 ≤ b1.toNat ∧ b1.toNat ≤ 0xBF := by
  simp [second4, UInt8.toNat_inj.1 (by rw [he]; rfl : b.toNat = (0xF0 : UInt8).toNat),
    UInt8.le_iff_toNat_le] at hs
  omega

/-- **Only an ASCII byte reads as an ASCII character**, the null character apart: a longer
sequence stands for a code point of `0x80` or more, and an ill-formed one for the replacement. -/
theorem lt_of_first {b : UInt8} {r : List UInt8} (h0 : 0 < (first b r).1.toNat)
    (h : (first b r).1.toNat < 0x80) : b < 0x80 := by
  by_cases hb : b < 0x80
  · exact hb
  exfalso
  suffices hn : ∃ n, 0x80 ≤ n ∧ ((first b r).1 = Char.ofNat n ∨ (first b r).1 = replacement) by
    obtain ⟨n, hn, hc | hc⟩ := hn
    · rw [hc] at h0 h
      rcases toNat_ofNat_of_le hn with h1 | h1 <;> omega
    · rw [hc] at h
      exact absurd h (by decide)
  unfold first
  simp only [hb, if_false]
  repeat' split
  all_goals first
    | exact ⟨0x80, Nat.le_refl _, .inr rfl⟩
    | refine ⟨_, ?_, .inl rfl⟩
  all_goals simp only [Bool.or_eq_true, decide_eq_true_eq, not_or, gt_iff_lt, Bool.and_eq_true,
    UInt8.lt_iff_toNat_lt, UInt8.le_iff_toNat_le, UInt8.reduceToNat, Nat.not_lt, Nat.not_le] at *
  · -- two bytes: the lead byte's five bits are at least 2
    refine Nat.le_trans ?_ Nat.left_le_or
    rw [show (31 : Nat) = 2 ^ 5 - 1 from rfl, mask_shift]
    omega
  · -- three bytes: the lead byte's four bits, or after `E0` the second byte's six bits
    refine Nat.le_trans ?_ Nat.left_le_or
    by_cases he : b.toNat = 0xE0
    · have hb1 := second3_of_E0 he ‹second3 b _ = true ∧ _›.1
      refine Nat.le_trans ?_ Nat.right_le_or
      rw [show (63 : Nat) = 2 ^ 6 - 1 from rfl, mask_shift]
      omega
    · refine Nat.le_trans ?_ Nat.left_le_or
      rw [show (15 : Nat) = 2 ^ 4 - 1 from rfl, mask_shift]
      omega
  · -- four bytes: the lead byte's three bits, or after `F0` the second byte's six bits
    refine Nat.le_trans ?_ Nat.left_le_or
    refine Nat.le_trans ?_ Nat.left_le_or
    by_cases he : b.toNat = 0xF0
    · have hb1 := second4_of_F0 he ‹(second4 b _ = true ∧ _) ∧ _›.1.1
      refine Nat.le_trans ?_ Nat.right_le_or
      rw [show (63 : Nat) = 2 ^ 6 - 1 from rfl, mask_shift]
      omega
    · refine Nat.le_trans ?_ Nat.left_le_or
      rw [show (7 : Nat) = 2 ^ 3 - 1 from rfl, mask_shift]
      omega

/-- **Bytes that read as ASCII text are that text's bytes**, for text without the null
character. -/
theorem eq_asc_of_decode {raw : List UInt8} {cs : List Char} (h : decode raw = cs)
    (hcs : ∀ c ∈ cs, 0 < c.toNat ∧ c.toNat < 0x80) : raw = cs.map fun c => UInt8.ofNat c.toNat := by
  induction cs generalizing raw with
  | nil =>
    cases raw with
    | nil => rfl
    | cons b r => rw [decode.eq_2] at h; cases h
  | cons c cs ih =>
    cases raw with
    | nil => rw [decode.eq_1] at h; cases h
    | cons b r =>
      rw [decode.eq_2, List.cons.injEq] at h
      obtain ⟨hc, hr⟩ := h
      have hb : b < 0x80 :=
        lt_of_first (hc ▸ (hcs c List.mem_cons_self).1) (hc ▸ (hcs c List.mem_cons_self).2)
      have hfirst : first b r = (Char.ofNat b.toNat, 1) := by simp [first, hb]
      rw [hfirst] at hc hr
      have hbn : b.toNat < 0x80 := by simpa [UInt8.lt_iff_toNat_lt] using hb
      have hr' : decode r = cs := by simpa using hr
      rw [List.map_cons, ← hc, toNat_ofNat_ascii hbn, UInt8.ofNat_toNat,
        ← ih hr' fun c hc => hcs c (List.mem_cons_of_mem _ hc)]

end Utf8

namespace Json

/-! ### Readers take their input from the front -/

theorem drop_length_takeWhile {α : Type} (p : α → Bool) :
    ∀ l : List α, l.drop (l.takeWhile p).length = l.dropWhile p
  | [] => rfl
  | x :: xs => by
    by_cases h : p x <;> simp [h, drop_length_takeWhile p xs]

theorem skipBlanks_suffix (bs : List UInt8) : skipBlanks bs <:+ bs := List.dropWhile_suffix _

/-- **A string written without escapes reads as the text of its bytes**, up to the closing
quote. -/
theorem readString_unescaped {bs rest : List UInt8} {s : String} (hbs : 0x5C ∉ bs)
    (h : readString bs = .ok (s, rest)) :
    ∃ raw, bs = raw ++ 0x22 :: rest ∧ Utf8.decode raw = s.toList := by
  cases bs with
  | nil => simp [readString, readStringBody, readPiece] at h
  | cons b r =>
    rw [readString, List.length_cons, readStringBody.eq_2] at h
    by_cases hq : b = 0x22
    · -- the closing quote at once: the empty string
      simp only [readPiece, hq, if_true, Except.ok.injEq, Prod.mk.injEq] at h
      obtain ⟨rfl, rfl⟩ := h
      exact ⟨[], by simp [hq], by rw [Utf8.decode.eq_1]; simp⟩
    have hb : b ≠ 0x5C := fun e => hbs (e ▸ List.mem_cons_self)
    by_cases hc : b < 0x20
    · simp [readPiece, hq, hc] at h
    -- a run of plain bytes, after which only the closing quote can follow
    let p : UInt8 → Bool := fun x => x ≠ 0x22 && x ≠ 0x5C && x ≥ 0x20
    simp only [readPiece, hq, hc, if_false, drop_length_takeWhile] at h
    rw [if_pos hb] at h
    change readStringBody _ ((Utf8.decode (b :: r.takeWhile p)).reverse ++ []) (r.dropWhile p) = _ at h
    obtain ⟨run, hrun⟩ : ∃ run, r.takeWhile p = run := ⟨_, rfl⟩
    have hsplit : r = run ++ r.dropWhile p := hrun ▸ List.takeWhile_append_dropWhile.symm
    have hstop := List.head?_dropWhile_not p r
    rw [hrun] at h
    cases hd : r.dropWhile p with
    | nil =>
      rw [hd] at h
      simp [readStringBody, readPiece] at h
    | cons c r' =>
      rw [hd] at h hstop hsplit
      rw [readStringBody.eq_2] at h
      have hc5 : c ≠ 0x5C := fun e => hbs (by simp [hsplit, e])
      by_cases hcq : c = 0x22
      · simp only [readPiece, hcq, if_true, Except.ok.injEq, Prod.mk.injEq] at h
        obtain ⟨rfl, rfl⟩ := h
        exact ⟨b :: run, by rw [hsplit, hcq]; rfl, by simp⟩
      · by_cases hcc : c < 0x20
        · simp [readPiece, hcq, hcc] at h
        · simp [p, hcq, hcc, hc5] at hstop

/-- The digits of a number are a part of the input taken from the front. -/
theorem readNumberTail_eq {bs t r : List UInt8} (h : readNumberTail bs = .ok (t, r)) : bs = t ++ r := by
  unfold readNumberTail at h
  dsimp only at h
  have hs : ∀ l : List UInt8, l.takeWhile isDigitByte ++ l.dropWhile isDigitByte = l :=
    fun l => List.takeWhile_append_dropWhile
  -- integer digits, a fraction and an exponent, each taken from what the one before left
  repeat' split at *
  all_goals simp only [drop_length_takeWhile, Except.ok.injEq, Prod.mk.injEq, reduceCtorEq,
    List.cons.injEq] at *
  all_goals grind

theorem readNumber_spec {bs rest : List UInt8} {j : Json} (h : readNumber bs = .ok (j, rest)) :
    (∃ lit, j = .num lit) ∧ rest <:+ bs := by
  have ht : ∀ {r t r2 : List UInt8}, readNumberTail r = .ok (t, r2) → r2 <:+ r := fun h =>
    (readNumberTail_eq h).symm ▸ List.suffix_append _ _
  have ht' : ∀ {r t r2 : List UInt8}, readNumber.readNumberTail' r = .ok (t, r2) → r2 <:+ r := by
    intro r t r2 h
    unfold readNumber.readNumberTail' at h
    split at h
    · split at h
      · cases h
        exact List.suffix_refl _
      · exact ht h
    · cases h
      exact List.suffix_refl _
  unfold readNumber at h
  repeat' split at h
  all_goals (try cases h)
  all_goals refine ⟨⟨_, rfl⟩, ?_⟩
  -- what follows the literal is what its digits left
  all_goals first
    | exact (ht' ‹_›).trans ((List.suffix_cons _ _).trans (List.suffix_cons _ _))
    | exact (ht' ‹_›).trans (List.suffix_cons _ _)
    | exact (ht ‹_›).trans ((List.suffix_cons _ _).trans (List.suffix_cons _ _))
    | exact (ht ‹_›).trans (List.suffix_cons _ _)

theorem readWord_spec {word : List UInt8} {name : String} {v j : Json} {bs rest : List UInt8}
    (h : readWord word name v bs = .ok (j, rest)) : j = v ∧ rest <:+ bs := by
  unfold readWord at h
  induction word generalizing bs with
  | nil =>
    obtain ⟨rfl, rfl⟩ := Prod.mk.inj (Except.ok.inj h)
    exact ⟨rfl, List.suffix_refl _⟩
  | cons w ws ih =>
    cases bs with
    | nil => cases h
    | cons b r =>
      rw [readWord.go] at h
      split at h
      · exact (ih h).imp_right fun hr => hr.trans (List.suffix_cons _ _)
      · cases h

/-! ### Strings stand quoted in the text -/

/-- `s` is a string value somewhere in a document. -/
inductive HasStr (s : String) : Json → Prop
  | str : HasStr s (.str s)
  | arr {js : List Json} {j : Json} : j ∈ js → HasStr s j → HasStr s (.arr js)
  | obj {ms : List (String × Json)} {k : String} {j : Json} : (k, j) ∈ ms → HasStr s j → HasStr s (.obj ms)

/-- The bytes of `s` stand between two quotes in `line`. -/
def Quoted (s : String) (line : List UInt8) : Prop :=
  ∃ raw, Utf8.decode raw = s.toList ∧ 0x22 :: raw ++ [0x22] <:+: line

section Reads

variable {line : List UInt8}

/-- What reading a value with `fuel` keeps: it takes a part of its input from the front, and
each string of its value stands quoted in the line. -/
def ReadsQuoted (line : List UInt8) (fuel : Nat) : Prop :=
  ∀ bs j rest, bs <:+ line → readValue fuel bs = .ok (j, rest) →
    rest <:+ bs ∧ ∀ s, HasStr s j → Quoted s line

/-- What reading array items with `fuel` keeps: the strings of the array are those of the items
read before, or stand quoted in the line. -/
def ItemsQuoted (line : List UInt8) (fuel : Nat) : Prop :=
  ∀ acc bs first j rest, bs <:+ line → readArray fuel acc bs first = .ok (j, rest) →
    rest <:+ bs ∧ ∀ s, HasStr s j → (∃ a ∈ acc, HasStr s a) ∨ Quoted s line

/-- What reading object members with `fuel` keeps, as for array items. -/
def MembersQuoted (line : List UInt8) (fuel : Nat) : Prop :=
  ∀ acc bs first j rest, bs <:+ line → readObject fuel acc bs first = .ok (j, rest) →
    rest <:+ bs ∧ ∀ s, HasStr s j → (∃ m ∈ acc, HasStr s m.2) ∨ Quoted s line

theorem readValue_step (hline : 0x5C ∉ line) {fuel : Nat} (ha : ItemsQuoted line fuel)
    (ho : MembersQuoted line fuel) : ReadsQuoted line (fuel + 1) := by
  intro bs j rest hbs h
  rw [readValue] at h
  split at h
  · cases h
  rename_i b r hsb
  have hr : r <:+ bs := (List.suffix_cons b r).trans (hsb ▸ skipBlanks_suffix bs)
  have hrl : skipBlanks r <:+ line := (skipBlanks_suffix r).trans (hr.trans hbs)
  split_ifs at h
  · -- an object: its strings are its members'
    obtain ⟨hrest, hstr⟩ := ho [] _ true j rest hrl h
    exact ⟨hrest.trans ((skipBlanks_suffix r).trans hr), fun s hs => (hstr s hs).resolve_left (by simp)⟩
  · obtain ⟨hrest, hstr⟩ := ha [] _ true j rest hrl h
    exact ⟨hrest.trans ((skipBlanks_suffix r).trans hr), fun s hs => (hstr s hs).resolve_left (by simp)⟩
  · -- a string: the bytes between its quotes
    split at h
    · rename_i s' r' hrs
      obtain ⟨rfl, rfl⟩ := Prod.mk.inj (Except.ok.inj h)
      obtain ⟨raw, hraw, hdec⟩ := readString_unescaped (fun h5 => hline ((hr.trans hbs).subset h5)) hrs
      have hq : 0x22 :: raw ++ [0x22] <:+: skipBlanks bs := by
        rw [hsb, ‹b = 0x22›, hraw]
        exact ⟨[], r', by simp⟩
      have hr' : r' <:+ r := hraw ▸ (List.suffix_cons _ _).trans (List.suffix_append _ _)
      refine ⟨hr'.trans hr, fun s hs => ?_⟩
      cases hs
      exact ⟨raw, hdec, hq.trans ((skipBlanks_suffix bs).trans hbs).isInfix⟩
    · cases h
  · -- a number, and the three words, hold no string
    obtain ⟨⟨lit, rfl⟩, hrest⟩ := readNumber_spec h
    exact ⟨hrest.trans (hsb ▸ skipBlanks_suffix bs), fun s hs => by cases hs⟩
  all_goals first
    | cases h
    | (obtain ⟨rfl, hrest⟩ := readWord_spec h
       exact ⟨hrest.trans hr, fun s hs => by cases hs⟩)

/-- The strings of a list read onto `v :: acc` (items, or members by their values `g`) are
`v`'s or those read before. -/
theorem hasStr_cons {β : Type} (g : β → Json) {s : String} {v : β} {acc : List β} {P : Prop}
    (hv : HasStr s (g v) → P) (h : (∃ a ∈ v :: acc, HasStr s (g a)) ∨ P) :
    (∃ a ∈ acc, HasStr s (g a)) ∨ P := by
  rcases h with ⟨a, ha, hsa⟩ | hp
  · rcases List.mem_cons.1 ha with rfl | ha
    · exact .inr (hv hsa)
    · exact .inl ⟨a, ha, hsa⟩
  · exact .inr hp

theorem readArray_step {fuel : Nat} (hv : ReadsQuoted line fuel) (ha : ItemsQuoted line fuel) :
    ItemsQuoted line (fuel + 1) := by
  intro acc bs first j rest hbs h
  by_cases hb : ∃ r0, bs = 0x5D :: r0
  · -- the closing bracket of an empty array
    obtain ⟨r0, rfl⟩ := hb
    rw [readArray.eq_2] at h
    split at h
    · cases h
      exact ⟨List.suffix_cons _ _, fun s hs => by cases hs; simp_all⟩
    · cases h
  rw [readArray.eq_3 acc bs first fuel fun r0 e => hb ⟨r0, e⟩] at h
  cases hvr : readValue fuel bs with
  | error e => rw [hvr] at h; cases h
  | ok vr =>
  obtain ⟨v, r⟩ := vr
  rw [hvr] at h
  dsimp only at h
  obtain ⟨hr, hvs⟩ := hv bs v r hbs hvr
  cases hsk : skipBlanks r with
  | nil => rw [hsk] at h; cases h
  | cons c r2 =>
  rw [hsk] at h
  dsimp only at h
  have hr2 : r2 <:+ bs := (List.suffix_cons c r2).trans ((hsk ▸ skipBlanks_suffix r).trans hr)
  split_ifs at h
  · -- a comma: the next items are read onto `v`
    obtain ⟨hrest, hstr⟩ := ha (v :: acc) _ false j rest ((skipBlanks_suffix r2).trans (hr2.trans hbs)) h
    exact ⟨hrest.trans ((skipBlanks_suffix r2).trans hr2), fun s hs => hasStr_cons id (hvs s) (hstr s hs)⟩
  · cases h
    refine ⟨hr2, fun s hs => ?_⟩
    cases hs with
    | arr hmem hsa => exact hasStr_cons id (hvs s) (.inl ⟨_, List.mem_reverse.1 hmem, hsa⟩)

theorem readObject_step (hline : 0x5C ∉ line) {fuel : Nat} (hv : ReadsQuoted line fuel)
    (ho : MembersQuoted line fuel) : MembersQuoted line (fuel + 1) := by
  intro acc bs first j rest hbs h
  cases bs with
  | nil => rw [readObject.eq_2] at h; cases h
  | cons c r0 =>
  rw [readObject.eq_3] at h
  split_ifs at h
  · -- the closing brace of an empty object
    cases h
    exact ⟨List.suffix_cons _ _, fun s hs => by cases hs; simp_all⟩
  -- a key, which is no string value, then a colon and the member's value
  cases hk : readString r0 with
  | error e => rw [hk] at h; cases h
  | ok kr =>
  obtain ⟨k, r⟩ := kr
  rw [hk] at h
  dsimp only at h
  have hr0 : r0 <:+ c :: r0 := List.suffix_cons c r0
  obtain ⟨raw, hraw, -⟩ := readString_unescaped (fun h5 => hline ((hr0.trans hbs).subset h5)) hk
  have hr' : r <:+ r0 := hraw ▸ (List.suffix_cons _ _).trans (List.suffix_append _ _)
  have hr : r <:+ c :: r0 := hr'.trans hr0
  cases hsk : skipBlanks r with
  | nil => rw [hsk] at h; cases h
  | cons d r2 =>
  rw [hsk] at h
  dsimp only at h
  have hr2 : r2 <:+ c :: r0 := (List.suffix_cons d r2).trans ((hsk ▸ skipBlanks_suffix r).trans hr)
  split_ifs at h
  cases hvr : readValue fuel r2 with
  | error e => rw [hvr] at h; cases h
  | ok vr =>
  obtain ⟨v, r3⟩ := vr
  rw [hvr] at h
  dsimp only at h
  obtain ⟨hr3, hvs⟩ := hv r2 v r3 (hr2.trans hbs) hvr
  cases hsk' : skipBlanks r3 with
  | nil => rw [hsk'] at h; cases h
  | cons e r4 =>
  rw [hsk'] at h
  dsimp only at h
  have hr4 : r4 <:+ c :: r0 :=
    (List.suffix_cons e r4).trans ((hsk' ▸ skipBlanks_suffix r3).trans (hr3.trans hr2))
  split_ifs at h
  · -- a comma: the next members are read onto this one
    obtain ⟨hrest, hstr⟩ :=
      ho ((k, v) :: acc) _ false j rest ((skipBlanks_suffix r4).trans (hr4.trans hbs)) h
    exact ⟨hrest.trans ((skipBlanks_suffix r4).trans hr4), fun s hs => hasStr_cons Prod.snd (hvs s) (hstr s hs)⟩
  · cases h
    refine ⟨hr4, fun s hs => ?_⟩
    cases hs with
    | obj hm hsa => exact hasStr_cons Prod.snd (hvs s) (.inl ⟨_, List.mem_reverse.1 hm, hsa⟩)

/-- Every read with any fuel keeps the strings quoted, by induction on the fuel. -/
theorem reads_quoted (hline : 0x5C ∉ line) :
    ∀ fuel, ReadsQuoted line fuel ∧ ItemsQuoted line fuel ∧ MembersQuoted line fuel
  | 0 => ⟨fun _ _ _ _ h => by simp [readValue] at h, fun _ _ _ _ _ _ h => by simp [readArray] at h,
      fun _ _ _ _ _ _ h => by simp [readObject] at h⟩
  | fuel + 1 =>
    have ⟨hv, ha, ho⟩ := reads_quoted hline fuel
    ⟨readValue_step hline ha ho, readArray_step hv ha, readObject_step hline hv ho⟩

/-- **In a text without backslashes, every string of the parsed document stands quoted in the
text.** -/
theorem parseBytes_quoted (hline : 0x5C ∉ line) {j : Json} (h : parseBytes line = .ok j) :
    ∀ s, HasStr s j → Quoted s line := by
  unfold parseBytes at h
  split at h
  · cases h
  rename_i v rest hv
  have hj : v = j := by split at h <;> first | exact Except.ok.inj h | cases h
  exact hj ▸ ((reads_quoted hline _).1 line v rest (List.suffix_refl _) hv).2

end Reads

end Json

/-! ### Decoding records member by member -/

/-- **Decoding a record keeps an invariant of the record** that every member's reader keeps. -/
theorem decodeRecord_inv {α : Type} {fs : FieldReaders α} {pkg record : String} {at_ : Field}
    {cur d : α} {j : Json} (P : α → Prop) (hcur : P cur)
    (hstep : ∀ ms, j = .obj ms → ∀ k v, (k, v) ∈ ms → ∀ x ∈ fs, ∀ f acc acc', P acc →
      x.2 f acc v = .ok acc' → P acc')
    (h : decodeRecord fs pkg record at_ cur j = .ok d) : P d := by
  unfold decodeRecord at h
  cases j with
  | null =>
    obtain rfl : cur = d := Except.ok.inj h
    exact hcur
  | obj ms =>
    change ms.foldlM _ cur = Except.ok d at h
    -- the fold over the members keeps `P` when every step does
    have run : ∀ g : α → String × Json → Except DecodeError α,
        (∀ kv ∈ ms, ∀ acc acc', P acc → g acc kv = .ok acc' → P acc') →
        ∀ xs : List (String × Json), (∀ x ∈ xs, x ∈ ms) → ∀ acc, P acc → xs.foldlM g acc = .ok d →
          P d := by
      intro g hg xs
      induction xs with
      | nil => intro _ acc hacc h; obtain rfl : acc = d := Except.ok.inj h; exact hacc
      | cons x xs ih =>
        intro hxs acc hacc h
        rw [List.foldlM_cons] at h
        cases hx : g acc x with
        | error e => rw [hx] at h; cases h
        | ok acc' =>
          rw [hx] at h
          exact ih (fun y hy => hxs y (.tail _ hy)) acc'
            (hg x (hxs x List.mem_cons_self) acc acc' hacc hx) h
    refine run _ ?_ ms (fun _ hx => hx) cur hcur h
    -- a step runs the reader of its member's name, or keeps the record
    rintro ⟨k, v⟩ hkv acc acc' hacc hg
    cases hf : findReader fs k with
    | none => simp only [hf, Except.ok.injEq] at hg; exact hg ▸ hacc
    | some nr =>
      obtain ⟨name, r⟩ := nr
      simp only [hf] at hg
      have hmem : (name, r) ∈ fs := by
        unfold findReader at hf
        split at hf
        · rename_i x hx
          obtain rfl := Option.some.inj hf
          exact List.mem_of_find?_eq_some hx
        · exact List.mem_of_find?_eq_some hf
      exact hstep ms rfl k v hkv _ hmem _ acc acc' hacc hg
  | _ => cases h

end QuotaWatch
