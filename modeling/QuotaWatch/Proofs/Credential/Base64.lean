import QuotaWatch.Credential.Base64
/-!
**Base64url text decodes to the bytes it encodes.**

`Base64.encode` writes three bytes as four characters of the URL-safe alphabet and a last one or
two bytes as two or three, with no padding. The decoder reads the text padded with `=` group by
group from a position in an array, so the proof follows the text through the array: a run of
alphabet characters is read value by value (`Base64.readGroup_chars`), a full group gives its
three bytes back (`Base64.bytesOf_sextets`), and a last group stops at its padding. By induction
over the groups, decoding the padded text of any bytes gives those bytes
(`Base64.decode_padded_encode`); padding twice is padding once, so padded text is read the same.

Main definitions:

* `Base64.char`, `Base64.sextets` — the alphabet, and the four values a group of three bytes
  gives;
* `Base64.encode` — the unpadded URL-safe text of some bytes.

Main results:

* `Base64.bytesOf_sextets` — a full group gives its three bytes back;
* `Base64.readGroup_chars` — a run of alphabet characters is read value by value;
* `Base64.decode_go` — decoding runs group by group over the whole text;
* `Base64.decode_padded_encode` — **decoding the padded text of any bytes gives those bytes**.
-/

namespace QuotaWatch

namespace Base64

/-- The character of a six-bit value in the URL-safe alphabet. -/
def char (v : Nat) : UInt8 :=
  if v < 26 then UInt8.ofNat (v + 0x41) else if v < 52 then UInt8.ofNat (v - 26 + 0x61)
  else if v < 62 then UInt8.ofNat (v - 52 + 0x30) else if v = 62 then 0x2D else 0x5F

theorem value?_char : ∀ v < 64, value? (char v) = some v := by decide

/-- The four six-bit values of three bytes, most significant first. -/
def sextets (a b c : UInt8) : List Nat :=
  let w := a.toNat * 65536 + b.toNat * 256 + c.toNat
  [w / 262144, w / 4096 % 64, w / 64 % 64, w % 64]

/-- Base64url text without padding. -/
def encode : List UInt8 → List UInt8
  | a :: b :: c :: rest => (sextets a b c).map char ++ encode rest
  | [a, b] => ((sextets a b 0).map char).take 3
  | [a] => ((sextets a 0 0).map char).take 2
  | [] => []

@[simp] theorem length_sextets (a b c : UInt8) : (sextets a b c).length = 4 := rfl

theorem sextets_lt (a b c : UInt8) : ∀ v ∈ sextets a b c, v < 64 := by
  have ha := a.toNat_lt
  have hb := b.toNat_lt
  have hc := c.toNat_lt
  simp only [sextets, List.mem_cons, List.not_mem_nil, or_false]
  rintro v (rfl | rfl | rfl | rfl) <;> omega

/-! ### Bytes of a group -/

theorem bytesOf_four (v0 v1 v2 v3 n : Nat) :
    bytesOf [v0, v1, v2, v3] n =
      (let w := v0 * 262144 + v1 * 4096 + v2 * 64 + v3
       [UInt8.ofNat (w / 65536 % 256), UInt8.ofNat (w / 256 % 256), UInt8.ofNat (w % 256)]).take (n - 1) :=
  rfl

theorem ofNat_eq_of_toNat {x : Nat} {a : UInt8} (h : x = a.toNat) : UInt8.ofNat x = a := by
  rw [h, UInt8.ofNat_toNat]

/-- The sextets of three bytes give the three bytes back. -/
theorem bytesOf_sextets (a b c : UInt8) (n : Nat) :
    bytesOf (sextets a b c) n = [a, b, c].take (n - 1) := by
  have ha := a.toNat_lt
  have hb := b.toNat_lt
  have hc := c.toNat_lt
  rw [sextets, bytesOf_four]
  refine congrArg (List.take (n - 1)) ?_
  simp only [List.cons.injEq, and_true]
  -- the four values put back together are the number of the three bytes
  refine ⟨ofNat_eq_of_toNat ?_, ofNat_eq_of_toNat ?_, ofNat_eq_of_toNat ?_⟩ <;> omega

/-- The values a last group leaves out are zeros, as the reader fills in. -/
theorem bytesOf_three (a b : UInt8) : bytesOf ((sextets a b 0).take 3) 3 = [a, b] := by
  have hz : (sextets a b 0).take 3 ++ [0] = sextets a b 0 := by simp [sextets]; omega
  rw [show bytesOf ((sextets a b 0).take 3) 3 = bytesOf ((sextets a b 0).take 3 ++ [0]) 3 from rfl,
    hz, bytesOf_sextets]
  rfl

theorem bytesOf_two (a : UInt8) : bytesOf ((sextets a 0 0).take 2) 2 = [a] := by
  have hz : (sextets a 0 0).take 2 ++ [0, 0] = sextets a 0 0 := by simp [sextets]; omega
  rw [show bytesOf ((sextets a 0 0).take 2) 2 = bytesOf ((sextets a 0 0).take 2 ++ [0, 0]) 2 from rfl,
    hz, bytesOf_sextets]
  rfl

/-! ### Padding -/

theorem padded_append_four {q : List UInt8} (hq : q.length = 4) (x : List UInt8) :
    padded (q ++ x) = q ++ padded x := by
  have hmod : (q ++ x).length % 4 = x.length % 4 := by rw [List.length_append, hq]; omega
  unfold padded
  rw [hmod]
  dsimp only
  split <;> simp

theorem padded_padded (x : List UInt8) : padded (padded x) = padded x := by
  have h4 : (padded x).length % 4 = 0 := by
    unfold padded
    dsimp only
    split
    · assumption
    · simp only [List.length_append, List.length_replicate]
      omega
  rw [padded.eq_def (padded x)]
  dsimp only
  rw [if_pos h4]

/-! ### Reading the text from a position -/

variable {src : Array UInt8}

theorem drop_eq_cons {si : Nat} {c : UInt8} {r : List UInt8} (h : src.toList.drop si = c :: r) :
    si < src.size ∧ src[si]! = c ∧ src.toList.drop (si + 1) = r := by
  have hlt : si < src.toList.length := by
    by_cases hle : src.toList.length ≤ si
    · rw [List.drop_eq_nil_of_le hle] at h
      cases h
    · omega
  rw [List.drop_eq_getElem_cons hlt, List.cons.injEq] at h
  refine ⟨by simpa using hlt, ?_, h.2⟩
  rw [getElem!_pos src si (by simpa using hlt), ← h.1, Array.getElem_toList]

theorem drop_add_of_drop {l x y : List UInt8} {si : Nat} (h : l.drop si = x ++ y) :
    l.drop (si + x.length) = y := by
  rw [← List.drop_drop, h, List.drop_left]

theorem size_of_drop {si : Nat} {l : List UInt8} (h : src.toList.drop si = l) (hl : l ≠ []) :
    src.size = si + l.length := by
  obtain ⟨c, r, rfl⟩ := List.exists_cons_of_ne_nil hl
  have hlen := congrArg List.length h
  rw [List.length_drop, Array.length_toList] at hlen
  have := (drop_eq_cons h).1
  omega

theorem readGroup_value {si fuel v : Nat} {vals : List Nat} {c : UInt8} {r : List UInt8}
    (h : src.toList.drop si = c :: r) (hv : value? c = some v) (hj : vals.length ≠ 4) :
    readGroup src si vals (fuel + 1) = readGroup src (si + 1) (vals ++ [v]) fuel := by
  obtain ⟨hlt, hc, -⟩ := drop_eq_cons h
  rw [readGroup]
  simp only [hj, if_false, Nat.not_le.2 hlt, hc, hv]

/-- A run of alphabet characters is read value by value. -/
theorem readGroup_chars {vs : List Nat} (hv : ∀ v ∈ vs, v < 64) :
    ∀ {si fuel : Nat} {vals : List Nat} {r : List UInt8},
      src.toList.drop si = vs.map char ++ r → vals.length + vs.length ≤ 4 →
      readGroup src si vals (fuel + vs.length) = readGroup src (si + vs.length) (vals ++ vs) fuel := by
  induction vs with
  | nil => intros; simp
  | cons v vs ih =>
    intro si fuel vals r h hlen
    rw [List.map_cons, List.cons_append] at h
    have hl : vals.length + vs.length + 1 ≤ 4 := by simpa [Nat.add_assoc] using hlen
    have hstep := @readGroup_value src si (fuel + vs.length) v vals _ _ h
      (value?_char v (hv v List.mem_cons_self)) (by omega)
    rw [List.length_cons, ← Nat.add_assoc, hstep,
      ih (fun w hw => hv w (List.mem_cons_of_mem v hw)) (drop_eq_cons h).2.2
      (by rw [List.length_append, List.length_singleton]; omega)]
    simp [Nat.add_assoc, Nat.add_comm 1]

theorem skipBreaks_eq {i : Nat} (h : ∀ c r, src.toList.drop i = c :: r → isBreak c = false) :
    skipBreaks src i = i := by
  have hstay : ¬(i < src.size ∧ isBreak src[i]! = true) := by
    rintro ⟨hlt, hb⟩
    have hnb := h _ _ (List.drop_eq_getElem_cons (l := src.toList) (by simpa using hlt))
    rw [Array.getElem_toList, ← getElem!_pos src i hlt, hb] at hnb
    cases hnb
  unfold skipBreaks
  -- every round of the scan stays where it is
  induction List.range (src.size - i) with
  | nil => rfl
  | cons _ _ ih => rw [List.foldl_cons, if_neg hstay, ih]

theorem value?_pad : value? pad = none := by decide

theorem isBreak_pad : isBreak pad = false := by decide

/-! ### How a group ends -/

theorem readGroup_four {si fuel : Nat} {vals : List Nat} (hj : vals.length = 4) :
    readGroup src si vals (fuel + 1) = .more si (bytesOf vals 4) := by
  rw [readGroup]
  simp [hj]

theorem readGroup_end {si fuel : Nat} (h : src.toList.drop si = []) :
    readGroup src si [] (fuel + 1) = .done [] := by
  have hle : src.size ≤ si := by simpa using List.drop_eq_nil_iff.1 h
  rw [readGroup]
  simp [hle]

theorem readGroup_pad3 {si fuel : Nat} {vals : List Nat} (hj : vals.length = 3)
    (h : src.toList.drop si = [pad]) : readGroup src si vals (fuel + 1) = .done (bytesOf vals 3) := by
  obtain ⟨hlt, hc, hrest⟩ := drop_eq_cons h
  rw [getElem!_pos src si hlt] at hc
  have hk : skipBreaks src (si + 1) = si + 1 := skipBreaks_eq fun _ _ h' => by rw [hrest] at h'; cases h'
  rw [readGroup]
  simp [hj, hc, hk, size_of_drop h (List.cons_ne_nil _ _), value?_pad, isBreak_pad]

theorem readGroup_pad2 {si fuel : Nat} {vals : List Nat} (hj : vals.length = 2)
    (h : src.toList.drop si = [pad, pad]) : readGroup src si vals (fuel + 1) = .done (bytesOf vals 2) := by
  obtain ⟨hlt, hc, hrest⟩ := drop_eq_cons h
  obtain ⟨hlt', hc', hrest'⟩ := drop_eq_cons hrest
  rw [getElem!_pos src (si + 1) hlt'] at hc'
  have hk : skipBreaks src (si + 1) = si + 1 := skipBreaks_eq fun _ _ h' => by
    rw [hrest, List.cons.injEq] at h'
    rw [← h'.1]
    rfl
  have hk' : skipBreaks src (si + 1 + 1) = si + 1 + 1 := skipBreaks_eq fun _ _ h' => by
    rw [hrest'] at h'
    cases h'
  rw [readGroup]
  simp only [hj, hc, value?_pad, isBreak_pad]
  simp [hc', hk, hk', size_of_drop h (List.cons_ne_nil _ _)]

/-! ### The whole text -/

/-- The last group: its values, then the padding that ends it. -/
theorem go_last {si fuel : Nat} {acc out pads : List UInt8} {vs : List Nat} (hv : ∀ v ∈ vs, v < 64)
    (h : src.toList.drop si = vs.map char ++ pads) (hlen : vs.length + pads.length = 4)
    (hend : ∀ n, readGroup src (si + vs.length) vs (n + 1) = .done out) :
    decode.go src si acc (fuel + 1) = .ok (acc ++ out) := by
  have hsize := size_of_drop h (List.ne_nil_of_length_pos (by simp; omega))
  rw [List.length_append, List.length_map] at hsize
  have hread : readGroup src si [] (src.size + 1) = .done out := by
    rw [show src.size + 1 = src.size - vs.length + 1 + vs.length by omega,
      @readGroup_chars src _ hv si _ [] _ h (by simp; omega), List.nil_append, hend]
  rw [decode.go, hread]

theorem decode_go : ∀ (bs : List UInt8) {si fuel : Nat} {acc : List UInt8},
    src.toList.drop si = padded (encode bs) → (src.size - si) / 4 < fuel →
    decode.go src si acc fuel = .ok (acc ++ bs)
  | a :: b :: c :: rest, si, fuel, acc, h, hf => by
    obtain ⟨n, rfl⟩ : ∃ n, fuel = n + 1 := ⟨fuel - 1, by omega⟩
    rw [encode, padded_append_four (by simp)] at h
    have hsize := size_of_drop h (by simp [sextets])
    rw [List.length_append, List.length_map, length_sextets] at hsize
    have hread : readGroup src si [] (src.size + 1) = .more (si + 4) [a, b, c] := by
      rw [show src.size + 1 = src.size - 4 + 1 + (sextets a b c).length by simp; omega,
        @readGroup_chars src _ (sextets_lt a b c) si _ [] _ h (by simp),
        readGroup_four (by simp), List.nil_append, bytesOf_sextets, length_sextets]
      rfl
    have hnext := drop_add_of_drop h
    rw [List.length_map, length_sextets] at hnext
    rw [decode.go, hread]
    simp only [Nat.not_le.2 (Nat.lt_add_of_pos_right (by decide : 0 < 4)), if_false]
    rw [decode_go rest hnext (by omega)]
    simp
  | [a, b], si, fuel, acc, h, hf => by
    obtain ⟨n, rfl⟩ : ∃ n, fuel = n + 1 := ⟨fuel - 1, by omega⟩
    have h' : src.toList.drop si = ((sextets a b 0).take 3).map char ++ [pad] := by
      rw [h, encode, List.map_take]
      simp [padded, sextets]
    refine go_last (fun v hv => sextets_lt a b 0 v (List.mem_of_mem_take hv)) h' (by simp) fun m => ?_
    rw [readGroup_pad3 (by simp) (by simpa using drop_add_of_drop h'), bytesOf_three]
  | [a], si, fuel, acc, h, hf => by
    obtain ⟨n, rfl⟩ : ∃ n, fuel = n + 1 := ⟨fuel - 1, by omega⟩
    have h' : src.toList.drop si = ((sextets a 0 0).take 2).map char ++ [pad, pad] := by
      rw [h, encode, List.map_take]
      simp [padded, sextets]
    refine go_last (fun v hv => sextets_lt a 0 0 v (List.mem_of_mem_take hv)) h' (by simp) fun m => ?_
    rw [readGroup_pad2 (by simp) (by simpa using drop_add_of_drop h'), bytesOf_two]
  | [], si, fuel, acc, h, hf => by
    obtain ⟨n, rfl⟩ : ∃ n, fuel = n + 1 := ⟨fuel - 1, by omega⟩
    rw [decode.go, readGroup_end h]

/-- **Base64url text decodes to the bytes it encodes**, padded or not. -/
theorem decode_padded_encode (bs : List UInt8) : decode (padded (encode bs)) = .ok bs := by
  unfold decode
  exact decode_go bs (by simp) (by simp; omega)

end Base64

end QuotaWatch
