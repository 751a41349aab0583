import QuotaWatch.Text.Utf8
/-!
**Reading back the UTF-8 bytes of characters.**

`Utf8.decode` reads every well-formed sequence as its character. The bytes that
`String.utf8EncodeChar` writes for a character are such a sequence: one byte below `0x80`, or a
lead byte that announces two, three or four bytes followed by continuation bytes, never an
overlong form, a surrogate or a code point past `U+10FFFF`. So decoding the bytes of any
character list gives the list back, and decoding goes on unchanged after them.

Main results:

* `Utf8.bytesOf_eq_encode` — the bytes of a string are the bytes of its characters;
* `Utf8.first_utf8EncodeChar` — the first character read from the bytes of a character is that
  character, with the rest left as it was;
* `Utf8.decode_encode_append`, `Utf8.decode_encode` — **decoding the bytes of characters gives
  them back**.
-/

namespace QuotaWatch

namespace Utf8

@[simp] theorem encode_nil : encode [] = [] := rfl

@[simp] theorem encode_cons (c : Char) (cs : List Char) :
    encode (c :: cs) = String.utf8EncodeChar c ++ encode cs := rfl

theorem encode_append (cs cs' : List Char) : encode (cs ++ cs') = encode cs ++ encode cs' :=
  List.flatMap_append

/-- Listing a byte array from position `i` onto `r` puts its bytes from `i` after `r`
reversed. -/
theorem toList_loop (bs : ByteArray) (i : Nat) (r : List UInt8) :
    ByteArray.toList.loop bs i r = r.reverse ++ bs.data.toList.drop i := by
  fun_induction ByteArray.toList.loop bs i r with
  | case1 i r hlt ih =>
    have hlen : i < bs.data.toList.length := by simpa using hlt
    have hget : bs.get! i = bs.data[i]! := by cases bs; rfl
    rw [ih, List.drop_eq_getElem_cons hlen, hget, getElem!_pos bs.data i hlt]
    simp
  | case2 i r hlt =>
    rw [List.drop_eq_nil_of_le (by simpa using Nat.le_of_not_lt hlt), List.append_nil]

/-- The bytes of a text are the bytes of its characters. -/
theorem bytesOf_eq_encode (s : String) : bytesOf s = encode s.toList := by
  rw [bytesOf, String.toUTF8_eq_toByteArray, ← String.utf8Encode_toList, ByteArray.toList,
    toList_loop, List.reverse_nil, List.nil_append, List.drop_zero]
  exact List.toList_data_toByteArray

/-- Two groups of bits, placed at 6 and 0. -/
theorem join2 (a d : Nat) (hd : d < 64) : a <<< 6 ||| d = a * 64 + d := by
  rw [← Nat.shiftLeft_add_eq_or_of_lt (show d < 2 ^ 6 by omega), Nat.shiftLeft_eq]

/-- Three groups of bits, placed at 12, 6 and 0. -/
theorem join3 (a b d : Nat) (hb : b < 64) (hd : d < 64) :
    a <<< 12 ||| b <<< 6 ||| d = a * 4096 + b * 64 + d := by
  have hab : a <<< 12 ||| b <<< 6 = (a <<< 6 ||| b) <<< 6 := by
    rw [Nat.shiftLeft_or_distrib, ← Nat.shiftLeft_add]
  rw [hab, join2 _ d hd, join2 a b hb]
  omega

/-- Four groups of bits, placed at 18, 12, 6 and 0. -/
theorem join4 (a b e d : Nat) (hb : b < 64) (he : e < 64) (hd : d < 64) :
    a <<< 18 ||| b <<< 12 ||| e <<< 6 ||| d = a * 262144 + b * 4096 + e * 64 + d := by
  have habe : a <<< 18 ||| b <<< 12 ||| e <<< 6 = (a <<< 12 ||| b <<< 6 ||| e) <<< 6 := by
    rw [Nat.shiftLeft_or_distrib, Nat.shiftLeft_or_distrib, ← Nat.shiftLeft_add, ← Nat.shiftLeft_add]
  rw [habe, join2 _ d hd, join3 a b e hb he]
  omega

/-- A byte given by a value below `256` has that value. -/
theorem toNat_ofNat_lt {n : Nat} (h : n < 256) : (UInt8.ofNat n).toNat = n := by
  rw [UInt8.toNat_ofNat', Nat.mod_eq_of_lt (by simpa using h)]

/-- **The first character read from the bytes of a character is that character**, and it
takes all of its bytes. -/
theorem first_utf8EncodeChar (c : Char) (r : List UInt8) :
    ∃ b0 bs, String.utf8EncodeChar c = b0 :: bs ∧ first b0 (bs ++ r) = (c, bs.length + 1) := by
  have hvalid := c.valid
  have hv : c.val.toNat = c.toNat := rfl
  simp only [UInt32.isValidChar, Nat.isValidChar] at hvalid
  rw [hv] at hvalid
  unfold String.utf8EncodeChar
  simp only [hv]
  split
  · -- one byte
    rename_i h1
    refine ⟨_, [], rfl, ?_⟩
    have h0 := toNat_ofNat_lt (show c.toNat < 256 by omega)
    simp only [first, UInt8.lt_iff_toNat_lt, h0, UInt8.reduceToNat, List.length_nil]
    rw [if_pos (by omega), Char.ofNat_toNat]
  split
  · -- two bytes
    rename_i h1 h2
    refine ⟨_, [_], rfl, ?_⟩
    have hb0 := toNat_ofNat_lt (show c.toNat / 64 % 32 + 192 < 256 by omega)
    have hb1 := toNat_ofNat_lt (show c.toNat % 64 + 128 < 256 by omega)
    simp (disch := omega) only [first, UInt8.lt_iff_toNat_lt, UInt8.le_iff_toNat_le, hb0, hb1,
      UInt8.reduceToNat, Bool.or_eq_true, decide_eq_true_eq, isCont, Bool.and_eq_true, if_pos, if_neg,
      List.cons_append, List.nil_append, List.length_singleton]
    have hval : (c.toNat / 64 % 32 + 192 &&& 31) <<< 6 ||| (c.toNat % 64 + 128 &&& 63) = c.toNat := by
      rw [show (31 : Nat) = 2 ^ 5 - 1 from rfl, show (63 : Nat) = 2 ^ 6 - 1 from rfl,
        Nat.and_two_pow_sub_one_eq_mod, Nat.and_two_pow_sub_one_eq_mod]
      simp only [Nat.reducePow]
      rw [join2 _ _ (by omega)]
      omega
    rw [hval, Char.ofNat_toNat]
  split
  · -- three bytes
    rename_i h1 h2 h3
    refine ⟨_, [_, _], rfl, ?_⟩
    have hb0 := toNat_ofNat_lt (show c.toNat / 4096 % 16 + 224 < 256 by omega)
    have hb1 := toNat_ofNat_lt (show c.toNat / 64 % 64 + 128 < 256 by omega)
    have hb2 := toNat_ofNat_lt (show c.toNat % 64 + 128 < 256 by omega)
    -- the second byte stays clear of overlong forms and of the surrogates
    have hsecond : second3 (UInt8.ofNat (c.toNat / 4096 % 16 + 224)) (UInt8.ofNat (c.toNat / 64 % 64 + 128)) = true := by
      unfold second3
      simp only [← UInt8.toNat_inj, hb0, hb1, UInt8.reduceToNat, isCont, UInt8.le_iff_toNat_le]
      split
      · simp only [Bool.and_eq_true, decide_eq_true_eq]
        omega
      · split
        · simp only [Bool.and_eq_true, decide_eq_true_eq]
          omega
        · simp only [Bool.and_eq_true, decide_eq_true_eq]
          omega
    simp (disch := omega) only [first, UInt8.lt_iff_toNat_lt, UInt8.le_iff_toNat_le, hb0, hb1, hb2,
      UInt8.reduceToNat, Bool.or_eq_true, decide_eq_true_eq, isCont, Bool.and_eq_true, hsecond,
      true_and, if_pos, if_neg, List.cons_append, List.nil_append, List.length_cons, List.length_nil]
    have hval : (c.toNat / 4096 % 16 + 224 &&& 15) <<< 12 ||| (c.toNat / 64 % 64 + 128 &&& 63) <<< 6 |||
        (c.toNat % 64 + 128 &&& 63) = c.toNat := by
      rw [show (15 : Nat) = 2 ^ 4 - 1 from rfl, show (63 : Nat) = 2 ^ 6 - 1 from rfl,
        Nat.and_two_pow_sub_one_eq_mod, Nat.and_two_pow_sub_one_eq_mod, Nat.and_two_pow_sub_one_eq_mod]
      simp only [Nat.reducePow]
      rw [join3 _ _ _ (by omega) (by omega)]
      omega
    rw [hval, Char.ofNat_toNat]
  · -- four bytes
    rename_i h1 h2 h3
    refine ⟨_, [_, _, _], rfl, ?_⟩
    have hb0 := toNat_ofNat_lt (show c.toNat / 262144 % 8 + 240 < 256 by omega)
    have hb1 := toNat_ofNat_lt (show c.toNat / 4096 % 64 + 128 < 256 by omega)
    have hb2 := toNat_ofNat_lt (show c.toNat / 64 % 64 + 128 < 256 by omega)
    have hb3 := toNat_ofNat_lt (show c.toNat % 64 + 128 < 256 by omega)
    -- the second byte stays clear of overlong forms and of code points past `U+10FFFF`
    have hsecond : second4 (UInt8.ofNat (c.toNat / 262144 % 8 + 240)) (UInt8.ofNat (c.toNat / 4096 % 64 + 128)) = true := by
      unfold second4
      simp only [← UInt8.toNat_inj, hb0, hb1, UInt8.reduceToNat, isCont, UInt8.le_iff_toNat_le]
      split
      · simp only [Bool.and_eq_true, decide_eq_true_eq]
        omega
      · split
        · simp only [Bool.and_eq_true, decide_eq_true_eq]
          omega
        · simp only [Bool.and_eq_true, decide_eq_true_eq]
          omega
    simp (disch := omega) only [first, UInt8.lt_iff_toNat_lt, UInt8.le_iff_toNat_le, hb0, hb1, hb2, hb3,
      UInt8.reduceToNat, Bool.or_eq_true, decide_eq_true_eq, isCont, Bool.and_eq_true, hsecond,
      true_and, if_pos, if_neg, List.cons_append, List.nil_append, List.length_cons, List.length_nil]
    have hval : (c.toNat / 262144 % 8 + 240 &&& 7) <<< 18 ||| (c.toNat / 4096 % 64 + 128 &&& 63) <<< 12 |||
        (c.toNat / 64 % 64 + 128 &&& 63) <<< 6 ||| (c.toNat % 64 + 128 &&& 63) = c.toNat := by
      rw [show (7 : Nat) = 2 ^ 3 - 1 from rfl, show (63 : Nat) = 2 ^ 6 - 1 from rfl,
        Nat.and_two_pow_sub_one_eq_mod, Nat.and_two_pow_sub_one_eq_mod, Nat.and_two_pow_sub_one_eq_mod,
        Nat.and_two_pow_sub_one_eq_mod]
      simp only [Nat.reducePow]
      rw [join4 _ _ _ _ (by omega) (by omega) (by omega)]
      omega
    rw [hval, Char.ofNat_toNat]

/-- **Decoding the bytes of characters gives them back**, and decoding goes on unchanged after
them. -/
theorem decode_encode_append (cs : List Char) (r : List UInt8) :
    decode (encode cs ++ r) = cs ++ decode r := by
  induction cs with
  | nil => rfl
  | cons c cs ih =>
    obtain ⟨b0, bs, henc, hfirst⟩ := first_utf8EncodeChar c (encode cs ++ r)
    rw [encode_cons, henc, List.cons_append, List.cons_append, List.append_assoc, decode.eq_2,
      hfirst, Nat.add_sub_cancel, List.drop_left, ih, List.cons_append]

theorem decode_encode (cs : List Char) : decode (encode cs) = cs := by
  have h := decode_encode_append cs []
  rwa [List.append_nil, decode.eq_1, List.append_nil] at h

end Utf8

end QuotaWatch
