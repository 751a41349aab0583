/-!
**UTF-8 text read from raw bytes.**

Logs, credential files and request fields arrive as bytes that need not be well-formed UTF-8.
Reading them follows the usual rule of terminal and document tools: every maximal well-formed
sequence becomes its character, and every byte that starts no well-formed sequence becomes one
replacement character `U+FFFD`.
-/

namespace QuotaWatch

namespace Utf8

/-- A continuation byte has the bit pattern `10xxxxxx`. -/
def isCont (b : UInt8) : Bool := 0x80 ≤ b && b ≤ 0xBF

/-- The range the second byte of a three-byte sequence must lie in, which excludes overlong
forms (after `E0`) and surrogates (after `ED`). -/
def second3 (b0 b1 : UInt8) : Bool :=
  if b0 = 0xE0 then 0xA0 ≤ b1 && b1 ≤ 0xBF
  else if b0 = 0xED then 0x80 ≤ b1 && b1 ≤ 0x9F
  else isCont b1

/-- The range the second byte of a four-byte sequence must lie in, which excludes overlong
forms (after `F0`) and code points above `U+10FFFF` (after `F4`). -/
def second4 (b0 b1 : UInt8) : Bool :=
  if b0 = 0xF0 then 0x90 ≤ b1 && b1 ≤ 0xBF
  else if b0 = 0xF4 then 0x80 ≤ b1 && b1 ≤ 0x8F
  else isCont b1

/-- The replacement character. -/
def replacement : Char := '�'

/-- The character at the front of a byte list that starts with `b0`, and how many bytes it
takes: a well-formed sequence gives its character, anything else `replacement` and one byte. -/
def first (b0 : UInt8) (r : List UInt8) : Char × Nat :=
  if b0 < 0x80 then (Char.ofNat b0.toNat, 1)
  else if b0 < 0xC2 || b0 > 0xF4 then (replacement, 1)
  else match r with
    | b1 :: r1 =>
      if b0 ≤ 0xDF then
        if isCont b1 then (Char.ofNat ((b0.toNat &&& 0x1F) <<< 6 ||| (b1.toNat &&& 0x3F)), 2)
        else (replacement, 1)
      else if b0 ≤ 0xEF then
        match r1 with
        | b2 :: _ =>
          if second3 b0 b1 && isCont b2 then
            (Char.ofNat ((b0.toNat &&& 0x0F) <<< 12 ||| (b1.toNat &&& 0x3F) <<< 6 |||
              (b2.toNat &&& 0x3F)), 3)
          else (replacement, 1)
        | [] => (replacement, 1)
      else
        match r1 with
        | b2 :: b3 :: _ =>
          if second4 b0 b1 && isCont b2 && isCont b3 then
            (Char.ofNat ((b0.toNat &&& 0x07) <<< 18 ||| (b1.toNat &&& 0x3F) <<< 12 |||
              (b2.toNat &&& 0x3F) <<< 6 ||| (b3.toNat &&& 0x3F)), 4)
          else (replacement, 1)
        | _ => (replacement, 1)
    | [] => (replacement, 1)

/-- The characters of a byte list: well-formed sequences decode to their character, and a byte
that starts none decodes to `replacement` on its own. -/
def decode (bs : List UInt8) : List Char :=
  match bs with
  | [] => []
  | b :: r => (first b r).1 :: decode (r.drop ((first b r).2 - 1))
termination_by bs.length
decreasing_by simp only [List.length_drop, List.length_cons]; omega

/-- The bytes of a character list. -/
def encode (cs : List Char) : List UInt8 := cs.flatMap String.utf8EncodeChar

/-- The text of a byte list, with each ill-formed byte replaced. -/
def textOf (bs : List UInt8) : String := String.ofList (decode bs)

/-- The bytes of a text. -/
def bytesOf (s : String) : List UInt8 := s.toUTF8.toList

/-! ### Bytes as characters

A program that treats text as bytes, as a shell does in the C locale, is modelled on strings
whose characters are the bytes themselves, `U+0000` to `U+00FF`: a length counts bytes and a
pattern's `?` matches one byte. -/

/-- The string of a byte list, one character for each byte. -/
def raw (bs : List UInt8) : String := String.ofList (bs.map fun b => Char.ofNat b.toNat)

/-- The bytes of a string of bytes; a character past `U+00FF` keeps its low eight bits. -/
def rawBytes (s : String) : List UInt8 := s.toList.map fun c => c.toNat.toUInt8

/-- A text as the string of its UTF-8 bytes. -/
def rawOfText (s : String) : String := raw (bytesOf s)

/-- The text a string of bytes spells, each ill-formed byte replaced. -/
def textOfRaw (s : String) : String := textOf (rawBytes s)

/-- ASCII bytes decode to themselves. -/
theorem decode_ascii (b : UInt8) (r : List UInt8) (h : b < 0x80) :
    decode (b :: r) = Char.ofNat b.toNat :: decode r := by
  rw [decode]; simp [first, h]

end Utf8

end QuotaWatch
