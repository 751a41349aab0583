/-!
**Base64 with padding, URL-safe alphabet.**

The text is read in groups of four characters, each standing for six bits, three bytes to the
group; line breaks (`\n`, `\r`) between characters are skipped. The last group may end in one
or two `=` signs, after which only line breaks may follow. A failure gives the position of the
offending byte: an unknown character, a misplaced `=`, a group cut short, or text after the
padding.
-/

namespace QuotaWatch

namespace Base64

/-- The six-bit value of a character of the URL-safe alphabet `A–Z a–z 0–9 - _`. -/
def value? (b : UInt8) : Option Nat :=
  if 0x41 ≤ b ∧ b ≤ 0x5A then some (b.toNat - 0x41)
  else if 0x61 ≤ b ∧ b ≤ 0x7A then some (b.toNat - 0x61 + 26)
  else if 0x30 ≤ b ∧ b ≤ 0x39 then some (b.toNat - 0x30 + 52)
  else if b = 0x2D then some 62
  else if b = 0x5F then some 63
  else none

/-- Whether a byte is a line break, which decoding skips. -/
def isBreak (b : UInt8) : Bool := b == 10 || b == 13

/-- The pad character. -/
def pad : UInt8 := 0x3D

/-- The result of reading one group from position `si`: the position after it, the bytes it
holds, and whether decoding ends here (with an error position, or cleanly). -/
inductive Group where
  | more (si : Nat) (out : List UInt8)
  | done (out : List UInt8)
  | fail (pos : Nat)

/-- The bytes of up to four six-bit values (`n` of them present, `2 ≤ n ≤ 4`). -/
def bytesOf (vals : List Nat) (n : Nat) : List UInt8 :=
  let v := (vals ++ [0, 0, 0, 0]).take 4
  let w := v[0]! * Nat.pow 2 18 + v[1]! * Nat.pow 2 12 + v[2]! * Nat.pow 2 6 + v[3]!
  let bs := [UInt8.ofNat (w / Nat.pow 2 16 % 256), UInt8.ofNat (w / Nat.pow 2 8 % 256), UInt8.ofNat (w % 256)]
  bs.take (n - 1)

/-- Skips line breaks from position `i`. -/
def skipBreaks (src : Array UInt8) (i : Nat) : Nat :=
  (List.range (src.size - i)).foldl (fun j _ => if j < src.size ∧ isBreak src[j]! then j + 1 else j) i

/-- Reads one group of four values starting at `si`; `fuel` bounds the bytes looked at. -/
def readGroup (src : Array UInt8) (si : Nat) (vals : List Nat) (fuel : Nat) : Group :=
  match fuel with
  | 0 => .fail si
  | fuel + 1 =>
    let j := vals.length
    if j = 4 then .more si (bytesOf vals 4)
    else if src.size ≤ si then
      if j = 0 then .done [] else .fail (si - j)
    else
      let c := src[si]!
      match value? c with
      | some v => readGroup src (si + 1) (vals ++ [v]) fuel
      | none =>
        if isBreak c then readGroup src (si + 1) vals fuel
        else if c ≠ pad then .fail si
        else if j < 2 then .fail si
        else
          let si := si + 1
          let si2 :=
            if j = 2 then
              let k := skipBreaks src si
              if k = src.size then none
              else if src[k]! ≠ pad then some (Sum.inl (k - 1))
              else some (Sum.inr (k + 1))
            else some (Sum.inr si)
          match si2 with
          | none => .fail src.size
          | some (.inl k) => .fail k
          | some (.inr k) =>
            let k := skipBreaks src k
            if k < src.size then .fail k else .done (bytesOf vals j)

/-- Decodes a padded text; the error is the position of the offending byte. -/
def decode (s : List UInt8) : Except Nat (List UInt8) :=
  let src := s.toArray
  go src 0 [] (src.size + 1)
where
  go (src : Array UInt8) (si : Nat) (acc : List UInt8) : Nat → Except Nat (List UInt8)
    | 0 => .ok acc
    | fuel + 1 =>
      match readGroup src si [] (src.size + 1) with
      | .fail p => .error p
      | .done out => .ok (acc ++ out)
      | .more si' out => if si' ≤ si then .ok (acc ++ out) else go src si' (acc ++ out) fuel

/-- A text padded with `=` to a multiple of four characters. -/
def padded (s : List UInt8) : List UInt8 :=
  let r := s.length % 4
  if r = 0 then s else s ++ List.replicate (4 - r) pad

end Base64

end QuotaWatch
