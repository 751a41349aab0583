/-!
**The characters of a YAML stream, and the errors of reading one.**

A stream is UTF-8 unless it starts with a UTF-16 byte order mark; a UTF-8 mark is dropped. Every
character must be printable in YAML's sense, checked over the whole input first, and that fault
names no line. Later errors name a line as the scanner and parser do: the line being read,
counted from 1, for the scanner, the token's row, counted from 0, for the parser, and neither
names the first row.
-/

namespace QuotaWatch.Yaml

/-- Why a document cannot be read, and the line the complaint names (none when zero). -/
structure ReadError where
  message : String
  line : Nat := 0
  deriving Inhabited

/-- An error found while cutting the input into tokens, in what was read from row `ctx` on, at
row `problem` (rows counted from 0). -/
def ReadError.scan (ctx problem : Nat) (message : String) : ReadError :=
  ⟨message, if ctx ≠ 0 then ctx + 1 else if problem ≠ 0 then problem + 1 else 0⟩

/-- An error found while assembling tokens, in what started at row `ctx`, at the token at row
`problem`. -/
def ReadError.parse (ctx problem : Nat) (message : String) : ReadError :=
  ⟨message, if ctx ≠ 0 then ctx else problem⟩

/-- The text of an error. -/
def ReadError.text (e : ReadError) : String :=
  "yaml: " ++ (if e.line = 0 then "" else "line " ++ toString e.line ++ ": ") ++ e.message

/-- Whether a code point may appear in a YAML stream. -/
def printable (n : Nat) : Bool :=
  n = 9 || n = 10 || n = 13 || (0x20 ≤ n && n ≤ 0x7E) || n = 0x85 || (0xA0 ≤ n && n ≤ 0xD7FF) ||
    (0xE000 ≤ n && n ≤ 0xFFFD) || (0x10000 ≤ n && n ≤ 0x10FFFF)

/-- The number of bytes of a UTF-8 sequence its leading byte announces, 0 for a byte that
cannot lead one. -/
def sequenceWidth (b : UInt8) : Nat :=
  if b &&& 0x80 = 0 then 1 else if b &&& 0xE0 = 0xC0 then 2 else if b &&& 0xF0 = 0xE0 then 3
  else if b &&& 0xF8 = 0xF0 then 4 else 0

/-- The code point of a sequence of `width` bytes, from its leading byte and its trailing ones. -/
def sequenceValue (width : Nat) (b : UInt8) (tail : List UInt8) : Nat :=
  let lead := b.toNat % (Nat.pow 2 (if width = 1 then 7 else 7 - width))
  tail.foldl (fun v o => v * 64 + o.toNat % 64) lead

/-- The fault of a character outside the printable set. -/
def controlFault : ReadError := ⟨"control characters are not allowed", 0⟩

/-- The characters of UTF-8 input, checked one sequence after another: the first malformed
sequence, or the first character outside the printable set, stops the reading. A sequence cut
short by the end of the input is incomplete even if its bytes are wrong. -/
def decodeUtf8 : Nat → List UInt8 → List Char → Except ReadError (List Char)
  | 0, _, acc => .ok acc.reverse
  | _, [], acc => .ok acc.reverse
  | fuel + 1, b :: rest, acc =>
    let width := sequenceWidth b
    if width = 0 then .error ⟨"invalid leading UTF-8 octet", 0⟩
    else if rest.length < width - 1 then .error ⟨"incomplete UTF-8 octet sequence", 0⟩
    else
      let tail := rest.take (width - 1)
      let v := sequenceValue width b tail
      if tail.any (fun o => o &&& 0xC0 ≠ 0x80) then .error ⟨"invalid trailing UTF-8 octet", 0⟩
      else if !(width = 1 || (width = 2 && v ≥ 0x80) || (width = 3 && v ≥ 0x800) ||
          (width = 4 && v ≥ 0x10000)) then .error ⟨"invalid length of a UTF-8 sequence", 0⟩
      else if (0xD800 ≤ v && v ≤ 0xDFFF) || v > 0x10FFFF then .error ⟨"invalid Unicode character", 0⟩
      else if !printable v then .error controlFault
      else decodeUtf8 fuel (rest.drop (width - 1)) (Char.ofNat v :: acc)

/-- The 16-bit unit of two bytes, in the byte order `little` says. -/
def unitOf (little : Bool) (a b : UInt8) : Nat :=
  if little then a.toNat + b.toNat * 256 else a.toNat * 256 + b.toNat

/-- The characters of UTF-16 input in the byte order `little` says: a surrogate pair makes one
character, and a lone or reversed surrogate, an odd byte at the end, or a character outside the
printable set stops the reading. -/
def decodeUtf16 (little : Bool) : Nat → List UInt8 → List Char → Except ReadError (List Char)
  | 0, _, acc => .ok acc.reverse
  | _, [], acc => .ok acc.reverse
  | _, [_], _ => .error ⟨"incomplete UTF-16 character", 0⟩
  | fuel + 1, a :: b :: rest, acc =>
    let v := unitOf little a b
    if v / 1024 = 0xDC00 / 1024 then .error ⟨"unexpected low surrogate area", 0⟩
    else if v / 1024 = 0xD800 / 1024 then
      match rest with
      | c :: d :: rest' =>
        let w := unitOf little c d
        if w / 1024 ≠ 0xDC00 / 1024 then .error ⟨"expected low surrogate area", 0⟩
        else
          let code := 0x10000 + (v % 1024) * 1024 + w % 1024
          if !printable code then .error controlFault
          else decodeUtf16 little fuel rest' (Char.ofNat code :: acc)
      | _ => .error ⟨"incomplete UTF-16 surrogate pair", 0⟩
    else if !printable v then .error controlFault
    else decodeUtf16 little fuel rest (Char.ofNat v :: acc)

/-- The characters of a stream of bytes, in the encoding its byte order mark names (UTF-8 when
it has none); the mark itself is not a character of the stream. -/
def decodeInput (data : List UInt8) : Except ReadError (List Char) :=
  match data with
  | 0xFF :: 0xFE :: r => decodeUtf16 true (r.length + 1) r []
  | 0xFE :: 0xFF :: r => decodeUtf16 false (r.length + 1) r []
  | 0xEF :: 0xBB :: 0xBF :: r => decodeUtf8 (r.length + 1) r []
  | _ => decodeUtf8 (data.length + 1) data []

end QuotaWatch.Yaml
