import QuotaWatch.Unicode.Ranges
/-!
**Simple case mappings.**

Lowercasing maps each character by the simple lowercase mapping of Unicode 15.0. Key folding
makes keys equal that differ only in case: ASCII letters fold to upper case, other characters to
the smallest character of their case orbit (`ſ` to `S`, the Kelvin sign to `K`). A mapping is
written as ranges with a stride and a shift.
-/

namespace QuotaWatch.Unicode

/-- How a range of a case mapping moves its characters. -/
structure Shift where
  /-- Only code points at a multiple of this distance from the range's start move. -/
  stride : Nat
  /-- How far they move. -/
  delta : Int

/-- The shift given by the fields of a table entry. -/
def Shift.ofFields : List String → Shift
  | [s, d] => ⟨(readSigned s).toNat, readSigned d⟩
  | _ => ⟨1, 0⟩

/-- Where a shift moves code point `n` of the range starting at `lo`. -/
def Shift.apply (sh : Shift) (lo n : Nat) : Nat :=
  if (n - lo) % sh.stride = 0 then (n + sh.delta).toNat else n

/-- A character-to-character mapping given by a table of shifts; code points in no range stay. -/
def mapBy (t : RangeTable Shift) (c : Char) : Char :=
  match t.entry? c.toNat with
  | some (lo, _, sh) => Char.ofNat (sh.apply lo c.toNat)
  | none => c

/-- The simple lowercase mapping from U+0080 on. -/
def lowerTable : RangeTable Shift := RangeTable.decode Shift.ofFields
  ["C0,D6,1,32 D8,DE,1,32 100,12E,2,1 130,130,1,-199 132,136,2,1 139,147,2,1 14A,176,2,1",
   "178,178,1,-121 179,17D,2,1 181,181,1,210 182,184,2,1 186,186,1,206 187,187,1,1 189,18A,1,205",
   "18B,18B,1,1 18E,18E,1,79 18F,18F,1,202 190,190,1,203 191,191,1,1 193,193,1,205 194,194,1,207",
   "196,196,1,211 197,197,1,209 198,198,1,1 19C,19C,1,211 19D,19D,1,213 19F,19F,1,214",
   "1A0,1A4,2,1 1A6,1A6,1,218 1A7,1A7,1,1 1A9,1A9,1,218 1AC,1AC,1,1 1AE,1AE,1,218 1AF,1AF,1,1",
   "1B1,1B2,1,217 1B3,1B5,2,1 1B7,1B7,1,219 1B8,1B8,1,1 1BC,1BC,1,1 1C4,1C4,1,2 1C5,1C5,1,1",
   "1C7,1C7,1,2 1C8,1C8,1,1 1CA,1CA,1,2 1CB,1DB,2,1 1DE,1EE,2,1 1F1,1F1,1,2 1F2,1F4,2,1",
   "1F6,1F6,1,-97 1F7,1F7,1,-56 1F8,21E,2,1 220,220,1,-130 222,232,2,1 23A,23A,1,10795",
   "23B,23B,1,1 23D,23D,1,-163 23E,23E,1,10792 241,241,1,1 243,243,1,-195 244,244,1,69",
   "245,245,1,71 246,24E,2,1 370,372,2,1 376,376,1,1 37F,37F,1,116 386,386,1,38 388,38A,1,37",
   "38C,38C,1,64 38E,38F,1,63 391,3A1,1,32 3A3,3AB,1,32 3CF,3CF,1,8 3D8,3EE,2,1 3F4,3F4,1,-60",
   "3F7,3F7,1,1 3F9,3F9,1,-7 3FA,3FA,1,1 3FD,3FF,1,-130 400,40F,1,80 410,42F,1,32 460,480,2,1",
   "48A,4BE,2,1 4C0,4C0,1,15 4C1,4CD,2,1 4D0,52E,2,1 531,556,1,48 10A0,10C5,1,7264",
   "10C7,10C7,1,7264 10CD,10CD,1,7264 13A0,13EF,1,38864 13F0,13F5,1,8 1C89,1C89,1,1",
   "1C90,1CBA,1,-3008 1CBD,1CBF,1,-3008 1E00,1E94,2,1 1E9E,1E9E,1,-7615 1EA0,1EFE,2,1",
   "1F08,1F0F,1,-8 1F18,1F1D,1,-8 1F28,1F2F,1,-8 1F38,1F3F,1,-8 1F48,1F4D,1,-8 1F59,1F5F,2,-8",
   "1F68,1F6F,1,-8 1F88,1F8F,1,-8 1F98,1F9F,1,-8 1FA8,1FAF,1,-8 1FB8,1FB9,1,-8 1FBA,1FBB,1,-74",
   "1FBC,1FBC,1,-9 1FC8,1FCB,1,-86 1FCC,1FCC,1,-9 1FD8,1FD9,1,-8 1FDA,1FDB,1,-100 1FE8,1FE9,1,-8",
   "1FEA,1FEB,1,-112 1FEC,1FEC,1,-7 1FF8,1FF9,1,-128 1FFA,1FFB,1,-126 1FFC,1FFC,1,-9",
   "2126,2126,1,-7517 212A,212A,1,-8383 212B,212B,1,-8262 2132,2132,1,28 2160,216F,1,16",
   "2183,2183,1,1 24B6,24CF,1,26 2C00,2C2F,1,48 2C60,2C60,1,1 2C62,2C62,1,-10743",
   "2C63,2C63,1,-3814 2C64,2C64,1,-10727 2C67,2C6B,2,1 2C6D,2C6D,1,-10780 2C6E,2C6E,1,-10749",
   "2C6F,2C6F,1,-10783 2C70,2C70,1,-10782 2C72,2C72,1,1 2C75,2C75,1,1 2C7E,2C7F,1,-10815",
   "2C80,2CE2,2,1 2CEB,2CED,2,1 2CF2,2CF2,1,1 A640,A66C,2,1 A680,A69A,2,1 A722,A72E,2,1",
   "A732,A76E,2,1 A779,A77B,2,1 A77D,A77D,1,-35332 A77E,A786,2,1 A78B,A78B,1,1",
   "A78D,A78D,1,-42280 A790,A792,2,1 A796,A7A8,2,1 A7AA,A7AA,1,-42308 A7AB,A7AB,1,-42319",
   "A7AC,A7AC,1,-42315 A7AD,A7AD,1,-42305 A7AE,A7AE,1,-42308 A7B0,A7B0,1,-42258",
   "A7B1,A7B1,1,-42282 A7B2,A7B2,1,-42261 A7B3,A7B3,1,928 A7B4,A7C2,2,1 A7C4,A7C4,1,-48",
   "A7C5,A7C5,1,-42307 A7C6,A7C6,1,-35384 A7C7,A7C9,2,1 A7CB,A7CB,1,-42343 A7CC,A7D4,2,1",
   "A7D6,A7DA,2,1 A7DC,A7DC,1,-42561 A7F5,A7F5,1,1 FF21,FF3A,1,32 10400,10427,1,40",
   "104B0,104D3,1,40 10570,1057A,1,39 1057C,1058A,1,39 1058C,10592,1,39 10594,10595,1,39",
   "10C80,10CB2,1,64 10D50,10D65,1,32 118A0,118BF,1,32 16E40,16E5F,1,32 1E900,1E921,1,34"]

/-- The smallest character of each case orbit from U+0080 on. -/
def foldTable : RangeTable Shift := RangeTable.decode Shift.ofFields
  ["E0,F6,1,-32 F8,FE,1,-32 101,12F,2,-1 133,137,2,-1 13A,148,2,-1 14B,177,2,-1 178,178,1,-121",
   "17A,17E,2,-1 17F,17F,1,-300 183,185,2,-1 188,188,1,-1 18C,18C,1,-1 192,192,1,-1 199,199,1,-1",
   "1A1,1A5,2,-1 1A8,1A8,1,-1 1AD,1AD,1,-1 1B0,1B0,1,-1 1B4,1B6,2,-1 1B9,1B9,1,-1 1BD,1BD,1,-1",
   "1C5,1C5,1,-1 1C6,1C6,1,-2 1C8,1C8,1,-1 1C9,1C9,1,-2 1CB,1CB,1,-1 1CC,1CC,1,-2 1CE,1DC,2,-1",
   "1DD,1DD,1,-79 1DF,1EF,2,-1 1F2,1F2,1,-1 1F3,1F3,1,-2 1F5,1F5,1,-1 1F6,1F6,1,-97",
   "1F7,1F7,1,-56 1F9,21F,2,-1 220,220,1,-130 223,233,2,-1 23C,23C,1,-1 23D,23D,1,-163",
   "242,242,1,-1 243,243,1,-195 247,24F,2,-1 253,253,1,-210 254,254,1,-206 256,257,1,-205",
   "259,259,1,-202 25B,25B,1,-203 260,260,1,-205 263,263,1,-207 268,268,1,-209 269,269,1,-211",
   "26F,26F,1,-211 272,272,1,-213 275,275,1,-214 280,280,1,-218 283,283,1,-218 288,288,1,-218",
   "289,289,1,-69 28A,28B,1,-217 28C,28C,1,-71 292,292,1,-219 371,373,2,-1 377,377,1,-1",
   "399,399,1,-84 39C,39C,1,-743 3AC,3AC,1,-38 3AD,3AF,1,-37 3B1,3B8,1,-32 3B9,3B9,1,-116",
   "3BA,3BB,1,-32 3BC,3BC,1,-775 3BD,3C1,1,-32 3C2,3C2,1,-31 3C3,3CB,1,-32 3CC,3CC,1,-64",
   "3CD,3CE,1,-63 3D0,3D0,1,-62 3D1,3D1,1,-57 3D5,3D5,1,-47 3D6,3D6,1,-54 3D7,3D7,1,-8",
   "3D9,3EF,2,-1 3F0,3F0,1,-86 3F1,3F1,1,-80 3F3,3F3,1,-116 3F4,3F4,1,-92 3F5,3F5,1,-96",
   "3F8,3F8,1,-1 3F9,3F9,1,-7 3FB,3FB,1,-1 3FD,3FF,1,-130 430,44F,1,-32 450,45F,1,-80",
   "461,481,2,-1 48B,4BF,2,-1 4C2,4CE,2,-1 4CF,4CF,1,-15 4D1,52F,2,-1 561,586,1,-48",
   "13F8,13FD,1,-8 1C80,1C80,1,-6254 1C81,1C81,1,-6253 1C82,1C82,1,-6244 1C83,1C84,1,-6242",
   "1C85,1C85,1,-6243 1C86,1C86,1,-6236 1C87,1C87,1,-6181 1C8A,1C8A,1,-1 1C90,1CBA,1,-3008",
   "1CBD,1CBF,1,-3008 1E01,1E95,2,-1 1E9B,1E9B,1,-59 1E9E,1E9E,1,-7615 1EA1,1EFF,2,-1",
   "1F08,1F0F,1,-8 1F18,1F1D,1,-8 1F28,1F2F,1,-8 1F38,1F3F,1,-8 1F48,1F4D,1,-8 1F59,1F5F,2,-8",
   "1F68,1F6F,1,-8 1F88,1F8F,1,-8 1F98,1F9F,1,-8 1FA8,1FAF,1,-8 1FB8,1FB9,1,-8 1FBA,1FBB,1,-74",
   "1FBC,1FBC,1,-9 1FBE,1FBE,1,-7289 1FC8,1FCB,1,-86 1FCC,1FCC,1,-9 1FD8,1FD9,1,-8",
   "1FDA,1FDB,1,-100 1FE8,1FE9,1,-8 1FEA,1FEB,1,-112 1FEC,1FEC,1,-7 1FF8,1FF9,1,-128",
   "1FFA,1FFB,1,-126 1FFC,1FFC,1,-9 2126,2126,1,-7549 212A,212A,1,-8415 212B,212B,1,-8294",
   "214E,214E,1,-28 2170,217F,1,-16 2184,2184,1,-1 24D0,24E9,1,-26 2C30,2C5F,1,-48",
   "2C61,2C61,1,-1 2C62,2C62,1,-10743 2C63,2C63,1,-3814 2C64,2C64,1,-10727 2C65,2C65,1,-10795",
   "2C66,2C66,1,-10792 2C68,2C6C,2,-1 2C6D,2C6D,1,-10780 2C6E,2C6E,1,-10749 2C6F,2C6F,1,-10783",
   "2C70,2C70,1,-10782 2C73,2C73,1,-1 2C76,2C76,1,-1 2C7E,2C7F,1,-10815 2C81,2CE3,2,-1",
   "2CEC,2CEE,2,-1 2CF3,2CF3,1,-1 2D00,2D25,1,-7264 2D27,2D27,1,-7264 2D2D,2D2D,1,-7264",
   "A641,A649,2,-1 A64A,A64A,1,-35266 A64B,A64B,1,-35267 A64D,A66D,2,-1 A681,A69B,2,-1",
   "A723,A72F,2,-1 A733,A76F,2,-1 A77A,A77C,2,-1 A77D,A77D,1,-35332 A77F,A787,2,-1",
   "A78C,A78C,1,-1 A78D,A78D,1,-42280 A791,A793,2,-1 A797,A7A9,2,-1 A7AA,A7AA,1,-42308",
   "A7AB,A7AB,1,-42319 A7AC,A7AC,1,-42315 A7AD,A7AD,1,-42305 A7AE,A7AE,1,-42308",
   "A7B0,A7B0,1,-42258 A7B1,A7B1,1,-42282 A7B2,A7B2,1,-42261 A7B5,A7C3,2,-1 A7C4,A7C4,1,-48",
   "A7C5,A7C5,1,-42307 A7C6,A7C6,1,-35384 A7C8,A7CA,2,-1 A7CB,A7CB,1,-42343 A7CD,A7D5,2,-1",
   "A7D7,A7DB,2,-1 A7DC,A7DC,1,-42561 A7F6,A7F6,1,-1 AB53,AB53,1,-928 AB70,ABBF,1,-38864",
   "FF41,FF5A,1,-32 10428,1044F,1,-40 104D8,104FB,1,-40 10597,105A1,1,-39 105A3,105B1,1,-39",
   "105B3,105B9,1,-39 105BB,105BC,1,-39 10CC0,10CF2,1,-64 10D70,10D85,1,-32 118C0,118DF,1,-32",
   "16E60,16E7F,1,-32 1E922,1E943,1,-34"]

/-- The lowercase of a character. -/
def lowerChar (c : Char) : Char :=
  if c.toNat < 0x80 then (if 'A' ≤ c && c ≤ 'Z' then Char.ofNat (c.toNat + 32) else c)
  else mapBy lowerTable c

/-- The lowercase of a text, character by character. -/
def toLower (s : String) : String := String.ofList (s.toList.map lowerChar)

/-- The character a key's character is compared by: an ASCII letter in upper case, another
character the smallest of its case orbit. -/
def foldChar (c : Char) : Char :=
  if c.toNat < 0x80 then (if 'a' ≤ c && c ≤ 'z' then Char.ofNat (c.toNat - 32) else c)
  else mapBy foldTable c

/-- The text a key is compared by. -/
def foldKey (s : String) : String := String.ofList (s.toList.map foldChar)

theorem lowerChar_ascii : lowerChar 'Q' = 'q' := rfl

end QuotaWatch.Unicode
