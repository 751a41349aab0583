import QuotaWatch.Unicode.Ranges
/-!
**Character properties for grapheme clusters and display width.**

The grapheme cluster break property of every character, following Unicode 15.0 (UAX #29), with
the characters that are Extended_Pictographic singled out among those the break property leaves
as Other; the Hangul syllables are computed rather than listed. Beside it, the characters whose
East Asian width is Wide or Fullwidth, and those that take the emoji presentation by default.
-/

namespace QuotaWatch.Unicode

/-- The grapheme cluster break property of a character. -/
inductive GraphemeProperty where
  | other
  | control
  | lf
  | cr
  | extend
  | zwj
  | regionalIndicator
  | prepend
  | spacingMark
  /-- A leading Hangul jamo. -/
  | leading
  /-- A vowel Hangul jamo. -/
  | vowel
  /-- A trailing Hangul jamo. -/
  | trailing
  /-- A Hangul syllable without a trailing jamo. -/
  | lv
  /-- A Hangul syllable with a trailing jamo. -/
  | lvt
  /-- An Extended_Pictographic character whose break property is Other. -/
  | pictographic
  deriving DecidableEq, Repr, Inhabited

/-- The property a letter of the table stands for. -/
def GraphemeProperty.ofFields : List String → GraphemeProperty
  | [c] =>
    if c = "C" then .control else if c = "L" then .lf else if c = "R" then .cr
    else if c = "E" then .extend else if c = "Z" then .zwj
    else if c = "I" then .regionalIndicator else if c = "P" then .prepend
    else if c = "S" then .spacingMark else if c = "h" then .leading
    else if c = "v" then .vowel else if c = "t" then .trailing else if c = "x" then .lv
    else if c = "y" then .lvt else if c = "X" then .pictographic else .other
  | _ => .other

/-- The break property from U+0080 on, Hangul syllables apart. -/
def graphemeTable : RangeTable GraphemeProperty := RangeTable.decode GraphemeProperty.ofFields
  ["80,9F,C A9,A9,X AD,AD,C AE,AE,X 300,36F,E 483,489,E 591,5BD,E 5BF,5BF,E 5C1,5C2,E 5C4,5C5,E",
   "5C7,5C7,E 600,605,P 610,61A,E 61C,61C,C 64B,65F,E 670,670,E 6D6,6DC,E 6DD,6DD,P 6DF,6E4,E",
   "6E7,6E8,E 6EA,6ED,E 70F,70F,P 711,711,E 730,74A,E 7A6,7B0,E 7EB,7F3,E 7FD,7FD,E 816,819,E",
   "81B,823,E 825,827,E 829,82D,E 859,85B,E 890,891,P 898,89F,E 8CA,8E1,E 8E2,8E2,P 8E3,902,E",
   "903,903,S 93A,93A,E 93B,93B,S 93C,93C,E 93E,940,S 941,948,E 949,94C,S 94D,94D,E 94E,94F,S",
   "951,957,E 962,963,E 981,981,E 982,983,S 9BC,9BC,E 9BE,9BE,E 9BF,9C0,S 9C1,9C4,E 9C7,9C8,S",
   "9CB,9CC,S 9CD,9CD,E 9D7,9D7,E 9E2,9E3,E 9FE,9FE,E A01,A02,E A03,A03,S A3C,A3C,E A3E,A40,S",
   "A41,A42,E A47,A48,E A4B,A4D,E A51,A51,E A70,A71,E A75,A75,E A81,A82,E A83,A83,S ABC,ABC,E",
   "ABE,AC0,S AC1,AC5,E AC7,AC8,E AC9,AC9,S ACB,ACC,S ACD,ACD,E AE2,AE3,E AFA,AFF,E B01,B01,E",
   "B02,B03,S B3C,B3C,E B3E,B3F,E B40,B40,S B41,B44,E B47,B48,S B4B,B4C,S B4D,B4D,E B55,B57,E",
   "B62,B63,E B82,B82,E BBE,BBE,E BBF,BBF,S BC0,BC0,E BC1,BC2,S BC6,BC8,S BCA,BCC,S BCD,BCD,E",
   "BD7,BD7,E C00,C00,E C01,C03,S C04,C04,E C3C,C3C,E C3E,C40,E C41,C44,S C46,C48,E C4A,C4D,E",
   "C55,C56,E C62,C63,E C81,C81,E C82,C83,S CBC,CBC,E CBE,CBE,S CBF,CBF,E CC0,CC1,S CC2,CC2,E",
   "CC3,CC4,S CC6,CC6,E CC7,CC8,S CCA,CCB,S CCC,CCD,E CD5,CD6,E CE2,CE3,E CF3,CF3,S D00,D01,E",
   "D02,D03,S D3B,D3C,E D3E,D3E,E D3F,D40,S D41,D44,E D46,D48,S D4A,D4C,S D4D,D4D,E D4E,D4E,P",
   "D57,D57,E D62,D63,E D81,D81,E D82,D83,S DCA,DCA,E DCF,DCF,E DD0,DD1,S DD2,DD4,E DD6,DD6,E",
   "DD8,DDE,S DDF,DDF,E DF2,DF3,S E31,E31,E E33,E33,S E34,E3A,E E47,E4E,E EB1,EB1,E EB3,EB3,S",
   "EB4,EBC,E EC8,ECE,E F18,F19,E F35,F35,E F37,F37,E F39,F39,E F3E,F3F,S F71,F7E,E F7F,F7F,S",
   "F80,F84,E F86,F87,E F8D,F97,E F99,FBC,E FC6,FC6,E 102D,1030,E 1031,1031,S 1032,1037,E",
   "1039,103A,E 103B,103C,S 103D,103E,E 1056,1057,S 1058,1059,E 105E,1060,E 1071,1074,E",
   "1082,1082,E 1084,1084,S 1085,1086,E 108D,108D,E 109D,109D,E 1100,115F,h 1160,11A7,v",
   "11A8,11FF,t 135D,135F,E 1712,1714,E 1715,1715,S 1732,1733,E 1734,1734,S 1752,1753,E",
   "1772,1773,E 17B4,17B5,E 17B6,17B6,S 17B7,17BD,E 17BE,17C5,S 17C6,17C6,E 17C7,17C8,S",
   "17C9,17D3,E 17DD,17DD,E 180B,180D,E 180E,180E,C 180F,180F,E 1885,1886,E 18A9,18A9,E",
   "1920,1922,E 1923,1926,S 1927,1928,E 1929,192B,S 1930,1931,S 1932,1932,E 1933,1938,S",
   "1939,193B,E 1A17,1A18,E 1A19,1A1A,S 1A1B,1A1B,E 1A55,1A55,S 1A56,1A56,E 1A57,1A57,S",
   "1A58,1A5E,E 1A60,1A60,E 1A62,1A62,E 1A65,1A6C,E 1A6D,1A72,S 1A73,1A7C,E 1A7F,1A7F,E",
   "1AB0,1ACE,E 1B00,1B03,E 1B04,1B04,S 1B34,1B3A,E 1B3B,1B3B,S 1B3C,1B3C,E 1B3D,1B41,S",
   "1B42,1B42,E 1B43,1B44,S 1B6B,1B73,E 1B80,1B81,E 1B82,1B82,S 1BA1,1BA1,S 1BA2,1BA5,E",
   "1BA6,1BA7,S 1BA8,1BA9,E 1BAA,1BAA,S 1BAB,1BAD,E 1BE6,1BE6,E 1BE7,1BE7,S 1BE8,1BE9,E",
   "1BEA,1BEC,S 1BED,1BED,E 1BEE,1BEE,S 1BEF,1BF1,E 1BF2,1BF3,S 1C24,1C2B,S 1C2C,1C33,E",
   "1C34,1C35,S 1C36,1C37,E 1CD0,1CD2,E 1CD4,1CE0,E 1CE1,1CE1,S 1CE2,1CE8,E 1CED,1CED,E",
   "1CF4,1CF4,E 1CF7,1CF7,S 1CF8,1CF9,E 1DC0,1DFF,E 200B,200B,C 200C,200C,E 200D,200D,Z",
   "200E,200F,C 2028,202E,C 203C,203C,X 2049,2049,X 2060,206F,C 20D0,20F0,E 2122,2122,X",
   "2139,2139,X 2194,2199,X 21A9,21AA,X 231A,231B,X 2328,2328,X 2388,2388,X 23CF,23CF,X",
   "23E9,23F3,X 23F8,23FA,X 24C2,24C2,X 25AA,25AB,X 25B6,25B6,X 25C0,25C0,X 25FB,25FE,X",
   "2600,2605,X 2607,2612,X 2614,2685,X 2690,2705,X 2708,2712,X 2714,2714,X 2716,2716,X",
   "271D,271D,X 2721,2721,X 2728,2728,X 2733,2734,X 2744,2744,X 2747,2747,X 274C,274C,X",
   "274E,274E,X 2753,2755,X 2757,2757,X 2763,2767,X 2795,2797,X 27A1,27A1,X 27B0,27B0,X",
   "27BF,27BF,X 2934,2935,X 2B05,2B07,X 2B1B,2B1C,X 2B50,2B50,X 2B55,2B55,X 2CEF,2CF1,E",
   "2D7F,2D7F,E 2DE0,2DFF,E 302A,302F,E 3030,3030,X 303D,303D,X 3099,309A,E 3297,3297,X",
   "3299,3299,X A66F,A672,E A674,A67D,E A69E,A69F,E A6F0,A6F1,E A802,A802,E A806,A806,E",
   "A80B,A80B,E A823,A824,S A825,A826,E A827,A827,S A82C,A82C,E A880,A881,S A8B4,A8C3,S",
   "A8C4,A8C5,E A8E0,A8F1,E A8FF,A8FF,E A926,A92D,E A947,A951,E A952,A953,S A960,A97C,h",
   "A980,A982,E A983,A983,S A9B3,A9B3,E A9B4,A9B5,S A9B6,A9B9,E A9BA,A9BB,S A9BC,A9BD,E",
   "A9BE,A9C0,S A9E5,A9E5,E AA29,AA2E,E AA2F,AA30,S AA31,AA32,E AA33,AA34,S AA35,AA36,E",
   "AA43,AA43,E AA4C,AA4C,E AA4D,AA4D,S AA7C,AA7C,E AAB0,AAB0,E AAB2,AAB4,E AAB7,AAB8,E",
   "AABE,AABF,E AAC1,AAC1,E AAEB,AAEB,S AAEC,AAED,E AAEE,AAEF,S AAF5,AAF5,S AAF6,AAF6,E",
   "ABE3,ABE4,S ABE5,ABE5,E ABE6,ABE7,S ABE8,ABE8,E ABE9,ABEA,S ABEC,ABEC,S ABED,ABED,E",
   "D7B0,D7C6,v D7CB,D7FB,t FB1E,FB1E,E FE00,FE0F,E FE20,FE2F,E FEFF,FEFF,C FF9E,FF9F,E",
   "FFF0,FFFB,C 101FD,101FD,E 102E0,102E0,E 10376,1037A,E 10A01,10A03,E 10A05,10A06,E",
   "10A0C,10A0F,E 10A38,10A3A,E 10A3F,10A3F,E 10AE5,10AE6,E 10D24,10D27,E 10EAB,10EAC,E",
   "10EFD,10EFF,E 10F46,10F50,E 10F82,10F85,E 11000,11000,S 11001,11001,E 11002,11002,S",
   "11038,11046,E 11070,11070,E 11073,11074,E 1107F,11081,E 11082,11082,S 110B0,110B2,S",
   "110B3,110B6,E 110B7,110B8,S 110B9,110BA,E 110BD,110BD,P 110C2,110C2,E 110CD,110CD,P",
   "11100,11102,E 11127,1112B,E 1112C,1112C,S 1112D,11134,E 11145,11146,S 11173,11173,E",
   "11180,11181,E 11182,11182,S 111B3,111B5,S 111B6,111BE,E 111BF,111C0,S 111C2,111C3,P",
   "111C9,111CC,E 111CE,111CE,S 111CF,111CF,E 1122C,1122E,S 1122F,11231,E 11232,11233,S",
   "11234,11234,E 11235,11235,S 11236,11237,E 1123E,1123E,E 11241,11241,E 112DF,112DF,E",
   "112E0,112E2,S 112E3,112EA,E 11300,11301,E 11302,11303,S 1133B,1133C,E 1133E,1133E,E",
   "1133F,1133F,S 11340,11340,E 11341,11344,S 11347,11348,S 1134B,1134D,S 11357,11357,E",
   "11362,11363,S 11366,1136C,E 11370,11374,E 11435,11437,S 11438,1143F,E 11440,11441,S",
   "11442,11444,E 11445,11445,S 11446,11446,E 1145E,1145E,E 114B0,114B0,E 114B1,114B2,S",
   "114B3,114B8,E 114B9,114B9,S 114BA,114BA,E 114BB,114BC,S 114BD,114BD,E 114BE,114BE,S",
   "114BF,114C0,E 114C1,114C1,S 114C2,114C3,E 115AF,115AF,E 115B0,115B1,S 115B2,115B5,E",
   "115B8,115BB,S 115BC,115BD,E 115BE,115BE,S 115BF,115C0,E 115DC,115DD,E 11630,11632,S",
   "11633,1163A,E 1163B,1163C,S 1163D,1163D,E 1163E,1163E,S 1163F,11640,E 116AB,116AB,E",
   "116AC,116AC,S 116AD,116AD,E 116AE,116AF,S 116B0,116B5,E 116B6,116B6,S 116B7,116B7,E",
   "1171D,1171F,E 11722,11725,E 11726,11726,S 11727,1172B,E 1182C,1182E,S 1182F,11837,E",
   "11838,11838,S 11839,1183A,E 11930,11930,E 11931,11935,S 11937,11938,S 1193B,1193C,E",
   "1193D,1193D,S 1193E,1193E,E 1193F,1193F,P 11940,11940,S 11941,11941,P 11942,11942,S",
   "11943,11943,E 119D1,119D3,S 119D4,119D7,E 119DA,119DB,E 119DC,119DF,S 119E0,119E0,E",
   "119E4,119E4,S 11A01,11A0A,E 11A33,11A38,E 11A39,11A39,S 11A3A,11A3A,P 11A3B,11A3E,E",
   "11A47,11A47,E 11A51,11A56,E 11A57,11A58,S 11A59,11A5B,E 11A84,11A89,P 11A8A,11A96,E",
   "11A97,11A97,S 11A98,11A99,E 11C2F,11C2F,S 11C30,11C36,E 11C38,11C3D,E 11C3E,11C3E,S",
   "11C3F,11C3F,E 11C92,11CA7,E 11CA9,11CA9,S 11CAA,11CB0,E 11CB1,11CB1,S 11CB2,11CB3,E",
   "11CB4,11CB4,S 11CB5,11CB6,E 11D31,11D36,E 11D3A,11D3A,E 11D3C,11D3D,E 11D3F,11D45,E",
   "11D46,11D46,P 11D47,11D47,E 11D8A,11D8E,S 11D90,11D91,E 11D93,11D94,S 11D95,11D95,E",
   "11D96,11D96,S 11D97,11D97,E 11EF3,11EF4,E 11EF5,11EF6,S 11F00,11F01,E 11F02,11F02,P",
   "11F03,11F03,S 11F34,11F35,S 11F36,11F3A,E 11F3E,11F3F,S 11F40,11F40,E 11F41,11F41,S",
   "11F42,11F42,E 13430,1343F,C 13440,13440,E 13447,13455,E 16AF0,16AF4,E 16B30,16B36,E",
   "16F4F,16F4F,E 16F51,16F87,S 16F8F,16F92,E 16FE4,16FE4,E 16FF0,16FF1,S 1BC9D,1BC9E,E",
   "1BCA0,1BCA3,C 1CF00,1CF2D,E 1CF30,1CF46,E 1D165,1D165,E 1D166,1D166,S 1D167,1D169,E",
   "1D16D,1D16D,S 1D16E,1D172,E 1D173,1D17A,C 1D17B,1D182,E 1D185,1D18B,E 1D1AA,1D1AD,E",
   "1D242,1D244,E 1DA00,1DA36,E 1DA3B,1DA6C,E 1DA75,1DA75,E 1DA84,1DA84,E 1DA9B,1DA9F,E",
   "1DAA1,1DAAF,E 1E000,1E006,E 1E008,1E018,E 1E01B,1E021,E 1E023,1E024,E 1E026,1E02A,E",
   "1E08F,1E08F,E 1E130,1E136,E 1E2AE,1E2AE,E 1E2EC,1E2EF,E 1E4EC,1E4EF,E 1E8D0,1E8D6,E",
   "1E944,1E94A,E 1F000,1F0FF,X 1F10D,1F10F,X 1F12F,1F12F,X 1F16C,1F171,X 1F17E,1F17F,X",
   "1F18E,1F18E,X 1F191,1F19A,X 1F1AD,1F1E5,X 1F1E6,1F1FF,I 1F201,1F20F,X 1F21A,1F21A,X",
   "1F22F,1F22F,X 1F232,1F23A,X 1F23C,1F23F,X 1F249,1F3FA,X 1F3FB,1F3FF,E 1F400,1F53D,X",
   "1F546,1F64F,X 1F680,1F6FF,X 1F774,1F77F,X 1F7D5,1F7FF,X 1F80C,1F80F,X 1F848,1F84F,X",
   "1F85A,1F85F,X 1F888,1F88F,X 1F8AE,1F8FF,X 1F90C,1F93A,X 1F93C,1F945,X 1F947,1FAFF,X",
   "1FC00,1FFFD,X E0000,E001F,C E0020,E007F,E E0080,E00FF,C E0100,E01EF,E E01F0,E0FFF,C"]

/-- The grapheme cluster break property of a character. -/
def graphemeProperty (c : Char) : GraphemeProperty :=
  let n := c.toNat
  if n < 0x80 then
    if n = 10 then .lf else if n = 13 then .cr
    else if n < 0x20 || n = 0x7F then .control else .other
  else if 0xAC00 ≤ n && n ≤ 0xD7A3 then
    if (n - 0xAC00) % 28 = 0 then .lv else .lvt
  else (graphemeTable.find? n).getD .other

/-- The characters whose East Asian width is Wide or Fullwidth. -/
def wideTable : RangeTable Unit := RangeTable.decodeSet
  ["1100,115F 231A,231B 2329,232A 23E9,23EC 23F0,23F0 23F3,23F3 25FD,25FE 2614,2615 2648,2653",
   "267F,267F 2693,2693 26A1,26A1 26AA,26AB 26BD,26BE 26C4,26C5 26CE,26CE 26D4,26D4 26EA,26EA",
   "26F2,26F3 26F5,26F5 26FA,26FA 26FD,26FD 2705,2705 270A,270B 2728,2728 274C,274C 274E,274E",
   "2753,2755 2757,2757 2795,2797 27B0,27B0 27BF,27BF 2B1B,2B1C 2B50,2B50 2B55,2B55 2E80,2E99",
   "2E9B,2EF3 2F00,2FD5 2FF0,2FFB 3000,303E 3041,3096 3099,30FF 3105,312F 3131,318E 3190,31E3",
   "31F0,321E 3220,3247 3250,4DBF 4E00,A48C A490,A4C6 A960,A97C AC00,D7A3 F900,FAFF FE10,FE19",
   "FE30,FE52 FE54,FE66 FE68,FE6B FF01,FF60 FFE0,FFE6 16FE0,16FE4 16FF0,16FF1 17000,187F7",
   "18800,18CD5 18D00,18D08 1AFF0,1AFF3 1AFF5,1AFFB 1AFFD,1AFFE 1B000,1B122 1B132,1B132",
   "1B150,1B152 1B155,1B155 1B164,1B167 1B170,1B2FB 1F004,1F004 1F0CF,1F0CF 1F18E,1F18E",
   "1F191,1F19A 1F200,1F202 1F210,1F23B 1F240,1F248 1F250,1F251 1F260,1F265 1F300,1F320",
   "1F32D,1F335 1F337,1F37C 1F37E,1F393 1F3A0,1F3CA 1F3CF,1F3D3 1F3E0,1F3F0 1F3F4,1F3F4",
   "1F3F8,1F43E 1F440,1F440 1F442,1F4FC 1F4FF,1F53D 1F54B,1F54E 1F550,1F567 1F57A,1F57A",
   "1F595,1F596 1F5A4,1F5A4 1F5FB,1F64F 1F680,1F6C5 1F6CC,1F6CC 1F6D0,1F6D2 1F6D5,1F6D7",
   "1F6DC,1F6DF 1F6EB,1F6EC 1F6F4,1F6FC 1F7E0,1F7EB 1F7F0,1F7F0 1F90C,1F93A 1F93C,1F945",
   "1F947,1F9FF 1FA70,1FA7C 1FA80,1FA88 1FA90,1FABD 1FABF,1FAC5 1FACE,1FADB 1FAE0,1FAE8",
   "1FAF0,1FAF8 20000,2FFFD 30000,3FFFD"]

/-- The characters shown as emoji by default. -/
def emojiPresentationTable : RangeTable Unit := RangeTable.decodeSet
  ["231A,231B 23E9,23EC 23F0,23F0 23F3,23F3 25FD,25FE 2614,2615 2648,2653 267F,267F 2693,2693",
   "26A1,26A1 26AA,26AB 26BD,26BE 26C4,26C5 26CE,26CE 26D4,26D4 26EA,26EA 26F2,26F3 26F5,26F5",
   "26FA,26FA 26FD,26FD 2705,2705 270A,270B 2728,2728 274C,274C 274E,274E 2753,2755 2757,2757",
   "2795,2797 27B0,27B0 27BF,27BF 2B1B,2B1C 2B50,2B50 2B55,2B55 1F004,1F004 1F0CF,1F0CF",
   "1F18E,1F18E 1F191,1F19A 1F1E6,1F1FF 1F201,1F201 1F21A,1F21A 1F22F,1F22F 1F232,1F236",
   "1F238,1F23A 1F250,1F251 1F300,1F320 1F32D,1F335 1F337,1F37C 1F37E,1F393 1F3A0,1F3CA",
   "1F3CF,1F3D3 1F3E0,1F3F0 1F3F4,1F3F4 1F3F8,1F43E 1F440,1F440 1F442,1F4FC 1F4FF,1F53D",
   "1F54B,1F54E 1F550,1F567 1F57A,1F57A 1F595,1F596 1F5A4,1F5A4 1F5FB,1F64F 1F680,1F6C5",
   "1F6CC,1F6CC 1F6D0,1F6D2 1F6D5,1F6D7 1F6DC,1F6DF 1F6EB,1F6EC 1F6F4,1F6FC 1F7E0,1F7EB",
   "1F7F0,1F7F0 1F90C,1F93A 1F93C,1F945 1F947,1F9FF 1FA70,1FA7C 1FA80,1FA88 1FA90,1FABD",
   "1FABF,1FAC5 1FACE,1FADB 1FAE0,1FAE8 1FAF0,1FAF8"]

/-- Whether a character is East Asian Wide or Fullwidth. -/
def isWide (c : Char) : Bool := wideTable.contains c.toNat

/-- Whether a character is shown as an emoji by default. -/
def emojiPresentation (c : Char) : Bool := emojiPresentationTable.contains c.toNat

theorem graphemeProperty_lf : graphemeProperty '\n' = .lf := rfl

end QuotaWatch.Unicode
