import QuotaWatch.Json.Value
import QuotaWatch.Text.Utf8
/-!
**Reading JSON documents from bytes.**

The reader follows the JSON grammar strictly: no leading zeros, no trailing commas, no control
characters inside strings, and nothing but blanks after the document. Inside strings, bytes
that are not well-formed UTF-8 and `\u` escapes of lone surrogates both read as the replacement
character. A failure names the first offending byte and what was expected there, or says that
the input ended early.
-/

namespace QuotaWatch

namespace Json

/-- Why a text is not a JSON document. -/
inductive SyntaxError where
  /-- The text ended inside a document, or held none. -/
  | unexpectedEnd
  /-- The byte `b` stood where `context` says something else was expected. -/
  | invalid (b : UInt8) (context : String)
  deriving Repr, DecidableEq

/-- The text of a character in a quoted message: printable characters as themselves, the
usual escapes for control characters, and `\u` escapes for other unprintable ones. -/
def quoteByte (b : UInt8) : String :=
  let hex := fun (n w : Nat) =>
    let ds := Nat.toDigits 16 n
    String.ofList (List.replicate (w - ds.length) '0' ++ ds)
  if b = 0x27 then "'\\''"
  else if b = 0x22 then "'\"'"
  else
    let inner :=
      if b = 7 then "\\a" else if b = 8 then "\\b" else if b = 12 then "\\f"
      else if b = 10 then "\\n" else if b = 13 then "\\r" else if b = 9 then "\\t"
      else if b = 11 then "\\v" else if b = 0x5C then "\\\\"
      else if b < 0x20 ∨ b = 0x7F then "\\x" ++ hex b.toNat 2
      else if 0x80 ≤ b ∧ b < 0xA1 ∨ b = 0xAD then "\\u" ++ hex b.toNat 4
      else String.singleton (Char.ofNat b.toNat)
    "'" ++ inner ++ "'"

/-- The message of a syntax error. -/
def SyntaxError.message : SyntaxError → String
  | .unexpectedEnd => "unexpected end of JSON input"
  | .invalid b ctx => "invalid character " ++ quoteByte b ++ " " ++ ctx

/-- A reader's answer: a value and the bytes after it, or the error. -/
abbrev Reading (α : Type) := Except SyntaxError (α × List UInt8)

/-- Whether a byte is a JSON blank. -/
def isBlank (b : UInt8) : Bool := b == 0x20 || b == 0x09 || b == 0x0A || b == 0x0D

/-- Whether a byte is an ASCII digit. -/
def isDigitByte (b : UInt8) : Bool := 0x30 ≤ b && b ≤ 0x39

/-- The value of a hexadecimal digit. -/
def hexVal (b : UInt8) : Option Nat :=
  if 0x30 ≤ b ∧ b ≤ 0x39 then some (b.toNat - 0x30)
  else if 0x61 ≤ b ∧ b ≤ 0x66 then some (b.toNat - 0x61 + 10)
  else if 0x41 ≤ b ∧ b ≤ 0x46 then some (b.toNat - 0x41 + 10)
  else none

/-- Drops leading blanks. -/
def skipBlanks (bs : List UInt8) : List UInt8 := bs.dropWhile isBlank

/-- Reads four hexadecimal digits after `\u`. -/
def readHex4 (bs : List UInt8) : Reading Nat :=
  match bs with
  | a :: b :: c :: d :: rest =>
    match hexVal a, hexVal b, hexVal c, hexVal d with
    | some x, some y, some z, some w => .ok (((x * 16 + y) * 16 + z) * 16 + w, rest)
    | none, _, _, _ => .error (.invalid a "in \\u hexadecimal character escape")
    | _, none, _, _ => .error (.invalid b "in \\u hexadecimal character escape")
    | _, _, none, _ => .error (.invalid c "in \\u hexadecimal character escape")
    | _, _, _, none => .error (.invalid d "in \\u hexadecimal character escape")
  | l =>
    match l.find? (fun x => (hexVal x).isNone) with
    | some x => .error (.invalid x "in \\u hexadecimal character escape")
    | none => .error .unexpectedEnd

/-- One unit of string content after the opening quote: plain bytes (decoded later), an
escaped character, or the closing quote. -/
inductive Piece where
  | bytes (bs : List UInt8)
  | char (c : Char)
  | close

/-- A code unit in the surrogate range. -/
def isSurrogate (n : Nat) : Bool := 0xD800 ≤ n && n < 0xE000

/-- Reads one piece of string content. -/
def readPiece (bs : List UInt8) : Reading Piece :=
  match bs with
  | [] => .error .unexpectedEnd
  | b :: rest =>
    if b = 0x22 then .ok (.close, rest)
    else if b < 0x20 then .error (.invalid b "in string literal")
    else if b ≠ 0x5C then
      let run := rest.takeWhile (fun x => x ≠ 0x22 && x ≠ 0x5C && x ≥ 0x20)
      .ok (.bytes (b :: run), rest.drop run.length)
    else
      match rest with
      | [] => .error .unexpectedEnd
      | e :: r =>
        if e = 0x22 then .ok (.char '"', r)
        else if e = 0x5C then .ok (.char '\\', r)
        else if e = 0x2F then .ok (.char '/', r)
        else if e = 0x62 then .ok (.char '\x08', r)
        else if e = 0x66 then .ok (.char '\x0c', r)
        else if e = 0x6E then .ok (.char '\n', r)
        else if e = 0x72 then .ok (.char '\r', r)
        else if e = 0x74 then .ok (.char '\t', r)
        else if e = 0x75 then
          match readHex4 r with
          | .error err => .error err
          | .ok (u, r2) =>
            if isSurrogate u then
              -- A high surrogate followed by an escaped low one makes one character.
              match r2 with
              | 0x5C :: 0x75 :: r3 =>
                match readHex4 r3 with
                | .ok (u2, r4) =>
                  if u < 0xDC00 ∧ 0xDC00 ≤ u2 ∧ u2 < 0xE000 then
                    .ok (.char (Char.ofNat (0x10000 + (u - 0xD800) * 0x400 + (u2 - 0xDC00))), r4)
                  else .ok (.char Utf8.replacement, r2)
                | .error _ => .ok (.char Utf8.replacement, r2)
              | _ => .ok (.char Utf8.replacement, r2)
            else .ok (.char (Char.ofNat u), r2)
        else .error (.invalid e "in string escape code")

/-- Reads string content up to and including the closing quote; `fuel` bounds the number of
pieces, one byte at least each. -/
def readStringBody (fuel : Nat) (acc : List Char) (bs : List UInt8) : Reading String :=
  match fuel with
  | 0 => .error .unexpectedEnd
  | fuel + 1 =>
    match readPiece bs with
    | .error e => .error e
    | .ok (.close, rest) => .ok (String.ofList acc.reverse, rest)
    | .ok (.bytes raw, rest) => readStringBody fuel ((Utf8.decode raw).reverse ++ acc) rest
    | .ok (.char c, rest) => readStringBody fuel (c :: acc) rest

/-- Reads a string after its opening quote. -/
def readString (bs : List UInt8) : Reading String := readStringBody (bs.length + 1) [] bs

/-- Reads the digits of a number literal after its first byte, in the given part of the
grammar. -/
def readNumberTail (bs : List UInt8) : Except SyntaxError (List UInt8 × List UInt8) :=
  let ints := bs.takeWhile isDigitByte
  let r := bs.drop ints.length
  let fracPart : Except SyntaxError (List UInt8 × List UInt8) :=
    match r with
    | 0x2E :: r1 =>
      match r1 with
      | [] => .error .unexpectedEnd
      | d :: _ =>
        if isDigitByte d then
          let ds := r1.takeWhile isDigitByte
          .ok (0x2E :: ds, r1.drop ds.length)
        else .error (.invalid d "in numeric literal")
    | _ => .ok ([], r)
  match fracPart with
  | .error e => .error e
  | .ok (frac, r2) =>
    match r2 with
    | e :: r3 =>
      if e = 0x65 ∨ e = 0x45 then
        let (sign, r4) := match r3 with
          | s :: r5 => if s = 0x2B ∨ s = 0x2D then ([s], r5) else ([], r3)
          | [] => ([], r3)
        match r4 with
        | [] => .error .unexpectedEnd
        | d :: _ =>
          if isDigitByte d then
            let ds := r4.takeWhile isDigitByte
            .ok (ints ++ frac ++ e :: sign ++ ds, r4.drop ds.length)
          else .error (.invalid d "in numeric literal")
      else .ok (ints ++ frac, r2)
    | [] => .ok (ints ++ frac, r2)

/-- Reads a number literal starting at `-` or a digit. -/
def readNumber (bs : List UInt8) : Reading Json :=
  let lit := fun (l : List UInt8) => Json.num (String.ofList (l.map (fun b => Char.ofNat b.toNat)))
  match bs with
  | 0x2D :: r =>
    match r with
    | [] => .error .unexpectedEnd
    | 0x30 :: r1 =>
      match readNumberTail' r1 with
      | .ok (t, r2) => .ok (lit (0x2D :: 0x30 :: t), r2)
      | .error e => .error e
    | d :: r1 =>
      if isDigitByte d then
        match readNumberTail r1 with
        | .ok (t, r2) => .ok (lit (0x2D :: d :: t), r2)
        | .error e => .error e
      else .error (.invalid d "in numeric literal")
  | 0x30 :: r1 =>
    match readNumberTail' r1 with
    | .ok (t, r2) => .ok (lit (0x30 :: t), r2)
    | .error e => .error e
  | d :: r1 =>
    match readNumberTail r1 with
    | .ok (t, r2) => .ok (lit (d :: t), r2)
    | .error e => .error e
  | [] => .error .unexpectedEnd
where
  /-- After a leading zero no more integer digits follow. -/
  readNumberTail' (bs : List UInt8) : Except SyntaxError (List UInt8 × List UInt8) :=
    match bs with
    | d :: _ => if isDigitByte d then .ok ([], bs) else readNumberTail bs
    | [] => .ok ([], [])

/-- Reads the rest of the literal `word` after its first byte. -/
def readWord (word : List UInt8) (name : String) (v : Json) (bs : List UInt8) : Reading Json :=
  go word bs
where
  go : List UInt8 → List UInt8 → Reading Json
    | [], r => .ok (v, r)
    | w :: ws, [] => let _ := (w, ws); .error .unexpectedEnd
    | w :: ws, b :: r =>
      if b = w then go ws r
      else .error (.invalid b ("in literal " ++ name ++ " (expecting " ++ quoteByte w ++ ")"))

mutual

/-- Reads one value after optional blanks; `fuel` bounds the nesting and the number of
members, each of which takes at least one byte. -/
def readValue (fuel : Nat) (bs : List UInt8) : Reading Json :=
  match fuel with
  | 0 => .error .unexpectedEnd
  | fuel + 1 =>
    match skipBlanks bs with
    | [] => .error .unexpectedEnd
    | b :: rest =>
      if b = 0x7B then readObject fuel [] (skipBlanks rest) true
      else if b = 0x5B then readArray fuel [] (skipBlanks rest) true
      else if b = 0x22 then
        match readString rest with
        | .ok (s, r) => .ok (.str s, r)
        | .error e => .error e
      else if b = 0x2D ∨ isDigitByte b then readNumber (b :: rest)
      else if b = 0x74 then readWord [0x72, 0x75, 0x65] "true" (.bool true) rest
      else if b = 0x66 then readWord [0x61, 0x6C, 0x73, 0x65] "false" (.bool false) rest
      else if b = 0x6E then readWord [0x75, 0x6C, 0x6C] "null" .null rest
      else .error (.invalid b "looking for beginning of value")

/-- Reads array elements after `[` (and blanks), or after a comma when `first` is false. -/
def readArray (fuel : Nat) (acc : List Json) (bs : List UInt8) (first : Bool) : Reading Json :=
  match fuel with
  | 0 => .error .unexpectedEnd
  | fuel + 1 =>
    match bs with
    | 0x5D :: rest => if first then .ok (.arr [], rest) else .error (.invalid 0x5D "looking for beginning of value")
    | _ =>
      match readValue fuel bs with
      | .error e => .error e
      | .ok (v, r) =>
        match skipBlanks r with
        | [] => .error .unexpectedEnd
        | c :: r2 =>
          if c = 0x2C then readArray fuel (v :: acc) (skipBlanks r2) false
          else if c = 0x5D then .ok (.arr (v :: acc).reverse, r2)
          else .error (.invalid c "after array element")

/-- Reads object members after `{` (and blanks), or after a comma when `first` is false. -/
def readObject (fuel : Nat) (acc : List (String × Json)) (bs : List UInt8) (first : Bool) :
    Reading Json :=
  match fuel with
  | 0 => .error .unexpectedEnd
  | fuel + 1 =>
    match bs with
    | [] => .error .unexpectedEnd
    | c :: rest =>
      if c = 0x7D ∧ first then .ok (.obj [], rest)
      else if c ≠ 0x22 then .error (.invalid c "looking for beginning of object key string")
      else
        match readString rest with
        | .error e => .error e
        | .ok (k, r) =>
          match skipBlanks r with
          | [] => .error .unexpectedEnd
          | d :: r2 =>
            if d ≠ 0x3A then .error (.invalid d "after object key")
            else
              match readValue fuel r2 with
              | .error e => .error e
              | .ok (v, r3) =>
                match skipBlanks r3 with
                | [] => .error .unexpectedEnd
                | e :: r4 =>
                  if e = 0x2C then readObject fuel ((k, v) :: acc) (skipBlanks r4) false
                  else if e = 0x7D then .ok (.obj ((k, v) :: acc).reverse, r4)
                  else .error (.invalid e "after object key:value pair")

end

/-- A whole byte text as one document, with nothing but blanks after it. -/
def parseBytes (bs : List UInt8) : Except SyntaxError Json :=
  match readValue (2 * bs.length + 2) bs with
  | .error e => .error e
  | .ok (v, rest) =>
    match skipBlanks rest with
    | [] => .ok v
    | b :: _ => .error (.invalid b "after top-level value")

/-- A whole text as one document. -/
def parse (s : String) : Except SyntaxError Json := parseBytes s.toUTF8.toList

end Json

end QuotaWatch
