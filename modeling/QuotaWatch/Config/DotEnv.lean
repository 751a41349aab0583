import QuotaWatch.Text.Utf8
import QuotaWatch.Text.Space
import QuotaWatch.Quota.Account
/-!
**Environment files.**

Statements are `KEY=value` or `KEY: value`, perhaps after `export `, with `#` comment lines.
Single quotes keep text as is; double quotes turn `\n` and `\r` into line breaks, drop other
backslashes but before `$`, and expand variables; unquoted values lose a trailing comment, are
trimmed and expanded. Variables `$NAME` and `${NAME}` take values set earlier in the file, else
empty. A malformed file sets nothing, and a loaded file never overrides a variable already set.
-/

namespace QuotaWatch

/-- The environment: variables and their values. -/
abbrev Env := Table String

namespace DotEnv

/-- Blanks inside a line: tab, vertical tab, form feed, carriage return, space, next line and
no-break space. -/
def isBlankChar (c : Char) : Bool :=
  c = '\t' || c.toNat = 11 || c.toNat = 12 || c = '\r' || c = ' ' || c.toNat = 0x85 ||
    c.toNat = 0xA0

/-- Blank bytes, read one byte at a time. -/
def isBlankByte (b : UInt8) : Bool :=
  b = 9 || b = 11 || b = 12 || b = 13 || b = 32 || b = 0x85 || b = 0xA0

/-- Bytes that may appear in a key, read one byte at a time as Latin-1 characters: letters,
digits and `.`. -/
def isKeyByte (b : UInt8) : Bool :=
  let n := b.toNat
  (48 ≤ n && n ≤ 57) || (65 ≤ n && n ≤ 90) || (97 ≤ n && n ≤ 122) || n = 46 ||
    n = 0xAA || n = 0xB5 || n = 0xBA || (0xC0 ≤ n && n ≤ 0xFF && n ≠ 0xD7 && n ≠ 0xF7) ||
    n = 0xB2 || n = 0xB3 || n = 0xB9 || (0xBC ≤ n && n ≤ 0xBE)

/-- Whether a character may be part of a variable name. -/
def nameChar (c : Char) : Bool := ('A' ≤ c ∧ c ≤ 'Z') || ('0' ≤ c ∧ c ≤ '9') || c = '_'

/-- An optional character at the head: the matched text and the rest. -/
def optChar (c : Char) : List Char → List Char × List Char
  | d :: r => if d = c then ([d], r) else ([], d :: r)
  | [] => ([], [])

/-- The rest after an optional character is no longer than the text. -/
theorem optChar_rest_le (c : Char) (cs : List Char) : (optChar c cs).2.length ≤ cs.length := by
  cases cs with
  | nil => simp [optChar]
  | cons d r => by_cases h : d = c <;> simp [optChar, h]

/-- What follows `$` in a variable reference: an optional `(`, an optional `{`, a name, an
optional `}`; returns the matched text and the rest. -/
def varMatch (cs : List Char) : List Char × List Char :=
  let p := optChar '(' cs
  let b := optChar '{' p.2
  let name := b.2.takeWhile nameChar
  let e := optChar '}' (b.2.drop name.length)
  (p.1 ++ b.1 ++ name ++ e.1, e.2)

/-- The rest after a variable reference is no longer than the text. -/
theorem varMatch_rest_le (cs : List Char) : (varMatch cs).2.length ≤ cs.length := by
  have h1 := optChar_rest_le '(' cs
  have h2 := optChar_rest_le '{' (optChar '(' cs).2
  have h3 := optChar_rest_le '}' (((optChar '{' (optChar '(' cs).2).2.drop
    ((optChar '{' (optChar '(' cs).2).2.takeWhile nameChar).length))
  simp only [varMatch, List.length_drop] at *
  omega

/-- Expands `$NAME`, `${NAME}` and `$(NAME` (the whole reference gives way to the value) in a
value; `\$…` loses its backslash, and a reference without a name stays as it is. -/
def expandVariables (lookup : String → String) : List Char → List Char
  | [] => []
  | '\\' :: '$' :: r =>
    '$' :: (varMatch r).1 ++ expandVariables lookup (varMatch r).2
  | '$' :: r =>
    let name := (varMatch r).1.filter nameChar
    if name.isEmpty then '$' :: (varMatch r).1 ++ expandVariables lookup (varMatch r).2
    else (lookup (String.ofList name)).toList ++ expandVariables lookup (varMatch r).2
  | c :: r => c :: expandVariables lookup r
termination_by cs => cs.length
decreasing_by
  all_goals (have h := varMatch_rest_le r; simp only [List.length_cons]; omega)

/-- Escapes of a double-quoted value: `\n` and `\r` become breaks, then a backslash before any
character but `$` is dropped. -/
def expandEscapes (cs : List Char) : List Char :=
  let rec breaks : List Char → List Char
    | '\\' :: 'n' :: r => '\n' :: breaks r
    | '\\' :: 'r' :: r => '\r' :: breaks r
    | '\\' :: c :: r => if c = '\n' then '\\' :: breaks (c :: r) else '\\' :: c :: breaks r
    | c :: r => c :: breaks r
    | [] => []
  let rec unescape : List Char → List Char
    | '\\' :: c :: r => if c = '$' then '\\' :: unescape (c :: r) else c :: unescape r
    | c :: r => c :: unescape r
    | [] => []
  unescape (breaks cs)

/-- Skips the characters at the head of a text that satisfy `p`, read as UTF-8; a byte that
starts no character is not skipped. -/
def dropChars (p : Char → Bool) (src : List UInt8) : List UInt8 :=
  match src with
  | [] => []
  | b :: r =>
    if p (Utf8.first b r).1 then dropChars p (r.drop ((Utf8.first b r).2 - 1)) else b :: r
termination_by src.length
decreasing_by simp only [List.length_drop, List.length_cons]; omega

/-- Skips white space (in the Unicode sense) and comment lines before a statement; `none` at
the end. A comment runs to the next line feed, and a comment without one ends the file. -/
def statementStart (comment : Bool) (src : List UInt8) : Option (List UInt8) :=
  match src with
  | [] => none
  | b :: r =>
    if comment then statementStart (b ≠ 10) r
    else if Text.isSpace (Utf8.first b r).1 then
      statementStart false (r.drop ((Utf8.first b r).2 - 1))
    else if b = 35 then statementStart true r
    else some (b :: r)
termination_by src.length
decreasing_by all_goals simp only [List.length_drop, List.length_cons]; omega

/-- The text with each carriage return before a line feed removed. -/
def normalizeBreaks (src : List UInt8) : List UInt8 :=
  match src with
  | b :: c :: r =>
    if b = 13 && c = 10 then 10 :: normalizeBreaks r else b :: normalizeBreaks (c :: r)
  | r => r
termination_by src.length
decreasing_by all_goals simp only [List.length_cons]; omega

/-- The key of a statement and the text after `=` or `:`. -/
def keyName (src : List UInt8) : Except String (String × List UInt8) :=
  let src := dropChars isBlankChar src
  let ex : List UInt8 := [101, 120, 112, 111, 114, 116]
  let after := src.drop 6
  let src := if src.take 6 == ex && dropChars isBlankChar after ≠ after
    then dropChars isBlankChar after else src
  let rec scan : List UInt8 → Nat → Except String (Option Nat)
    | [], _ => .ok none
    | b :: r, i =>
      if isBlankByte b || b = 95 || isKeyByte b then scan r (i + 1)
      else if b = 61 || b = 58 then .ok (some i)
      else .error "unexpected character in variable name"
  match scan src 0 with
  | .error e => .error e
  | .ok found =>
    if src.isEmpty then .error "zero length string"
    else
      let (key, offset) := match found with
        | some i => (src.take i, i + 1)
        | none => ([], 0)
      let keyText := Text.trimRightSpace (Utf8.textOf key)
      let rest := dropChars isBlankChar (src.drop offset)
      .ok (keyText, rest)

/-- The value of a statement and the text after it. -/
def value (lookup : String → String) (src : List UInt8) : Except String (String × List UInt8) :=
  match src with
  | q :: r =>
    if q = 34 || q = 39 then
      let rec close : List UInt8 → UInt8 → Nat → Option Nat
        | [], _, _ => none
        | b :: bs, prev, i => if b = q && prev ≠ 92 then some i else close bs b (i + 1)
      match close r q 1 with
      | none => .error "unterminated quoted value"
      | some i =>
        let raw := (src.take i).dropWhile (· = q)
        let raw := (raw.reverse.dropWhile (· = q)).reverse
        let text := (Utf8.decode raw)
        let v := if q = 34 then expandVariables lookup (expandEscapes text) else text
        .ok (String.ofList v, src.drop (i + 1))
    else unquoted
  | [] => .ok ("", [])
where
  unquoted : Except String (String × List UInt8) :=
    let lineBytes := src.takeWhile fun b => b ≠ 10 && b ≠ 13
    let rest := src.drop lineBytes.length
    let chars := Utf8.decode lineBytes
    let n := chars.length
    let cut := ((List.range n).reverse.find? fun i =>
      chars[i]? = some '#' && i > 0 && (chars[i - 1]?.map isBlankChar).getD false).getD n
    let v := chars.take cut
    let v := (v.dropWhile isBlankChar).reverse.dropWhile isBlankChar |>.reverse
    .ok (String.ofList (expandVariables lookup v), rest)

/-- The assignments of a file, in order; a later one of a key replaces an earlier one. Values
see the assignments before them, and only those. -/
def parse : Nat → List UInt8 → Env → Except String Env
  | 0, _, out => .ok out
  | fuel + 1, src, out =>
    match statementStart false src with
    | none => .ok out
    | some src => do
      let (key, rest) ← keyName src
      let lookup := fun k => (out.get? k).getD ""
      let (v, rest) ← value lookup rest
      parse fuel rest (out.set key v)

end DotEnv

/-- Loads an environment file: its assignments are added for the keys not yet set, and a
malformed file adds nothing. -/
def Env.loadFile (env : Env) (data : List UInt8) : Env :=
  match DotEnv.parse (data.length + 1) (DotEnv.normalizeBreaks data) {} with
  | .error _ => env
  | .ok vars => vars.entries.foldl (fun e (k, v) =>
      if k = "" || (e.get? k).isSome then e else e.set k v) env

end QuotaWatch
