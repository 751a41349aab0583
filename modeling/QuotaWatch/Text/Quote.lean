import QuotaWatch.Unicode.Case
import QuotaWatch.Unicode.Print
/-!
**Quoted text, as messages show it.**

Messages show user input between double quotes, with backslash escapes for the quote, the
backslash, the usual control characters (`\a \b \f \n \r \t \v`), and `\xHH`, `\uHHHH` or
`\UHHHHHHHH` for any other character that does not print. Printable characters beyond ASCII stay
as they are; what prints is `Unicode.isPrint`.
-/

namespace QuotaWatch.Text

/-- Whether a character is shown as itself inside quotes. -/
def printable (c : Char) : Bool := Unicode.isPrint c

/-- Lowercase hexadecimal digits of a number, `w` of them. -/
def hexLower (w : Nat) (v : Nat) : String :=
  String.ofList ((List.range w).reverse.map fun k =>
    let d := v / Nat.pow 16 k % 16
    if d < 10 then Char.ofNat (48 + d) else Char.ofNat (87 + d))

/-- The escape of one character inside quotes. -/
def escapeInQuotes (c : Char) : String :=
  match c with
  | '"' => "\\\""
  | '\\' => "\\\\"
  | '\n' => "\\n"
  | '\r' => "\\r"
  | '\t' => "\\t"
  | _ =>
    let n := c.toNat
    if n = 7 then "\\a" else if n = 8 then "\\b" else if n = 12 then "\\f"
    else if n = 11 then "\\v"
    else if printable c then c.toString
    else if n < 0x80 then "\\x" ++ hexLower 2 n
    else if n < 0x10000 then "\\u" ++ hexLower 4 n
    else "\\U" ++ hexLower 8 n

/-- A text between double quotes, escaped. -/
def quoted (s : String) : String := "\"" ++ String.join (s.toList.map escapeInQuotes) ++ "\""

/-- A character between single quotes, escaped as inside double quotes except that the single
quote is escaped and the double quote is not. -/
def quotedChar (c : Char) : String :=
  "'" ++ (if c = '\'' then "\\'" else if c = '"' then "\"" else escapeInQuotes c) ++ "'"

/-- Whether a text can be shown between backquotes as it is: it has no backquote, no delete
and no ASCII control character other than the tab, and no byte order mark. -/
def backquotable (s : String) : Bool :=
  s.all fun c => c ≠ '\x60' && c.toNat ≠ 0x7F && c.toNat ≠ 0xFEFF && (c.toNat ≥ 0x20 || c = '\t')

/-- A text between backquotes when it can be shown that way, else between double quotes. -/
def quotedRaw (s : String) : String :=
  if backquotable s then "\x60" ++ s ++ "\x60" else quoted s

/-- The lowercase of an ASCII letter; other characters are unchanged. -/
def asciiLower (c : Char) : Char := if 'A' ≤ c ∧ c ≤ 'Z' then Char.ofNat (c.toNat + 32) else c

/-- The lowercase of a text, character by character. -/
def toLower (s : String) : String := Unicode.toLower s

end QuotaWatch.Text
