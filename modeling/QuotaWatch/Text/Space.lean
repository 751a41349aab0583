/-!
**White space and trimming.**

`isSpace` is the Unicode white-space property used for trimming text: the ASCII spaces tab,
line feed, vertical tab, form feed, carriage return and space, next line (U+0085), no-break
space (U+00A0), and the space separators and line and paragraph separators of the Z category.
`trimSpace` drops such characters from both ends.
-/

namespace QuotaWatch.Text

/-- Whether a character is white space in the Unicode sense. -/
def isSpace (c : Char) : Bool :=
  let n := c.toNat
  (9 ≤ n ∧ n ≤ 13) || n = 32 || n = 0x85 || n = 0xA0 || n = 0x1680 ||
    (0x2000 ≤ n ∧ n ≤ 0x200A) || n = 0x2028 || n = 0x2029 || n = 0x202F || n = 0x205F ||
    n = 0x3000

/-- The text without its leading white space. -/
def trimLeftSpace (s : String) : String := String.ofList (s.toList.dropWhile isSpace)

/-- The text without its trailing white space. -/
def trimRightSpace (s : String) : String :=
  String.ofList (s.toList.reverse.dropWhile isSpace).reverse

/-- The text without white space at either end. -/
def trimSpace (s : String) : String := trimRightSpace (trimLeftSpace s)

@[simp] theorem trimSpace_empty : trimSpace "" = "" := by decide

end QuotaWatch.Text
