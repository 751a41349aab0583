import QuotaWatch.Yaml.Node
/-!
**Writing string scalars in block YAML.**

A string is written in the lightest style that reads back as it: a literal block (`|`, with
indentation and chomping hints) when it holds a line feed; plain when it resolves to a string
(also under YAML 1.1's booleans and sexagesimals) and holds no syntax; single-quoted when only
syntax is in the way; double-quoted with escapes otherwise. Lines are never wrapped.
-/

namespace QuotaWatch.Yaml

/-- The YAML 1.1 booleans, quoted so that older readers keep them strings. -/
def oldBools : List String :=
  ["y", "Y", "yes", "Yes", "YES", "on", "On", "ON", "n", "N", "no", "No", "NO", "off", "Off",
    "OFF"]

/-- Whether a text is a sexagesimal number such as `1:30` or `-12:05:09.5`. -/
def isSexagesimal (s : String) : Bool :=
  let digit := fun (c : Char) => decide ('0' ≤ c ∧ c ≤ '9')
  let cs := match s.toList with
    | c :: r => if c = '+' ∨ c = '-' then r else c :: r
    | [] => []
  let sixty := fun (p : List Char) => (match p with
    | [d] => digit d
    | [a, b] => decide ('0' ≤ a ∧ a ≤ '5') && digit b
    | _ => false : Bool)
  match cs.splitOn ':' with
  | first :: second :: more =>
    (match first with
      | d :: r => digit d && r.all (fun c => digit c || c = '_')
      | [] => false) &&
    (let parts := second :: more
     let middle := parts.dropLast
     let last := parts.getLast?.getD []
     middle.all sixty &&
       match last.splitOn '.' with
       | [p] => sixty p
       | [p, frac] => sixty p && frac.all (fun c => digit c || c = '_')
       | _ => false)
  | _ => false

/-- Whether a plain scalar with this text reads back as this string. -/
def resolvesToString (s : String) : Bool :=
  (match resolve s with | .str => true | _ => false) && !isSexagesimal s && !oldBools.contains s

/-- Characters that may be written as they are. -/
def printableChar (c : Char) : Bool :=
  let n := c.toNat
  n = 10 || (0x20 ≤ n && n ≤ 0x7E) || (0xA0 ≤ n && n ≤ 0xD7FF) ||
    (0xE000 ≤ n && n ≤ 0xFFFD && n ≠ 0xFEFF)

/-- Line breaks: line feed, carriage return, next line, line and paragraph separators. -/
def isBreakChar (c : Char) : Bool :=
  c = '\n' || c = '\r' || c.toNat = 0x85 || c.toNat = 0x2028 || c.toNat = 0x2029

/-- Which styles can carry a string. -/
structure Analysis where
  multiline : Bool
  plainOk : Bool
  singleOk : Bool
  blockOk : Bool
  deriving Inhabited

/-- What the characters of a string allow, in block context. -/
def analyze (s : String) : Analysis :=
  let cs := s.toList
  if cs.isEmpty then ⟨false, true, true, false⟩
  else
    let n := cs.length
    let at_ := fun (i : Nat) => cs.getD i ' '
    let blankz := fun (i : Nat) => i ≥ n || isBlank (at_ i) || isBreakChar (at_ i) || (at_ i).toNat = 0
    let marker := n ≥ 3 && ((cs.take 3 == ['-', '-', '-']) || (cs.take 3 == ['.', '.', '.']))
    let indicatorAt := fun (i : Nat) =>
      let c := at_ i
      let followedBlank := i + 1 ≥ n || isBlank (at_ (i + 1))
      if i = 0 then
        "#,[]\x7b\x7d&*!|>'\"%@`".toList.contains c || ((c = '?' || c = ':') && followedBlank) ||
          (c = '-' && followedBlank)
      else (c = ':' && followedBlank) || (c = '#' && blankz (i - 1))
    let idx := List.range n
    let blockInd := marker || idx.any indicatorAt
    let tabs := cs.contains '\t'
    let special := cs.any fun c => c ≠ '\t' && !printableChar c
    let breaks := cs.any isBreakChar
    let leadingSpace := at_ 0 = ' '
    let leadingBreak := isBreakChar (at_ 0)
    let trailingSpace := at_ (n - 1) = ' '
    let trailingBreak := isBreakChar (at_ (n - 1))
    let breakSpace := idx.any fun i => i ≥ 1 && at_ i = ' ' && isBreakChar (at_ (i - 1))
    let spaceBreak := idx.any fun i => i ≥ 1 && isBreakChar (at_ i) && at_ (i - 1) = ' '
    let plainOk := !(leadingSpace || leadingBreak || trailingSpace || trailingBreak || breakSpace ||
      spaceBreak || tabs || special || breaks || blockInd)
    let singleOk := !(breakSpace || spaceBreak || tabs || special)
    let blockOk := !(trailingSpace || spaceBreak || special)
    ⟨breaks, plainOk, singleOk, blockOk⟩

/-- Uppercase hexadecimal digits of a number, `w` of them. -/
def hexDigits (w : Nat) (v : Nat) : List Char :=
  (List.range w).reverse.map fun k =>
    let d := v / Nat.pow 16 k % 16
    if d < 10 then Char.ofNat (48 + d) else Char.ofNat (55 + d)

/-- The escape of a character in a double-quoted scalar. -/
def escapeChar (c : Char) : List Char :=
  let v := c.toNat
  '\\' :: match v with
    | 0 => ['0']
    | 7 => ['a']
    | 8 => ['b']
    | 9 => ['t']
    | 10 => ['n']
    | 11 => ['v']
    | 12 => ['f']
    | 13 => ['r']
    | 27 => ['e']
    | 0x22 => ['"']
    | 0x5C => ['\\']
    | 0x85 => ['N']
    | 0xA0 => ['_']
    | 0x2028 => ['L']
    | 0x2029 => ['P']
    | _ =>
      if v ≤ 0xFF then 'x' :: hexDigits 2 v
      else if v ≤ 0xFFFF then 'u' :: hexDigits 4 v
      else 'U' :: hexDigits 8 v

/-- A string double-quoted. A string that starts with a byte order mark has every character
escaped, since a reader would take an unescaped mark for the start of the stream. -/
def doubleQuote (s : String) : String :=
  let marked := s.startsWith "\uFEFF"
  let body := s.toList.flatMap fun c =>
    if !printableChar c || marked || isBreakChar c || c = '"' || c = '\\' then
      escapeChar c
    else [c]
  String.ofList ('"' :: body ++ ['"'])

/-- A string single-quoted at indentation `indent`: quotes doubled, and the text after a line
break indented. -/
def singleQuote (indent : Nat) (s : String) : String :=
  let rec go : List Char → Bool → List Char
    | [], _ => []
    | c :: r, afterBreak =>
      if isBreakChar c then c :: go r true
      else
        let pre := if afterBreak then List.replicate indent ' ' else []
        pre ++ (if c = '\'' then ['\'', '\''] else [c]) ++ go r false
  String.ofList ('\'' :: go s.toList false ++ ['\''])

/-- A string as a literal block whose lines sit at column `indent`. -/
def literalBlock (indent : Nat) (s : String) : String :=
  let cs := s.toList
  let hint := if cs.headD 'x' = ' ' || isBreakChar (cs.headD 'x') then ['2'] else []
  let rev := cs.reverse
  let chomp :=
    match rev with
    | [] => ['-']
    | z :: r =>
      if !isBreakChar z then ['-']
      else match r with
        | [] => ['+']
        | y :: _ => if isBreakChar y then ['+'] else []
  let rec go : List Char → Bool → List Char
    | [], _ => []
    | c :: r, afterBreak =>
      if isBreakChar c then c :: go r true
      else (if afterBreak then List.replicate indent ' ' else []) ++ c :: go r false
  String.ofList ('|' :: hint ++ chomp ++ '\n' :: go cs true)

/-- The text of a string written as the value of a block mapping whose keys sit at column
`indent`. A literal block ends with its last line break, if it has one. -/
def scalarText (indent : Nat) (s : String) : String :=
  let a := analyze s
  if s.toList.contains '\n' then
    if a.blockOk then literalBlock (indent + 2) s else doubleQuote s
  else if resolvesToString s then
    if a.plainOk then s
    else if a.singleOk then singleQuote (indent + 2) s
    else doubleQuote s
  else doubleQuote s

end QuotaWatch.Yaml
