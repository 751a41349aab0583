import QuotaWatch.Json.Value
/-!
**YAML documents as trees, and what a plain scalar means.**

A document is a tree of scalars, sequences, mappings and aliases; a node keeps its tag. Only a
plain scalar is resolved, by the core schema with the usual extensions: null spellings and the
empty scalar, booleans in three casings, integers with sign, underscores and base prefixes,
decimal floats with `.inf` and `.nan`, and dates with an optional time as timestamps; every other
scalar is a string.
-/

namespace QuotaWatch.Yaml

/-- How a scalar was written. -/
inductive Style where
  | plain
  | singleQuoted
  | doubleQuoted
  | literal
  | folded
  deriving Inhabited, DecidableEq

/-- A node of a document, with the tag written on it in its short form (`!!str`, `!local`;
empty when none was written) and the line it starts on (counted from 1; 0 when it has none). -/
inductive Node where
  | scalar (value : String) (style : Style) (tag : String) (line : Nat)
  | seq (items : List Node) (tag : String) (line : Nat)
  | map (pairs : List (Node × Node)) (tag : String) (line : Nat)
  /-- A reference `*name` to the node anchored as `name`: `some target`, or `none` where the
  reference is met again while its own target is being followed. -/
  | alias (name : String) (target : Option Node) (line : Nat)
  deriving Inhabited

/-- The line a node starts on. -/
def Node.line : Node → Nat
  | .scalar _ _ _ l => l
  | .seq _ _ l => l
  | .map _ _ l => l
  | .alias _ _ l => l

/-- Spaces and tabs. -/
def isBlank (c : Char) : Bool := c = ' ' || c = '\t'

/-- The empty node, written as nothing at all. -/
def Node.empty : Node := .scalar "" .plain "" 0

/-- The node an alias stands for, and any other node itself (a reference met again inside its
own target stays itself). -/
def Node.target : Node → Node
  | .alias _ (some n) _ => n
  | n => n

/-- The node an alias stands for, and any other node itself; following a reference that is
already being followed is a fault, since its target would contain itself. -/
def Node.follow : Node → Except String Node
  | .alias name none _ => .error ("yaml: anchor '" ++ name ++ "' value contains itself")
  | .alias _ (some n) _ => .ok n
  | n => .ok n


/-- The meaning of a plain scalar. -/
inductive Value where
  | null
  | bool (b : Bool)
  /-- An integer in the range of signed 64-bit integers. -/
  | int (i : Int)
  /-- An integer beyond the signed range but within the unsigned one. -/
  | uint (n : Nat)
  | float (x : Float)
  | timestamp
  | str
  deriving Inhabited

/-- The value of a digit in a base, if it is one. -/
def digitIn (base : Nat) (c : Char) : Option Nat :=
  let d := if '0' ≤ c ∧ c ≤ '9' then c.toNat - 48
    else if 'a' ≤ c ∧ c ≤ 'z' then c.toNat - 87
    else if 'A' ≤ c ∧ c ≤ 'Z' then c.toNat - 55
    else 99
  if d < base then some d else none

/-- The value of a non-empty digit string in a base. -/
def digitsIn (base : Nat) (cs : List Char) : Option Nat :=
  if cs.isEmpty then none
  else cs.foldlM (fun n c => (digitIn base c).map (base * n + ·)) 0

/-- An unsigned literal with an optional base prefix (`0x`, `0o`, `0b` before at least one
more character, or a leading `0` for octal), at most 2⁶⁴ - 1. -/
def parseUnsigned? (cs : List Char) : Option Nat := do
  let n ← match cs with
    | [] => none
    | '0' :: p :: rest@(_ :: _) =>
      if p = 'x' ∨ p = 'X' then digitsIn 16 rest
      else if p = 'o' ∨ p = 'O' then digitsIn 8 rest
      else if p = 'b' ∨ p = 'B' then digitsIn 2 rest
      else digitsIn 8 (p :: rest)
    | '0' :: rest => if rest.isEmpty then some 0 else digitsIn 8 rest
    | _ => digitsIn 10 cs
  if n < Nat.pow 2 64 then some n else none

/-- A signed literal (optional `+` or `-`) within the signed 64-bit range. -/
def parseSigned? (cs : List Char) : Option Int :=
  match cs with
  | '-' :: rest => do
    let n ← parseUnsigned? rest
    if n ≤ Nat.pow 2 63 then some (-(n : Int)) else none
  | '+' :: rest => do
    let n ← parseUnsigned? rest
    if n < Nat.pow 2 63 then some (n : Int) else none
  | _ => do
    let n ← parseUnsigned? cs
    if n < Nat.pow 2 63 then some (n : Int) else none

/-- Whether a text is a decimal float: `[-+]?(\.[0-9]+|[0-9]+(\.[0-9]*)?)([eE][-+]?[0-9]+)?`. -/
def floatShape (cs : List Char) : Bool :=
  let cs := match cs with
    | c :: r => if c = '-' ∨ c = '+' then r else cs
    | [] => []
  let digit := fun (c : Char) => '0' ≤ c ∧ c ≤ '9'
  let mantOk : List Char → Option (List Char) := fun cs =>
    match cs with
    | '.' :: r =>
      let ds := r.takeWhile digit
      if ds.isEmpty then none else some (r.dropWhile digit)
    | _ =>
      let ds := cs.takeWhile digit
      if ds.isEmpty then none
      else match cs.dropWhile digit with
        | '.' :: r => some (r.dropWhile digit)
        | r => some r
  match mantOk cs with
  | none => false
  | some [] => true
  | some (e :: r) =>
    (e = 'e' ∨ e = 'E') &&
      (let r := match r with
        | c :: r' => if c = '-' ∨ c = '+' then r' else r
        | [] => []
       !r.isEmpty && r.all digit)

/-- The double nearest a decimal float of `floatShape`, or `none` beyond the doubles. -/
def floatValue? (cs : List Char) : Option Float :=
  let (neg, cs) := match cs with
    | '-' :: r => (true, r)
    | '+' :: r => (false, r)
    | r => (false, r)
  let lit := NumberLit.ofLit (String.ofList (if cs.headD ' ' = '.' then '0' :: cs else cs))
  (NumberLit.mk neg lit.intDigits lit.fracDigits lit.exp lit.hasPointOrExp).toFloat?

/-- One or two digits at the head of a text, and the text after them. -/
def shortNumber (cs : List Char) : Option (Nat × List Char) :=
  match cs with
  | a :: b :: r =>
    if !a.isDigit then none
    else if b.isDigit then some (10 * (a.toNat - 48) + (b.toNat - 48), r)
    else some (a.toNat - 48, b :: r)
  | [a] => if a.isDigit then some (a.toNat - 48, []) else none
  | [] => none

/-- The text after a character `c` at its head. -/
def afterChar (c : Char) (cs : List Char) : Option (List Char) :=
  match cs with
  | d :: r => if d = c then some r else none
  | [] => none

/-- The days of a month of a year of the Gregorian calendar. -/
def daysInMonth (y m : Nat) : Nat :=
  if m = 2 then (if y % 4 = 0 ∧ (y % 100 ≠ 0 ∨ y % 400 = 0) then 29 else 28)
  else if m = 4 ∨ m = 6 ∨ m = 9 ∨ m = 11 then 30 else 31

/-- A time `h:m:s` (one or two digits each, hours below 24, minutes and seconds below 60) with
an optional fraction after `.` or `,`, and the text after it. -/
def clockTime (cs : List Char) : Option (List Char) := do
  let (h, r) ← shortNumber cs
  if h ≥ 24 then none
  let r ← afterChar ':' r
  let (mi, r) ← shortNumber r
  if mi ≥ 60 then none
  let r ← afterChar ':' r
  let (s, r) ← shortNumber r
  if s ≥ 60 then none
  match r with
  | c :: d :: rest =>
    if (c = '.' ∨ c = ',') ∧ d.isDigit then some (rest.dropWhile Char.isDigit) else some r
  | _ => some r

/-- A zone, `Z` or `±hh:mm` with hours up to 24 and minutes up to 60, ending the text. -/
def zoneOffset (cs : List Char) : Bool :=
  match cs with
  | ['Z'] => true
  | [sg, a, b, ':', c, d] =>
    (sg = '+' ∨ sg = '-') ∧ [a, b, c, d].all Char.isDigit ∧
      10 * (a.toNat - 48) + (b.toNat - 48) ≤ 24 ∧ 10 * (c.toNat - 48) + (d.toNat - 48) ≤ 60
  | _ => false

/-- Whether a text is a timestamp: a date `YYYY-M-D` (month and day of one or two digits, in
range), alone or followed by `T` or `t`, a time and a zone, or by spaces and a time without
zone. -/
def isTimestamp (cs : List Char) : Bool :=
  let year := cs.takeWhile Char.isDigit
  if year.length ≠ 4 then false
  else Option.isSome do
    let r ← afterChar '-' (cs.drop 4)
    let (m, r) ← shortNumber r
    if m < 1 ∨ m > 12 then none
    let r ← afterChar '-' r
    let (d, r) ← shortNumber r
    let y := year.foldl (fun n c => 10 * n + (c.toNat - 48)) 0
    if d < 1 ∨ d > daysInMonth y m then none
    match r with
    | [] => some ()
    | sep :: rest =>
      if sep = 'T' ∨ sep = 't' then
        let z ← clockTime rest
        if zoneOffset z then some () else none
      else if sep = ' ' then
        let z ← clockTime (rest.dropWhile (· = ' '))
        if z.isEmpty then some () else none
      else none

/-- Whether the underscores of a number stand only between digits, or between a base prefix
and a digit. -/
def underscoresOk (cs : List Char) : Bool :=
  let cs := match cs with
    | c :: r => if c = '-' ∨ c = '+' then r else cs
    | [] => []
  let (hex, start, body) := match cs with
    | '0' :: p :: r =>
      let q := p.toLower
      if q = 'b' ∨ q = 'o' ∨ q = 'x' then (decide (q = 'x'), '0', r) else (false, '^', cs)
    | _ => (false, '^', cs)
  let last := body.foldl (fun (saw : Option Char) c =>
      match saw with
      | none => none
      | some s =>
        if c.isDigit || (hex && 'a' ≤ c.toLower && c.toLower ≤ 'f') then some '0'
        else if c = '_' then (if s = '0' then some '_' else none)
        else if s = '_' then none
        else some '!') (some start)
  match last with
  | some s => s ≠ '_'
  | none => false


/-- The meaning of a plain scalar, where `stamps` tells whether a timestamp is a meaning it may
take. -/
def resolveAs (stamps : Bool) (s : String) : Value :=
  let cs := s.toList
  if s = "" ∨ s = "~" ∨ s = "null" ∨ s = "Null" ∨ s = "NULL" then .null
  else if s = "true" ∨ s = "True" ∨ s = "TRUE" then .bool true
  else if s = "false" ∨ s = "False" ∨ s = "FALSE" then .bool false
  else if s = ".nan" ∨ s = ".NaN" ∨ s = ".NAN" then .float (0 / 0)
  else if s = ".inf" ∨ s = ".Inf" ∨ s = ".INF" ∨ s = "+.inf" ∨ s = "+.Inf" ∨ s = "+.INF" then
    .float (1 / 0)
  else if s = "-.inf" ∨ s = "-.Inf" ∨ s = "-.INF" then .float (-1 / 0)
  else match cs with
    | '.' :: _ =>
      let digits := cs.filter (· ≠ '_')
      if underscoresOk cs ∧ floatShape digits then
        match floatValue? digits with
        | some x => .float x
        | none => .str
      else .str
    | c :: _ =>
      if ('0' ≤ c ∧ c ≤ '9') ∨ c = '-' ∨ c = '+' then
        if stamps ∧ isTimestamp cs then .timestamp
        else
          let plain := cs.filter (· ≠ '_')
          match parseSigned? plain with
          | some i => .int i
          | none =>
            match parseUnsigned? plain with
            | some n => .uint n
            | none =>
              match (if floatShape plain then floatValue? plain else none) with
              | some x => .float x
              | none =>
                match plain with
                | '0' :: 'b' :: ds => (match digitsIn 2 ds with
                  | some n => if n < Nat.pow 2 63 then .int n else if n < Nat.pow 2 64 then .uint n else .str
                  | none => .str)
                | '-' :: '0' :: 'b' :: ds => (match digitsIn 2 ds with
                  | some n => if n ≤ Nat.pow 2 63 then .int (-(n : Int)) else .str
                  | none => .str)
                | '0' :: 'o' :: ds => (match digitsIn 8 ds with
                  | some n => if n < Nat.pow 2 63 then .int n else if n < Nat.pow 2 64 then .uint n else .str
                  | none => .str)
                | '-' :: '0' :: 'o' :: ds => (match digitsIn 8 ds with
                  | some n => if n ≤ Nat.pow 2 63 then .int (-(n : Int)) else .str
                  | none => .str)
                | _ => .str
      else .str
    | [] => .null

/-- The meaning of a plain scalar written without a tag. -/
def resolve (s : String) : Value := resolveAs true s

/-- The tag of a meaning. -/
def Value.tag : Value → String
  | .null => "!!null"
  | .bool _ => "!!bool"
  | .int _ | .uint _ => "!!int"
  | .float _ => "!!float"
  | .timestamp => "!!timestamp"
  | .str => "!!str"

/-- A double cut toward zero to a signed 64-bit integer, as the machine converts: values from
2⁶³ down past -2⁶³ and minus infinity all give -2⁶³. `none` for NaN and for values above 2⁶³. -/
def truncToInt64 (x : Float) : Option Int :=
  match Decimal.classify x with
  | .nan => none
  | .inf neg => if neg then some (-(Int.pow 2 63)) else none
  | .finite b =>
    let mag : Nat := if b.exp ≥ 0 then b.mant * Nat.pow 2 b.exp.toNat else b.mant / Nat.pow 2 (-b.exp).toNat
    let v : Int := if b.neg then -(mag : Int) else mag
    if !b.neg ∧ mag > Nat.pow 2 63 then none
    else if v ≥ Int.pow 2 63 ∨ v < -(Int.pow 2 63) then some (-(Int.pow 2 63))
    else some v

end QuotaWatch.Yaml
