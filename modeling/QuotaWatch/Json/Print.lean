import QuotaWatch.Json.Value
/-!
**Writing JSON documents.**

Strings are written with the short escapes `\" \\ \b \f \n \r \t`, other control characters as
`\u00xx`, and the line and paragraph separators `U+2028`, `U+2029` escaped so that the text can
be embedded in script. Documents meant for pages also escape `<`, `>` and `&`. Numbers are
written as their literal.

Two layouts are provided: compact, and indented with one member per line, where empty arrays
and objects stay `[]` and `{}`.
-/

namespace QuotaWatch

namespace Json

/-- Four lowercase hex digits. -/
def hex4 (n : Nat) : String :=
  let ds := Nat.toDigits 16 n
  String.ofList (List.replicate (4 - ds.length) '0' ++ ds)

/-- The escaped form of one character inside a string literal. -/
def escapeChar (html : Bool) (c : Char) : String :=
  if c = '"' then "\\\""
  else if c = '\\' then "\\\\"
  else if c = '\n' then "\\n"
  else if c = '\r' then "\\r"
  else if c = '\t' then "\\t"
  else if c = '\x08' then "\\b"
  else if c = '\x0c' then "\\f"
  else if c.toNat < 0x20 then "\\u" ++ hex4 c.toNat
  else if html ∧ (c = '<' ∨ c = '>' ∨ c = '&') then "\\u" ++ hex4 c.toNat
  else if c.toNat = 0x2028 ∨ c.toNat = 0x2029 then "\\u" ++ hex4 c.toNat
  else String.singleton c

/-- A string literal, `html` saying whether `<`, `>` and `&` are escaped. -/
def quote (html : Bool) (s : String) : String :=
  "\"" ++ String.join (s.toList.map (escapeChar html)) ++ "\""

mutual

/-- The compact layout. -/
def compact (html : Bool) : Json → String
  | .null => "null"
  | .bool b => if b then "true" else "false"
  | .num lit => lit
  | .str s => quote html s
  | .arr items => "[" ++ compactItems html items ++ "]"
  | .obj fields => "\x7b" ++ compactFields html fields ++ "\x7d"

/-- Array items, comma separated. -/
def compactItems (html : Bool) : List Json → String
  | [] => ""
  | [j] => compact html j
  | j :: rest => compact html j ++ "," ++ compactItems html rest

/-- Object members, comma separated. -/
def compactFields (html : Bool) : List (String × Json) → String
  | [] => ""
  | [(k, v)] => quote html k ++ ":" ++ compact html v
  | (k, v) :: rest => quote html k ++ ":" ++ compact html v ++ "," ++ compactFields html rest

end

/-- The indentation of nesting depth `d`. -/
def indentOf (step : String) (d : Nat) : String := String.join (List.replicate d step)

mutual

/-- The indented layout at nesting depth `d`, each level indented by `step`. -/
def pretty (html : Bool) (step : String) (d : Nat) : Json → String
  | .arr [] => "[]"
  | .obj [] => "\x7b\x7d"
  | .arr items => "[\n" ++ prettyItems html step (d + 1) items ++ "\n" ++ indentOf step d ++ "]"
  | .obj fields =>
    "\x7b\n" ++ prettyFields html step (d + 1) fields ++ "\n" ++ indentOf step d ++ "\x7d"
  | j => compact html j

/-- Array items, one per line at depth `d`. -/
def prettyItems (html : Bool) (step : String) (d : Nat) : List Json → String
  | [] => ""
  | [j] => indentOf step d ++ pretty html step d j
  | j :: rest => indentOf step d ++ pretty html step d j ++ ",\n" ++ prettyItems html step d rest

/-- Object members, one per line at depth `d`. -/
def prettyFields (html : Bool) (step : String) (d : Nat) : List (String × Json) → String
  | [] => ""
  | [(k, v)] => indentOf step d ++ quote html k ++ ": " ++ pretty html step d v
  | (k, v) :: rest =>
    indentOf step d ++ quote html k ++ ": " ++ pretty html step d v ++ ",\n" ++
      prettyFields html step d rest

end

/-- Inserts a member into a list sorted by name. -/
def insertByName (p : String × Json) : List (String × Json) → List (String × Json)
  | [] => [p]
  | q :: rest => if p.1 < q.1 then p :: q :: rest else q :: insertByName p rest

/-- Keeps the last member of each name, in the order of those last members. -/
def dedupNames (fs : List (String × Json)) : List (String × Json) :=
  fs.reverse.foldl (fun acc p => if acc.any (·.1 == p.1) then acc else p :: acc) []

mutual

/-- The same document with the members of every object in name order; of repeated names the
last is kept. -/
def sortKeys : Json → Json
  | .arr items => .arr (sortItems items)
  | .obj fields => .obj ((dedupNames (sortFields fields)).foldr insertByName [])
  | j => j

/-- `sortKeys` on each item. -/
def sortItems : List Json → List Json
  | [] => []
  | j :: rest => sortKeys j :: sortItems rest

/-- `sortKeys` on each member's value. -/
def sortFields : List (String × Json) → List (String × Json)
  | [] => []
  | (k, v) :: rest => (k, sortKeys v) :: sortFields rest

end

end Json

end QuotaWatch
