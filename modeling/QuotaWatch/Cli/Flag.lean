import QuotaWatch.Text.Quote
/-!
**Command-line flags.**

A flag has a long name, perhaps a short one, a kind (switch, whole number, text), a default and
help. `--` ends the flags, and `-` alone is an argument; `--name=value` sets a flag and `--name`
takes the next argument unless a switch; `-abc` turns on switches until a flag needing a value
takes the rest or the next argument. Numbers are signed 64-bit literals with base prefixes and
underscores; switches take the usual spellings of true and false.
-/

namespace QuotaWatch.Cli

/-! ### Reading values -/

/-- Why a number text is refused. -/
inductive NumberError where
  | malformed
  | range
  deriving DecidableEq, Inhabited

/-- The message of a refused number text, naming the reader and the text. -/
def NumberError.message (reader text : String) : NumberError → String
  | .malformed => reader ++ ": parsing " ++ Text.quoted text ++ ": invalid syntax"
  | .range => reader ++ ": parsing " ++ Text.quoted text ++ ": value out of range"

/-- The value of a digit character in bases up to 36. -/
def digitValue (c : Char) : Option Nat :=
  let l := if 'A' ≤ c ∧ c ≤ 'Z' then Char.ofNat (c.toNat + 32) else c
  if '0' ≤ l ∧ l ≤ '9' then some (l.toNat - '0'.toNat)
  else if 'a' ≤ l ∧ l ≤ 'z' then some (l.toNat - 'a'.toNat + 10)
  else none

/-- Whether underscores only separate digits (or follow a base prefix). -/
def underscoresFit (cs : List Char) : Bool :=
  let cs := match cs with
    | '-' :: r => r
    | '+' :: r => r
    | r => r
  let lower := fun (c : Char) => if 'A' ≤ c ∧ c ≤ 'Z' then Char.ofNat (c.toNat + 32) else c
  let (start, hex, body) := match cs with
    | '0' :: p :: r =>
      if lower p = 'b' || lower p = 'o' || lower p = 'x' then ('0', lower p == 'x', r) else ('^', false, cs)
    | _ => ('^', false, cs)
  let last := body.foldl (fun (saw : Char) c =>
    if saw = '?' then '?'
    else if ('0' ≤ c ∧ c ≤ '9') || (hex && ('a' ≤ lower c ∧ lower c ≤ 'f')) then '0'
    else if c = '_' then (if saw = '0' then '_' else '?')
    else if saw = '_' then '?'
    else '!') start
  last ≠ '?' && last ≠ '_'

/-- Digits in a base, read into a number below `limit`; underscores are skipped. -/
def readDigits (base limit : Nat) : List Char → Nat → Except NumberError Nat
  | [], n => .ok n
  | '_' :: rest, n => readDigits base limit rest n
  | c :: rest, n =>
    match digitValue c with
    | none => .error .malformed
    | some d =>
      if d ≥ base then .error .malformed
      else
        let m := n * base + d
        if m > limit then .error .range else readDigits base limit rest m

/-- An unsigned literal with its base prefix, below `limit`. -/
def readUnsigned (limit : Nat) (cs : List Char) : Except NumberError Nat :=
  let lower := fun (c : Char) => if 'A' ≤ c ∧ c ≤ 'Z' then Char.ofNat (c.toNat + 32) else c
  match cs with
  | [] => .error .malformed
  | '0' :: p :: d :: r =>
    if lower p = 'b' then readDigits 2 limit (d :: r) 0
    else if lower p = 'o' then readDigits 8 limit (d :: r) 0
    else if lower p = 'x' then readDigits 16 limit (d :: r) 0
    else readDigits 8 limit (p :: d :: r) 0
  | '0' :: r => readDigits 8 limit r 0
  | _ => readDigits 10 limit cs 0

/-- A whole number text, as a 64-bit integer. -/
def readInteger (s : String) : Except NumberError Int :=
  let cs := s.toList
  let (neg, body) := match cs with
    | '-' :: r => (true, r)
    | '+' :: r => (false, r)
    | r => (false, r)
  let cut : Nat := Nat.pow 2 63
  match readUnsigned (Nat.pow 2 64 - 1) body with
  | .error e => .error e
  | .ok n =>
    if body.contains '_' && !underscoresFit cs then .error .malformed
    else if (!neg && n ≥ cut) || (neg && n > cut) then .error .range
    else .ok (if neg then -(n : Int) else n)

/-- A switch text. -/
def readTruth (s : String) : Option Bool :=
  if ["1", "t", "T", "true", "TRUE", "True"].contains s then some true
  else if ["0", "f", "F", "false", "FALSE", "False"].contains s then some false
  else none

/-! ### Flags -/

/-- What a flag holds. -/
inductive FlagKind where
  | switch
  | integer
  | text
  deriving DecidableEq, Inhabited

/-- A flag: its names, kind, default as text, and help. -/
structure Flag where
  name : String
  short : Option Char := none
  kind : FlagKind
  usage : String
  default : String := ""
  deriving Inhabited

/-- A value given to a flag. -/
inductive FlagValue where
  | switch (b : Bool)
  | integer (i : Int)
  | text (s : String)
  deriving Inhabited

namespace Flag

/-- How messages name a flag. -/
def title (f : Flag) : String :=
  match f.short with
  | some c => "-" ++ c.toString ++ ", --" ++ f.name
  | none => "--" ++ f.name

/-- The value a text gives the flag, or why it gives none. -/
def read (f : Flag) (s : String) : Except String FlagValue :=
  let refuse := fun (why : String) =>
    Except.error ("invalid argument " ++ Text.quoted s ++ " for " ++ Text.quoted f.title ++ " flag: " ++ why)
  match f.kind with
  | .switch => match readTruth s with
    | some b => .ok (.switch b)
    | none => refuse ("strconv.ParseBool: parsing " ++ Text.quoted s ++ ": invalid syntax")
  | .integer => match readInteger s with
    | .ok i => .ok (.integer i)
    | .error e => refuse (e.message "strconv.ParseInt" s)
  | .text => .ok (.text s)

/-- Whether the flag takes no value after it. -/
def isSwitch (f : Flag) : Bool := f.kind = .switch

end Flag

/-- The flags set on a command line, the last setting first, and the other arguments. -/
structure Flags where
  set : List (String × FlagValue) := []
  args : List String := []
  deriving Inhabited

namespace Flags

/-- Whether a flag was given. -/
def changed (p : Flags) (name : String) : Bool := p.set.any (·.1 == name)

/-- A switch's value, off when not given. -/
def switch (p : Flags) (name : String) : Bool :=
  match p.set.find? (·.1 == name) with
  | some (_, .switch b) => b
  | _ => false

/-- A whole number's value, `d` when not given. -/
def integer (p : Flags) (name : String) (d : Int) : Int :=
  match p.set.find? (·.1 == name) with
  | some (_, .integer i) => i
  | _ => d

/-- A text's value, `d` when not given. -/
def text (p : Flags) (name : String) (d : String) : String :=
  match p.set.find? (·.1 == name) with
  | some (_, .text s) => s
  | _ => d

end Flags

/-- Sets a flag from a text. -/
def setFlag (p : Flags) (f : Flag) (v : String) : Except String Flags := do
  return { p with set := (f.name, ← f.read v) :: p.set }

/-- The character an unknown short name is reported as. Short names are looked up byte by byte
and the refused byte is reported through the UTF-8 encoding of the character of its code, whose
first byte is the one shown. A character beyond ASCII starts with a byte from `0xC2` on, whose
character is encoded starting with `0xC3`, so all of them are reported as `Ã`. -/
def reportedShort (c : Char) : Char :=
  if c.toNat < 0x80 then c else Char.ofNat 0xC3

/-- Reads a run of short names `cs` (after the dash); `rest` are the arguments after the run. -/
def shortRun (flags : List Flag) (p : Flags) (rest : List String) :
    List Char → Except String (Flags × List String)
  | [] => .ok (p, rest)
  | c :: more =>
    let run := String.ofList (c :: more)
    match flags.find? (·.short == some c) with
    | none => .error ("unknown shorthand flag: " ++ Text.quotedChar (reportedShort c) ++ " in -" ++ run)
    | some f =>
      match more with
      | '=' :: v@(_ :: _) => do return (← setFlag p f (String.ofList v), rest)
      | _ =>
        if f.isSwitch then do shortRun flags (← setFlag p f "true") rest more
        else if !more.isEmpty then do return (← setFlag p f (String.ofList more), rest)
        else match rest with
          | v :: rest' => do return (← setFlag p f v, rest')
          | [] => .error ("flag needs an argument: " ++ Text.quotedChar c ++ " in -" ++ run)

/-- Reads a long flag `s` (with its dashes); `rest` are the arguments after it. -/
def longFlag (flags : List Flag) (p : Flags) (s : String) (rest : List String) :
    Except String (Flags × List String) :=
  let body := (s.toList.drop 2)
  match body with
  | [] | '-' :: _ | '=' :: _ => .error ("bad flag syntax: " ++ s)
  | _ =>
    let name := String.ofList (body.takeWhile (· ≠ '='))
    let value := (body.dropWhile (· ≠ '=')).drop 1
    let given := body.contains '='
    match flags.find? (·.name == name) with
    | none => .error ("unknown flag: --" ++ name)
    | some f =>
      if given then do return (← setFlag p f (String.ofList value), rest)
      else if f.isSwitch then do return (← setFlag p f "true", rest)
      else match rest with
        | v :: rest' => do return (← setFlag p f v, rest')
        | [] => .error ("flag needs an argument: " ++ s)

/-- Reads the arguments, at most `fuel` of them. -/
def parseWith (flags : List Flag) : Nat → List String → Flags → Except String Flags
  | 0, _, p => .ok p
  | _, [], p => .ok p
  | n + 1, s :: rest, p =>
    match s.toList with
    | '-' :: '-' :: [] => .ok { p with args := p.args ++ rest }
    | '-' :: '-' :: _ => do
      let (p, rest) ← longFlag flags p s rest
      parseWith flags n rest p
    | '-' :: c :: more => do
      let (p, rest) ← shortRun flags p rest (c :: more)
      parseWith flags n rest p
    | _ => parseWith flags n rest { p with args := p.args ++ [s] }

/-- Reads a command line against its flags. -/
def parseFlags (flags : List Flag) (args : List String) : Except String Flags :=
  parseWith flags args.length args {}

end QuotaWatch.Cli
