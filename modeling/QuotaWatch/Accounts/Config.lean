import QuotaWatch.Quota.Account
import QuotaWatch.Text.Space
/-!
**The configured account list.**

A config is an email, an optional display name of at most 64 characters and a number of at least
1. Before a list replaces the state's accounts, fields are trimmed, each config is checked, and
emails and numbers must be unique. Replacing keeps the snapshot of every email that stays, orders
accounts stably by number, and clears the active email when its account is gone. Emails follow
the mailbox grammar (dot-atoms or a quoted local part, a domain of two labels or more), with
characters from U+00A0 on counting as letters.
-/

namespace QuotaWatch

/-- The user-editable part of an account. -/
structure AccountConfig where
  email : String := ""
  displayName : String := ""
  ordinal : Int := 0
  deriving Inhabited, DecidableEq

/-- The config with both texts trimmed of white space. -/
def AccountConfig.normalize (c : AccountConfig) : AccountConfig :=
  { c with email := Text.trimSpace c.email, displayName := Text.trimSpace c.displayName }

/-! ### The mailbox grammar -/

namespace Mailbox

/-- Letters beyond ASCII: U+00A0–U+D7FF, U+F900–U+FDCF and U+FDF0–U+FFEF. -/
def wide (c : Char) : Bool :=
  let n := c.toNat
  (0xA0 ≤ n ∧ n ≤ 0xD7FF) || (0xF900 ≤ n ∧ n ≤ 0xFDCF) || (0xFDF0 ≤ n ∧ n ≤ 0xFFEF)

/-- ASCII letters. -/
def letter (c : Char) : Bool := ('a' ≤ c ∧ c ≤ 'z') || ('A' ≤ c ∧ c ≤ 'Z')

/-- ASCII letters and digits. -/
def alnum (c : Char) : Bool := letter c || ('0' ≤ c ∧ c ≤ '9')

/-- The characters of an atom. -/
def atom (c : Char) : Bool := alnum c || "!#$%&'*+-/=?^_`\x7b|\x7d~".toList.contains c || wide c

/-- A dot-separated local part: non-empty atoms joined by single dots. -/
def dotAtom (s : List Char) : Bool :=
  (s.splitOn '.').all fun part => !part.isEmpty && part.all atom

/-- The characters a quoted local part holds as they are: printable ASCII but the quote and the
backslash, a space, a tab, and letters beyond ASCII. -/
def quotedText (c : Char) : Bool :=
  let n := c.toNat
  (0x21 ≤ n ∧ n ≤ 0x7E ∧ c ≠ '"' ∧ c ≠ '\\') || c = ' ' || c = '\t' || wide c

/-- The characters a backslash may escape in a quoted local part: printable ASCII, a space, a tab,
and letters beyond ASCII. -/
def escapable (c : Char) : Bool :=
  let n := c.toNat
  (0x21 ≤ n ∧ n ≤ 0x7E) || c = ' ' || c = '\t' || wide c

/-- The content of a quoted local part after its opening quote, up to the closing quote that
must end it; `count` is the number of characters read so far. The part is refused when a
character is not allowed, the quote is not closed, something follows it, or it is empty. -/
def quotedBody : List Char → Nat → Bool
  | [], _ => false
  | ['"'], count => count > 0
  | '"' :: _ :: _, _ => false
  | '\\' :: c :: rest, count => escapable c && quotedBody rest (count + 1)
  | c :: rest, count => c ≠ '\\' && quotedText c && quotedBody rest (count + 1)

/-- A quoted local part. -/
def quotedLocal (s : List Char) : Bool :=
  match s with
  | '"' :: rest => quotedBody rest 0
  | _ => false

/-- The characters inside a domain: letters, digits, `-`, `.` and `~`. -/
def inner (c : Char) : Bool := alnum c || c = '-' || c = '.' || c = '~' || wide c

/-- A domain: labels joined by dots, each starting and ending with a letter or digit, the last
one starting and ending with a letter; two dots never stand together. -/
def domain (s : List Char) : Bool :=
  let n := s.length
  let first := fun c => alnum c || wide c
  let last := fun c => letter c || wide c
  match s.head?, s.getLast? with
  | some a, some z =>
    first a && last z && s.all inner && !(s.zip s.tail).any (fun (x, y) => x = '.' && y = '.') &&
      (List.range n).any fun p =>
        s[p]? = some '.' && 1 ≤ p && (s[p - 1]?.map first).getD false &&
          (s[p + 1]?.map last).getD false
  | _, _ => false

end Mailbox

/-- Whether a text is a mailbox: a local part, `@`, and a domain, split at the last `@`. -/
def isEmail (s : String) : Bool :=
  let cs := s.toList
  match (List.range cs.length).reverse.find? (fun i => cs[i]? = some '@') with
  | none => false
  | some i =>
    let loc := cs.take i
    (Mailbox.dotAtom loc || Mailbox.quotedLocal loc) && Mailbox.domain (cs.drop (i + 1))

/-! ### Checking configs -/

/-- A field of a config that fails its rule: the field's name and the rule's name. -/
structure FieldProblem where
  index : Nat
  field : String
  rule : String
  deriving Inhabited

/-- The failed rules of the config at a position, in field order: an email is required and must
be a mailbox, a display name has at most 64 characters, a number is at least 1. -/
def AccountConfig.problems (i : Nat) (c : AccountConfig) : List FieldProblem :=
  (if c.email = "" then [⟨i, "Email", "required"⟩]
    else if isEmail c.email then [] else [⟨i, "Email", "email"⟩]) ++
  (if c.displayName.length > 64 then [⟨i, "DisplayName", "max"⟩] else []) ++
  (if c.ordinal < 1 then [⟨i, "Ordinal", "min"⟩] else [])

/-- The path of a problem in the account file. -/
def FieldProblem.text (p : FieldProblem) : String :=
  "File.Accounts[" ++ toString p.index ++ "]." ++ p.field ++ ":" ++ p.rule

/-- A problem as the validator reports it: the field's namespace and the rule it fails. -/
def FieldProblem.report (p : FieldProblem) : String :=
  "Key: 'File.Accounts[" ++ toString p.index ++ "]." ++ p.field ++ "' Error:Field validation for '" ++
    p.field ++ "' failed on the '" ++ p.rule ++ "' tag"

/-- Why a config list is refused. -/
inductive ConfigError where
  | invalid (problems : List FieldProblem)
  | duplicateEmail (email : String)
  | duplicateOrdinal (ordinal : Int)
  deriving Inhabited

/-- The message of a refused list. -/
def ConfigError.message : ConfigError → String
  | .invalid ps => "invalid account: " ++ "\n".intercalate (ps.map FieldProblem.report)
  | .duplicateEmail e => "duplicate email: " ++ e
  | .duplicateOrdinal n => "duplicate account number: " ++ toString n

/-- The first element whose key occurs more than once. -/
def firstRepeated {α β : Type} [BEq β] (key : α → β) (xs : List α) : Option α :=
  xs.find? fun x => (xs.filter fun y => key y == key x).length ≥ 2

/-- Checks every field, then that emails and then numbers are unique. -/
def validateConfigs (cs : List AccountConfig) : Except ConfigError Unit :=
  let problems := (cs.zipIdx.map fun (c, i) => c.problems i).flatten
  if !problems.isEmpty then .error (.invalid problems)
  else match firstRepeated (·.email) cs with
    | some c => .error (.duplicateEmail c.email)
    | none => match firstRepeated (·.ordinal) cs with
      | some c => .error (.duplicateOrdinal c.ordinal)
      | none => .ok ()

/-- Inserts an account after every account with a number not above its own. -/
def insertByOrdinal (a : Account) : List Account → List Account
  | [] => [a]
  | b :: rest => if a.ordinal < b.ordinal then a :: b :: rest else b :: insertByOrdinal a rest

namespace AppState

/-- Replaces the accounts by the trimmed configs, once they pass `validateConfigs`. -/
def applyConfigs (s : AppState) (cs : List AccountConfig) : Except ConfigError AppState := do
  let cs := cs.map AccountConfig.normalize
  validateConfigs cs
  let next := cs.map fun c =>
    let kept := s.account? c.email
    ({ email := c.email, displayName := c.displayName, ordinal := c.ordinal,
       lastSnapshot := kept.bind (·.lastSnapshot),
       lastUpdated := kept.bind (·.lastUpdated) } : Account)
  let s := { s with accounts := next.foldl (fun acc a => insertByOrdinal a acc) [] }
  if (s.account? s.active).isSome then return s else return s.setActive ""

/-- The configs of the current accounts. -/
def configs (s : AppState) : List AccountConfig :=
  s.accounts.map fun a => ⟨a.email, a.displayName, a.ordinal⟩

end AppState

end QuotaWatch
