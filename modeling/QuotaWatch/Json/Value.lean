import QuotaWatch.Decimal.Text
import QuotaWatch.Decimal.Read
import QuotaWatch.Unicode.Case
/-!
**JSON documents.**

A document is null, a boolean, a number, a string, an array or an object. A number keeps the
text of its literal, so that a document read and written again shows its numbers as they were
written, and each reader decides how to take it: as a double, or as a whole number that must
have no fraction or exponent. Objects keep their members in document order, repeated names
included; lookups take the last member of a name, as readers that assign member by member do.
-/

namespace QuotaWatch

/-- A JSON document; a number is the text of a well-formed literal. -/
inductive Json where
  | null
  | bool (b : Bool)
  | num (lit : String)
  | str (s : String)
  | arr (items : List Json)
  | obj (fields : List (String × Json))
  deriving Inhabited, Repr

mutual

/-- Equality of documents, member by member and item by item. -/
def Json.decEq : (a b : Json) → Decidable (a = b)
  | .null, .null => isTrue rfl
  | .bool x, .bool y => if h : x = y then isTrue (h ▸ rfl) else isFalse fun e => by cases e; exact h rfl
  | .num x, .num y => if h : x = y then isTrue (h ▸ rfl) else isFalse fun e => by cases e; exact h rfl
  | .str x, .str y => if h : x = y then isTrue (h ▸ rfl) else isFalse fun e => by cases e; exact h rfl
  | .arr xs, .arr ys =>
    match Json.decEqItems xs ys with
    | isTrue h => isTrue (h ▸ rfl)
    | isFalse h => isFalse fun e => by cases e; exact h rfl
  | .obj xs, .obj ys =>
    match Json.decEqFields xs ys with
    | isTrue h => isTrue (h ▸ rfl)
    | isFalse h => isFalse fun e => by cases e; exact h rfl
  | .null, .bool _ | .null, .num _ | .null, .str _ | .null, .arr _ | .null, .obj _
  | .bool _, .null | .bool _, .num _ | .bool _, .str _ | .bool _, .arr _ | .bool _, .obj _
  | .num _, .null | .num _, .bool _ | .num _, .str _ | .num _, .arr _ | .num _, .obj _
  | .str _, .null | .str _, .bool _ | .str _, .num _ | .str _, .arr _ | .str _, .obj _
  | .arr _, .null | .arr _, .bool _ | .arr _, .num _ | .arr _, .str _ | .arr _, .obj _
  | .obj _, .null | .obj _, .bool _ | .obj _, .num _ | .obj _, .str _ | .obj _, .arr _ =>
    isFalse Json.noConfusion

def Json.decEqItems : (xs ys : List Json) → Decidable (xs = ys)
  | [], [] => isTrue rfl
  | x :: xs, y :: ys =>
    match Json.decEq x y, Json.decEqItems xs ys with
    | isTrue h, isTrue h' => isTrue (h ▸ h' ▸ rfl)
    | isFalse h, _ => isFalse fun e => by cases e; exact h rfl
    | _, isFalse h' => isFalse fun e => by cases e; exact h' rfl
  | [], _ :: _ | _ :: _, [] => isFalse fun e => by cases e

def Json.decEqFields : (xs ys : List (String × Json)) → Decidable (xs = ys)
  | [], [] => isTrue rfl
  | (k, x) :: xs, (l, y) :: ys =>
    if hk : k = l then
      match Json.decEq x y, Json.decEqFields xs ys with
      | isTrue h, isTrue h' => isTrue (hk ▸ h ▸ h' ▸ rfl)
      | isFalse h, _ => isFalse fun e => by cases e; exact h rfl
      | _, isFalse h' => isFalse fun e => by cases e; exact h' rfl
    else isFalse fun e => by cases e; exact hk rfl
  | [], _ :: _ | _ :: _, [] => isFalse fun e => by cases e

end

instance : DecidableEq Json := Json.decEq

namespace Json

/-- A double in document form; a double that is not finite has none and is written as the
string of its message form (`NaN`, `+Inf`, `-Inf`). -/
def ofFloat (x : Float) : Json :=
  match Decimal.classify x with
  | .finite b => .num (b.shortestText .document)
  | _ => .str (Decimal.shortestText x .document)

/-- A whole number. -/
def ofInt (i : Int) : Json := .num (toString i)

/-- A natural number. -/
def ofNat (n : Nat) : Json := .num (toString n)

/-- The last member named `k` of an object. -/
def get? (j : Json) (k : String) : Option Json :=
  match j with
  | .obj fs => (fs.reverse.find? (fun p => p.1 == k)).map (·.2)
  | _ => none

/-- Two names equal up to case: ASCII letters, and characters of one case orbit
(`Unicode.foldKey`). -/
def foldEq (a b : String) : Bool := Unicode.foldKey a == Unicode.foldKey b

/-- Whether a value is `null`. -/
def isNull : Json → Bool
  | .null => true
  | _ => false

end Json

/-- The parts of a number literal `-?int(.frac)?([eE][+-]?exp)?`. -/
structure NumberLit where
  neg : Bool
  intDigits : String
  fracDigits : String
  exp : Int
  /-- Whether the literal has a fraction or an exponent part. -/
  hasPointOrExp : Bool

namespace NumberLit

/-- The value of a digit string. -/
def digitsVal (s : String) : Nat := s.toList.foldl (fun n c => 10 * n + (c.toNat - 48)) 0

/-- Splits a well-formed literal into its parts. -/
def ofLit (lit : String) : NumberLit :=
  let cs := lit.toList
  let (neg, cs) := match cs with
    | '-' :: r => (true, r)
    | r => (false, r)
  let ip := cs.takeWhile Char.isDigit
  let cs := cs.dropWhile Char.isDigit
  let (fp, cs) := match cs with
    | '.' :: r => (r.takeWhile Char.isDigit, r.dropWhile Char.isDigit)
    | r => ([], r)
  let (e, hasE) := match cs with
    | c :: r =>
      if c = 'e' ∨ c = 'E' then
        match r with
        | '-' :: ds => (-(digitsVal (String.ofList ds) : Int), true)
        | '+' :: ds => ((digitsVal (String.ofList ds) : Int), true)
        | ds => ((digitsVal (String.ofList ds) : Int), true)
      else (0, false)
    | [] => (0, false)
  ⟨neg, String.ofList ip, String.ofList fp, e, hasE || cs.headD ' ' == '.' || !fp.isEmpty⟩

/-- The double nearest to a literal, or `none` when it is out of the range of doubles. -/
def toFloat? (n : NumberLit) : Option Float :=
  Decimal.ofDecimal n.neg (digitsVal (n.intDigits ++ n.fracDigits)) (n.exp - n.fracDigits.length)

/-- A literal as a whole number: only digits, with an optional minus sign. -/
def toInt? (n : NumberLit) : Option Int :=
  if n.hasPointOrExp then none
  else
    let v : Int := digitsVal n.intDigits
    some (if n.neg then -v else v)

end NumberLit

/-- A literal as a double, if it is in range. -/
def Json.litFloat? (lit : String) : Option Float := (NumberLit.ofLit lit).toFloat?

/-- A literal as a whole number, if it is written as one. -/
def Json.litInt? (lit : String) : Option Int := (NumberLit.ofLit lit).toInt?

end QuotaWatch
