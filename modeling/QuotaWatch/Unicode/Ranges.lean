/-!
**Tables of code point ranges.**

A property is a list of disjoint, increasing code point ranges with values, and a default for the
rest; a lookup is a binary search for the last range starting at or before the code point. Tables
are written as text, one entry a word of comma-separated fields with hexadecimal bounds, decoded
once on first use.
-/

namespace QuotaWatch.Unicode

/-- Disjoint ranges of code points in increasing order, each with a value. -/
structure RangeTable (α : Type) where
  /-- The ranges: first and last code point, and the value on the range. -/
  entries : Array (Nat × Nat × α)

/-- The value of a hexadecimal digit; other characters count as zero. -/
def hexValue (c : Char) : Nat :=
  if '0' ≤ c ∧ c ≤ '9' then c.toNat - '0'.toNat
  else if 'a' ≤ c ∧ c ≤ 'f' then c.toNat - 'a'.toNat + 10
  else if 'A' ≤ c ∧ c ≤ 'F' then c.toNat - 'A'.toNat + 10
  else 0

/-- The number a hexadecimal text stands for. -/
def readHex (s : String) : Nat := s.toList.foldl (fun n c => n * 16 + hexValue c) 0

/-- The number a decimal text with an optional minus sign stands for. -/
def readSigned (s : String) : Int :=
  let digits := fun (cs : List Char) => cs.foldl (fun n c => n * 10 + (c.toNat - '0'.toNat)) 0
  match s.toList with
  | '-' :: rest => -(digits rest : Int)
  | cs => (digits cs : Int)

namespace RangeTable

variable {α : Type}

/-- The table of some lines of text: each word `lo,hi,fields…` is the range from `lo` to `hi`
with the value `value` reads from its remaining fields. -/
def decode (value : List String → α) (text : List String) : RangeTable α :=
  ⟨((text.flatMap (·.splitOn " ")).filter (· ≠ "")).toArray.map fun w =>
    match w.splitOn "," with
    | lo :: hi :: rest => (readHex lo, readHex hi, value rest)
    | lo :: [] => (readHex lo, readHex lo, value [])
    | [] => (0, 0, value [])⟩

/-- The index of the last range starting at or before `n` among the ranges `lo` to `hi - 1`,
given that the one at `lo` does. -/
def lastStart (t : RangeTable α) (n lo hi : Nat) : Nat :=
  if h : lo + 1 < hi then
    let mid := lo + (hi - lo) / 2
    let start := match t.entries[mid]? with
      | some (s, _, _) => s
      | none => n + 1
    if start ≤ n then lastStart t n mid hi else lastStart t n lo mid
  else lo
termination_by hi - lo
decreasing_by all_goals omega

/-- The range holding `n`, with its bounds, if one does. -/
def entry? (t : RangeTable α) (n : Nat) : Option (Nat × Nat × α) :=
  match t.entries[0]? with
  | none => none
  | some (first, _, _) =>
    if n < first then none
    else match t.entries[lastStart t n 0 t.entries.size]? with
      | some (lo, last, v) => if n ≤ last then some (lo, last, v) else none
      | none => none

/-- The value of the range holding `n`, if one does. -/
def find? (t : RangeTable α) (n : Nat) : Option α := (t.entry? n).map (·.2.2)

/-- Whether a range of the table holds `n`. -/
def contains (t : RangeTable α) (n : Nat) : Bool := (t.find? n).isSome

end RangeTable

/-- A table that only says which code points have a property. -/
def RangeTable.decodeSet (text : List String) : RangeTable Unit := RangeTable.decode (fun _ => ()) text

theorem RangeTable.find?_empty {α : Type} (n : Nat) : (⟨#[]⟩ : RangeTable α).find? n = none := rfl

end QuotaWatch.Unicode
