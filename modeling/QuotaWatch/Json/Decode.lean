import QuotaWatch.Json.Parse
import QuotaWatch.Time.Text
import QuotaWatch.Json.Capacity
/-!
**Reading typed records from JSON documents.**

A record is read member by member, in document order: a member names a field when the names
agree up to ASCII case, unknown members are skipped, `null` leaves a field as it was, and a
repeated member overrides the earlier one. A member of the wrong JSON kind is refused with the
kind found, the field's path and the expected type. Whole numbers must be written without
fraction or exponent and fit in 64 bits; doubles must be in range. Timestamps are RFC 3339
strings, read from their raw text.
-/

namespace QuotaWatch

/-- Where a value is being read: the record type and the path of member names. -/
structure Field where
  record : String := ""
  path : List String := []
  deriving Inhabited

/-- The field reached by a member of a record of type `record`. -/
def Field.child (f : Field) (record name : String) : Field := ⟨record, f.path ++ [name]⟩

/-- Why a document is not a record of the expected type. -/
inductive DecodeError where
  | malformed (e : Json.SyntaxError)
  /-- A value of JSON kind `found` where type `expected` was wanted, at `at`. -/
  | wrongKind (found : String) (at_ : Field) (expected : String)
  /-- A timestamp member that is no RFC 3339 string. -/
  | badTime (raw : String)
  | notString
  deriving Inhabited

/-- The message of a decode error. -/
def DecodeError.message : DecodeError → String
  | .malformed e => e.message
  | .wrongKind found at_ expected =>
    if at_.record = "" ∧ at_.path = [] then
      "json: cannot unmarshal " ++ found ++ " into Go value of type " ++ expected
    else
      "json: cannot unmarshal " ++ found ++ " into Go struct field " ++ at_.record ++ "." ++
        ".".intercalate at_.path ++ " of type " ++ expected
  | .badTime raw =>
    "parsing time " ++ raw ++ " as \"2006-01-02T15:04:05Z07:00\": cannot parse " ++ raw ++
      " as \"2006\""
  | .notString => "Time.UnmarshalJSON: input is not a JSON string"

namespace Json

/-- The JSON kind of a value, as messages name it; numbers carry their literal when a whole
number was expected. -/
def kindName : Json → String
  | .null => "null"
  | .bool _ => "bool"
  | .num _ => "number"
  | .str _ => "string"
  | .arr _ => "array"
  | .obj _ => "object"

/-- A string member; `null` keeps `cur`. -/
def decodeString (at_ : Field) (expected : String) (cur : String) : Json → Except DecodeError String
  | .null => .ok cur
  | .str s => .ok s
  | j => .error (.wrongKind (kindName j) at_ expected)

/-- A whole-number member within 64 bits; `null` keeps `cur`. -/
def decodeInt (at_ : Field) (expected : String) (cur : Int) : Json → Except DecodeError Int
  | .null => .ok cur
  | .num lit =>
    match litInt? lit with
    | some i => if -(Int.pow 2 63) ≤ i ∧ i < Int.pow 2 63 then .ok i else .error (.wrongKind ("number " ++ lit) at_ expected)
    | none => .error (.wrongKind ("number " ++ lit) at_ expected)
  | j => .error (.wrongKind (kindName j) at_ expected)

/-- A double member; `null` keeps `cur`. -/
def decodeFloat (at_ : Field) (cur : Float) : Json → Except DecodeError Float
  | .null => .ok cur
  | .num lit =>
    match litFloat? lit with
    | some x => .ok x
    | none => .error (.wrongKind ("number " ++ lit) at_ "float64")
  | j => .error (.wrongKind (kindName j) at_ "float64")

/-- A boolean member; `null` keeps `cur`. -/
def decodeBool (at_ : Field) (cur : Bool) : Json → Except DecodeError Bool
  | .null => .ok cur
  | .bool b => .ok b
  | j => .error (.wrongKind (kindName j) at_ "bool")

/-- A timestamp member: an RFC 3339 string; `null` keeps `cur`. The text is read as written
between the quotes, without resolving escapes. -/
def decodeInstantRaw (cur : Instant) : Json → Except DecodeError Instant
  | .null => .ok cur
  | .str s =>
    match Instant.parseRfc3339Loose? s with
    | some t => .ok t
    | none => .error (.badTime ("\"" ++ s ++ "\""))
  | _ => .error .notString

/-- The members of an object; `none` for `null`. -/
def members (at_ : Field) (expected : String) : Json → Except DecodeError (Option (List (String × Json)))
  | .null => .ok none
  | .obj fs => .ok (some fs)
  | j => .error (.wrongKind (kindName j) at_ expected)

/-- The items of an array; `none` for `null`. -/
def items (at_ : Field) (expected : String) : Json → Except DecodeError (Option (List Json))
  | .null => .ok none
  | .arr xs => .ok (some xs)
  | j => .error (.wrongKind (kindName j) at_ expected)

end Json

/-! ### Records, lists, tables and optional members -/

/-- A record reader: the fields by name, each updating the record from a member. -/
abbrev FieldReaders (α : Type) := List (String × (Field → α → Json → Except DecodeError α))

/-- The reader of the field a member names: exact name first, then up to ASCII case. -/
def findReader {α : Type} (fs : FieldReaders α) (k : String) :
    Option (String × (Field → α → Json → Except DecodeError α)) :=
  match fs.find? (·.1 == k) with
  | some r => some r
  | none => fs.find? (fun r => Json.foldEq r.1 k)

/-- Reads a record of type `record` (declared in `pkg`) member by member into `cur`; `null`
keeps it. -/
def decodeRecord {α : Type} (fs : FieldReaders α) (pkg record : String) (at_ : Field) (cur : α)
    (j : Json) : Except DecodeError α := do
  match ← Json.members at_ (pkg ++ "." ++ record) j with
  | none => return cur
  | some ms =>
    ms.foldlM (fun acc (k, v) =>
      match findReader fs k with
      | some (name, r) => r (at_.child record name) acc v
      | none => .ok acc) cur

/-- A list read as a growable array: the storage, as long as the capacity, and how many of its
items are the list. Items past the list are kept for a later, longer list. -/
structure Stored (α : Type) where
  storage : List α := []
  length : Nat := 0
  deriving Inhabited

/-- The items of a stored list. -/
def Stored.items {α : Type} (s : Stored α) : List α := s.storage.take s.length

/-- Reads an array into stored items of `size` bytes each: item `i` updates the `i`-th value
of the storage, grown as needed (`Json.grownCapacity`), and the list then ends after the last
item. An empty array, or `null`, gives fresh storage. -/
def decodeStored {α : Type} [Inhabited α] (size : Nat) (expected : String)
    (item : Field → α → Json → Except DecodeError α) (at_ : Field) (cur : Stored α) (j : Json) :
    Except DecodeError (Stored α) := do
  match ← Json.items at_ expected j with
  | none => return {}
  | some [] => return {}
  | some xs =>
    let step := fun (acc : Stored α × Nat) (x : Json) => do
      let (st, i) := acc
      let storage := if i ≥ st.storage.length then
          let cap := Json.grownCapacity size st.storage.length (i + 1)
          st.storage.take i ++ List.replicate (cap - i) default
        else st.storage
      let v ← item at_ (storage.getD i default) x
      return (({ storage := storage.set i v, length := max st.length (i + 1) } : Stored α), i + 1)
    let (st, n) ← xs.foldlM step (cur, 0)
    return { st with length := n }

/-- Reads an optional member: `null` clears it, anything else updates its value. -/
def decodeOpt {α : Type} [Inhabited α] (item : Field → α → Json → Except DecodeError α)
    (at_ : Field) (cur : Option α) (j : Json) : Except DecodeError (Option α) :=
  match j with
  | .null => .ok none
  | _ => do return some (← item at_ (cur.getD default) j)

end QuotaWatch
