import QuotaWatch.Accounts.Config
import QuotaWatch.Yaml.Read
import QuotaWatch.Yaml.Emit
import QuotaWatch.Text.Utf8
import QuotaWatch.Text.Quote
import QuotaWatch.Credential.Base64
/-!
**The account file.**

Accounts are read from and written to a YAML document whose one key `accounts` holds mappings
with `email`, `displayName` and `codexNumber`. Reading is strict: an unknown key, a key given
twice or a value of the wrong shape refuses the file, and every complaint is collected in
document order with its line. A null leaves a field as it was; an empty entry is dropped; no
document or no `accounts` gives no list. Writing omits an empty display name and writes an empty
list as `[]`.
-/

namespace QuotaWatch

open Yaml

/-- Why an account file is refused. -/
structure FileError where
  message : String
  deriving Inhabited

/-! ### Tags -/

/-- The tag a plain scalar's text resolves to. -/
def resolvedTag (v : String) : String := (resolve v).tag

/-- The tag a node carries: the one written on it, else `!!merge` for a plain `<<`, the resolved
tag of any other plain scalar, `!!str` for any other scalar, and the kind of a collection. -/
def nodeTag : Node → String
  | .scalar v s t _ =>
    if t ≠ "" then t
    else if s = .plain then (if v = "<<" then "!!merge" else resolvedTag v)
    else "!!str"
  | .seq _ t _ => if t ≠ "" then t else "!!seq"
  | .map _ t _ => if t ≠ "" then t else "!!map"
  | .alias _ none _ => ""
  | .alias _ (some n) _ => match n with
    | .scalar v s t _ =>
      if t ≠ "" then t
      else if s = .plain then (if v = "<<" then "!!merge" else resolvedTag v) else "!!str"
    | .seq _ t _ => if t ≠ "" then t else "!!seq"
    | .map _ t _ => if t ≠ "" then t else "!!map"
    | .alias _ _ _ => ""

/-- Whether a tag is one whose meaning the text must agree with. -/
def resolvableTag (t : String) : Bool :=
  t = "" || t = "!!str" || t = "!!bool" || t = "!!int" || t = "!!float" || t = "!!timestamp" ||
    t = "!!null"

/-- What a scalar means when read into a field: a plain meaning, or a text. -/
inductive Scalar where
  | value (v : Value)
  | text (s : String)

/-- The meaning of a scalar of text `v` and tag `t`, and the tag it is taken with. A string tag
gives the text; a tag whose meaning the text must agree with gives what the text resolves to,
a whole number taken as a float under `!!float`, and a fault when they disagree; any other tag
gives the text, decoded from base 64 under `!!binary`. -/
def scalarMeaning (v t : String) : Except String (String × Scalar) :=
  if t = "!!str" then .ok (t, .text v)
  else if resolvableTag t then
    let r := resolveAs (t = "!!timestamp") v
    let rt := r.tag
    if t = rt then .ok (t, .value r)
    else match t, r with
      | "!!float", .int i => .ok ("!!float", .value (.float (Float.ofInt i)))
      | _, _ => .error ("yaml: cannot decode " ++ rt ++ " " ++ "\x60" ++ v ++ "\x60" ++ " as a " ++ t)
  else if t = "!!binary" then
    match Base64.decode (Utf8.bytesOf v) with
    | .ok bs => .ok (t, .text (Utf8.textOf bs))
    | .error _ => .error "yaml: !!binary value contains invalid base64 data"
  else .ok (t, .text v)

/-! ### Complaints -/

/-- A scalar's text as a complaint shows it: whole up to ten bytes, else its first seven bytes
and an ellipsis. -/
def shownValue (v : String) : String :=
  let bs := Utf8.bytesOf v
  if bs.length > 10 then " " ++ "\x60" ++ Utf8.textOf (bs.take 7) ++ "..." ++ "\x60"
  else " " ++ "\x60" ++ v ++ "\x60"

/-- The complaint about a node that cannot become a value of the type named `target`. The text
is shown unless the tag is that of a collection. -/
def cannotUnmarshal (n : Node) (target : String) : String :=
  let tag := nodeTag n
  let text := match n with
    | .scalar v _ _ _ => v
    | _ => ""
  let value := if tag = "!!seq" || tag = "!!map" then "" else shownValue text
  "line " ++ toString n.line ++ ": cannot unmarshal " ++ tag ++ value ++ " into " ++ target

/-- The text a mapping key is compared by: a scalar's text, an alias's name; collections
compare by kind alone. -/
def keyText : Node → String
  | .scalar v _ _ _ => v
  | .alias a _ _ => a
  | _ => ""

/-- Whether two mapping keys are the same key: nodes of one kind with the same text. -/
def sameKey : Node → Node → Bool
  | .scalar a _ _ _, .scalar b _ _ _ => a == b
  | .seq _ _ _, .seq _ _ _ => true
  | .map _ _ _, .map _ _ _ => true
  | .alias a _ _, .alias b _ _ => a == b
  | _, _ => false

/-- The complaints about the keys of a mapping given twice: one for every later key equal to an
earlier one, at the later key's line. -/
def duplicateKeys (pairs : List (Node × Node)) : List String :=
  let keys := pairs.map (·.1)
  keys.zipIdx.flatMap fun (a, i) =>
    (keys.drop (i + 1)).filterMap fun b =>
      if sameKey a b then
        some ("line " ++ toString b.line ++ ": mapping key " ++ Text.quoted (keyText b) ++
          " already defined at line " ++ toString a.line)
      else none

/-- The complaints about a collection decoded into a type that cannot hold it, the type named
`target`: a mapping is first checked for keys given twice. -/
def collectionInto (n : Node) (target : String) : List String :=
  match n.target with
  | .map pairs _ _ =>
    let dups := duplicateKeys pairs
    if dups.isEmpty then [cannotUnmarshal n.target target] else dups
  | m => [cannotUnmarshal m target]

/-! ### Fields -/

/-- A text field: any scalar but a null gives its text, which is also what a non-null scalar
gives whatever it means; null keeps the field. -/
def decodeText (cur : String) (n : Node) : Except String (String × List String) := do
  match ← n.follow with
  | .scalar v s t l => do
    let (_, m) ← scalarMeaning v (nodeTag (.scalar v s t l))
    match m with
    | .value .null => pure (cur, [])
    | .text x => pure (x, [])
    | .value _ => pure (v, [])
  | m => pure (cur, collectionInto m "string")

/-- The name of a mapping key: `none` for a null key, which is skipped, and for a collection,
which is refused. -/
def keyName (n : Node) : Except String (Option String × List String) := do
  match ← n.follow with
  | .scalar v s t l => do
    let (_, m) ← scalarMeaning v (nodeTag (.scalar v s t l))
    match m with
    | .value .null => pure (none, [])
    | .text x => pure (some x, [])
    | .value _ => pure (some v, [])
  | m => pure (none, collectionInto m "string")

/-- An integer field: an integer in the signed 64-bit range, or a float up to 2⁶³ cut toward
zero; null keeps the field, and anything else is refused with the tag it was taken with. -/
def decodeInteger (cur : Int) (n : Node) : Except String (Int × List String) := do
  match ← n.follow with
  | .scalar v s t l => do
    let node := Node.scalar v s t l
    let (tag, m) ← scalarMeaning v (nodeTag node)
    let refuse := (cur, ["line " ++ toString l ++ ": cannot unmarshal " ++ tag ++ shownValue v ++ " into int"])
    match m with
    | .value .null => pure (cur, [])
    | .value (.int i) => pure (i, [])
    | .value (.float x) =>
      if x ≤ 9223372036854775808.0 then
        match truncToInt64 x with
        | some i => pure (i, [])
        | none => pure refuse
      else pure refuse
    | _ => pure refuse
  | m => pure (cur, collectionInto m "int")

/-! ### Records and merges -/

/-- Whether a mapping key asks to merge another mapping in: a plain `<<`, or one tagged
`!!merge`. -/
def isMergeKey (k : Node) : Bool :=
  match k with
  | .scalar v _ _ _ => v = "<<" && nodeTag k = "!!merge"
  | _ => false

/-- The names of the keys of a mapping that read as texts, which a merge into it leaves alone. -/
def textKeys (pairs : List (Node × Node)) : List String :=
  pairs.filterMap fun (k, _) =>
    match k.target with
    | .scalar v .plain "" _ => if resolvedTag v = "!!str" then some v else none
    | .scalar v s t l =>
      match scalarMeaning v (nodeTag (.scalar v s t l)) with
      | .ok (_, .text x) => some x
      | _ => none
    | _ => none

/-- Whether a node may be merged into a mapping: a mapping, or an alias to one (a reference met
again inside its own target stands for the mapping it is inside). -/
def mergeable (n : Node) : Bool :=
  match n.target with
  | .map _ _ _ => true
  | .alias _ none _ => true
  | _ => false

/-- The fault of a merge whose value is not a mapping or a list of mappings. -/
def mergeFault : String := "yaml: map merge requires map or sequence of maps as the value"

/-- The fields of a mapping decoded into a structure named `target` that holds `cur`: each known
key by its `field` step, every unknown one a complaint, a field set twice a complaint. A `<<` key
merges its mapping (or list of mappings) in after the other keys, for the names not given yet;
`taken` holds those names while a merge is under way. Returns the structure, whether the
mapping was taken, and the names taken so far. -/
def decodeFields {α : Type} (target : String) (field : String → Option (α → Node → Except String (α × List String))) :
    Nat → Option (List String) → α → List (Node × Node) → Except String ((α × Bool × Option (List String)) × List String)
  | 0, taken, cur, _ => .ok ((cur, true, taken), [])
  | fuel + 1, taken, cur, pairs => do
    let dups := duplicateKeys pairs
    if !dups.isEmpty then return ((cur, false, taken), dups)
    let step := fun (acc : (α × List String × Option (List String) × Option Node) × List String)
        (kv : Node × Node) => do
      let ((v, done, taken, mergeNode), errs) := acc
      if isMergeKey kv.1 then return ((v, done, taken, some kv.2), errs)
      let (name?, e) ← keyName kv.1
      match name? with
      | none => return ((v, done, taken, mergeNode), errs ++ e)
      | some name =>
        let skip := match taken with
          | some ns => ns.contains name
          | none => false
        if skip then return ((v, done, taken, mergeNode), errs ++ e)
        let taken := taken.map (· ++ [name])
        match field name with
        | some set =>
          if done.contains name then
            return ((v, done, taken, mergeNode), errs ++ e ++
              ["line " ++ toString kv.1.line ++ ": field " ++ name ++ " already set in type " ++ target])
          let (v, e2) ← set v kv.2
          return ((v, done ++ [name], taken, mergeNode), errs ++ e ++ e2)
        | none =>
          return ((v, done, taken, mergeNode), errs ++ e ++
            ["line " ++ toString kv.1.line ++ ": field " ++ name ++ " not found in type " ++ target])
    let ((v, _, taken, mergeNode), errs) ← pairs.foldlM step ((cur, [], taken, none), [])
    match mergeNode with
    | none => return ((v, true, taken), errs)
    | some m =>
      let names := textKeys pairs
      let sources : List Node := match m with
        | .seq items _ _ => items
        | _ => [m]
      if let .seq _ _ _ := m then pure () else
        if !mergeable m then throw mergeFault
      let ((v, _), errs2) ← sources.foldlM (fun (acc : (α × List String) × List String) src => do
          let ((v, ns), errs) := acc
          if !mergeable src then throw mergeFault
          match ← src.follow with
          | .map ps _ _ =>
            let ((v, _, ns'), e) ← decodeFields target field fuel (some ns) v ps
            return ((v, ns'.getD ns), errs ++ e)
          | _ => throw mergeFault) ((v, names), [])
      return ((v, true, taken), errs ++ errs2)

/-- The field of a config a key names. -/
def configField (name : String) : Option (AccountConfig → Node → Except String (AccountConfig × List String)) :=
  if name = "email" then some fun c n => do
    let (v, e) ← decodeText c.email n
    pure ({ c with email := v }, e)
  else if name = "displayName" then some fun c n => do
    let (v, e) ← decodeText c.displayName n
    pure ({ c with displayName := v }, e)
  else if name = "codexNumber" then some fun c n => do
    let (v, e) ← decodeInteger c.ordinal n
    pure ({ c with ordinal := v }, e)
  else none

/-- One config from a node; `none` when the entry is dropped: a null, a node that is not a
mapping (which is also refused), or a mapping with a key given twice. -/
def AccountConfig.decodeNode (fuel : Nat) (n : Node) : Except String (Option AccountConfig × List String) := do
  match ← n.follow with
  | .map pairs _ _ => do
    let ((c, good, _), errs) ← decodeFields "accounts.Config" configField fuel none {} pairs
    return (if good then some c else none, errs)
  | .scalar v s t l => do
    let m := Node.scalar v s t l
    let (_, meaning) ← scalarMeaning v (nodeTag m)
    match meaning with
    | .value .null => return (none, [])
    | _ => return (none, [cannotUnmarshal m "accounts.Config"])
  | m => return (none, [cannotUnmarshal m "accounts.Config"])

/-- The value of `accounts`: the configs of a list, dropped entries left out; null gives no
list. -/
def decodeConfigList (fuel : Nat) (cur : Option (List AccountConfig)) (n : Node) :
    Except String (Option (List AccountConfig) × List String) := do
  match ← n.follow with
  | .seq items _ _ => do
    let decoded ← items.mapM (AccountConfig.decodeNode fuel)
    return (some (decoded.filterMap (·.1)), decoded.flatMap (·.2))
  | .scalar v s t l => do
    let m := Node.scalar v s t l
    let (_, meaning) ← scalarMeaning v (nodeTag m)
    match meaning with
    | .value .null => return (none, [])
    | _ => return (cur, [cannotUnmarshal m "[]accounts.Config"])
  | m => return (cur, collectionInto m "[]accounts.Config")

/-- The field of the file a key names. -/
def fileField (fuel : Nat) (name : String) :
    Option (Option (List AccountConfig) → Node → Except String (Option (List AccountConfig) × List String)) :=
  if name = "accounts" then some (decodeConfigList fuel) else none

/-- The configs of a document node, and the complaints about it; no configs when it has no
`accounts` or they are null. -/
def decodeAccountFile (fuel : Nat) (n : Node) : Except String (Option (List AccountConfig) × List String) := do
  match ← n.follow with
  | .map pairs _ _ => do
    let ((v, _, _), errs) ← decodeFields "accounts.File" (fileField fuel) fuel none none pairs
    return (v, errs)
  | .scalar v s t l => do
    let m := Node.scalar v s t l
    let (_, meaning) ← scalarMeaning v (nodeTag m)
    match meaning with
    | .value .null => return (none, [])
    | _ => return (none, [cannotUnmarshal m "accounts.File"])
  | m => return (none, [cannotUnmarshal m "accounts.File"])

/-- The message of the complaints found while decoding. -/
def unmarshalMessage (errs : List String) : String :=
  "yaml: unmarshal errors:\n  " ++ "\n  ".intercalate errs

/-- The configs of an account file's bytes: `none` when it holds no document or no list. -/
def readAccountFile (data : List UInt8) : Except FileError (Option (List AccountConfig)) :=
  match readStream data with
  | .error e => .error ⟨e.text⟩
  | .ok none => .ok none
  | .ok (some n) =>
    match decodeAccountFile (data.length + 2) n with
    | .error msg => .error ⟨msg⟩
    | .ok (cs, []) => .ok cs
    | .ok (_, errs) => .error ⟨unmarshalMessage errs⟩

/-- The account file of a list of configs. -/
def writeAccountFile (cs : List AccountConfig) : String :=
  let value := fun (s : String) =>
    let t := scalarText 4 s
    if t.endsWith "\n" then t else t ++ "\n"
  if cs.isEmpty then "accounts: []\n"
  else "accounts:\n" ++ String.join (cs.map fun c =>
    "  - email: " ++ value c.email ++
    (if c.displayName = "" then "" else "    displayName: " ++ value c.displayName) ++
    "    codexNumber: " ++ toString c.ordinal ++ "\n")

end QuotaWatch
