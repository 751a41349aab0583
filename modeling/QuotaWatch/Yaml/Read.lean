import QuotaWatch.Yaml.Events
/-!
**Reading the first document of a YAML stream into a tree.**

Parser events are assembled into nodes. An anchor names its node from the node's start, and an
alias to a name not anchored before is an error. Tags keep their short form and `!` counts as no
tag. Nodes are collected in a table and the tree is unfolded from it: an alias to a completed
node shares its tree, and an alias inside its own target is unfolded once more, marked, so a
reader finds the cycle.
-/

namespace QuotaWatch.Yaml

/-- The short form of a tag: the standard prefix `tag:yaml.org,2002:` written as `!!`. -/
def shortTag (t : String) : String :=
  let long := "tag:yaml.org,2002:"
  if t.startsWith long then "!!" ++ String.ofList (t.toList.drop long.length) else t

/-- The tag a node keeps: none for no tag or the non-specific `!`, else the short form. -/
def keptTag (t : String) : String := if t = "" || t = "!" then "" else shortTag t

/-- A node of the table: children and alias targets by position. An alias records whether its
target was still open when it was read. -/
inductive Entry where
  | scalar (value : String) (style : Style) (tag : String) (line : Nat)
  | seq (items : Array Nat) (tag : String) (line : Nat)
  | map (pairs : Array (Nat × Nat)) (tag : String) (line : Nat)
  | alias (name : String) (target : Nat) (cyclic : Bool) (line : Nat)
  deriving Inhabited

/-- The state of reading: the parser, the event it stands at (when looked at but not taken),
the table, whether each entry is complete, and the anchors, latest first. -/
structure Builder where
  parser : Parser
  pending : Option Event := none
  table : Array Entry := #[]
  done : Array Bool := #[]
  anchors : List (String × Nat) := []
  deriving Inhabited

/-- A step of reading. -/
abbrev BuildM := StateT Builder (Except ReadError)

/-- The event the reader stands at. -/
def peekEvent : BuildM Event := do
  let b ← get
  match b.pending with
  | some e => return e
  | none =>
    match nextEvent.run b.parser with
    | .ok (e, p) =>
      set { b with parser := p, pending := some e }
      return e
    | .error err => throw err

/-- Moves past the event the reader stands at. -/
def takeEvent : BuildM Unit := modify fun b => { b with pending := none }

/-- Adds an entry to the table, open or complete. -/
def addEntry (e : Entry) (complete : Bool) : BuildM Nat :=
  modifyGet fun b => (b.table.size, { b with table := b.table.push e, done := b.done.push complete })

/-- Completes the entry at `i`. -/
def completeEntry (i : Nat) (e : Entry) : BuildM Unit :=
  modify fun b => { b with table := b.table.set! i e, done := b.done.set! i true }

/-- Names the entry at `i` by an anchor, if one is written. -/
def anchorEntry (name : String) (i : Nat) : BuildM Unit :=
  if name.isEmpty then pure () else modify fun b => { b with anchors := (name, i) :: b.anchors }

/-- A bound on the events of the stream. -/
def eventBudget : BuildM Nat := return 4 * (← get).parser.scanner.input.size + 16

/-- Reads a node and the nodes inside it into the table, and returns its position. -/
def readNode : Nat → BuildM Nat
  | 0 => throw ⟨"exceeded max depth", 0⟩
  | fuel + 1 => do
    let e ← peekEvent
    let line := e.start.line + 1
    match e.kind with
    | .alias name =>
      match (← get).anchors.lookup name with
      | none => throw ⟨"unknown anchor '" ++ name ++ "' referenced", 0⟩
      | some target =>
        let cyclic := !((← get).done.getD target true)
        takeEvent
        addEntry (.alias name target cyclic line) true
    | .scalar anchor tag value style =>
      let i ← addEntry (.scalar value style (keptTag tag) line) true
      anchorEntry anchor i
      takeEvent
      return i
    | .sequenceStart anchor tag =>
      let i ← addEntry (.seq #[] (keptTag tag) line) false
      anchorEntry anchor i
      takeEvent
      let mut items := #[]
      for _ in [0:(← eventBudget)] do
        if let .sequenceEnd := (← peekEvent).kind then break
        items := items.push (← readNode fuel)
      takeEvent
      completeEntry i (.seq items (keptTag tag) line)
      return i
    | .mappingStart anchor tag =>
      let i ← addEntry (.map #[] (keptTag tag) line) false
      anchorEntry anchor i
      takeEvent
      let mut pairs := #[]
      for _ in [0:(← eventBudget)] do
        if let .mappingEnd := (← peekEvent).kind then break
        let k ← readNode fuel
        let v ← readNode fuel
        pairs := pairs.push (k, v)
      takeEvent
      completeEntry i (.map pairs (keptTag tag) line)
      return i
    | _ => throw ⟨"did not find expected node content", 0⟩

/-- Whether the entry at `i` reaches no alias to a collection it is inside, so that its tree is
the same wherever it is unfolded. Computed in table order for the entries before `i`. -/
def closedEntries (table : Array Entry) : Array Bool :=
  let n := table.size
  -- Children come after their parent and complete targets before their aliases, so a pass from
  -- the end settles children first; targets are settled by a second pass.
  let pass := fun (closed : Array Bool) =>
    (List.range n).reverse.foldl (fun (acc : Array Bool) i =>
      let c := match table.getD i default with
        | .scalar _ _ _ _ => true
        | .seq items _ _ => items.all (acc.getD · false)
        | .map pairs _ _ => pairs.all fun (k, v) => acc.getD k false && acc.getD v false
        | .alias _ t cyclic _ => !cyclic && acc.getD t false
      acc.set! i c) closed
  let aliases := table.toList.filter fun e => match e with
    | .alias _ _ _ _ => true
    | _ => false
  (List.range (aliases.length + 1)).foldl (fun acc _ => pass acc) (Array.replicate n false)

/-- Unfolds the entry at `i` into a tree, with the aliases in `following` being followed. A
closed entry is taken from `shared`, unfolded once for every place it appears. -/
def unfold (table : Array Entry) (closed : Array Bool) (shared : Array Node) :
    Nat → List Nat → Nat → Node
  | 0, _, _ => Node.empty
  | fuel + 1, following, i =>
    if closed.getD i false then shared.getD i Node.empty
    else
      match table.getD i default with
      | .scalar v s t l => .scalar v s t l
      | .seq items t l => .seq (items.toList.map (unfold table closed shared fuel following)) t l
      | .map pairs t l =>
        .map (pairs.toList.map fun (k, v) =>
          (unfold table closed shared fuel following k, unfold table closed shared fuel following v)) t l
      | .alias name target _ l =>
        if following.contains i then .alias name none l
        else .alias name (some (unfold table closed shared fuel (i :: following) target)) l

/-- The trees of the closed entries, each built from the trees of its children and targets. -/
def sharedTrees (table : Array Entry) (closed : Array Bool) : Array Node :=
  let n := table.size
  -- An entry's children come after it and its targets before it: build children first, then
  -- settle aliases to earlier entries by repeating the pass.
  let pass := fun (trees : Array Node) =>
    (List.range n).reverse.foldl (fun (acc : Array Node) i =>
      if !closed.getD i false then acc
      else
        let tree := match table.getD i default with
          | .scalar v s t l => Node.scalar v s t l
          | .seq items t l => .seq (items.toList.map (acc.getD · Node.empty)) t l
          | .map pairs t l => .map (pairs.toList.map fun (k, v) => (acc.getD k Node.empty, acc.getD v Node.empty)) t l
          | .alias name target _ l => .alias name (some (acc.getD target Node.empty)) l
        acc.set! i tree) trees
  let aliases := table.toList.filter fun e => match e with
    | .alias _ _ _ _ => true
    | _ => false
  (List.range (aliases.length + 1)).foldl (fun acc _ => pass acc) (Array.replicate n Node.empty)

/-- The tree of the root entry of a table. -/
def Entry.tree (table : Array Entry) (root : Nat) : Node :=
  let closed := closedEntries table
  let shared := sharedTrees table closed
  let aliases := (table.toList.filter fun e => match e with
    | .alias _ _ _ _ => true
    | _ => false).length
  unfold table closed shared (table.size * (aliases + 1) + 1) [] root

/-- The first document of a stream of bytes, or `none` when the stream has no document. -/
def readStream (data : List UInt8) : Except ReadError (Option Node) := do
  let chars ← decodeInput data
  let input := chars.toArray
  let scanner : Scanner := { input, bomLead := input.getD 0 ' ' = '\uFEFF' }
  let read : BuildM (Option Node) := do
    let _ ← peekEvent
    takeEvent
    match (← peekEvent).kind with
    | .documentStart =>
      takeEvent
      let root ← readNode (2 * input.size + 8)
      let _ ← peekEvent
      takeEvent
      return some (Entry.tree (← get).table root)
    | _ => return none
  (read.run' { parser := { scanner } })

end QuotaWatch.Yaml
