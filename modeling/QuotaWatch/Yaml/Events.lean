import QuotaWatch.Yaml.Scan
/-!
**Assembling the tokens of a YAML stream into events.**

The parser turns tokens into events (stream, document, sequence and mapping starts and ends,
scalars and aliases, with anchors and resolved tags). It is a state machine with a stack of
return states and of the positions of open collections, which errors name. Only `%YAML 1.1` is
accepted; `!` and `!!` are always known. A missing key, value or entry is an empty plain scalar,
and a block mapping may hold an indentless sequence.
-/

namespace QuotaWatch.Yaml

/-- What an event is. Anchors and tags are empty when none is written. -/
inductive EventKind where
  | streamStart
  | streamEnd
  | documentStart
  | documentEnd
  | alias (name : String)
  | scalar (anchor tag value : String) (style : Style)
  | sequenceStart (anchor tag : String)
  | sequenceEnd
  | mappingStart (anchor tag : String)
  | mappingEnd
  deriving Inhabited

/-- An event and where it starts. -/
structure Event where
  kind : EventKind
  start : Mark
  deriving Inhabited

/-- What the parser expects next. -/
inductive ParseState where
  | streamStart
  | implicitDocumentStart
  | documentStart
  | documentContent
  | documentEnd
  | blockNode
  | blockNodeOrIndentlessSequence
  | flowNode
  | blockSequenceFirstEntry
  | blockSequenceEntry
  | indentlessSequenceEntry
  | blockMappingFirstKey
  | blockMappingKey
  | blockMappingValue
  | flowSequenceFirstEntry
  | flowSequenceEntry
  | flowSequenceEntryMappingKey
  | flowSequenceEntryMappingValue
  | flowSequenceEntryMappingEnd
  | flowMappingFirstKey
  | flowMappingKey
  | flowMappingValue
  | flowMappingEmptyValue
  | finished
  deriving Inhabited, DecidableEq

/-- The state of parsing: the scanner, the current state and the states to return to, the
positions of the open collections, and the tag handles of the current document with their
prefixes. -/
structure Parser where
  scanner : Scanner
  state : ParseState := .streamStart
  states : List ParseState := []
  marks : List Mark := []
  tags : List (String × String) := []
  deriving Inhabited

/-- A step of parsing. -/
abbrev ParseM := StateT Parser (Except ReadError)

/-- Runs a step of the scanner. -/
def onScanner {α : Type} (m : Scan α) : ParseM α := do
  let p ← get
  match m.run p.scanner with
  | .ok (a, sc) =>
    set { p with scanner := sc }
    return a
  | .error e => throw e

/-- The token the parser stands at. -/
def peekTok : ParseM Token := onScanner peekToken

/-- Moves past the token the parser stands at. -/
def skipTok : ParseM Unit := onScanner skipToken

/-- A bound on the steps of a loop that takes a token each time. -/
def tokenBudget : ParseM Nat := return 4 * (← get).scanner.input.size + 16

/-- Fails at the token at `problem`. -/
def parseError {α : Type} (message : String) (problem : Mark) : ParseM α :=
  throw (ReadError.parse 0 problem.line message)

/-- Fails at the token at `problem`, in what started at `ctx`. -/
def parseErrorIn {α : Type} (ctx : Mark) (message : String) (problem : Mark) : ParseM α :=
  throw (ReadError.parse ctx.line problem.line message)

/-- Goes on in state `st`. -/
def setState (st : ParseState) : ParseM Unit := modify fun p => { p with state := st }

/-- Remembers `st` as the state to return to. -/
def pushState (st : ParseState) : ParseM Unit := modify fun p => { p with states := st :: p.states }

/-- Returns to the state last remembered. -/
def popState : ParseM Unit := modify fun p =>
  match p.states with
  | st :: rest => { p with state := st, states := rest }
  | [] => p

/-- Remembers where a collection starts. -/
def pushMark (m : Mark) : ParseM Unit := modify fun p => { p with marks := m :: p.marks }

/-- Forgets where the innermost collection starts, and tells it. -/
def popMark : ParseM Mark := do
  let p ← get
  match p.marks with
  | m :: rest =>
    set { p with marks := rest }
    return m
  | [] => return ⟨0, 0, 0⟩

/-- The empty plain scalar that stands for a missing node at `m`. -/
def emptyScalar (m : Mark) : Event := ⟨.scalar "" "" "" .plain, m⟩

/-- Whether a token is a directive. -/
def TokenKind.isDirective : TokenKind → Bool
  | .versionDirective _ _ => true
  | .tagDirective _ _ => true
  | _ => false

/-! ### Documents -/

/-- The start of the stream. -/
def parseStreamStart : ParseM Event := do
  let t ← peekTok
  if t.kind ≠ .streamStart then parseError "did not find expected <stream-start>" t.start
  setState .implicitDocumentStart
  skipTok
  return ⟨.streamStart, t.start⟩

/-- Reads the directives before a document, then adds the handles always known. -/
def processDirectives : ParseM Unit := do
  let mut version := false
  for _ in [0:(← tokenBudget)] do
    let t ← peekTok
    match t.kind with
    | .versionDirective major minor =>
      if version then parseError "found duplicate %YAML directive" t.start
      if major ≠ 1 || minor ≠ 1 then parseError "found incompatible YAML document" t.start
      version := true
    | .tagDirective h pre =>
      if (← get).tags.any (·.1 = h) then parseError "found duplicate %TAG directive" t.start
      modify fun p => { p with tags := p.tags ++ [(h, pre)] }
    | _ => break
    skipTok
  for (h, pre) in [("!", "!"), ("!!", "tag:yaml.org,2002:")] do
    if !(← get).tags.any (·.1 = h) then
      modify fun p => { p with tags := p.tags ++ [(h, pre)] }

/-- The start of a document, or the end of the stream. A document without `---` is implicit;
after the first document, extra `...` markers are skipped and `---` is required. -/
def parseDocumentStart (implicit : Bool) : ParseM Event := do
  let mut t ← peekTok
  if !implicit then
    for _ in [0:(← tokenBudget)] do
      if t.kind = .documentEnd then
        skipTok
        t ← peekTok
      else break
  if implicit && !t.kind.isDirective && t.kind ≠ .documentStart && t.kind ≠ .streamEnd then
    processDirectives
    pushState .documentEnd
    setState .blockNode
    return ⟨.documentStart, t.start⟩
  else if t.kind ≠ .streamEnd then
    let start := t.start
    processDirectives
    let d ← peekTok
    if d.kind ≠ .documentStart then parseError "did not find expected <document start>" d.start
    pushState .documentEnd
    setState .documentContent
    skipTok
    return ⟨.documentStart, start⟩
  else
    setState .finished
    skipTok
    return ⟨.streamEnd, t.start⟩

/-- The end of a document, with its `...` if written. -/
def parseDocumentEnd : ParseM Event := do
  let t ← peekTok
  if t.kind = .documentEnd then skipTok
  modify fun p => { p with tags := [], state := .documentStart }
  return ⟨.documentEnd, t.start⟩

/-! ### Nodes -/

/-- A node: an alias, or a scalar or the start of a collection with the anchor and tag before
it; an anchor or tag with nothing after it is an empty scalar. `block` allows block
collections, `indentless` a sequence at the column of its mapping key. -/
def parseNode (block indentless : Bool) : ParseM Event := do
  let first ← peekTok
  if let .alias name := first.kind then
    popState
    skipTok
    return ⟨.alias name, first.start⟩
  let start := first.start
  let mut t := first
  let mut anchor := ""
  let mut tagged := false
  let mut handle := ""
  let mut suffix := ""
  let mut tagMark := first.start
  match first.kind with
  | .anchor name =>
    anchor := name
    skipTok
    t ← peekTok
    if let .tag h sfx := t.kind then
      tagged := true
      handle := h
      suffix := sfx
      tagMark := t.start
      skipTok
      t ← peekTok
  | .tag h sfx =>
    tagged := true
    handle := h
    suffix := sfx
    skipTok
    t ← peekTok
    if let .anchor name := t.kind then
      anchor := name
      skipTok
      t ← peekTok
  | _ => pure ()
  let mut tag := ""
  if tagged then
    if handle.isEmpty then tag := suffix
    else
      match (← get).tags.lookup handle with
      | some pre => tag := pre ++ suffix
      | none => parseErrorIn start "found undefined tag handle" tagMark
  if indentless && t.kind = .blockEntry then
    setState .indentlessSequenceEntry
    return ⟨.sequenceStart anchor tag, start⟩
  match t.kind with
  | .scalar v style =>
    popState
    skipTok
    return ⟨.scalar anchor tag v style, start⟩
  | .flowSequenceStart =>
    setState .flowSequenceFirstEntry
    return ⟨.sequenceStart anchor tag, start⟩
  | .flowMappingStart =>
    setState .flowMappingFirstKey
    return ⟨.mappingStart anchor tag, start⟩
  | _ =>
    if block && t.kind = .blockSequenceStart then
      setState .blockSequenceFirstEntry
      return ⟨.sequenceStart anchor tag, start⟩
    if block && t.kind = .blockMappingStart then
      setState .blockMappingFirstKey
      return ⟨.mappingStart anchor tag, start⟩
    if !anchor.isEmpty || !tag.isEmpty then
      popState
      return ⟨.scalar anchor tag "" .plain, start⟩
    parseErrorIn start "did not find expected node content" t.start

/-- The content of an explicit document, which may be empty. -/
def parseDocumentContent : ParseM Event := do
  let t ← peekTok
  if t.kind.isDirective || t.kind = .documentStart || t.kind = .documentEnd ||
      t.kind = .streamEnd then
    popState
    return emptyScalar t.start
  parseNode true false

/-! ### Block collections -/

/-- An entry of a block sequence, or its end. -/
def parseBlockSequenceEntry (first : Bool) : ParseM Event := do
  if first then
    let t ← peekTok
    pushMark t.start
    skipTok
  let t ← peekTok
  if t.kind = .blockEntry then
    skipTok
    let n ← peekTok
    if n.kind ≠ .blockEntry && n.kind ≠ .blockEnd then
      pushState .blockSequenceEntry
      parseNode true false
    else
      setState .blockSequenceEntry
      return emptyScalar t.stop
  else if t.kind = .blockEnd then
    popState
    let _ ← popMark
    skipTok
    return ⟨.sequenceEnd, t.start⟩
  else
    let ctx ← popMark
    parseErrorIn ctx "did not find expected '-' indicator" t.start

/-- An entry of a sequence at the column of its mapping key, or its end. -/
def parseIndentlessSequenceEntry : ParseM Event := do
  let t ← peekTok
  if t.kind = .blockEntry then
    skipTok
    let n ← peekTok
    if n.kind ≠ .blockEntry && n.kind ≠ .key && n.kind ≠ .value && n.kind ≠ .blockEnd then
      pushState .indentlessSequenceEntry
      parseNode true false
    else
      setState .indentlessSequenceEntry
      return emptyScalar t.stop
  else
    popState
    return ⟨.sequenceEnd, t.start⟩

/-- A key of a block mapping, or its end. -/
def parseBlockMappingKey (first : Bool) : ParseM Event := do
  if first then
    let t ← peekTok
    pushMark t.start
    skipTok
  let t ← peekTok
  if t.kind = .key then
    skipTok
    let n ← peekTok
    if n.kind ≠ .key && n.kind ≠ .value && n.kind ≠ .blockEnd then
      pushState .blockMappingValue
      parseNode true true
    else
      setState .blockMappingValue
      return emptyScalar t.stop
  else if t.kind = .blockEnd then
    popState
    let _ ← popMark
    skipTok
    return ⟨.mappingEnd, t.start⟩
  else
    let ctx ← popMark
    parseErrorIn ctx "did not find expected key" t.start

/-- A value of a block mapping, which may be missing. -/
def parseBlockMappingValue : ParseM Event := do
  let t ← peekTok
  if t.kind = .value then
    skipTok
    let n ← peekTok
    if n.kind ≠ .key && n.kind ≠ .value && n.kind ≠ .blockEnd then
      pushState .blockMappingKey
      parseNode true true
    else
      setState .blockMappingKey
      return emptyScalar t.stop
  else
    setState .blockMappingKey
    return emptyScalar t.start

/-! ### Flow collections -/

/-- An entry of a flow sequence, or its end. An entry `? key` or `key: value` is a mapping of
one pair. -/
def parseFlowSequenceEntry (first : Bool) : ParseM Event := do
  if first then
    let t ← peekTok
    pushMark t.start
    skipTok
  let mut t ← peekTok
  if t.kind ≠ .flowSequenceEnd then
    if !first then
      if t.kind = .flowEntry then
        skipTok
        t ← peekTok
      else
        let ctx ← popMark
        parseErrorIn ctx "did not find expected ',' or ']'" t.start
    if t.kind = .key then
      setState .flowSequenceEntryMappingKey
      skipTok
      return ⟨.mappingStart "" "", t.start⟩
    else if t.kind ≠ .flowSequenceEnd then
      pushState .flowSequenceEntry
      return ← parseNode false false
  popState
  let _ ← popMark
  skipTok
  return ⟨.sequenceEnd, t.start⟩

/-- The key of a one-pair mapping in a flow sequence. When it is missing, the token after it is
passed over. -/
def parseFlowSequenceEntryMappingKey : ParseM Event := do
  let t ← peekTok
  if t.kind ≠ .value && t.kind ≠ .flowEntry && t.kind ≠ .flowSequenceEnd then
    pushState .flowSequenceEntryMappingValue
    parseNode false false
  else
    skipTok
    setState .flowSequenceEntryMappingValue
    return emptyScalar t.stop

/-- The value of a one-pair mapping in a flow sequence. -/
def parseFlowSequenceEntryMappingValue : ParseM Event := do
  let t ← peekTok
  if t.kind = .value then
    skipTok
    let n ← peekTok
    if n.kind ≠ .flowEntry && n.kind ≠ .flowSequenceEnd then
      pushState .flowSequenceEntryMappingEnd
      return ← parseNode false false
  setState .flowSequenceEntryMappingEnd
  return emptyScalar t.start

/-- The end of a one-pair mapping in a flow sequence. -/
def parseFlowSequenceEntryMappingEnd : ParseM Event := do
  let t ← peekTok
  setState .flowSequenceEntry
  return ⟨.mappingEnd, t.start⟩

/-- A key of a flow mapping, or its end. -/
def parseFlowMappingKey (first : Bool) : ParseM Event := do
  if first then
    let t ← peekTok
    pushMark t.start
    skipTok
  let mut t ← peekTok
  if t.kind ≠ .flowMappingEnd then
    if !first then
      if t.kind = .flowEntry then
        skipTok
        t ← peekTok
      else
        let ctx ← popMark
        parseErrorIn ctx "did not find expected ',' or '\x7d'" t.start
    if t.kind = .key then
      skipTok
      let n ← peekTok
      if n.kind ≠ .value && n.kind ≠ .flowEntry && n.kind ≠ .flowMappingEnd then
        pushState .flowMappingValue
        return ← parseNode false false
      else
        setState .flowMappingValue
        return emptyScalar n.start
    else if t.kind ≠ .flowMappingEnd then
      pushState .flowMappingEmptyValue
      return ← parseNode false false
  popState
  let _ ← popMark
  skipTok
  return ⟨.mappingEnd, t.start⟩

/-- A value of a flow mapping; `empty` when the key was written without `:`. -/
def parseFlowMappingValue (empty : Bool) : ParseM Event := do
  let t ← peekTok
  if empty then
    setState .flowMappingKey
    return emptyScalar t.start
  let mut t := t
  if t.kind = .value then
    skipTok
    t ← peekTok
    if t.kind ≠ .flowEntry && t.kind ≠ .flowMappingEnd then
      pushState .flowMappingKey
      return ← parseNode false false
  setState .flowMappingKey
  return emptyScalar t.start

/-- The next event of the stream; after the end of the stream, the end again. -/
def nextEvent : ParseM Event := do
  match (← get).state with
  | .streamStart => parseStreamStart
  | .implicitDocumentStart => parseDocumentStart true
  | .documentStart => parseDocumentStart false
  | .documentContent => parseDocumentContent
  | .documentEnd => parseDocumentEnd
  | .blockNode => parseNode true false
  | .blockNodeOrIndentlessSequence => parseNode true true
  | .flowNode => parseNode false false
  | .blockSequenceFirstEntry => parseBlockSequenceEntry true
  | .blockSequenceEntry => parseBlockSequenceEntry false
  | .indentlessSequenceEntry => parseIndentlessSequenceEntry
  | .blockMappingFirstKey => parseBlockMappingKey true
  | .blockMappingKey => parseBlockMappingKey false
  | .blockMappingValue => parseBlockMappingValue
  | .flowSequenceFirstEntry => parseFlowSequenceEntry true
  | .flowSequenceEntry => parseFlowSequenceEntry false
  | .flowSequenceEntryMappingKey => parseFlowSequenceEntryMappingKey
  | .flowSequenceEntryMappingValue => parseFlowSequenceEntryMappingValue
  | .flowSequenceEntryMappingEnd => parseFlowSequenceEntryMappingEnd
  | .flowMappingFirstKey => parseFlowMappingKey true
  | .flowMappingKey => parseFlowMappingKey false
  | .flowMappingValue => parseFlowMappingValue false
  | .flowMappingEmptyValue => parseFlowMappingValue true
  | .finished => return ⟨.streamEnd, (← get).scanner.mark⟩

end QuotaWatch.Yaml
