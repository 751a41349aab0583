import QuotaWatch.Yaml.Input
import QuotaWatch.Yaml.Node
/-!
**Cutting a YAML stream into tokens.**

The scanner produces the tokens of the syntax: markers, directives, indicators, anchors,
aliases, tags and scalars. It keeps a stack of indentation columns and emits block starts and
`BLOCK-END` where columns open and close. A simple key is only known once its `:` is found: one
candidate is remembered per flow level and its `KEY` token inserted back when the `:` comes; a
candidate lapses at the end of its line or 1024 characters on, an error if it had to be a key.
Tokens are handed on only when no candidate could still precede them. Comments are skipped.
-/

namespace QuotaWatch.Yaml

/-- A position in the input: the characters read before it (a carriage return and line feed
count two), and its row and column, both counted from 0. -/
structure Mark where
  index : Nat
  line : Nat
  column : Nat
  deriving Inhabited

/-- What a token is. -/
inductive TokenKind where
  | streamStart
  | streamEnd
  | versionDirective (major minor : Nat)
  | tagDirective (handle pre : String)
  | documentStart
  | documentEnd
  | blockSequenceStart
  | blockMappingStart
  | blockEnd
  | flowSequenceStart
  | flowSequenceEnd
  | flowMappingStart
  | flowMappingEnd
  | blockEntry
  | flowEntry
  | key
  | value
  | alias (name : String)
  | anchor (name : String)
  | tag (handle suffix : String)
  | scalar (text : String) (style : Style)
  deriving Inhabited, DecidableEq

/-- A token and where it starts and stops. -/
structure Token where
  kind : TokenKind
  start : Mark
  stop : Mark
  deriving Inhabited

/-- A place where a simple key may have started: whether it still may be one, whether it must be
one, the number of the token it would be inserted before, and its position. -/
structure SimpleKey where
  possible : Bool
  required : Bool
  number : Nat
  mark : Mark
  deriving Inhabited

/-- The state of scanning: the input and the position in it, every token produced so far and the
number handed on, the flow nesting and the block indentation (with the columns of the enclosing
blocks), whether a simple key may start here, the candidates for simple keys (one per flow level)
with the token numbers of the live ones, the line breaks since the last character that is not a
blank, and whether the input starts with a byte order mark. -/
structure Scanner where
  input : Array Char
  pos : Nat := 0
  mark : Mark := ⟨0, 0, 0⟩
  tokens : Array Token := #[]
  parsed : Nat := 0
  started : Bool := false
  flowLevel : Nat := 0
  indent : Int := -1
  indents : List Int := []
  keyAllowed : Bool := false
  keys : Array SimpleKey := #[]
  keyAt : List (Nat × Nat) := []
  newlines : Nat := 0
  bomLead : Bool := false
  deriving Inhabited

/-- The character `k` places after the current one, or `'\x00'` past the end. -/
def Scanner.ahead (s : Scanner) (k : Nat) : Char := s.input.getD (s.pos + k) '\x00'

/-- The innermost candidate for a simple key. -/
def Scanner.topKey (s : Scanner) : SimpleKey := s.keys.back?.getD ⟨false, false, 0, s.mark⟩

/-! ### Characters -/

/-- Line breaks: carriage return, line feed, next line, and the line and paragraph separators. -/
def isLineBreak (c : Char) : Bool :=
  c = '\r' || c = '\n' || c = '\x85' || c = '\u2028' || c = '\u2029'

/-- The end of the input. -/
def isEndChar (c : Char) : Bool := c = '\x00'

/-- A blank, a line break, or the end. -/
def blankOrEnd (c : Char) : Bool := isBlank c || isLineBreak c || isEndChar c

/-- A line break or the end. -/
def breakOrEnd (c : Char) : Bool := isLineBreak c || isEndChar c

/-- The characters of names (of anchors, directives and tag handles): ASCII letters and digits,
`_` and `-`. -/
def isWordChar (c : Char) : Bool := (c.toNat < 128 && c.isAlphanum) || c = '_' || c = '-'

/-- Hexadecimal digits. -/
def isHexChar (c : Char) : Bool := c.isDigit || ('a' ≤ c && c ≤ 'f') || ('A' ≤ c && c ≤ 'F')

/-- The value of a hexadecimal digit. -/
def hexValue (c : Char) : Nat :=
  if c.isDigit then c.toNat - 48 else if 'a' ≤ c && c ≤ 'f' then c.toNat - 87 else c.toNat - 55

/-- The characters of a tag: name characters and `;/?:@&=+$.%!~*'()`, and in a verbatim tag or a
directive's prefix also `,`, `[` and `]`. -/
def uriChar (verbatim : Bool) (c : Char) : Bool :=
  isWordChar c || ";/?:@&=+$.%!~*'()".contains c || (verbatim && (c = ',' || c = '[' || c = ']'))

/-- Whether a document marker `---` or `...` stands at the current position. -/
def Scanner.atMarker (s : Scanner) : Bool :=
  ((s.ahead 0 = '-' && s.ahead 1 = '-' && s.ahead 2 = '-') ||
    (s.ahead 0 = '.' && s.ahead 1 = '.' && s.ahead 2 = '.')) && blankOrEnd (s.ahead 3)

/-! ### Moving through the input -/

/-- A step of scanning. -/
abbrev Scan := StateT Scanner (Except ReadError)

/-- The character `k` places ahead. -/
def peekAt (k : Nat) : Scan Char := return (← get).ahead k

/-- The current position. -/
def here : Scan Mark := return (← get).mark

/-- A bound on the steps of a loop that reads a character each time. -/
def budget : Scan Nat := return (← get).input.size + 2

/-- Fails at the current position, about what was read from `ctx` on. -/
def scanError {α : Type} (ctx : Mark) (message : String) : Scan α := do
  throw (ReadError.scan ctx.line (← get).mark.line message)

/-- Moves past one character of the current line. -/
def skip : Scan Unit := modify fun s =>
  { s with pos := s.pos + 1, mark := ⟨s.mark.index + 1, s.mark.line, s.mark.column + 1⟩,
           newlines := if isBlank (s.ahead 0) then s.newlines else 0 }

/-- Moves past a line break, if one stands here. -/
def skipLine : Scan Unit := modify fun s =>
  if s.ahead 0 = '\r' && s.ahead 1 = '\n' then
    { s with pos := s.pos + 2, mark := ⟨s.mark.index + 2, s.mark.line + 1, 0⟩,
             newlines := s.newlines + 1 }
  else if isLineBreak (s.ahead 0) then
    { s with pos := s.pos + 1, mark := ⟨s.mark.index + 1, s.mark.line + 1, 0⟩,
             newlines := s.newlines + 1 }
  else s

/-- Reads one character onto `acc`. -/
def readChar (acc : String) : Scan String := do
  let c ← peekAt 0
  skip
  return acc.push c

/-- Reads a line break onto `acc`: a line feed for a carriage return, a line feed, both, or a
next line; a line or paragraph separator as itself. -/
def readBreak (acc : String) : Scan String := do
  let s ← get
  let c := s.ahead 0
  if c = '\r' && s.ahead 1 = '\n' then
    set { s with pos := s.pos + 2, mark := ⟨s.mark.index + 2, s.mark.line + 1, 0⟩,
                 newlines := s.newlines + 1 }
    return acc.push '\n'
  else if isLineBreak c then
    set { s with pos := s.pos + 1, mark := ⟨s.mark.index + 1, s.mark.line + 1, 0⟩,
                 newlines := s.newlines + 1 }
    return acc.push (if c = '\u2028' || c = '\u2029' then c else '\n')
  else return acc

/-- Moves past the characters that satisfy `p`. -/
def skipWhile (p : Char → Bool) : Scan Unit := do
  for _ in [0:(← budget)] do
    if p (← peekAt 0) then skip else break

/-- Reads the characters that satisfy `p` onto `acc`. -/
def readWhile (p : Char → Bool) (acc : String) : Scan String := do
  let mut acc := acc
  for _ in [0:(← budget)] do
    if p (← peekAt 0) then acc ← readChar acc else break
  return acc

/-- Adds a token at the end of the queue. -/
def pushToken (kind : TokenKind) (start stop : Mark) : Scan Unit :=
  modify fun s => { s with tokens := s.tokens.push ⟨kind, start, stop⟩ }

/-- Puts a token before the token numbered `i`. -/
def insertToken (i : Nat) (t : Token) : Scan Unit :=
  modify fun s => { s with tokens := s.tokens.insertIdx! i t }

/-- Sets whether a simple key may start next. -/
def allowKey (b : Bool) : Scan Unit := modify fun s => { s with keyAllowed := b }

/-! ### Simple keys, flow levels and indentation -/

/-- Drops the innermost candidate for a simple key; a candidate that had to be a key is an
error. -/
def removeKey : Scan Unit := do
  let s ← get
  let k := s.topKey
  if k.possible then
    if k.required then scanError k.mark "could not find expected ':'"
    set { s with keys := s.keys.set! (s.keys.size - 1) { k with possible := false },
                 keyAt := s.keyAt.filter (·.1 ≠ k.number) }

/-- Remembers the current position as the innermost candidate for a simple key, if a key may
start here. It must be a key when it stands at the indentation of the enclosing block. -/
def saveKey : Scan Unit := do
  let s ← get
  if s.keyAllowed then
    let required := s.flowLevel = 0 && s.indent = (s.mark.column : Int)
    let k : SimpleKey := ⟨true, required, s.tokens.size, s.mark⟩
    removeKey
    modify fun s => { s with keys := s.keys.set! (s.keys.size - 1) k,
                             keyAt := (k.number, s.keys.size - 1) :: s.keyAt.filter (·.1 ≠ k.number) }

/-- Whether the candidate at level `i` may still be a key: a candidate on an earlier line or
more than 1024 characters back lapses, which is an error if it had to be a key. -/
def keyValid (i : Nat) : Scan Bool := do
  let s ← get
  let k := s.keys.getD i ⟨false, false, 0, s.mark⟩
  if !k.possible then return false
  if k.mark.line < s.mark.line || k.mark.index + 1024 < s.mark.index then
    if k.required then scanError k.mark "could not find expected ':'"
    set { s with keys := s.keys.set! i { k with possible := false } }
    return false
  return true

/-- Enters a flow collection. -/
def increaseFlow : Scan Unit := do
  modify fun s => { s with keys := s.keys.push ⟨false, false, 0, s.mark⟩, flowLevel := s.flowLevel + 1 }
  let s ← get
  if s.flowLevel > 10000 then scanError s.topKey.mark "exceeded max depth of 10000"

/-- Leaves a flow collection. -/
def decreaseFlow : Scan Unit := modify fun s =>
  if s.flowLevel > 0 then
    { s with flowLevel := s.flowLevel - 1, keyAt := s.keyAt.filter (·.1 ≠ s.topKey.number),
             keys := s.keys.pop }
  else s

/-- Opens a block at `column` if it is deeper than the current one, with a token of `kind` at
the end of the queue or before the token numbered `number`. Flow collections have no blocks. -/
def rollIndent (column : Int) (number : Option Nat) (kind : TokenKind) (mark : Mark) : Scan Unit := do
  let s ← get
  if s.flowLevel = 0 && s.indent < column then
    set { s with indents := s.indent :: s.indents, indent := column }
    if s.indents.length + 1 > 10000 then scanError s.topKey.mark "exceeded max depth of 10000"
    match number with
    | some n => insertToken n ⟨kind, mark, mark⟩
    | none => pushToken kind mark mark

/-- Closes the blocks deeper than `column`, each with a `BLOCK-END` token just before `scanMark`. -/
def unrollIndent (column : Int) (scanMark : Mark) : Scan Unit := do
  if (← get).flowLevel = 0 then
    let blockMark : Mark := { scanMark with index := scanMark.index - 1 }
    for _ in [0:(← get).indents.length + 1] do
      let s ← get
      if s.indent > column then
        match s.indents with
        | i :: rest =>
          set { s with indent := i, indents := rest,
                       tokens := s.tokens.push ⟨.blockEnd, blockMark, blockMark⟩ }
        | [] => break
      else break

/-! ### Stream, directives and document markers -/

/-- The start of the stream. -/
def fetchStreamStart : Scan Unit := modify fun s =>
  { s with indent := -1, keys := s.keys.push ⟨false, false, 0, s.mark⟩, keyAllowed := true,
           started := true, tokens := s.tokens.push ⟨.streamStart, s.mark, s.mark⟩ }

/-- The end of the stream, on a line of its own. -/
def fetchStreamEnd : Scan Unit := do
  modify fun s =>
    if s.mark.column ≠ 0 then { s with mark := ⟨s.mark.index, s.mark.line + 1, 0⟩ } else s
  unrollIndent (-1) (← here)
  removeKey
  allowKey false
  let m ← here
  pushToken .streamEnd m m

/-- The name of a directive after its `%`. -/
def scanDirectiveName (start : Mark) : Scan String := do
  let name ← readWhile isWordChar ""
  if name.isEmpty then scanError start "could not find expected directive name"
  if !blankOrEnd (← peekAt 0) then scanError start "found unexpected non-alphabetical character"
  return name

/-- A number of a `%YAML` version: one or two digits. -/
def scanVersionNumber (start : Mark) : Scan Nat := do
  let mut value := 0
  let mut length := 0
  for _ in [0:4] do
    let c ← peekAt 0
    if !c.isDigit then break
    length := length + 1
    if length > 2 then scanError start "found extremely long version number"
    value := value * 10 + (c.toNat - 48)
    skip
  if length = 0 then scanError start "did not find expected version number"
  return value

/-- The version of a `%YAML` directive. -/
def scanVersion (start : Mark) : Scan (Nat × Nat) := do
  skipWhile isBlank
  let major ← scanVersionNumber start
  if (← peekAt 0) ≠ '.' then scanError start "did not find expected digit or '.' character"
  skip
  let minor ← scanVersionNumber start
  return (major, minor)

/-- A tag handle: `!`, or `!name!`; in a directive it must be one of these, in a tag it may also
be the start of a local tag `!name`. -/
def scanTagHandle (directive : Bool) (start : Mark) : Scan String := do
  if (← peekAt 0) ≠ '!' then scanError start "did not find expected '!'"
  let mut s ← readChar ""
  s ← readWhile isWordChar s
  if (← peekAt 0) = '!' then s ← readChar s
  else if directive && s ≠ "!" then scanError start "did not find expected '!'"
  return s

/-- An escaped character of a tag, `%` and two hexadecimal digits for each byte of its UTF-8
form, onto `acc`. -/
def scanUriEscapes (start : Mark) (acc : String) : Scan String := do
  let mut width := 0
  let mut octets : Array UInt8 := #[]
  for _ in [0:5] do
    if width ≠ 0 && octets.size ≥ width then break
    let c1 ← peekAt 1
    let c2 ← peekAt 2
    if !((← peekAt 0) = '%' && isHexChar c1 && isHexChar c2) then
      scanError start "did not find URI escaped octet"
    let octet : UInt8 := (hexValue c1 * 16 + hexValue c2).toUInt8
    if width = 0 then
      width := sequenceWidth octet
      if width = 0 then scanError start "found an incorrect leading UTF-8 octet"
    else if octet &&& 0xC0 ≠ 0x80 then scanError start "found an incorrect trailing UTF-8 octet"
    octets := octets.push octet
    skip
    skip
    skip
  return acc ++ (String.fromUTF8? (ByteArray.mk octets)).getD "\uFFFD"

/-- The characters of a tag after `head` (whose leading `!` is dropped). -/
def scanTagUri (verbatim : Bool) (head : String) (start : Mark) : Scan String := do
  let mut s := String.ofList (head.toList.drop 1)
  let mut hasTag := !head.isEmpty
  for _ in [0:(← budget)] do
    let c ← peekAt 0
    if !uriChar verbatim c then break
    if c = '%' then s ← scanUriEscapes start s
    else s ← readChar s
    hasTag := true
  if !hasTag then scanError start "did not find expected tag URI"
  return s

/-- The handle and prefix of a `%TAG` directive. -/
def scanTagDirective (start : Mark) : Scan (String × String) := do
  skipWhile isBlank
  let handle ← scanTagHandle true start
  if !isBlank (← peekAt 0) then scanError start "did not find expected whitespace"
  skipWhile isBlank
  let pre ← scanTagUri true "" start
  if !blankOrEnd (← peekAt 0) then scanError start "did not find expected whitespace or line break"
  return (handle, pre)

/-- A directive, `%YAML` or `%TAG`, with the rest of its line. -/
def fetchDirective : Scan Unit := do
  unrollIndent (-1) (← here)
  removeKey
  allowKey false
  let start ← here
  skip
  let name ← scanDirectiveName start
  let kind ← if name = "YAML" then do
      let (major, minor) ← scanVersion start
      pure (TokenKind.versionDirective major minor)
    else if name = "TAG" then do
      let (h, p) ← scanTagDirective start
      pure (TokenKind.tagDirective h p)
    else scanError start "found unknown directive name"
  let stop ← here
  skipWhile isBlank
  if (← peekAt 0) = '#' then skipWhile (fun c => !breakOrEnd c)
  if !breakOrEnd (← peekAt 0) then scanError start "did not find expected comment or line break"
  skipLine
  pushToken kind start stop

/-- A document marker, `---` or `...`. -/
def fetchDocumentIndicator (kind : TokenKind) : Scan Unit := do
  unrollIndent (-1) (← here)
  removeKey
  allowKey false
  let start ← here
  skip
  skip
  skip
  pushToken kind start (← here)

/-! ### Indicators -/

/-- The start of a flow collection, which may start a simple key. -/
def fetchFlowStart (kind : TokenKind) : Scan Unit := do
  saveKey
  increaseFlow
  allowKey true
  let start ← here
  skip
  pushToken kind start (← here)

/-- The end of a flow collection. -/
def fetchFlowEnd (kind : TokenKind) : Scan Unit := do
  removeKey
  decreaseFlow
  allowKey false
  let start ← here
  skip
  pushToken kind start (← here)

/-- A `,` between flow entries. -/
def fetchFlowEntry : Scan Unit := do
  removeKey
  allowKey true
  let start ← here
  skip
  pushToken .flowEntry start (← here)

/-- A `-` before a block sequence entry, which opens a sequence at its column. -/
def fetchBlockEntry : Scan Unit := do
  let s ← get
  if s.flowLevel = 0 then
    if !s.keyAllowed then scanError s.mark "block sequence entries are not allowed in this context"
    rollIndent s.mark.column none .blockSequenceStart s.mark
  removeKey
  allowKey true
  let start ← here
  skip
  pushToken .blockEntry start (← here)

/-- A `?` before a key, which opens a mapping at its column. -/
def fetchKey : Scan Unit := do
  let s ← get
  if s.flowLevel = 0 then
    if !s.keyAllowed then scanError s.mark "mapping keys are not allowed in this context"
    rollIndent s.mark.column none .blockMappingStart s.mark
  removeKey
  allowKey ((← get).flowLevel = 0)
  let start ← here
  skip
  pushToken .key start (← here)

/-- A `:` after a key. If a simple key may have started before it, the `KEY` token (and the start
of a mapping at the key's column) is put back where the key started. -/
def fetchValue : Scan Unit := do
  let s ← get
  let i := s.keys.size - 1
  let k := s.topKey
  if ← keyValid i then
    insertToken k.number ⟨.key, k.mark, k.mark⟩
    rollIndent k.mark.column (some k.number) .blockMappingStart k.mark
    modify fun s => { s with keys := s.keys.set! i { k with possible := false },
                             keyAt := s.keyAt.filter (·.1 ≠ k.number), keyAllowed := false }
  else
    let s ← get
    if s.flowLevel = 0 then
      if !s.keyAllowed then scanError s.mark "mapping values are not allowed in this context"
      rollIndent s.mark.column none .blockMappingStart s.mark
    allowKey ((← get).flowLevel = 0)
  let start ← here
  skip
  pushToken .value start (← here)

/-! ### Anchors, aliases and tags -/

/-- An anchor `&name` or an alias `*name`. The name must be followed by a blank, a line break,
the end, or one of `? : , ] } % @` and the backquote. -/
def fetchAnchor (isAlias : Bool) : Scan Unit := do
  saveKey
  allowKey false
  let start ← here
  skip
  let name ← readWhile isWordChar ""
  let stop ← here
  let c ← peekAt 0
  if name.isEmpty || !(blankOrEnd c || "?:,]\x7d%@\x60".contains c) then
    scanError start "did not find expected alphabetic or numeric character"
  pushToken (if isAlias then .alias name else .anchor name) start stop

/-- A tag: `!<uri>` verbatim (no handle), `!handle!suffix`, `!suffix` (handle `!`), or `!` alone
(no handle, suffix `!`). It must be followed by a blank, a line break or the end, or by a comma
in a flow collection. -/
def fetchTag : Scan Unit := do
  saveKey
  allowKey false
  let start ← here
  let (handle, suffix) ← if (← peekAt 1) = '<' then do
      skip
      skip
      let suffix ← scanTagUri true "" start
      if (← peekAt 0) ≠ '>' then scanError start "did not find the expected '>'"
      skip
      pure ("", suffix)
    else do
      let handle ← scanTagHandle false start
      if handle.length > 1 && handle.endsWith "!" then
        let suffix ← scanTagUri false "" start
        pure (handle, suffix)
      else
        let suffix ← scanTagUri false handle start
        if suffix.isEmpty then pure ("", "!") else pure ("!", suffix)
  let c ← peekAt 0
  if !blankOrEnd c then
    if (← get).flowLevel = 0 || c ≠ ',' then
      scanError start "did not find expected whitespace or line break"
  pushToken (.tag handle suffix) start (← here)

/-! ### Block scalars -/

/-- Skips the indentation and the empty lines before a line of a block scalar, reading the line
breaks onto `breaks`. Where no indentation is given it becomes that of the first line with
content (at least one more than the enclosing block's, and at least 1). Returns the
indentation, the breaks, and where the scalar ends so far. -/
def blockBreaks (start : Mark) (indent : Nat) (breaks : String) : Scan (Nat × String × Mark) := do
  let mut stop ← here
  let mut most := 0
  let mut breaks := breaks
  for _ in [0:(← budget)] do
    for _ in [0:(← budget)] do
      let s ← get
      if (indent = 0 || s.mark.column < indent) && s.ahead 0 = ' ' then skip else break
    let s ← get
    if s.mark.column > most then most := s.mark.column
    if (indent = 0 || s.mark.column < indent) && s.ahead 0 = '\t' then
      scanError start "found a tab character where an indentation space is expected"
    if !isLineBreak (s.ahead 0) then break
    breaks ← readBreak breaks
    stop ← here
  let mut indent := indent
  if indent = 0 then
    let s ← get
    indent := most
    if (indent : Int) < s.indent + 1 then indent := (s.indent + 1).toNat
    if indent < 1 then indent := 1
  return (indent, breaks, stop)

/-- A literal (`|`) or folded (`>`) block scalar, with its chomping (`+` keeps the final line
breaks, `-` drops them all, none keeps one) and indentation indicators. A folded scalar joins
lines with a space, except around lines that start with a blank. -/
def fetchBlockScalar (literal : Bool) : Scan Unit := do
  removeKey
  allowKey true
  let start ← here
  skip
  let mut chomping : Int := 0
  let mut increment := 0
  let c ← peekAt 0
  if c = '+' || c = '-' then
    chomping := if c = '+' then 1 else -1
    skip
    let d ← peekAt 0
    if d.isDigit then
      if d = '0' then scanError start "found an indentation indicator equal to 0"
      increment := d.toNat - 48
      skip
  else if c.isDigit then
    if c = '0' then scanError start "found an indentation indicator equal to 0"
    increment := c.toNat - 48
    skip
    let d ← peekAt 0
    if d = '+' || d = '-' then
      chomping := if d = '+' then 1 else -1
      skip
  skipWhile isBlank
  if (← peekAt 0) = '#' then skipWhile (fun c => !breakOrEnd c)
  if !breakOrEnd (← peekAt 0) then scanError start "did not find expected comment or line break"
  skipLine
  let s ← get
  let given : Nat :=
    if increment > 0 then (if s.indent ≥ 0 then s.indent.toNat + increment else increment) else 0
  let (indent, firstBreaks, firstStop) ← blockBreaks start given ""
  let mut trailing := firstBreaks
  let mut stop := firstStop
  let mut text := ""
  let mut leadingBreak := ""
  let mut leadingBlank := false
  for _ in [0:(← budget)] do
    let s ← get
    if !(s.mark.column = indent && !isEndChar (s.ahead 0)) then break
    let trailingBlank := isBlank (s.ahead 0)
    if !literal && !leadingBlank && !trailingBlank && leadingBreak.startsWith "\n" then
      if trailing.isEmpty then text := text.push ' '
    else text := text ++ leadingBreak
    leadingBreak := ""
    text := text ++ trailing
    trailing := ""
    leadingBlank := isBlank (s.ahead 0)
    text ← readWhile (fun c => !breakOrEnd c) text
    leadingBreak ← readBreak leadingBreak
    let (_, tb, em) ← blockBreaks start indent ""
    trailing := tb
    stop := em
  if chomping ≠ -1 then text := text ++ leadingBreak
  if chomping = 1 then text := text ++ trailing
  pushToken (.scalar text (if literal then .literal else .folded)) start stop

/-! ### Quoted scalars -/

/-- What a backslash escape stands for: a character, or the number of hexadecimal digits of a
code (`x`, `u`, `U`); `none` for an unknown escape. -/
def escapeOf (e : Char) : Option (Char ⊕ Nat) :=
  match e with
  | '0' => some (.inl '\x00')
  | 'a' => some (.inl '\x07')
  | 'b' => some (.inl '\x08')
  | 't' => some (.inl '\t')
  | '\t' => some (.inl '\t')
  | 'n' => some (.inl '\n')
  | 'v' => some (.inl '\x0B')
  | 'f' => some (.inl '\x0C')
  | 'r' => some (.inl '\r')
  | 'e' => some (.inl '\x1B')
  | ' ' => some (.inl ' ')
  | '"' => some (.inl '"')
  | '\'' => some (.inl '\'')
  | '\\' => some (.inl '\\')
  | 'N' => some (.inl '\x85')
  | '_' => some (.inl '\xA0')
  | 'L' => some (.inl '\u2028')
  | 'P' => some (.inl '\u2029')
  | 'x' => some (.inr 2)
  | 'u' => some (.inr 4)
  | 'U' => some (.inr 8)
  | _ => none

/-- Joins the blanks and line breaks between two runs of a scalar's text: the blanks as they are
when there is no break; else a first line feed folds to a space when no empty line follows and
vanishes before empty lines, and any other first break is kept. -/
def joinBreaks (leadingBlanks : Bool) (spaces leadingBreak trailing : String) : String :=
  if leadingBlanks then
    if leadingBreak.startsWith "\n" then (if trailing.isEmpty then " " else trailing)
    else leadingBreak ++ trailing
  else spaces

/-- A single- or double-quoted scalar. Line breaks inside fold as in plain scalars; a double-quoted
scalar takes backslash escapes, and a backslash at the end of a line joins it to the next without
a space. -/
def fetchFlowScalar (single : Bool) : Scan Unit := do
  saveKey
  allowKey false
  let start ← here
  skip
  let mut text := ""
  for _ in [0:(← budget)] do
    let s ← get
    if s.mark.column = 0 && s.atMarker then scanError start "found unexpected document indicator"
    if isEndChar (s.ahead 0) then scanError start "found unexpected end of stream"
    let mut leadingBlanks := false
    for _ in [0:(← budget)] do
      let s ← get
      let c := s.ahead 0
      if blankOrEnd c then break
      if single && c = '\'' && s.ahead 1 = '\'' then
        text := text.push '\''
        skip
        skip
      else if single && c = '\'' then break
      else if !single && c = '"' then break
      else if !single && c = '\\' && isLineBreak (s.ahead 1) then
        skip
        skipLine
        leadingBlanks := true
        break
      else if !single && c = '\\' then
        match escapeOf (s.ahead 1) with
        | none => scanError start "found unknown escape character"
        | some (.inl e) =>
          text := text.push e
          skip
          skip
        | some (.inr n) =>
          skip
          skip
          let s ← get
          let mut code := 0
          for k in [0:n] do
            let d := s.ahead k
            if !isHexChar d then scanError start "did not find expected hexdecimal number"
            code := code * 16 + hexValue d
          if (0xD800 ≤ code && code ≤ 0xDFFF) || code > 0x10FFFF then
            scanError start "found invalid Unicode character escape code"
          text := text.push (Char.ofNat code)
          for _ in [0:n] do
            skip
      else text ← readChar text
    let c ← peekAt 0
    if (single && c = '\'') || (!single && c = '"') then break
    let mut spaces := ""
    let mut leadingBreak := ""
    let mut trailing := ""
    for _ in [0:(← budget)] do
      let c ← peekAt 0
      if isBlank c then
        if !leadingBlanks then spaces ← readChar spaces else skip
      else if isLineBreak c then
        if !leadingBlanks then
          spaces := ""
          leadingBreak ← readBreak leadingBreak
          leadingBlanks := true
        else trailing ← readBreak trailing
      else break
    text := text ++ joinBreaks leadingBlanks spaces leadingBreak trailing
  skip
  pushToken (.scalar text (if single then .singleQuoted else .doubleQuoted)) start (← here)

/-! ### Plain scalars -/

/-- A plain scalar. It ends at `: ` (a colon before a blank, a break or the end), at ` #`, at a
document marker, in a flow collection also at `,`, `?` and brackets, and in a block at a line
indented no deeper than the enclosing block. Its lines are folded; a tab may not stand in the
indentation of a continuation line. A simple key may follow it when it ended on a later line. -/
def fetchPlainScalar : Scan Unit := do
  saveKey
  allowKey false
  let s0 ← get
  let indent : Int := s0.indent + 1
  let start := s0.mark
  let mut stop := s0.mark
  let mut text := ""
  let mut spaces := ""
  let mut leadingBreak := ""
  let mut trailing := ""
  let mut leadingBlanks := false
  for _ in [0:(← budget)] do
    let s ← get
    if s.mark.column = 0 && s.atMarker then break
    if s.ahead 0 = '#' then break
    for _ in [0:(← budget)] do
      let s ← get
      let c := s.ahead 0
      if blankOrEnd c then break
      if (c = ':' && blankOrEnd (s.ahead 1)) ||
          (s.flowLevel > 0 && (c = ',' || c = '?' || c = '[' || c = ']' || c = '{' || c = '}')) then
        break
      if leadingBlanks || !spaces.isEmpty then
        text := text ++ joinBreaks leadingBlanks spaces leadingBreak trailing
        spaces := ""
        leadingBreak := ""
        trailing := ""
        leadingBlanks := false
      text ← readChar text
      stop ← here
    let c ← peekAt 0
    if !(isBlank c || isLineBreak c) then break
    for _ in [0:(← budget)] do
      let s ← get
      let c := s.ahead 0
      if isBlank c then
        if leadingBlanks && (s.mark.column : Int) < indent && c = '\t' then
          scanError start "found a tab character that violates indentation"
        if !leadingBlanks then spaces ← readChar spaces else skip
      else if isLineBreak c then
        if !leadingBlanks then
          spaces := ""
          leadingBreak ← readBreak leadingBreak
          leadingBlanks := true
        else trailing ← readBreak trailing
      else break
    let s ← get
    if s.flowLevel = 0 && (s.mark.column : Int) < indent then break
  pushToken (.scalar text .plain) start stop
  if leadingBlanks then allowKey true

/-! ### Between tokens -/

/-- Skips a comment and the comment lines after it, with the blanks and line breaks between
them, up to the line break after the last. -/
def skipComments : Scan Unit := do
  let mut first := true
  for _ in [0:(← budget)] do
    let s ← get
    let mut peek := if first then 0 else 1
    let mut found : Option Nat := none
    for _ in [0:513] do
      if peek ≥ 512 then break
      let c := s.ahead peek
      if isBlank c || isLineBreak c then peek := peek + 1
      else
        if c = '#' then found := some peek
        break
    match found with
    | none => break
    | some p =>
      first := false
      let seen := s.mark.index + p
      for _ in [0:(← budget)] do
        let s ← get
        if breakOrEnd (s.ahead 0) then
          if s.mark.index ≥ seen then break
          skipLine
        else skip

/-- Skips a comment after a token on its line, with the blanks before it. -/
def skipLineComment : Scan Unit := do
  let s ← get
  if s.tokens.back?.map (·.kind) = some .blockEntry || s.newlines > 0 then return
  let mut peek := 0
  let mut found := false
  for _ in [0:512] do
    let c := s.ahead peek
    if isBlank c then peek := peek + 1
    else
      found := c = '#'
      break
  if found then
    for _ in [0:peek] do
      skip
    skipWhile (fun c => !breakOrEnd c)

/-- Skips blanks, comments and line breaks up to the next token. Tabs are skipped only in a flow
collection or where a simple key may not start; a line break allows a simple key in a block. -/
def scanToNextToken : Scan Unit := do
  for _ in [0:(← budget)] do
    if (← get).mark.column = 0 && (← get).bomLead then skip
    for _ in [0:(← budget)] do
      let s ← get
      let c := s.ahead 0
      if c = ' ' || ((s.flowLevel > 0 || !s.keyAllowed) && c = '\t') then skip else break
    if (← peekAt 0) = '#' then skipComments
    if isLineBreak (← peekAt 0) then
      skipLine
      if (← get).flowLevel = 0 then allowKey true
    else break

/-- The token an indicator or the first character of a scalar starts. -/
def fetchToken : Scan Unit := do
  let s ← get
  let c := s.ahead 0
  let next := s.ahead 1
  let flow := s.flowLevel > 0
  if c = '[' then fetchFlowStart .flowSequenceStart
  else if c = '{' then fetchFlowStart .flowMappingStart
  else if c = ']' then fetchFlowEnd .flowSequenceEnd
  else if c = '}' then fetchFlowEnd .flowMappingEnd
  else if c = ',' then fetchFlowEntry
  else if c = '-' && blankOrEnd next then fetchBlockEntry
  else if c = '?' && (flow || blankOrEnd next) then fetchKey
  else if c = ':' && (flow || blankOrEnd next) then fetchValue
  else if c = '*' then fetchAnchor true
  else if c = '&' then fetchAnchor false
  else if c = '!' then fetchTag
  else if c = '|' && !flow then fetchBlockScalar true
  else if c = '>' && !flow then fetchBlockScalar false
  else if c = '\'' then fetchFlowScalar true
  else if c = '"' then fetchFlowScalar false
  else if !(blankOrEnd c || "-?:,[]\x7b\x7d#&*!|>'\"%@\x60".contains c) ||
      (c = '-' && !isBlank next) || (!flow && (c = '?' || c = ':') && !blankOrEnd next) then
    fetchPlainScalar
  else scanError s.mark "found character that cannot start any token"

/-- Scans the next token (and the tokens that closing blocks or a found key put before it). -/
def fetchNext : Scan Unit := do
  if !(← get).started then
    fetchStreamStart
    return
  let scanMark ← here
  scanToNextToken
  unrollIndent (← here).column scanMark
  let s ← get
  let c := s.ahead 0
  let atLineStart := s.mark.column = 0
  if isEndChar c then fetchStreamEnd
  else if atLineStart && c = '%' then fetchDirective
  else if atLineStart && c = '-' && s.atMarker then fetchDocumentIndicator .documentStart
  else if atLineStart && c = '.' && s.atMarker then fetchDocumentIndicator .documentEnd
  else
    fetchToken
    skipLineComment

/-- Scans until the next token can be handed on: two more tokens are scanned after it, and more
while a simple key could still put a token before it. -/
def fetchMore : Scan Unit := do
  for _ in [0:4 * (← get).input.size + 16] do
    let s ← get
    if s.parsed + 2 < s.tokens.size then
      match s.keyAt.lookup s.parsed with
      | none => break
      | some i => if !(← keyValid i) then break
    fetchNext

/-- The token the reader stands at. -/
def peekToken : Scan Token := do
  fetchMore
  let s ← get
  return s.tokens.getD s.parsed ⟨.streamEnd, s.mark, s.mark⟩

/-- Moves past the token the reader stands at. -/
def skipToken : Scan Unit := modify fun s => { s with parsed := s.parsed + 1 }

end QuotaWatch.Yaml
