import QuotaWatch.Unicode.Segment
/-!
**Terminal text: escape sequences, clusters and display width.**

Text is read as tokens: escape sequences and ASCII controls (no room), printable ASCII
characters (one cell each, never starting a cluster), and from any other character a grapheme
cluster. A cluster takes the room of its first character: none for controls and extenders, two
for regional indicators, default-emoji pictographs and wide characters, one otherwise; the
variation selectors set a pictograph's room, and clusters not led by a pictograph, a regional
indicator or a leading jamo add the room of each character.
-/

namespace QuotaWatch.Term

open Unicode

/-- A piece of terminal text. -/
inductive Token where
  /-- An escape sequence, with its introducer. -/
  | escape (text : List Char)
  /-- A control character. -/
  | control (c : Char)
  /-- A cluster of characters drawn together in `width` cells. -/
  | glyph (text : List Char) (width : Nat)
  deriving Inhabited, DecidableEq, Repr

/-- The cells a character takes at the start of a cluster, `p` being its break property. -/
def runeWidth (c : Char) (p : GraphemeProperty) : Nat :=
  match p with
  | .control | .cr | .lf | .extend | .zwj => 0
  | .regionalIndicator => 2
  | .pictographic => if emojiPresentation c then 2 else 1
  | _ =>
    if c.toNat = 0x2E3A then 3 else if c.toNat = 0x2E3B then 4
    else if isWide c then 2 else 1

/-- The cells a cluster takes. -/
def clusterWidth : List Char → Nat
  | [] => 0
  | c :: r =>
    let p := graphemeProperty c
    r.foldl (fun w d =>
      if p = .pictographic then
        (if d = '\uFE0E' then 1 else if d = '\uFE0F' then 2 else w)
      else if p = .regionalIndicator || p = .leading then w
      else w + runeWidth d (graphemeProperty d)) (runeWidth c p)

/-- Whether a character is an ASCII control character. -/
def isControl (c : Char) : Bool := c.toNat < 0x20 || c.toNat = 0x7F

/-- The cells a single character takes on its own. -/
def charWidth (c : Char) : Nat :=
  if c.toNat < 0x80 then (if isControl c then 0 else 1)
  else runeWidth c (graphemeProperty c)

/-- The rest of a control sequence after `ESC [`: parameter and intermediate characters, then
one final character. -/
def csiRest : List Char → List Char × List Char
  | [] => ([], [])
  | c :: r =>
    if 0x20 ≤ c.toNat && c.toNat ≤ 0x3F then
      let (a, b) := csiRest r
      (c :: a, b)
    else ([c], r)

/-- The rest of an operating system command after `ESC ]`, up to and including `BEL` or
`ESC \`. -/
def oscRest : List Char → List Char × List Char
  | [] => ([], [])
  | c :: r =>
    if c.toNat = 7 then ([c], r)
    else match c, r with
      | '\x1b', '\\' :: r' => (['\x1b', '\\'], r')
      | _, _ =>
        let (a, b) := oscRest r
        (c :: a, b)

theorem csiRest_length (cs : List Char) : (csiRest cs).2.length ≤ cs.length := by
  induction cs with
  | nil => simp [csiRest]
  | cons c r ih =>
    unfold csiRest
    split
    · simp; omega
    · simp

theorem oscRest_length (cs : List Char) : (oscRest cs).2.length ≤ cs.length := by
  induction cs with
  | nil => simp [oscRest]
  | cons c r ih =>
    unfold oscRest
    split
    · simp
    · split
      · simp; omega
      · simp; omega

/-- The tokens of a text. -/
def tokenize : List Char → List Token
  | [] => []
  | '\x1b' :: '[' :: r => .escape ('\x1b' :: '[' :: (csiRest r).1) :: tokenize (csiRest r).2
  | '\x1b' :: ']' :: r => .escape ('\x1b' :: ']' :: (oscRest r).1) :: tokenize (oscRest r).2
  | '\x1b' :: c :: r => .escape ['\x1b', c] :: tokenize r
  | c :: r =>
    if c.toNat < 0x80 then
      (if isControl c then .control c else .glyph [c] 1) :: tokenize r
    else
      let cluster := clusterTail (Joining.start (graphemeProperty c)) r
      .glyph (c :: cluster.1) (clusterWidth (c :: cluster.1)) :: tokenize cluster.2
termination_by cs => cs.length
decreasing_by
  all_goals simp_wf
  all_goals first
    | (have h := csiRest_length r; omega)
    | (have h := oscRest_length r; omega)
    | (have h := clusterTail_length (Joining.start (graphemeProperty c)) r; omega)

/-- The text of a token. -/
def Token.text : Token → List Char
  | .escape t => t
  | .control c => [c]
  | .glyph t _ => t

/-- The cells a token takes. -/
def Token.width : Token → Nat
  | .glyph _ w => w
  | _ => 0

/-- The cells a line of text takes. -/
def width (s : String) : Nat := (tokenize s.toList).foldl (fun n t => n + t.width) 0

/-- The lines of a block. -/
def lines (s : String) : List String := s.splitOn "\n"

/-- The width of the widest line of a block. -/
def blockWidth (s : String) : Nat := ((lines s).map width).foldl max 0

/-- The number of lines of a block. -/
def blockHeight (s : String) : Nat := (lines s).length

/-- `n` spaces. -/
def spaces (n : Nat) : String := String.ofList (List.replicate n ' ')

end QuotaWatch.Term
