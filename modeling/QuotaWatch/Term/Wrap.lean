import QuotaWatch.Term.Width
/-!
**Word wrapping of terminal text.**

A block is wrapped to a number of cells: lines break at spaces when the next word would not
fit, and inside a word that is longer than a whole line. A hyphen that still fits on the line
ends the word before it there; one that does not is part of the word it follows. Spaces at a
break are dropped; breaks already in the text are kept, and so are the spaces before them when
they fit.

Styles set by escape sequences travel with the text. When a styled line breaks, the style is
reset before the break and set again after it.
-/

namespace QuotaWatch.Term

/-- The style set by select-graphic-rendition sequences. Colours are kept as the parameters
that set them again (`31`, `38;5;240`, `48;2;1;2;3`, `58;5;1`). -/
structure Pen where
  bold : Bool := false
  faint : Bool := false
  italic : Bool := false
  /-- The underline: 0 none, 1 single, 2 double, 3 curly, 4 dotted, 5 dashed. -/
  underline : Nat := 0
  blink : Bool := false
  rapidBlink : Bool := false
  reverse : Bool := false
  conceal : Bool := false
  strike : Bool := false
  fg : Option String := none
  bg : Option String := none
  ul : Option String := none
  deriving Inhabited, DecidableEq

/-- One parameter of a sequence: its value (0 when it is empty) and whether a sub-parameter,
after a colon, follows it. -/
structure Param where
  value : Nat
  more : Bool
  deriving Inhabited, DecidableEq

namespace Pen

/-- The pen with nothing set. -/
def reset : Pen := {}

/-- Whether nothing is set. -/
def isEmpty (p : Pen) : Bool := p == reset

/-- The parameters of a sequence's parameter text, sub-parameters included. -/
def params (text : String) : List Param :=
  (text.splitOn ";").flatMap fun group =>
    let subs := group.splitOn ":"
    subs.zipIdx.map fun (x, i) => ⟨x.toNat?.getD 0, i + 1 < subs.length⟩

/-- Whether every parameter from the third to the `k`-th has a sub-parameter after it. -/
def moreUpTo (ps : List Param) (k : Nat) : Bool := ((ps.drop 2).take (k - 1)).all (·.more)

/-- The red, green and blue parameters of a direct colour after `lead ; 2`, and how many
parameters the colour takes, by the forms with and without a colour space. -/
def rgbParams (ps : List Param) : Option (List Nat × Nat) :=
  let v := fun (i : Nat) => (ps.getD i ⟨0, false⟩).value
  let colon := (ps.getD 0 ⟨0, false⟩).more && (ps.getD 1 ⟨0, false⟩).more
  if colon && ps.length > 8 && moreUpTo ps 7 then some ([v 3, v 4, v 5], 9)
  else if colon && ps.length > 7 && moreUpTo ps 6 then some ([v 3, v 4, v 5], 8)
  else if colon && ps.length > 6 && moreUpTo ps 5 then some ([v 3, v 4, v 5], 7)
  else if colon && ps.length > 5 && moreUpTo ps 4 then some ([v 2, v 3, v 4], 6)
  else if ps.length > 4 then some ([v 2, v 3, v 4], 5)
  else none

/-- The colour a sequence sets after the parameter `lead` (38, 48 or 58), as the parameters
that set it again, and how many parameters it takes; `none` when it sets none. Numbers are
taken modulo 256. -/
def color (lead : Nat) (ps : List Param) : Option (String × Nat) :=
  let v := fun (i : Nat) => (ps.getD i ⟨0, false⟩).value
  if ps.length < 2 then none
  else if v 1 = 5 then
    if ps.length < 3 then none
    else some (toString lead ++ ";5;" ++ toString (v 2 % 256), 3)
  else if v 1 = 2 then
    match rgbParams ps with
    | some (rgb, n) =>
      some (toString lead ++ ";2;" ++ ";".intercalate (rgb.map fun x => toString (x % 256)), n)
    | none => none
  else none

/-- The pen after one parameter that is not a colour or an underline. -/
def applyOne (p : Pen) (code : Nat) : Pen :=
  match code with
  | 0 => reset
  | 1 => { p with bold := true }
  | 2 => { p with faint := true }
  | 3 => { p with italic := true }
  | 5 => { p with blink := true }
  | 6 => { p with rapidBlink := true }
  | 7 => { p with reverse := true }
  | 8 => { p with conceal := true }
  | 9 => { p with strike := true }
  | 22 => { p with bold := false, faint := false }
  | 23 => { p with italic := false }
  | 24 => { p with underline := 0 }
  | 25 => { p with blink := false, rapidBlink := false }
  | 27 => { p with reverse := false }
  | 28 => { p with conceal := false }
  | 29 => { p with strike := false }
  | 39 => { p with fg := none }
  | 49 => { p with bg := none }
  | 59 => { p with ul := none }
  | n =>
    if 30 ≤ n ∧ n ≤ 37 ∨ 90 ≤ n ∧ n ≤ 97 then { p with fg := some (toString n) }
    else if 40 ≤ n ∧ n ≤ 47 ∨ 100 ≤ n ∧ n ≤ 107 then { p with bg := some (toString n) }
    else p

/-- The underline an underline parameter `x` sets, with the parameters `r` after it, and the
parameters left: a sub-parameter from 0 to 5 is the kind and is taken; another sub-parameter
sets nothing; without one the underline is single. -/
def underlineKind (x : Param) (r : List Param) : Option Nat × List Param :=
  match r with
  | y :: r' =>
    if x.more then (if y.value ≤ 5 then (some y.value, r') else (none, y :: r'))
    else (some 1, y :: r')
  | [] => (some 1, [])

theorem underlineKind_length (x : Param) (r : List Param) :
    (underlineKind x r).2.length ≤ r.length := by
  unfold underlineKind
  split
  · split
    · split <;> simp
    · simp
  · simp

/-- Applies the parameters of one sequence. A colour takes the parameters after it; an
underline followed by a sub-parameter from 0 to 5 takes that as its kind. -/
def apply (p : Pen) : List Param → Pen
  | [] => p
  | x :: r =>
    match x.value with
    | 4 =>
      have := underlineKind_length x r
      let p := match (underlineKind x r).1 with
        | some k => { p with underline := k }
        | none => p
      apply p (underlineKind x r).2
    | 38 | 48 | 58 =>
      match color x.value (x :: r) with
      | some (c, n) =>
        let p := if x.value = 38 then { p with fg := some c }
          else if x.value = 48 then { p with bg := some c } else { p with ul := some c }
        apply p (r.drop (n - 1))
      | none => apply p r
    | code => apply (p.applyOne code) r
termination_by ps => ps.length
decreasing_by all_goals simp_wf <;> omega

/-- Reads a select-graphic-rendition sequence `ESC [ params m`. -/
def read (p : Pen) (seq : List Char) : Pen :=
  match seq with
  | '\x1b' :: '[' :: rest =>
    if rest.getLast? = some 'm' then p.apply (params (String.ofList rest.dropLast))
    else p
  | _ => p

/-- The sequence that sets this pen from scratch. -/
def sequence (p : Pen) : String :=
  let flags := [(p.bold, "1"), (p.faint, "2"), (p.italic, "3"), (p.blink, "5"),
    (p.rapidBlink, "6"), (p.reverse, "7"), (p.conceal, "8"), (p.strike, "9")]
  let under := if p.underline = 0 then [] else if p.underline = 1 then ["4"]
    else ["4:" ++ toString p.underline]
  let codes := (flags.filter (·.1)).map (·.2) ++ under ++ p.fg.toList ++ p.bg.toList ++ p.ul.toList
  "\x1b[" ++ ";".intercalate codes ++ "m"

end Pen

/-- The state of wrapping: the text so far, the pending word and spaces, the width of the
current line and of the pending word, and the pens. -/
structure Wrapper where
  out : String := ""
  word : String := ""
  space : String := ""
  lineWidth : Nat := 0
  wordWidth : Nat := 0
  pen : Pen := {}
  linePen : Pen := {}
  deriving Inhabited

namespace Wrapper

/-- Writes the pending spaces. -/
def flushSpace (w : Wrapper) : Wrapper :=
  { w with lineWidth := w.lineWidth + w.space.length, out := w.out ++ w.space, space := "" }

/-- Writes the pending spaces and word. -/
def flushWord (w : Wrapper) : Wrapper :=
  if w.word = "" then w
  else
    let w := flushSpace { w with linePen := w.pen }
    { w with
      lineWidth := w.lineWidth + w.wordWidth
      out := w.out ++ w.word
      word := ""
      wordWidth := 0 }

/-- Breaks the line, resetting and restoring the style around the break. -/
def newline (w : Wrapper) : Wrapper :=
  let styled := !w.linePen.isEmpty
  let out := w.out ++ (if styled then "\x1b[m" else "") ++ "\n" ++
    (if styled then w.linePen.sequence else "")
  { w with out := out, lineWidth := 0, space := "" }

/-- At a break or at the end: the pending spaces are written when they fit, and dropped
otherwise. -/
def settleSpace (limit : Nat) (w : Wrapper) : Wrapper :=
  if w.wordWidth = 0 then
    if w.lineWidth + w.space.length > limit then { w with lineWidth := 0, space := "" }
    else { w with out := w.out ++ w.space, space := "" }
  else w

/-- Takes a visible cluster that is part of a word. -/
def plain (limit : Nat) (w : Wrapper) (seq : String) (width : Nat) : Wrapper :=
  let w := if w.wordWidth + width > limit then w.flushWord else w
  let w := { w with word := w.word ++ seq, wordWidth := w.wordWidth + width }
  if w.lineWidth + w.wordWidth + w.space.length > limit then w.newline else w

/-- Takes one token. -/
def step (limit : Nat) (w : Wrapper) (t : Token) : Wrapper :=
  let seq := String.ofList t.text
  match t.width with
  | 0 =>
    if seq = "\t" then
      let w := w.flushWord
      { w with space := w.space ++ seq }
    else if seq = "\n" then (settleSpace limit w).flushWord.newline
    else { w with pen := w.pen.read t.text, word := w.word ++ seq }
  | width =>
    let ascii := match t.text with
      | [c] => if c.toNat < 0x80 then some c else none
      | _ => none
    match ascii with
    | some ' ' =>
      let w := w.flushWord
      { w with space := w.space ++ " " }
    | some '-' =>
      let w := w.flushSpace
      if w.lineWidth + w.wordWidth + width ≤ limit then
        let w := w.flushWord
        { w with out := w.out ++ seq, lineWidth := w.lineWidth + width }
      else plain limit w seq width
    | _ => plain limit w seq width

end Wrapper

/-- Wraps text to `limit` cells; a limit below one leaves it as it is. -/
def wrap (limit : Int) (s : String) : String :=
  if s = "" then ""
  else if limit < 1 then s
  else
    let n := limit.toNat
    let w := (tokenize s.toList).foldl (Wrapper.step n) {}
    let w := (Wrapper.settleSpace n w).flushWord
    let tail := if !w.linePen.isEmpty then "\x1b[m" else ""
    w.out ++ tail

end QuotaWatch.Term
