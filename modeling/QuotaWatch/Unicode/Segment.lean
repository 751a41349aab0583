import QuotaWatch.Unicode.Grapheme
/-!
**Grapheme clusters.**

Text is cut into grapheme clusters by the rules of UAX #29 (Unicode 15.0), run as a machine over
the characters' break properties. A transition is looked up for the state and property together;
failing that, the state comes from the property's rule and the break from whichever rule comes
first in UAX #29; with neither, clusters end (GB999).
-/

namespace QuotaWatch.Unicode

/-- The state of the cluster machine: what the characters read so far let come next. -/
inductive Joining where
  /-- Nothing that joins what follows. -/
  | any
  /-- A carriage return, which only a line feed joins. -/
  | cr
  /-- A control character or a line feed, which nothing joins. -/
  | controlLF
  /-- A leading jamo. -/
  | leading
  /-- A Hangul syllable that a vowel or a trailing jamo may still extend. -/
  | vowel
  /-- A Hangul syllable that only a trailing jamo may still extend. -/
  | trailing
  /-- A prepended character, which joins what follows. -/
  | prepend
  /-- A pictograph, possibly with extending characters. -/
  | pictographic
  /-- A pictograph followed by a zero-width joiner. -/
  | pictographicJoiner
  /-- An odd number of regional indicators. -/
  | oddFlags
  /-- An even number of regional indicators. -/
  | evenFlags
  deriving DecidableEq, Repr, Inhabited

/-- The transition of the machine for a state and a property, if one is given: the next state,
whether a cluster ends before the character, and the number of the rule (`.other` stands for
any property, `.any` for any state). -/
def Joining.rule : Joining → GraphemeProperty → Option (Joining × Bool × Nat)
  | .any, .cr => some (.cr, true, 50)
  | .any, .lf => some (.controlLF, true, 50)
  | .any, .control => some (.controlLF, true, 50)
  | .cr, .other => some (.any, true, 40)
  | .controlLF, .other => some (.any, true, 40)
  | .cr, .lf => some (.controlLF, false, 30)
  | .any, .leading => some (.leading, true, 9990)
  | .leading, .leading => some (.leading, false, 60)
  | .leading, .vowel => some (.vowel, false, 60)
  | .leading, .lv => some (.vowel, false, 60)
  | .leading, .lvt => some (.trailing, false, 60)
  | .any, .lv => some (.vowel, true, 9990)
  | .any, .vowel => some (.vowel, true, 9990)
  | .vowel, .vowel => some (.vowel, false, 70)
  | .vowel, .trailing => some (.trailing, false, 70)
  | .any, .lvt => some (.trailing, true, 9990)
  | .any, .trailing => some (.trailing, true, 9990)
  | .trailing, .trailing => some (.trailing, false, 80)
  | .any, .extend => some (.any, false, 90)
  | .any, .zwj => some (.any, false, 90)
  | .any, .spacingMark => some (.any, false, 91)
  | .any, .prepend => some (.prepend, true, 9990)
  | .prepend, .other => some (.any, false, 92)
  | .any, .pictographic => some (.pictographic, true, 9990)
  | .pictographic, .extend => some (.pictographic, false, 110)
  | .pictographic, .zwj => some (.pictographicJoiner, false, 110)
  | .pictographicJoiner, .pictographic => some (.pictographic, false, 110)
  | .any, .regionalIndicator => some (.oddFlags, true, 9990)
  | .oddFlags, .regionalIndicator => some (.evenFlags, false, 120)
  | .evenFlags, .regionalIndicator => some (.oddFlags, true, 120)
  | _, _ => none

/-- The state after a character of property `p`, and whether a cluster ends before it. -/
def Joining.next (s : Joining) (p : GraphemeProperty) : Joining × Bool :=
  match s.rule p with
  | some (t, b, _) => (t, b)
  | none =>
    match s.rule .other, Joining.any.rule p with
    | some (_, b1, r1), some (t2, b2, r2) => (t2, if r1 < r2 then b1 else b2)
    | some (t1, b1, _), none => (t1, b1)
    | none, some (t2, b2, _) => (t2, b2)
    | none, none => (.any, true)

/-- The state after the first character of a cluster, of property `p`. -/
def Joining.start (p : GraphemeProperty) : Joining :=
  match Joining.any.rule p with
  | some (t, _, _) => t
  | none => .any

/-- The characters that continue a cluster in state `s`, and the text after them. -/
def clusterTail (s : Joining) : List Char → List Char × List Char
  | [] => ([], [])
  | c :: r =>
    let (t, ends) := s.next (graphemeProperty c)
    if ends then ([], c :: r)
    else
      let (more, rest) := clusterTail t r
      (c :: more, rest)

theorem clusterTail_length (s : Joining) (cs : List Char) :
    (clusterTail s cs).2.length ≤ cs.length := by
  induction cs generalizing s with
  | nil => simp [clusterTail]
  | cons c r ih =>
    simp only [clusterTail]
    split <;> simp
    have := ih (s.next (graphemeProperty c)).1
    omega

theorem clusterTail_append (s : Joining) (cs : List Char) :
    (clusterTail s cs).1 ++ (clusterTail s cs).2 = cs := by
  induction cs generalizing s with
  | nil => simp [clusterTail]
  | cons c r ih =>
    simp only [clusterTail]
    split <;> simp [ih]

end QuotaWatch.Unicode
