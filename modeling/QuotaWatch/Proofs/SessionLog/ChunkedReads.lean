import QuotaWatch.Proofs.Quota.MergeOrder
import QuotaWatch.Proofs.Refresh.Cutoff
/-!
**Reading a growing log in chunks.**

The lines of `P ++ X` are the complete lines of `P`, then those of its last piece followed by
`X`. One read answers the newest qualifying event of the lines it hands the parser, two reads
compose into one, and a run of reads follows by induction on the chunks.

Main definitions:

* `SessionLog.completeLines`, `SessionLog.lastPiece` — the lines of some bytes ended by a line
  break, and what follows the last one;
* `LogReader.later`, `LogReader.pick` — the later of two answers, and a scan's step;
* `LogReader.pending`, `LogReader.handedLines`, `LogReader.advance` — the bytes a read has not
  yet passed on, the lines it hands the parser, and the reader after it;
* `LogReader.readEach`, `LogReader.linesEach` — reading after each chunk of a growing log;
* `LogReader.Fresh`, `LogReader.ReadsInChunks` — a reader just opened, and what reading in chunks
  gives from one.

Main results:

* `SessionLog.splitLines_append` — the lines after an append;
* `LogReader.foldl_pick` — a scan from an answer is that answer combined with the scan from none;
* `LogReader.read_eq` — one read, and `LogReader.read_append` — two reads as one;
* `LogReader.readEach_eq` — a run of reads;
* `LogReader.reads_in_chunks` — **reading a growing log in chunks** hands the parser every
  complete line once, in order, and answers as one read would.
-/

namespace QuotaWatch

namespace SessionLog

/-! ### Lines -/

/-- The complete lines of some bytes: the pieces that a line break ends. -/
def completeLines (bs : List UInt8) : List (List UInt8) := (splitLines bs).dropLast

/-- The bytes after the last line break. -/
def lastPiece (bs : List UInt8) : List UInt8 := (splitLines bs).getLastD []

theorem splitLines_ne_nil (bs : List UInt8) : splitLines bs ≠ [] := List.splitOnP_ne_nil _ _

theorem splitLines_eq (bs : List UInt8) : splitLines bs = completeLines bs ++ [lastPiece bs] := by
  rw [completeLines, lastPiece, List.getLastD_eq_getLast?,
    List.getLast?_eq_some_getLast (splitLines_ne_nil bs), Option.getD_some]
  exact (List.dropLast_concat_getLast (splitLines_ne_nil bs)).symm

example : completeLines [97, 10, 10, 98] = [[97], []] ∧ lastPiece [97, 10, 10, 98] = [98] := by
  decide

/-- **The lines after an append**: the complete lines of the first part stand, and its last piece
runs on into the second part. -/
theorem splitLines_append (P X : List UInt8) :
    splitLines (P ++ X) = completeLines P ++ splitLines (lastPiece P ++ X) := by
  induction P with
  | nil => rfl
  | cons a P ih =>
    unfold completeLines lastPiece at ih ⊢
    simp only [splitLines, List.splitOn, List.cons_append, List.splitOnP_cons_eq_if_modifyHead] at ih ⊢
    have hne := splitLines_ne_nil P
    unfold splitLines List.splitOn at hne
    generalize List.splitOnP (· == (10 : UInt8)) P = S at ih hne
    by_cases ha : a = 10
    · -- a line break closes an empty line first
      simp only [ha, BEq.rfl, if_true]
      rw [ih, List.dropLast_cons_of_ne_nil hne, List.getLastD_cons]
      rfl
    · have ha' : (a == 10) = false := by simpa using ha
      simp only [ha', Bool.false_eq_true, if_false]
      rw [ih]
      match S, hne with
      | [c], _ => simp [List.splitOnP_cons_eq_if_modifyHead, ha]
      | c :: d :: rest, _ => simp [List.dropLast_cons_of_ne_nil]

theorem lines_append (P X : List UInt8) :
    completeLines (P ++ X) = completeLines P ++ completeLines (lastPiece P ++ X) ∧
      lastPiece (P ++ X) = lastPiece (lastPiece P ++ X) := by
  have h := splitLines_append P X
  rw [splitLines_eq, splitLines_eq (lastPiece P ++ X), ← List.append_assoc] at h
  obtain ⟨h₁, h₂⟩ := List.append_inj' h rfl
  exact ⟨h₁, List.singleton_inj.1 h₂⟩

theorem completeLines_append (P X : List UInt8) :
    completeLines (P ++ X) = completeLines P ++ completeLines (lastPiece P ++ X) :=
  (lines_append P X).1

theorem lastPiece_append (P X : List UInt8) : lastPiece (P ++ X) = lastPiece (lastPiece P ++ X) :=
  (lines_append P X).2

@[simp] theorem completeLines_nil : completeLines [] = [] := rfl

@[simp] theorem lastPiece_nil : lastPiece [] = [] := rfl

/-- No piece holds a line break. -/
theorem not_mem_of_mem_splitLines {bs l : List UInt8} (hl : l ∈ splitLines bs) : (10 : UInt8) ∉ l := by
  induction bs generalizing l with
  | nil =>
    rw [List.mem_singleton.1 hl]
    exact List.not_mem_nil
  | cons a bs ih =>
    unfold splitLines List.splitOn at ih hl
    rw [List.splitOnP_cons_eq_if_modifyHead] at hl
    have hne := List.splitOnP_ne_nil (· == (10 : UInt8)) bs
    split at hl
    · rcases List.mem_cons.1 hl with rfl | hl
      · exact List.not_mem_nil
      · exact ih hl
    · -- the first piece gains `a`, which is no line break
      rename_i ha
      obtain ⟨s, S, hS⟩ := List.exists_cons_of_ne_nil hne
      rw [hS, List.modifyHead_cons] at hl
      rw [hS] at ih
      rcases List.mem_cons.1 hl with rfl | hl
      · rw [List.mem_cons, not_or]
        exact ⟨fun h => ha (by simp [h]), ih List.mem_cons_self⟩
      · exact ih (List.mem_cons_of_mem s hl)

theorem intercalate_append_singleton (ls : List (List UInt8)) (c : List UInt8) :
    [(10 : UInt8)].intercalate (ls ++ [c]) = ls.flatMap (· ++ [10]) ++ c := by
  induction ls with
  | nil => simp
  | cons l ls ih =>
    cases ls with
    | nil => simp [List.intercalate]
    | cons m ms => simp_all [List.intercalate_cons_cons]

/-- **The complete lines and the last piece, characterized**: some bytes are their complete lines,
each ended by a line break, then their last piece, and no line nor the last piece holds a line
break; and that split is the only one. -/
theorem lines_eq_iff {bs c : List UInt8} {ls : List (List UInt8)} :
    completeLines bs = ls ∧ lastPiece bs = c ↔
      bs = ls.flatMap (· ++ [10]) ++ c ∧ (∀ l ∈ ls, (10 : UInt8) ∉ l) ∧ (10 : UInt8) ∉ c := by
  constructor
  · rintro ⟨rfl, rfl⟩
    have hsplit := @List.intercalate_splitOn _ bs _ _ (10 : UInt8)
    rw [← splitLines, splitLines_eq, intercalate_append_singleton] at hsplit
    refine ⟨hsplit.symm, fun l hl => ?_, ?_⟩
    · exact @not_mem_of_mem_splitLines bs _ (by rw [splitLines_eq]; exact List.mem_append_left _ hl)
    · exact @not_mem_of_mem_splitLines bs _ (by rw [splitLines_eq]; simp)
  · rintro ⟨rfl, hls, hc⟩
    have hsplit := @List.splitOn_intercalate _ (ls ++ [c]) _ _ (10 : UInt8)
      (by simpa [or_imp, forall_and] using ⟨hls, hc⟩) (by simp)
    rw [intercalate_append_singleton, ← splitLines, splitLines_eq] at hsplit
    obtain ⟨h₁, h₂⟩ := List.append_inj' hsplit rfl
    exact ⟨h₁, List.singleton_inj.1 h₂⟩

end SessionLog

namespace LogReader

open SessionLog

/-! ### Answers combined -/

/-- Of two answers, the later: the second when it is strictly later than the first, and an answer
of none gives way to the other. -/
def later (a b : Option UsageEvent) : Option UsageEvent :=
  match b with
  | some y => some (newer a y)
  | none => a

@[simp] theorem later_none (a : Option UsageEvent) : later a none = a := rfl

@[simp] theorem newer_none (y : UsageEvent) : newer none y = y := rfl

/-- Keeping the first of the latest is associative. -/
theorem newer_some_newer (x y z : UsageEvent) :
    newer (some (newer (some x) y)) z = newer (some x) (newer (some y) z) := by
  simp only [newer, Instant.after]
  by_cases hxy : x.timestamp.before y.timestamp = true <;>
    by_cases hyz : y.timestamp.before z.timestamp = true
  · have hxz := Instant.before_trans hxy hyz
    simp [hxy, hyz, hxz]
  · simp [hxy, hyz]
  · simp [hxy, hyz]
  · -- neither step goes up, so neither does the whole
    have hxz := Instant.before_eq_false_trans (Bool.eq_false_iff.2 hxy) (Bool.eq_false_iff.2 hyz)
    simp [hxy, hyz, hxz]

theorem later_assoc (a b c : Option UsageEvent) : later (later a b) c = later a (later b c) := by
  rcases c with _ | z
  · rfl
  rcases b with _ | y
  · rfl
  rcases a with _ | x
  · rfl
  · exact congrArg some (newer_some_newer x y z)

/-- What one line makes of a scan's answer so far: its event, when it is one not older than the
cut-off, is taken if strictly later. -/
def pick (since : Option Instant) (acc : Option UsageEvent) (line : List UInt8) : Option UsageEvent :=
  match UsageEvent.ofLine? line with
  | some ev =>
    match since with
    | some s => if ev.timestamp.before s then acc else some (newer acc ev)
    | none => some (newer acc ev)
  | none => acc

theorem pick_eq_later (since : Option Instant) (acc : Option UsageEvent) (line : List UInt8) :
    pick since acc line = later acc (pick since none line) := by
  unfold pick
  split
  · split
    · split <;> rfl
    · rfl
  · rfl

/-- **A scan from an answer is that answer combined with the scan from none.** -/
theorem foldl_pick (since : Option Instant) (acc : Option UsageEvent) (lines : List (List UInt8)) :
    lines.foldl (pick since) acc = later acc (lines.foldl (pick since) none) := by
  induction lines generalizing acc with
  | nil => rfl
  | cons line lines ih =>
    rw [List.foldl_cons, List.foldl_cons, ih, ih (pick since none line), pick_eq_later, later_assoc]

/-- Scanning lines in groups and combining the answers is scanning them all. -/
theorem foldl_later_map (since : Option Instant) (acc : Option UsageEvent) (groups : List (List (List UInt8))) :
    (groups.map (·.foldl (pick since) none)).foldl later acc = groups.flatten.foldl (pick since) acc := by
  induction groups generalizing acc with
  | nil => rfl
  | cons lines groups ih =>
    rw [List.map_cons, List.foldl_cons, ih, List.flatten_cons, List.foldl_append, foldl_pick since acc lines]

/-! ### One read -/

/-- The lines left when a partial first line is to be skipped. -/
def skipFirst (skip : Bool) (lines : List (List UInt8)) : List (List UInt8) :=
  if skip then lines.drop 1 else lines

theorem skipFirst_append (skip : Bool) (xs ys : List (List UInt8)) :
    skipFirst skip (xs ++ ys) = skipFirst skip xs ++ skipFirst (skip && xs.isEmpty) ys := by
  cases skip <;> cases xs <;> simp [skipFirst]

/-- **A scan over pieces**: it hands the parser the complete pieces, less the first when a partial
line is to be skipped, still skips after that only if there was none, and keeps the last piece. -/
theorem scanLines_eq (since : Option Instant) (skip : Bool) (acc : Option UsageEvent)
    (pieces : List (List UInt8)) :
    scanLines since skip acc pieces =
      ((skipFirst skip pieces.dropLast).foldl (pick since) acc, skip && pieces.dropLast.isEmpty,
        pieces.getLastD []) := by
  fun_induction scanLines since skip acc pieces with
  | case1 => simp [skipFirst]
  | case2 => simp [skipFirst]
  | case3 acc line more hmore ih =>
    -- the skipped line is the first complete one
    obtain ⟨m, ms, rfl⟩ := List.exists_cons_of_ne_nil hmore
    rw [ih, List.dropLast_cons_of_ne_nil hmore]
    simp [skipFirst]
  | case4 skip acc line more hmore hskip acc' ih =>
    obtain ⟨m, ms, rfl⟩ := List.exists_cons_of_ne_nil hmore
    rw [ih, List.dropLast_cons_of_ne_nil hmore]
    simp only [skipFirst, hskip, Bool.false_eq_true, if_false, List.foldl_cons, Bool.false_and,
      List.getLastD_cons, List.isEmpty_cons, Bool.and_false]
    -- the scan's step is the same match as `pick`
    rfl

/-- The bytes a read takes in: those carried over, then everything after the offset. -/
def pending (r : LogReader) (content : List UInt8) : List UInt8 := r.carry ++ content.drop r.offset.toNat

/-- The lines a read hands the parser. -/
def handedLines (r : LogReader) (content : List UInt8) : List (List UInt8) :=
  if content.length ≤ r.offset then [] else skipFirst r.skipPartial (completeLines (r.pending content))

/-- The reader after a read that finds the file no shorter than its offset. -/
def advance (r : LogReader) (content : List UInt8) : LogReader :=
  if content.length ≤ r.offset then r
  else
    { r with
      offset := content.length
      carry := lastPiece (r.pending content)
      skipPartial := r.skipPartial && (completeLines (r.pending content)).isEmpty }

variable {r : LogReader} {content : List UInt8}

theorem advance_of_le (h : content.length ≤ r.offset) : r.advance content = r := if_pos h

theorem handedLines_of_le (h : content.length ≤ r.offset) : r.handedLines content = [] := if_pos h

theorem handedLines_of_lt (h : r.offset < content.length) :
    r.handedLines content = skipFirst r.skipPartial (completeLines (r.pending content)) :=
  if_neg (by omega)

@[simp] theorem advance_path : (r.advance content).path = r.path := by
  unfold advance
  split <;> rfl

theorem advance_of_lt (h : r.offset < content.length) :
    r.advance content =
      { r with
        offset := content.length
        carry := lastPiece (r.pending content)
        skipPartial := r.skipPartial && (completeLines (r.pending content)).isEmpty } :=
  if_neg (by omega)

/-- **One read**: it answers the newest qualifying event among the lines it hands the parser, and
leaves the reader advanced. -/
theorem read_eq (since : Option Instant) (h : r.offset ≤ content.length) :
    r.read content since = .ok ((r.handedLines content).foldl (pick since) none, r.advance content) := by
  unfold read
  rw [if_neg (by omega)]
  split
  · rw [handedLines_of_le (by omega), advance_of_le (by omega)]
    rfl
  · rw [handedLines_of_lt (by omega), advance_of_lt (by omega)]
    dsimp only
    rw [scanLines_eq]
    rfl

theorem offset_le_append (B : List UInt8) (h : r.offset ≤ content.length) :
    r.offset ≤ (content ++ B).length := by
  simp only [List.length_append]
  omega

theorem offset_lt_append (B : List UInt8) (h : r.offset < content.length) :
    r.offset < (content ++ B).length := by
  simp only [List.length_append]
  omega

theorem advance_offset (h : r.offset ≤ content.length) : (r.advance content).offset = content.length := by
  rcases Int.lt_or_le r.offset content.length with hlt | hle
  · rw [advance_of_lt hlt]
  · rw [advance_of_le hle]
    omega

/-- A read with bytes appended since the last one does not return at once. -/
theorem advance_offset_lt (b : UInt8) (B : List UInt8) (h : r.offset ≤ content.length) :
    (r.advance content).offset < (content ++ b :: B).length := by
  rw [advance_offset h]
  simp only [List.length_append, List.length_cons]
  omega

theorem pending_append (B : List UInt8) (h : r.offset ≤ content.length) :
    r.pending (content ++ B) = r.pending content ++ B := by
  simp [pending, List.drop_append_of_le_length (show r.offset.toNat ≤ content.length by omega)]

/-- After a read, the next takes in the last piece it kept and the bytes appended since. -/
theorem pending_advance (B : List UInt8) (h : r.offset < content.length) :
    (r.advance content).pending (content ++ B) = lastPiece (r.pending content) ++ B := by
  rw [advance_of_lt h]
  simp [pending]

/-- **Two reads advance the reader as one does.** -/
theorem advance_append (B : List UInt8) (h : r.offset ≤ content.length) :
    (r.advance content).advance (content ++ B) = r.advance (content ++ B) := by
  rcases Int.lt_or_le r.offset content.length with hlt | hle
  · rcases B with _ | ⟨b, B⟩
    · -- nothing was appended: the second read returns at once
      rw [List.append_nil, advance_of_le (Int.le_of_eq (advance_offset h).symm)]
    · rw [advance_of_lt (advance_offset_lt b B h), pending_advance _ hlt,
        advance_of_lt (offset_lt_append (b :: B) hlt), pending_append _ h,
        lastPiece_append (r.pending content), completeLines_append (r.pending content), advance_of_lt hlt]
      simp only [LogReader.mk.injEq, true_and]
      -- the reader still skips only if neither read saw a line break
      generalize completeLines (r.pending content) = ls
      cases ls <;> simp
  · rw [advance_of_le hle]

/-- **Two reads hand the parser the lines one read does.** -/
theorem handedLines_append (B : List UInt8) (h : r.offset ≤ content.length) :
    r.handedLines (content ++ B) = r.handedLines content ++ (r.advance content).handedLines (content ++ B) := by
  rcases Int.lt_or_le r.offset content.length with hlt | hle
  · rcases B with _ | ⟨b, B⟩
    · rw [List.append_nil, handedLines_of_le (Int.le_of_eq (advance_offset h).symm), List.append_nil]
    · rw [handedLines_of_lt (advance_offset_lt b B h), pending_advance _ hlt,
        handedLines_of_lt (offset_lt_append (b :: B) hlt), pending_append _ h,
        handedLines_of_lt hlt, completeLines_append (r.pending content), skipFirst_append, advance_of_lt hlt]
  · rw [advance_of_le hle, handedLines_of_le hle, List.nil_append]

/-- **Reading after `A` and again after `B` is reading once after both**: the same reader, and the
two events combined as the later, the first on equal times. -/
theorem read_append (A B : List UInt8) (since : Option Instant) (h : r.offset ≤ content.length) :
    ∃ eA eB, r.read (content ++ A) since = .ok (eA, r.advance (content ++ A)) ∧
      (r.advance (content ++ A)).read (content ++ A ++ B) since = .ok (eB, r.advance (content ++ A ++ B)) ∧
      r.read (content ++ A ++ B) since = .ok (later eA eB, r.advance (content ++ A ++ B)) := by
  have hA := offset_le_append A h
  have hA' : (r.advance (content ++ A)).offset ≤ (content ++ A ++ B).length := by
    rw [advance_offset hA]
    simp only [List.length_append]
    omega
  refine ⟨_, _, read_eq since hA, by rw [read_eq since hA', advance_append B hA], ?_⟩
  rw [read_eq since (offset_le_append B hA), handedLines_append B hA, List.foldl_append, foldl_pick]

/-! ### Reading after each chunk -/

/-- Reading once after each chunk is appended: the events, and the reader after the last read. -/
def readEach (since : Option Instant) : LogReader → List UInt8 → List (List UInt8) →
    Except ReadError (List (Option UsageEvent) × LogReader)
  | r, _, [] => .ok ([], r)
  | r, content, chunk :: chunks => do
    let (ev, r') ← r.read (content ++ chunk) since
    let (evs, r'') ← readEach since r' (content ++ chunk) chunks
    return (ev :: evs, r'')

/-- The lines each read of such a run hands the parser. -/
def linesEach : LogReader → List UInt8 → List (List UInt8) → List (List (List UInt8))
  | _, _, [] => []
  | r, content, chunk :: chunks =>
    r.handedLines (content ++ chunk) :: linesEach (r.advance (content ++ chunk)) (content ++ chunk) chunks

/-- **A run of reads**: every read succeeds and answers from the lines it hands the parser; over
the run those are the lines a single read at the end hands it, and the last reader is the one
that read leaves. -/
theorem readEach_eq (since : Option Instant) (chunk : List UInt8) (chunks : List (List UInt8))
    (h : r.offset ≤ content.length) :
    readEach since r content (chunk :: chunks) =
        .ok ((linesEach r content (chunk :: chunks)).map (·.foldl (pick since) none),
          r.advance (content ++ (chunk :: chunks).flatten)) ∧
      (linesEach r content (chunk :: chunks)).flatten =
        r.handedLines (content ++ (chunk :: chunks).flatten) := by
  induction chunks generalizing r content chunk with
  | nil =>
    refine ⟨?_, by simp [linesEach]⟩
    simp only [readEach, read_eq since (offset_le_append chunk h), List.flatten_cons, List.flatten_nil,
      List.append_nil]
    rfl
  | cons next chunks ih =>
    -- the first read, then the run from the reader it leaves
    have hc := offset_le_append chunk h
    obtain ⟨hrun, hlines⟩ := @ih (r.advance (content ++ chunk)) (content ++ chunk) next
      (Int.le_of_eq (advance_offset hc))
    rw [List.flatten_cons, ← List.append_assoc]
    refine ⟨?_, ?_⟩
    · rw [readEach.eq_2, read_eq since hc]
      simp only [bind, Except.bind]
      rw [hrun, advance_append _ hc]
      rfl
    · rw [linesEach, List.flatten_cons, hlines, ← handedLines_append _ hc]

/-! ### Fresh readers -/

/-- A reader that has read nothing yet: it carries nothing, and its offset is in the file. -/
structure Fresh (r : LogReader) (content : List UInt8) : Prop where
  carry : r.carry = []
  nonneg : 0 ≤ r.offset
  le : r.offset ≤ content.length

theorem openAt_fresh (path : String) {o : Int} (h : o ≤ content.length) : (openAt path o).Fresh content :=
  ⟨rfl, Int.le_max_left 0 o, Int.max_le.2 ⟨by omega, h⟩⟩

theorem openTail_fresh (path : String) (content : List UInt8) (tail : Int) :
    (openTail path content tail).Fresh content := by
  refine ⟨rfl, ?_, ?_⟩ <;> simp only [openTail, startOffset] <;> split <;> omega

@[simp] theorem skipFirst_nil (skip : Bool) : skipFirst skip [] = [] := by
  cases skip <;> rfl

/-- The bytes a fresh reader has read once the log is `content ++ B`: those after its offset. -/
theorem Fresh.drop_eq_nil {B : List UInt8} (hr : r.Fresh content)
    (hle : (content ++ B).length ≤ r.offset) : (content ++ B).drop r.offset.toNat = [] :=
  List.drop_eq_nil_of_le (by have := hr.nonneg; omega)

theorem Fresh.handedLines (hr : r.Fresh content) (B : List UInt8) :
    r.handedLines (content ++ B) = skipFirst r.skipPartial (completeLines ((content ++ B).drop r.offset.toNat)) := by
  rcases Int.lt_or_le r.offset (content ++ B).length with hlt | hle
  · rw [handedLines_of_lt hlt, pending, hr.carry, List.nil_append]
  · rw [handedLines_of_le hle, hr.drop_eq_nil hle, completeLines_nil, skipFirst_nil]

theorem Fresh.advance (hr : r.Fresh content) (B : List UInt8) :
    (r.advance (content ++ B)).offset = r.offset + ((content ++ B).drop r.offset.toNat).length ∧
      (r.advance (content ++ B)).carry = lastPiece ((content ++ B).drop r.offset.toNat) ∧
      (r.advance (content ++ B)).skipPartial =
        (r.skipPartial && (completeLines ((content ++ B).drop r.offset.toNat)).isEmpty) := by
  rcases Int.lt_or_le r.offset (content ++ B).length with hlt | hle
  · rw [advance_of_lt hlt, pending, hr.carry, List.nil_append, List.length_drop]
    refine ⟨?_, rfl, rfl⟩
    have := hr.nonneg
    simp only [List.length_append] at hlt ⊢
    omega
  · rw [advance_of_le hle, hr.drop_eq_nil hle, completeLines_nil, lastPiece_nil]
    simp [hr.carry]

/-- **What reading a growing log in chunks gives**, from a reader `r₀` opened on `content` that
skips its first line when `skip`. With `D` the bytes from the reader's offset to the end of the
grown log: -/
structure ReadsInChunks (since : Option Instant) (r₀ : LogReader) (content : List UInt8)
    (chunks : List (List UInt8)) (skip : Bool) : Prop where
  /-- every read succeeds, and answers the newest qualifying event among the lines it hands the
  parser; -/
  run : readEach since r₀ content chunks =
    .ok ((linesEach r₀ content chunks).map (·.foldl (pick since) none), r₀.advance (content ++ chunks.flatten))
  /-- over all reads the parser is handed the complete lines of `D` in order, each once, the first
  left out when skipping; -/
  lines : (linesEach r₀ content chunks).flatten =
    skipFirst skip (completeLines ((content ++ chunks.flatten).drop r₀.offset.toNat))
  /-- the last reader's offset is past all of `D`, -/
  offset : (r₀.advance (content ++ chunks.flatten)).offset =
    r₀.offset + ((content ++ chunks.flatten).drop r₀.offset.toNat).length
  /-- and it carries the bytes after `D`'s last line break; -/
  carry : (r₀.advance (content ++ chunks.flatten)).carry =
    lastPiece ((content ++ chunks.flatten).drop r₀.offset.toNat)
  /-- and a single read at the end answers the reads' events combined, leaving the same reader. -/
  once : r₀.read (content ++ chunks.flatten) since =
    .ok (((linesEach r₀ content chunks).map (·.foldl (pick since) none)).foldl later none,
      r₀.advance (content ++ chunks.flatten))

theorem Fresh.readsInChunks (hr : r.Fresh content) (since : Option Instant) (chunk : List UInt8)
    (chunks : List (List UInt8)) : ReadsInChunks since r content (chunk :: chunks) r.skipPartial := by
  obtain ⟨hrun, hlines⟩ := readEach_eq since chunk chunks hr.le
  obtain ⟨hoff, hcarry, -⟩ := hr.advance (chunk :: chunks).flatten
  refine ⟨hrun, by rw [hlines, hr.handedLines], hoff, hcarry, ?_⟩
  rw [read_eq since (offset_le_append _ hr.le), foldl_later_map, hlines]

/-- Whether a reader opened at offset `off` of `content` starts inside a line: past the start,
and not right after a line break. -/
def startsMidLine (content : List UInt8) (off : Int) : Bool :=
  off > 0 && content[(off - 1).toNat]? != some 10

/-- **Reading a growing log in chunks.** For a log `content` that grows by the chunks
`chunk :: chunks`, read after each: from a reader opened at any offset in the file, or opened on
the tail, the reads succeed, each answers from the lines it hands the parser, and over all reads
those are the complete lines after the start in order, each once, the first left out when the tail
starts inside a line; the last reader's offset is past all bytes read and it carries the bytes after
the last line break; and a single read instead answers the reads' events combined. Reading twice,
after `A` and after `B`, is reading once after both, from any reader. -/
theorem reads_in_chunks (path : String) (content : List UInt8) (since : Option Instant)
    (chunk : List UInt8) (chunks : List (List UInt8)) :
    (∀ o : Int, o ≤ content.length → ReadsInChunks since (openAt path o) content (chunk :: chunks) false) ∧
      (∀ tail : Int, ReadsInChunks since (openTail path content tail) content (chunk :: chunks)
        (startsMidLine content (startOffset content.length tail))) ∧
      ∀ (r : LogReader) (C A B : List UInt8), r.offset ≤ C.length →
        ∃ eA eB, r.read (C ++ A) since = .ok (eA, r.advance (C ++ A)) ∧
          (r.advance (C ++ A)).read (C ++ A ++ B) since = .ok (eB, r.advance (C ++ A ++ B)) ∧
          r.read (C ++ A ++ B) since = .ok (later eA eB, r.advance (C ++ A ++ B)) :=
  ⟨fun _ ho => (openAt_fresh path ho).readsInChunks since chunk chunks,
    fun tail => (openTail_fresh path content tail).readsInChunks since chunk chunks,
    fun _ _ A B h => read_append A B since h⟩

/-- A log holding one line, grown by a second line and the start of a third, read from its start
after the growth. -/
theorem reads_in_chunks_from_start :
    (0 : Int) ≤ ([97, 10] : List UInt8).length ∧
      ReadsInChunks none (openAt "log" 0) [97, 10] [[98, 10, 99]] false :=
  ⟨by decide, (reads_in_chunks "log" [97, 10] none [98, 10, 99] []).1 0 (by decide)⟩

end LogReader

end QuotaWatch
