import Mathlib.Data.List.Induction
import QuotaWatch.Proofs.SessionLog.ChunkedReads
/-!
**The one-shot tail scan against the first read of a tail reader.**

Both read a log from the tail offset: the scan takes the last usage event and drops it when older
than the cut-off, the reader takes the newest event not older than it. With a final line break
and usage lines in strictly increasing time the two agree on the lines they read. Those lines
differ: the reader drops the first line only when the tail starts inside it, the scan drops the
first piece whenever the tail starts past the beginning. Both read last lines of the log.

Main definitions:

* `LogReader.notOlder`, `LogReader.lastUnlessOlder` — an event unless older than the cut-off,
  and the last of some events so;
* `LogReader.tailLines` — the lines after a tail offset, the first perhaps skipped;
* `LogReader.TailAnswers` — what the scan and the first read of a tail reader answer.

Main results:

* `LogReader.foldl_pick_of_increasing` — a scan of lines in increasing time answers their last
  event unless older;
* `LogReader.tailLines_sublist` — the lines after a tail offset are last lines of the log;
* `LogReader.latestEvent_eq`, `LogReader.Fresh.read_first` — the scan's answer and the reader's;
* `LogReader.tail_scan_and_tail_read` — **the tail scan and the first read of a tail reader**;
* `LogReader.tail_scan_skips_line_at_tail_start` — a whole line at the tail offset is left out by
  the scan and read by the reader.
-/

namespace QuotaWatch

namespace SessionLog

/-! ### Lines of a log that ends with a line break -/

/-- A line break ends the last line: nothing is left after it. -/
theorem lines_append_newline (X : List UInt8) :
    completeLines (X ++ [10]) = completeLines X ++ [lastPiece X] ∧ lastPiece (X ++ [10]) = [] := by
  have hX := lines_eq_iff.1 (⟨rfl, rfl⟩ : completeLines X = _ ∧ lastPiece X = _)
  obtain ⟨hsplit, hls, hc⟩ := hX
  refine lines_eq_iff.2 ⟨?_, ?_, List.not_mem_nil⟩
  · conv_lhs => rw [hsplit]
    simp
  · intro l hl
    rcases List.mem_append.1 hl with hl | hl
    · exact hls l hl
    · rw [List.mem_singleton.1 hl]
      exact hc

theorem lastPiece_append_newline (X : List UInt8) : lastPiece (X ++ [10]) = [] :=
  (lines_append_newline X).2

/-- The bytes after the last line break hold none. -/
theorem not_mem_lastPiece (bs : List UInt8) : (10 : UInt8) ∉ lastPiece bs :=
  (lines_eq_iff.1 (⟨rfl, rfl⟩ : completeLines bs = _ ∧ lastPiece bs = _)).2.2

/-- Bytes without a line break put before some others run on into their first line and change
none of the later ones. -/
theorem completeLines_prepend_drop_one {c : List UInt8} (hc : (10 : UInt8) ∉ c) (X : List UInt8) :
    (completeLines (c ++ X)).drop 1 = (completeLines X).drop 1 := by
  obtain ⟨hsplit, hls, hlast⟩ := lines_eq_iff.1 (⟨rfl, rfl⟩ : completeLines X = _ ∧ lastPiece X = _)
  generalize completeLines X = ls at hsplit hls ⊢
  generalize lastPiece X = e at hsplit hlast
  subst hsplit
  cases ls with
  | nil =>
    -- no line ends in `X`, so none ends in `c ++ X` either
    have h := (@lines_eq_iff (c ++ ([].flatMap (· ++ [10]) ++ e)) (c ++ e) []).2
      ⟨by simp, by simp, by simp [hc, hlast]⟩
    rw [h.1]
  | cons l ls =>
    -- the first line gains `c`, the others stay
    have hl : (10 : UInt8) ∉ c ++ l := by simp [hc, hls l List.mem_cons_self]
    have h := (@lines_eq_iff (c ++ ((l :: ls).flatMap (· ++ [10]) ++ e)) e ((c ++ l) :: ls)).2
      ⟨by simp, fun m hm => (List.mem_cons.1 hm).elim (· ▸ hl) fun hm => hls m (List.mem_cons_of_mem l hm),
        hlast⟩
    rw [h.1]
    rfl

end SessionLog

/-- An empty line is no usage line. -/
theorem UsageEvent.ofLine?_nil : UsageEvent.ofLine? [] = none := by decide +kernel

namespace LogReader

open SessionLog

/-! ### The newest event of lines in time order -/

/-- An event, unless it is older than the cut-off. -/
def notOlder (since : Option Instant) (ev : UsageEvent) : Option UsageEvent :=
  match since with
  | some s => if ev.timestamp.before s then none else some ev
  | none => some ev

/-- The last event of a list, unless it is older than the cut-off. -/
def lastUnlessOlder (since : Option Instant) (evs : List UsageEvent) : Option UsageEvent :=
  evs.getLast?.bind (notOlder since)

theorem mem_of_lastUnlessOlder {since : Option Instant} {evs : List UsageEvent} {x : UsageEvent}
    (h : lastUnlessOlder since evs = some x) : x ∈ evs := by
  obtain ⟨y, hy, hx⟩ := Option.bind_eq_some_iff.1 h
  have : x = y := by
    unfold notOlder at hx
    split at hx
    · split at hx
      · cases hx
      · exact (Option.some.inj hx).symm
    · exact (Option.some.inj hx).symm
  exact this ▸ List.mem_of_getLast? hy

/-- When every event is older than the cut-off, so is the last. -/
theorem lastUnlessOlder_of_all_before {s : Instant} {evs : List UsageEvent}
    (h : ∀ e ∈ evs, e.timestamp.before s = true) : lastUnlessOlder (some s) evs = none := by
  unfold lastUnlessOlder
  cases hl : evs.getLast? with
  | none => rfl
  | some y => simp [notOlder, h y (List.mem_of_getLast? hl)]

theorem newer_of_before {acc : Option UsageEvent} {ev : UsageEvent}
    (h : ∀ x, acc = some x → x.timestamp.before ev.timestamp = true) : newer acc ev = ev := by
  cases acc with
  | none => rfl
  | some x => simp [newer, Instant.after, h x rfl]

/-- **A scan of lines whose events come in strictly increasing time** answers their last event,
unless that one is older than the cut-off. -/
theorem foldl_pick_of_increasing (since : Option Instant) (lines : List (List UInt8))
    (h : (lines.filterMap UsageEvent.ofLine?).Pairwise fun a b => a.timestamp.before b.timestamp = true) :
    lines.foldl (pick since) none = lastUnlessOlder since (lines.filterMap UsageEvent.ofLine?) := by
  induction lines using List.reverseRecOn with
  | nil => rfl
  | append_singleton init l ih =>
    rw [List.filterMap_append, List.pairwise_append] at h
    obtain ⟨hinit, -, hlater⟩ := h
    rw [List.foldl_append, List.foldl_cons, List.foldl_nil, ih hinit, List.filterMap_append]
    unfold pick
    cases hl : UsageEvent.ofLine? l with
    | none => simp [hl]
    | some ev =>
      -- every earlier event is older than `ev`, which is the last
      have hbefore : ∀ e ∈ init.filterMap UsageEvent.ofLine?, e.timestamp.before ev.timestamp = true :=
        fun e he => hlater e he ev (by simp [hl])
      have hnewer : newer (lastUnlessOlder since (init.filterMap UsageEvent.ofLine?)) ev = ev :=
        newer_of_before fun x hx => hbefore x (mem_of_lastUnlessOlder hx)
      have hlast : lastUnlessOlder since (init.filterMap UsageEvent.ofLine? ++ [ev]) = notOlder since ev := by
        simp [lastUnlessOlder]
      rw [List.filterMap_cons_some hl, List.filterMap_nil, hlast]
      cases since with
      | none => simp only [notOlder, hnewer]
      | some s =>
        by_cases hs : ev.timestamp.before s = true
        · simp only [notOlder, hs, if_true]
          exact lastUnlessOlder_of_all_before fun e he => Instant.before_trans (hbefore e he) hs
        · simp only [notOlder, hs, Bool.false_eq_true, if_false, hnewer]

/-! ### The lines after a tail offset -/

theorem skipFirst_sublist (skip : Bool) (ls : List (List UInt8)) : (skipFirst skip ls).Sublist ls := by
  cases skip
  · exact List.Sublist.refl ls
  · exact List.drop_sublist 1 ls

/-- The complete lines from an offset on, the first left out when `skip`. -/
def tailLines (content : List UInt8) (off : Int) (skip : Bool) : List (List UInt8) :=
  skipFirst skip (completeLines (content.drop off.toNat))

/-- An offset past the start whose previous byte is no line break starts inside a line. -/
theorem startsMidLine_of_lastPiece {content : List UInt8} {off : Int} (hoff : 0 ≤ off)
    (hle : off ≤ content.length) (h : lastPiece (content.take off.toNat) ≠ []) :
    startsMidLine content off = true := by
  have hpos : off.toNat ≠ 0 := by
    intro h0
    rw [h0, List.take_zero, lastPiece_nil] at h
    exact h rfl
  have hlast : (content.take off.toNat).getLast? = content[off.toNat - 1]? := by
    rw [List.getLast?_take, if_neg hpos,
      List.getElem?_eq_getElem (show off.toNat - 1 < content.length by omega), Option.some_or]
  have hbreak : content[off.toNat - 1]? ≠ some 10 := by
    intro hb
    obtain ⟨ys, hys⟩ := List.getLast?_eq_some_iff.1 (hlast.trans hb)
    exact h (by rw [hys, lastPiece_append_newline])
  have hidx : (off - 1).toNat = off.toNat - 1 := by omega
  simp [startsMidLine, hidx, hbreak, show (0 : Int) < off by omega]

/-- **The lines after a tail offset are the last lines of the log**: skipping the first of them
whenever the offset starts inside a line, they are a sublist of all its complete lines. -/
theorem tailLines_sublist {content : List UInt8} {off : Int} (hoff : 0 ≤ off) (hle : off ≤ content.length)
    {skip : Bool} (hskip : startsMidLine content off = true → skip = true) :
    (tailLines content off skip).Sublist (completeLines content) := by
  have hsplit := completeLines_append (content.take off.toNat) (content.drop off.toNat)
  rw [List.take_append_drop] at hsplit
  rw [hsplit, tailLines]
  by_cases hc : lastPiece (content.take off.toNat) = []
  · -- the offset starts a line: its lines are the log's last ones
    rw [hc, List.nil_append]
    exact (skipFirst_sublist _ _).trans (List.sublist_append_right _ _)
  · -- the offset is inside a line, which both leave out
    rw [hskip (startsMidLine_of_lastPiece hoff hle hc), skipFirst, if_pos rfl,
      ← completeLines_prepend_drop_one (not_mem_lastPiece _)]
    exact (List.drop_sublist _ _).trans (List.sublist_append_right _ _)

/-! ### The two answers -/

/-- Leaving out the first piece or not, an empty last piece adds no event. -/
theorem filterMap_skip_append_empty (p : Prop) [Decidable p] (ls : List (List UInt8)) :
    (if p then (ls ++ [[]]).drop 1 else ls ++ [[]]).filterMap UsageEvent.ofLine? =
      (skipFirst (decide p) ls).filterMap UsageEvent.ofLine? := by
  by_cases hp : p
  · cases ls <;> simp [hp, skipFirst, UsageEvent.ofLine?_nil]
  · simp [hp, skipFirst, UsageEvent.ofLine?_nil]

/-- What the one-shot scan answers on a log that ends with a line break: the last event of the
complete lines after the tail offset, all of them but the first when the offset is past the
start. -/
theorem latestEvent_eq {content : List UInt8} (hend : content.getLast? = some 10)
    (since : Option Instant) (tail : Int) :
    latestEvent content since tail =
      lastUnlessOlder since (((tailLines content (startOffset content.length tail)
        (decide (0 < startOffset content.length tail)))).filterMap UsageEvent.ofLine?) := by
  obtain ⟨X, rfl⟩ := List.getLast?_eq_some_iff.1 hend
  have hlt : (startOffset (X ++ [10]).length tail).toNat ≤ X.length := by
    simp only [startOffset, List.length_append, List.length_singleton]
    split <;> omega
  -- the bytes read end with the log's last line break, so no piece follows the complete lines
  have hpieces : splitLines ((X ++ [10]).drop (startOffset (X ++ [10]).length tail).toNat) =
      completeLines ((X ++ [10]).drop (startOffset (X ++ [10]).length tail).toNat) ++ [[]] := by
    rw [splitLines_eq, List.drop_append_of_le_length hlt, lastPiece_append_newline]
  unfold latestEvent
  rw [if_neg (by simp)]
  dsimp only
  rw [List.filterMap_reverse, List.head?_reverse, hpieces, filterMap_skip_append_empty, tailLines,
    lastUnlessOlder]
  simp only [gt_iff_lt]
  generalize (List.filterMap UsageEvent.ofLine? _).getLast? = last
  cases last <;> rfl

/-- A reader that has read nothing yet answers, on its first read, the scan of the complete lines
after its offset, the first left out when it skips. -/
theorem Fresh.read_first {r : LogReader} {content : List UInt8} (hr : r.Fresh content)
    (since : Option Instant) :
    r.read content since =
      .ok ((tailLines content r.offset r.skipPartial).foldl (pick since) none, r.advance content) := by
  have h := hr.handedLines []
  rw [List.append_nil] at h
  rw [read_eq since hr.le, h, tailLines]

/-- What the one-shot scan and the first read of a reader opened on the same tail answer, with
`off` the tail offset: -/
structure TailAnswers (path : String) (content : List UInt8) (since : Option Instant) (tail : Int) :
    Prop where
  /-- the scan answers the last event of the complete lines after `off`, the first left out
  whenever `off` is past the start, unless it is older than the cut-off; -/
  scan : latestEvent content since tail =
    lastUnlessOlder since ((tailLines content (startOffset content.length tail)
      (decide (0 < startOffset content.length tail))).filterMap UsageEvent.ofLine?)
  /-- the read answers the same of the same lines, the first left out only when `off` falls
  inside it; -/
  read : ∃ r', (openTail path content tail).read content since =
    .ok (lastUnlessOlder since ((tailLines content (startOffset content.length tail)
      (startsMidLine content (startOffset content.length tail))).filterMap UsageEvent.ofLine?), r')
  /-- so the two agree whenever the tail does not start right at a line past the beginning. -/
  agree : startsMidLine content (startOffset content.length tail) =
      decide (0 < startOffset content.length tail) →
    ∃ r', (openTail path content tail).read content since = .ok (latestEvent content since tail, r')

/-- **The tail scan and the first read of a tail reader**, on a log that ends with a line break
and whose usage lines come in strictly increasing time. -/
theorem tail_scan_and_tail_read (path : String) (content : List UInt8)
    (hend : content.getLast? = some 10)
    (hinc : ((completeLines content).filterMap UsageEvent.ofLine?).Pairwise
      fun a b => a.timestamp.before b.timestamp = true)
    (since : Option Instant) (tail : Int) : TailAnswers path content since tail := by
  have hr := openTail_fresh path content tail
  have hskip : (openTail path content tail).skipPartial = startsMidLine content (startOffset content.length tail) :=
    rfl
  have hoff : (openTail path content tail).offset = startOffset content.length tail := rfl
  -- the reader's lines are the log's last lines, so their events are in time order too
  have hread : (openTail path content tail).read content since =
      .ok (lastUnlessOlder since ((tailLines content (startOffset content.length tail)
        (startsMidLine content (startOffset content.length tail))).filterMap UsageEvent.ofLine?),
        (openTail path content tail).advance content) := by
    rw [hr.read_first since, hskip, hoff, foldl_pick_of_increasing]
    refine hinc.sublist ((tailLines_sublist ?_ ?_ id).filterMap _)
    · exact hoff ▸ hr.nonneg
    · exact hoff ▸ hr.le
  refine ⟨latestEvent_eq hend since tail, ⟨_, hread⟩, fun hsame => ⟨(openTail path content tail).advance content, ?_⟩⟩
  rw [hread, latestEvent_eq hend, hsame]

/-- A usage line with no readings, stamped `stamp`. -/
def sampleUsageLine (stamp : String) : List UInt8 :=
  Utf8.bytesOf ("\x7b\"timestamp\":\"" ++ stamp ++
    "\",\"type\":\"event_msg\",\"payload\":\x7b\"type\":\"token_count\",\"rate_limits\":\x7b\x7d\x7d\x7d")

/-- Two usage lines an hour apart, with a tail that starts inside the first. -/
theorem tail_scan_and_tail_read_inside_first_line :
    (sampleUsageLine "2025-01-15T10:00:00Z" ++ [10] ++ sampleUsageLine "2025-01-15T11:00:00Z" ++ [10]).getLast? =
        some 10 ∧
      ((completeLines (sampleUsageLine "2025-01-15T10:00:00Z" ++ [10] ++
        sampleUsageLine "2025-01-15T11:00:00Z" ++ [10])).filterMap UsageEvent.ofLine?).Pairwise
          (fun a b => a.timestamp.before b.timestamp = true) ∧
      TailAnswers "log" (sampleUsageLine "2025-01-15T10:00:00Z" ++ [10] ++
        sampleUsageLine "2025-01-15T11:00:00Z" ++ [10]) none 120 :=
  ⟨by decide +kernel, by decide +kernel, tail_scan_and_tail_read _ _ (by decide +kernel) (by decide +kernel) _ _⟩

/-- **A whole line at the tail offset is left out by the scan and read by the reader**: with an
empty first line and the tail starting right after it, the scan finds no event while the first
read of the tail reader answers the usage line. -/
theorem tail_scan_skips_line_at_tail_start :
    ([10] ++ sampleUsageLine "2025-01-15T10:00:00Z" ++ [10]).getLast? = some 10 ∧
      ((completeLines ([10] ++ sampleUsageLine "2025-01-15T10:00:00Z" ++ [10])).filterMap
        UsageEvent.ofLine?).Pairwise (fun a b => a.timestamp.before b.timestamp = true) ∧
      (latestEvent ([10] ++ sampleUsageLine "2025-01-15T10:00:00Z" ++ [10]) none
        ((sampleUsageLine "2025-01-15T10:00:00Z").length + 1)).isNone = true ∧
      (((openTail "log" ([10] ++ sampleUsageLine "2025-01-15T10:00:00Z" ++ [10])
        ((sampleUsageLine "2025-01-15T10:00:00Z").length + 1)).read
          ([10] ++ sampleUsageLine "2025-01-15T10:00:00Z" ++ [10]) none).toOption.bind Prod.fst).isSome =
        true := by
  decide +kernel

end LogReader

end QuotaWatch
