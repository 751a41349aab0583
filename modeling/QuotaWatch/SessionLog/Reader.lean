import QuotaWatch.SessionLog.Line
/-!
**Reading the newest events of a growing log.**

A one-shot scan reads at most a tail length of the file's end, drops the first piece when it
starts past the beginning, and takes the last usage line, answering nothing when it is older
than the cut-off. An incremental reader keeps its offset and the bytes after the last line
break, hands each complete appended line to the parser and answers the newest event not older
than the cut-off; a partial first line is skipped, and a file shorter than the offset was
truncated.
-/

namespace QuotaWatch

namespace SessionLog

/-- The offset a fresh reader starts at so that at most `tail` bytes are read; `0` for a
tail that is not positive. -/
def startOffset (size tail : Int) : Int := if tail ≤ 0 then 0 else max 0 (size - tail)

/-- The pieces of a byte list between line breaks, the last one possibly empty. -/
def splitLines (bs : List UInt8) : List (List UInt8) := bs.splitOn 10

/-- The newest usage event in the last `maxBytes` of a file's content, or none when it is older
than `since`. -/
def latestEvent (content : List UInt8) (since : Option Instant) (maxBytes : Int) :
    Option UsageEvent :=
  if content.isEmpty then none
  else
    let start := startOffset content.length maxBytes
    let lines := splitLines (content.drop start.toNat)
    let lines := if start > 0 then lines.drop 1 else lines
    match (lines.reverse.filterMap UsageEvent.ofLine?).head? with
    | none => none
    | some ev =>
      match since with
      | some s => if ev.timestamp.before s then none else some ev
      | none => some ev

/-- Why a read fails. -/
inductive ReadError where
  /-- The file at `path` is `size` bytes, less than the reader's `offset`. -/
  | truncated (path : String) (size offset : Int)
  deriving Repr

/-- The message of a read error. -/
def ReadError.message : ReadError → String
  | .truncated p size off =>
    p ++ ": size " ++ toString size ++ " below offset " ++ toString off ++ ": session log truncated"

end SessionLog

/-- An incremental reader of one log file. -/
structure LogReader where
  path : String
  offset : Int
  carry : List UInt8 := []
  skipPartial : Bool := false
  deriving Inhabited

namespace LogReader

open SessionLog

/-- A reader at an offset (negative offsets start at the beginning). -/
def openAt (path : String) (offset : Int) : LogReader := ⟨path, max 0 offset, [], false⟩

/-- A reader at most `tail` bytes before the end of `content`, skipping the line it lands in
unless that starts right at the offset. -/
def openTail (path : String) (content : List UInt8) (tail : Int) : LogReader :=
  let off := startOffset content.length tail
  let partial_ := off > 0 && content[(off - 1).toNat]? != some 10
  ⟨path, off, [], partial_⟩

/-- The newer of two events: the second only when strictly later. -/
def newer (a : Option UsageEvent) (b : UsageEvent) : UsageEvent :=
  match a with
  | some x => if b.timestamp.after x.timestamp then b else x
  | none => b

/-- Consumes the complete lines of `carry`: the newest qualifying event, whether a partial
line is still to be skipped, and the bytes after the last line break. -/
def scanLines (since : Option Instant) (skip : Bool) (acc : Option UsageEvent) :
    List (List UInt8) → Option UsageEvent × Bool × List UInt8
  | [] => (acc, skip, [])
  | [rest] => (acc, skip, rest)
  | line :: more =>
    if skip then scanLines since false acc more
    else
      let acc := match UsageEvent.ofLine? line with
        | some ev =>
          match since with
          | some s => if ev.timestamp.before s then acc else some (newer acc ev)
          | none => some (newer acc ev)
        | none => acc
      scanLines since false acc more

/-- Reads what was appended to the file since the last read: the newest event not older than
`since`, and the reader after it. -/
def read (r : LogReader) (content : List UInt8) (since : Option Instant) :
    Except ReadError (Option UsageEvent × LogReader) :=
  let size : Int := content.length
  if size < r.offset then .error (.truncated r.path size r.offset)
  else if size = r.offset then .ok (none, r)
  else
    let data := content.drop r.offset.toNat
    let buf := r.carry ++ data
    let (ev, skip, rest) := scanLines since r.skipPartial none (splitLines buf)
    .ok (ev, { r with offset := size, carry := rest, skipPartial := skip })

end LogReader

end QuotaWatch
