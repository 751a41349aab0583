import QuotaWatch.SessionLog.Locate
import QuotaWatch.SessionLog.Reader
/-!
**Following the newest session log.**

An ingestor keeps one reader on the newest log. Each step locates the newest log again; a
different file gets a fresh reader at the tail, and a truncated file is reopened at its tail and
read again. With no log at all the reader is dropped and the step reports that logs were not
found. The reader keeps reading the file it opened, even after that file is removed.
-/

namespace QuotaWatch

/-- Why an ingestor step fails. -/
inductive IngestError where
  | logsNotFound
  | io (e : FsError)
  deriving Inhabited

/-- The message of an ingestor error. -/
def IngestError.message : IngestError → String
  | .logsNotFound => "session logs not found"
  | .io e => e.message

/-- A follower of the newest log: where to look, how much history a fresh reader takes, and
the current reader with the number of the file it reads. -/
structure Ingestor where
  locator : Locator
  tailBytes : Int := 256 * 1024
  reader : Option (LogReader × Nat) := none
  deriving Inhabited

namespace Ingestor

/-- An ingestor for a root; a tail length that is not positive means 256 KiB. -/
def make (root : Path) (tailBytes : Int) : Ingestor :=
  { locator := ⟨root, 25⟩, tailBytes := if tailBytes ≤ 0 then 256 * 1024 else tailBytes }

/-- The file followed, or the empty path. -/
def path (i : Ingestor) : Path := (i.reader.map fun (r, _) => Path.ofText r.path).getD []

/-- A fresh reader at the tail of the file at `p`. -/
def openAt (i : Ingestor) (t : FileTree) (p : Path) : Except IngestError Ingestor :=
  match t.fileId? p with
  | some id => .ok { i with reader := some (LogReader.openTail p.text (t.content id) i.tailBytes, id) }
  | none => if t.isDir p then .error (.io ⟨"read", p, .isDir⟩) else .error .logsNotFound

/-- Locates the newest log and reads what was appended to it: the newest new event not older
than `since`. -/
def next (i : Ingestor) (t : FileTree) (since : Option Instant) :
    Except IngestError (Option UsageEvent) × Ingestor :=
  match i.locator.latest t with
  | .error e => (.error (.io e), i)
  | .ok none => (.error .logsNotFound, { i with reader := none })
  | .ok (some p) =>
    let opened : Except IngestError Ingestor := match i.reader with
      | some (r, _) => if r.path = p.text then .ok i else i.openAt t p
      | none => i.openAt t p
    match opened with
    | .error e => (.error e, { i with reader := none })
    | .ok i =>
      match i.reader with
      | none => (.ok none, i)
      | some (r, id) =>
        match r.read (t.content id) since with
        | .ok (ev, r2) => (.ok ev, { i with reader := some (r2, id) })
        | .error _ =>
          match i.openAt t p with
          | .error e => (.error e, { i with reader := none })
          | .ok i =>
            match i.reader with
            | none => (.ok none, i)
            | some (r, id) =>
              match r.read (t.content id) since with
              | .ok (ev, r2) => (.ok ev, { i with reader := some (r2, id) })
              | .error e => (.error (.io ⟨e.message, [], .notFound⟩), i)

end Ingestor

end QuotaWatch
