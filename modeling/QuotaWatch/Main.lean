import QuotaWatch.Cli.Program
import Std.Time
/-!
**The command line on the machine it is started on.**

`main` gathers what a run can see into a `Machine`: the variables the settings read with `HOME`,
`PATH`, `TERM` and `TZ`, the working directory, the clock, whether the output is a terminal, and
the files a run reads (environment files, credential, state and log files, and arguments naming
files; the standard input only for an import). Afterwards it prints both streams and writes back
the new directories and changed files, never over a file it did not read, and exits with the
run's status.
-/

namespace QuotaWatch.Host

/-- The variables a run can see. -/
def variableNames : List String :=
  ["HOME", "PATH", "TERM", "TZ"] ++ Settings.variableNames ++
    ["COMPLETION_DESCRIPTIONS"].flatMap fun v =>
      [Completion.envVariable programName v, Completion.envVariable "cobra" v]

/-- The absolute text of a path. -/
def pathText (p : Path) : String := "/" ++ p.text

/-- The files a run of `args` may read besides the environment files: with the settings of `m`,
the credential file, the state file and the log beside it; then every argument that is not a
flag. -/
def filesToRead (m : Machine) (args : List String) : List Path :=
  let settingsFiles := match m.settings with
    | .ok (s, _) =>
      let state := m.resolve s.statePath
      [m.resolve s.authPath, state, state.parent ++ ["codexhud.log"]]
    | .error _ => []
  settingsFiles ++ (args.filter fun a => !a.startsWith "-").map m.resolve

/-- The files of `after` that are new or changed since `before`, with their content, leaving out
the path `skip`. -/
def written (before after : FileTree) (skip : Option Path) : List (Path × List UInt8) :=
  after.entries.filterMap fun (p, e) =>
    match e with
    | .file id _ =>
      let data := after.content id
      if skip = some p then none
      else match before.fileId? p with
        | some old => if before.content old = data then none else some (p, data)
        | none => some (p, data)
    | .dir _ | .socket _ => none

/-- The directories of `after` that `before` does not have. -/
def madeDirs (before after : FileTree) : List Path :=
  after.entries.filterMap fun (p, e) =>
    if e.isDir && (before.find? p).isNone then some p else none

/-- The content of a file, if it can be read. -/
def readFile? (p : Path) : IO (Option (List UInt8)) := do
  let .ok data ← (IO.FS.readBinFile (pathText p)).toBaseIO | return none
  return some data.toList

/-- Whether something is at a path: it opens for reading. -/
def present (p : Path) : IO Bool := do
  let .ok _ ← (IO.FS.Handle.mk (pathText p) .read).toBaseIO | return false
  return true

/-- Adds the files that can be read to the tree of a machine, with their parent directories. -/
def load (m : Machine) (ps : List Path) : IO Machine :=
  ps.foldlM (fun m p => do
    if (m.files.find? p).isSome then return m
    match ← readFile? p with
    | none => return m
    | some data =>
      match m.files.mkdirAll p.parent m.now >>= fun t => t.putBytes p data m.now with
      | .ok files => return { m with files }
      | .error _ => return m) m

/-- Writes back what a run made on the machine `before`: its new directories, and its new or
changed files, except the path `skip` and new files where something is already there. -/
def store (before after : Machine) (skip : Option Path) : IO Unit := do
  for p in madeDirs before.files after.files do
    let _ ← (IO.FS.createDirAll (pathText p)).toBaseIO
  for (p, data) in written before.files after.files skip do
    if (before.files.fileId? p).isSome || !(← present p) then
      let _ ← (IO.FS.createDirAll (pathText p.parent)).toBaseIO
      let _ ← (IO.FS.writeBinFile (pathText p) ⟨data.toArray⟩).toBaseIO

/-- The time now. -/
def clock : IO Instant := do
  let ns := (← Std.Time.Timestamp.now).toNanosecondsSinceUnixEpoch.val
  return Instant.ofUnix (ns / 1000000000) (ns % 1000000000)

/-- Runs the command line with `args` on this machine and answers its status. -/
def run (args : List String) : IO UInt32 := do
  let mut env : List (String × String) := []
  for k in variableNames do
    if let some v ← IO.getEnv k then env := env ++ [(k, v)]
  let cwd := Path.ofText (toString (← IO.currentDir))
  let terminal ← (← IO.getStdout).isTty
  let m : Machine := { env, cwd, now := ← clock, platform := "linux/amd64", terminal }
  let m ← load m m.envFiles
  let m ← load m (filesToRead m args)
  let stdin ← if args.contains "import" then (← IO.getStdin).readToEnd else pure ""
  let (after, out) := Cli.run m args stdin
  let skip := match m.settings with
    | .ok (s, _) => some (m.resolve s.databasePath)
    | .error _ => none
  store m after skip
  IO.print out.stdout
  IO.eprint out.stderr
  return out.exit.toUInt32

end QuotaWatch.Host

/-- Runs the command line with its arguments. -/
def main (args : List String) : IO UInt32 := QuotaWatch.Host.run args
