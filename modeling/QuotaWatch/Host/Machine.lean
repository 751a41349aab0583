import QuotaWatch.Config.Settings
import QuotaWatch.Credential.Token
import QuotaWatch.SessionLog.Ingest
import QuotaWatch.Service.Runner
/-!
**The machine a command runs on.**

A run sees an environment, files and a working directory, history databases, the files that can
be started and what a started program does, the clock and the platform. It answers the services:
the settings (from the environment and the first environment file), the signed-in identity, the
newest usage event of the session logs, sending a message through the `codex` program (started
with `exec --skip-git-repo-check [-m model] message`, failing on a nonzero status with its last
line), and opening a history database. Paths are text, cleaned lexically. The programs the
machine starts are not modelled: what one does is the machine's `launch`, a parameter.
-/

namespace QuotaWatch

/-- How a started program ended: with an exit status, or stopped by a signal, named as the
system names it (`killed`). -/
inductive Ending where
  | exited (status : Nat)
  | signaled (name : String)
  deriving Inhabited

/-- The text of how a program that ran ended, when it failed: its status or its signal. -/
def Ending.failure : Ending → Option String
  | .exited 0 => none
  | .exited n => some ("exit status " ++ toString n)
  | .signaled name => some ("signal: " ++ name)

/-- A program started by a command: the file, its arguments, the environment and working
directory it is given, and the files and the time it finds. -/
structure Launched where
  path : Path
  args : List String
  env : List (String × String)
  cwd : Path
  files : FileTree
  now : Instant

/-- What starting a program came to: it was missing (so was the interpreter it names), the
system refused it with a cause (`exec format error`), or it ran to an end, writing `output` to
its two streams together and leaving `files`. -/
inductive Launch where
  | missing
  | refused (why : String)
  | ran (ending : Ending) (output : String) (files : FileTree)
  deriving Inhabited

/-- A machine: environment, files, working directory, history databases by file, the files
that can be started, what a started program does, the clock, the platform as `os/arch`, and
whether there is a terminal. -/
structure Machine where
  env : List (String × String) := []
  files : FileTree := {}
  cwd : Path := []
  now : Instant := Instant.zero
  databases : List (Path × HistoryDb) := []
  programs : List Path := []
  /-- What a program does once started: by default it ends at once, with status 0 and nothing
  written. -/
  launch : Launched → Launch := fun l => .ran (.exited 0) "" l.files
  platform : String := ""
  /-- Whether the standard streams are a terminal, where the dashboard can be drawn. -/
  terminal : Bool := false
  deriving Inhabited

namespace Machine

/-- The value of a variable. -/
def getenv? (m : Machine) (k : String) : Option String := (m.env.find? (·.1 == k)).map (·.2)

/-- Sets a variable. -/
def setenv (m : Machine) (k v : String) : Machine :=
  { m with env := m.env.filter (·.1 ≠ k) ++ [(k, v)] }

/-- Removes a variable. -/
def unsetenv (m : Machine) (k : String) : Machine := { m with env := m.env.filter (·.1 ≠ k) }

/-- The path a text names: absolute when it starts with `/`, else from the working directory. -/
def resolve (m : Machine) (s : String) : Path :=
  if s.startsWith "/" then Path.ofText (PathName.clean s)
  else Path.ofText (PathName.clean ("/" ++ m.cwd.text ++ "/" ++ s))

/-- The home directory, empty when unknown. -/
def home (m : Machine) : String := (m.getenv? "HOME").getD ""

/-- What a path holds when it exists: a file's content, nothing for a directory or a socket,
which cannot be read. -/
def stat? (m : Machine) (p : Path) : Option (List UInt8) :=
  match m.files.find? p with
  | some (.file id _) => some (m.files.content id)
  | some _ => some []
  | none => none

/-- The environment files, in order of preference: the working directory's, then the two of
the home directory. -/
def envFiles (m : Machine) : List Path :=
  let h := m.home
  [m.cwd ++ [".env"]] ++
    (if h = "" then [] else [m.resolve (h ++ "/.config/codexhud/.env"), m.resolve (h ++ "/.codex/.env")])

/-- The environment after the first environment file found is loaded. -/
def loadedEnv (m : Machine) : Env :=
  Env.loadFirst (Table.ofList m.env) (m.envFiles.map m.stat?)

/-- Makes the directory that holds a path named by text, unless that is the working directory
named by `.`. -/
def ensureParent (m : Machine) (s : String) : Except FsError Machine :=
  let dir := PathName.clean (s ++ "/..")
  if dir = "." || s = "" then .ok m
  else do
    let files ← m.files.mkdirAll (m.resolve dir) m.now
    return { m with files }

/-- The settings of the machine; the directories of the state file and the database are made.
The message says why there are none. -/
def settings (m : Machine) : Except String (Settings × Machine) := do
  let s ← (Settings.load m.loadedEnv m.home).mapError SettingsError.message
  let m ← (m.ensureParent s.statePath).mapError FsError.message
  let m ← (m.ensureParent s.databasePath).mapError FsError.message
  return (s, m)

/-- The email of the signed-in account, from the credential file, or why it cannot be read. -/
def identity (m : Machine) (authPath : String) : Except String String :=
  match m.files.bytesAt (m.resolve authPath) with
  | .error e =>
    if e.cause = .notFound then .error (CredentialError.fileNotFound authPath).message
    else .error ("read auth file: " ++ e.message)
  | .ok data =>
    match Identity.ofBytes data with
    | .ok i => .ok i.email
    | .error e => .error e.message

/-- The newest usage event written to the newest session log since a time, as a fresh follower
of the logs sees it. -/
def usageEvents (m : Machine) (s : Settings) (since : Option Instant) :
    Except SourceError (Option UsageEvent) :=
  match (Ingestor.make (m.resolve s.sessionsDir) s.tailBytes).next m.files since with
  | (.ok ev, _) => .ok ev
  | (.error .logsNotFound, _) => .error .logsNotFound
  | (.error (.io e), _) => .error (.other e.message)

/-- The newest usage event of the whole newest session log since a time. -/
def fullScan (m : Machine) (s : Settings) (since : Option Instant) :
    Except String (Option UsageEvent) :=
  match (Ingestor.make (m.resolve s.sessionsDir) s.tailBytes).locator.latest m.files with
  | .ok (some p) =>
    match m.files.bytesAt p with
    | .ok data => .ok (SessionLog.latestEvent data since 0)
    | .error e => .error e.message
  | _ => .ok none

/-! ### Starting the `codex` program -/

/-- The last line of a program's output, blanks around it removed. -/
def lastLine (s : String) : String :=
  ((Text.trimSpace s).splitOn "\n").getLastD ""

/-- Finds a program by name in the directories of the search path: a file there that can be
started. -/
def lookPath (m : Machine) (name : String) : Option String :=
  let dirs := ((m.getenv? "PATH").getD "").splitOn ":"
  dirs.findSome? fun d =>
    let text := (if d = "" then "." else d) ++ "/" ++ name
    let p := m.resolve text
    if m.programs.contains p && (m.files.fileId? p).isSome then some text else none

/-- The arguments a message is sent with. -/
def sendArgs (model message : String) : List String :=
  ["exec", "--skip-git-repo-check"] ++ (if model = "" then [] else ["-m", model]) ++ [message]

/-- Sends a message through the program `bin` (or `codex` on the search path when `bin` is
empty): the machine after the program ran, and why sending failed if it did. The system refuses
to start a directory or a file that cannot be started, and a path through a file; what the
program does once started is the machine's `launch`. A program that is missing, or whose own
interpreter is, is not found; any other failure names its cause and the last line of the
program's output. -/
def send (m : Machine) (bin model message : String) : Machine × Option String :=
  let found : Except String String :=
    if bin ≠ "" then .ok bin
    else match m.lookPath "codex" with
      | some p => .ok p
      | none => .error "codex executable not found: exec: \"codex\": executable file not found in $PATH"
  match found with
  | .error e => (m, some e)
  | .ok path =>
    -- A name without a slash is looked for on the search path.
    let target := if path.contains '/' then some path else m.lookPath path
    let notFound := some ("codex executable not found: " ++ path)
    match target with
    | none => (m, notFound)
    | some t =>
      let p := m.resolve t
      let failed := fun (why out : String) => some ("codex execution failed: " ++ why ++ ": " ++ lastLine out)
      let refused := fun (why : String) => failed ("fork/exec " ++ t ++ ": " ++ why) ""
      match m.files.find? p, m.files.parentProblem p with
      | _, some .notDir => (m, refused "not a directory")
      | none, _ => (m, notFound)
      | some (.dir _), _ | some (.socket _), _ => (m, refused "permission denied")
      | some (.file _ _), _ =>
        if !m.programs.contains p then (m, refused "permission denied")
        else match m.launch ⟨p, sendArgs model message, m.env, m.cwd, m.files, m.now⟩ with
          | .missing => (m, notFound)
          | .refused why => (m, refused why)
          | .ran ending out files =>
            ({ m with files }, (ending.failure).bind fun why => failed why out)

/-! ### History databases -/

/-- Opens the history database in the file a text names, creating its directory and the file;
a directory in its place cannot be opened, nor a file that holds something else. -/
def openDatabase (m : Machine) (path : String) : Except String (HistoryDb × Machine) := do
  let m ← (m.ensureParent path).mapError fun e => "failed to create database directory: " ++ e.message
  let p := m.resolve path
  match m.files.find? p, m.databases.find? (·.1 == p) with
  | some (.dir _), _ | some (.socket _), _ =>
    throw "failed to connect to database: unable to open database file: out of memory (14)"
  | some (.file _ _), some (_, db) => return (db, m)
  | some (.file id _), none =>
    if (m.files.content id).isEmpty then return (HistoryDb.fresh, m)
    else throw "failed to configure database: failed to execute PRAGMA journal_mode=WAL: file is not a database (26)"
  | none, _ =>
    match m.files.putBytes p [] m.now with
    | .ok files => return (HistoryDb.fresh, { m with files })
    | .error e => throw ("failed to connect to database: unable to open database file: " ++ e.cause.text)

/-- Keeps a history database in the file a text names. -/
def keepDatabase (m : Machine) (path : String) (db : HistoryDb) : Machine :=
  let p := m.resolve path
  { m with databases := (p, db) :: m.databases.filter (·.1 ≠ p) }

end Machine

end QuotaWatch
