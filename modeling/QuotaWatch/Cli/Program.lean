import QuotaWatch.Cli.Report
import QuotaWatch.Host.Machine
import QuotaWatch.Accounts.File
import QuotaWatch.Build.Info
import QuotaWatch.Cli.Complete
import QuotaWatch.Completion.Shell
/-!
**The command line.**

`codexhud` (or `codexhud watch`) runs the dashboard, which needs a terminal. The subcommands
`status` (`--json`, `--scan`), `automation` (`--daily-hello`, `--forced-refresh`), `accounts
list|import|export|add|remove`, `history` (`--runs`), `version`, `help` and `completion` give
scripts the same core. Every command but `version` loads the settings first. A refused command
line or a failed command prints `Error: ` and the reason on the standard error, with status 1.
-/

namespace QuotaWatch.Cli

/-! ### The tree of commands -/

/-- The longer texts of the completion commands, by shell. -/
def completionLong (shell : String) : String :=
  let n := programName
  if shell = "bash" then
    "Generate the autocompletion script for the bash shell.\n\nThis script depends on the 'bash-completion' package.\nIf it is not installed already, you can install it via your OS's package manager.\n\nTo load completions in your current shell session:\n\n\tsource <(" ++ n ++ " completion bash)\n\nTo load completions for every new session, execute once:\n\n#### Linux:\n\n\t" ++ n ++ " completion bash > /etc/bash_completion.d/" ++ n ++ "\n\n#### macOS:\n\n\t" ++ n ++ " completion bash > $(brew --prefix)/etc/bash_completion.d/" ++ n ++ "\n\nYou will need to start a new shell for this setup to take effect.\n"
  else if shell = "fish" then
    "Generate the autocompletion script for the fish shell.\n\nTo load completions in your current shell session:\n\n\t" ++ n ++ " completion fish | source\n\nTo load completions for every new session, execute once:\n\n\t" ++ n ++ " completion fish > ~/.config/fish/completions/" ++ n ++ ".fish\n\nYou will need to start a new shell for this setup to take effect.\n"
  else if shell = "powershell" then
    "Generate the autocompletion script for powershell.\n\nTo load completions in your current shell session:\n\n\t" ++ n ++ " completion powershell | Out-String | Invoke-Expression\n\nTo load completions for every new session, add the output of the above command\nto your powershell profile.\n"
  else
    "Generate the autocompletion script for the zsh shell.\n\nIf shell completion is not already enabled in your environment you will need\nto enable it.  You can execute the following once:\n\n\techo \"autoload -U compinit; compinit\" >> ~/.zshrc\n\nTo load completions in your current shell session:\n\n\tsource <(" ++ n ++ " completion zsh)\n\nTo load completions for every new session, execute once:\n\n#### Linux:\n\n\t" ++ n ++ " completion zsh > \"$\x7bfpath[1]\x7d/_" ++ n ++ "\"\n\n#### macOS:\n\n\t" ++ n ++ " completion zsh > $(brew --prefix)/share/zsh/site-functions/_" ++ n ++ "\n\nYou will need to start a new shell for this setup to take effect.\n"

/-- The completion command and its four shells. -/
def completionCommand : Command :=
  .node { use := "completion", summary := "Generate the autocompletion script for the specified shell",
          long := "Generate the autocompletion script for " ++ programName ++
            " for the specified shell.\nSee each sub-command's help for details on how to use the generated script.\n",
          args := .none, runs := false, candidates := .nothing }
    (["bash", "fish", "powershell", "zsh"].map fun shell =>
      .node { use := shell, summary := "Generate the autocompletion script for " ++ shell,
              long := completionLong shell, args := .none, bareUse := shell = "bash", candidates := .nothing,
              flags := [⟨"no-descriptions", none, .switch, "disable completion descriptions", "false"⟩] } [])

/-- The commands of the program, in the order they were added. -/
def tree : Command :=
  .node { use := programName, summary := "Quota HUD for multiple Codex accounts",
          long := "codexhud tracks the 5-hour and weekly quota of every configured Codex account\nand recommends which one to use next.",
          prepare := some true }
    [.node { use := "watch", summary := "Run the terminal dashboard (default)", args := .none } [],
     .node { use := "status", summary := "Refresh once and print quota for every account", args := .none,
             flags := [⟨"json", none, .switch, "print the status as JSON", "false"⟩,
                       ⟨"scan", none, .switch, "scan the whole session log when no new event is found", "false"⟩] } [],
     .node { use := "automation", summary := "Run one automated action, for use from cron or launchd",
             long := "Runs the daily hello or the forced refresh for the signed-in account.\nThe action is skipped when its policy blocks it; a failed attempt exits non-zero.",
             args := .none,
             flags := [⟨"daily-hello", none, .switch, "send the keep-alive prompt", "false"⟩,
                       ⟨"forced-refresh", none, .switch, "start the weekly window of an idle account", "false"⟩],
             oneOf := [["daily-hello", "forced-refresh"]], exclusive := [["daily-hello", "forced-refresh"]] } [],
     .node { use := "accounts", summary := "Manage the configured accounts", runs := false }
       [.node { use := "list", summary := "List configured accounts", args := .none } [],
        .node { use := "import <file|->", summary := "Replace the account list with a YAML file",
                long := "Replaces the configured accounts with the ones in the file. Accounts that keep\ntheir email keep their last snapshot.\n\n  accounts:\n    - email: me@example.com\n      codexNumber: 1\n      displayName: Work",
                args := .exactly 1 } [],
        .node { use := "export [file]", summary := "Write the account list as YAML", args := .atMost 1 } [],
        .node { use := "add", summary := "Add or update one account", args := .none,
                flags := [⟨"email", none, .text, "account email", ""⟩,
                          ⟨"number", none, .integer, "account number (default: next free)", "0"⟩,
                          ⟨"name", none, .text, "display name", ""⟩],
                required := ["email"] } [],
        .node { use := "remove <email>", summary := "Remove one account", args := .exactly 1 } []],
     .node { use := "history", summary := "Show recorded snapshots or automation runs", args := .none,
             flags := [⟨"email", none, .text, "account to show (default: the active account)", ""⟩,
                       ⟨"limit", none, .integer, "maximum number of rows", "50"⟩,
                       ⟨"runs", none, .switch, "show automation runs instead of snapshots", "false"⟩] } [],
     .node { use := "version", summary := "Print version information", args := .none, prepare := some false } [],
     .node { use := "help [command]", summary := "Help about any command",
             long := "Help provides help for any command in the application.\nSimply type " ++ programName ++
               " help [path to command] for full details.", candidates := .commands } [],
     completionCommand]

/-- The hidden command a completion script calls, under one of its two names: `__complete`
answers with descriptions, `__completeNoDesc` without. It reads no flags: its whole line is the
command line to complete. -/
def requestCommand (name : String) : Command :=
  .node { use := name ++ " [command-line]",
          summary := "Request shell completion choices for the specified command-line",
          args := .atLeast 1, hidden := true, parsesFlags := false, bareUse := true } []

/-- The tree with the completion request commands, which exists only for a line that calls one
of them. -/
def requestTree : Command :=
  .node tree.info (tree.subs ++ [requestCommand "__complete", requestCommand "__completeNoDesc"])

/-- The tree a command line runs on: the one with the request commands when the line calls one
of them. -/
def treeFor (args : List String) : Command :=
  let (_, cmd, _) := Command.findFrom [] requestTree args args.length
  if cmd.info.hidden then requestTree else tree

/-! ### Answers -/

/-- How a run ends: its status and what it wrote to the standard output and error. -/
structure Outcome where
  exit : Nat := 0
  stdout : String := ""
  stderr : String := ""
  deriving Inhabited

/-- What a command did: the machine after it, what it printed, a remark on the standard error
that does not fail the run, and why it failed if it did. -/
structure Answer where
  machine : Machine
  out : String := ""
  note : String := ""
  failure : Option String := none

/-- The outcome of an answer. -/
def Answer.outcome (a : Answer) : Outcome :=
  match a.failure with
  | some e => { exit := 1, stdout := a.out, stderr := a.note ++ "Error: " ++ e ++ "\n" }
  | none => { stdout := a.out, stderr := a.note }

/-- An answer that fails. -/
def failWith (m : Machine) (e : String) : Answer := { machine := m, failure := some e }

/-! ### The state and the services -/

/-- The state store of the settings. -/
def storeOf (m : Machine) (s : Settings) : Store :=
  let p := m.resolve s.statePath
  { dir := p.parent, file := p.base }

/-- Opens the state store: its directory is made, and older state adopted. -/
def openStore (m : Machine) (s : Settings) : Except String (Store × Machine) :=
  let st := storeOf m s
  match st.create m.files m.now with
  | .ok files => .ok (st, { m with files })
  | .error e => .error e.message

/-- The stored state, a new one when there is none. -/
def loadState (m : Machine) (s : Settings) : Except String (AppState × Machine) := do
  let (st, m) ← openStore m s
  let state ← (st.load m.files).mapError StoreError.message
  return (state.getD {}, m)

/-- Edits the account list: loads the state, computes the new list (with a value for the
caller), applies and saves it. -/
def editAccounts {α : Type} (m : Machine) (s : Settings)
    (edit : List AccountConfig → Except String (List AccountConfig × α)) :
    Except String (AppState × α × Machine) := do
  let (st, m) ← openStore m s
  let state := (← (st.load m.files).mapError StoreError.message).getD {}
  let (next, extra) ← edit state.configs
  let state ← (state.applyConfigs next).mapError ConfigError.message
  let files ← (st.save m.files m.now state).mapError StoreError.message
  return (state, extra, { m with files })

/-- The refresh service of the settings, with its store and history database. -/
def manager (m : Machine) (s : Settings) : Except String (Manager × Machine) := do
  let (st, m) ← openStore m s
  let (db, m) ← (m.openDatabase s.databasePath).mapError ("failed to initialize database: " ++ ·)
  let runner : Runner := { thresholds := ⟨s.critical, s.warning⟩, model := s.helloModel }
  return ({ runner, backend := { store := st, files := m.files, history := .database db } }, m)

/-- What the machine answers the services. -/
def surroundings (m : Machine) (s : Settings) (r : Runner) : Surroundings :=
  { now := m.now, identity := m.identity s.authPath, events := m.usageEvents s,
    sendError := (m.send s.codexBin r.model r.prompt).2, scan := m.fullScan s }

/-- The machine after the services ran: their files and database, and what the `codex`
program did when a message was sent. -/
def settle (m : Machine) (s : Settings) (mgr : Manager) : Machine :=
  let m := { m with files := mgr.backend.files }
  let m := match mgr.backend.history with
    | .database db => m.keepDatabase s.databasePath db
    | .recorder => m
  let sent := mgr.backend.seen.any fun o => match o with
    | .sent _ _ => true
    | _ => false
  if sent then (m.send s.codexBin mgr.runner.model mgr.runner.prompt).1 else m

/-! ### The commands' work -/

/-- The line that says what an automated action did. -/
def describeRun (r : ActionResult) : String :=
  let who := if r.email = "" then "no account" else r.email
  if r.sent then r.kind.name ++ " " ++ who ++ ": sent"
  else match r.skipped with
    | some why => r.kind.name ++ " " ++ who ++ ": skipped (" ++ why.name ++ ")"
    | none => r.kind.name ++ " " ++ who ++ ": not sent"

/-- `status`: one refresh, then the report. -/
def statusCommand (m : Machine) (s : Settings) (flags : Flags) : Answer :=
  match manager m s with
  | .error e => failWith m ("failed to initialize services: " ++ e)
  | .ok (mgr, m) =>
    let mgr := { mgr with fullScan := flags.switch "scan" }
    let (mgr, res) := mgr.refresh (surroundings m s mgr.runner)
    let m := settle m s mgr
    match res with
    | .error e => failWith m e.message
    | .ok r =>
      let rep := Report.StatusReport.ofResult mgr.runner.thresholds r
      { machine := m, out := if flags.switch "json" then Report.jsonText rep.toJson else rep.text r.at_ }

/-- `automation`: one automated action. -/
def automationCommand (m : Machine) (s : Settings) (flags : Flags) : Answer :=
  match manager m s with
  | .error e => failWith m ("failed to initialize services: " ++ e)
  | .ok (mgr, m) =>
    let sur := surroundings m s mgr.runner
    let (mgr, res, err) := if flags.switch "daily-hello" then mgr.dailyHello sur else mgr.forcedRefresh sur
    { machine := settle m s mgr, out := describeRun res ++ "\n",
      failure := err.map fun e => res.kind.name ++ " failed: " ++ e.message }

/-- `history`: the snapshots of an account, or the automation runs. -/
def historyCommand (m : Machine) (s : Settings) (flags : Flags) : Answer :=
  match m.openDatabase s.databasePath with
  | .error e => failWith m ("failed to open database: " ++ e)
  | .ok (db, m) =>
    let m := m.keepDatabase s.databasePath db
    let limit := flags.integer "limit" 50
    if flags.switch "runs" then
      match db.recentRuns limit with
      | .ok rs => { machine := m, out := Report.runsText rs }
      | .error e => failWith m e.message
    else
      let given := flags.text "email" ""
      let chosen : Except String (String × Machine) :=
        if given ≠ "" then .ok (given, m)
        else (loadState m s).map fun (st, m) => (st.active, m)
      match chosen with
      | .error e => failWith m e
      | .ok (email, m) =>
        if email = "" then failWith m "no active account, pass --email"
        else match db.recentSnapshots email limit with
          | .ok rs => { machine := m, out := Report.snapshotsText email rs }
          | .error e => failWith m e.message

/-- The bytes an import reads: the standard input for `-`, else the file. -/
def importBytes (m : Machine) (arg stdin : String) : Except String (List UInt8) :=
  if arg = "-" then .ok (Utf8.bytesOf stdin)
  else match m.files.bytesAt (m.resolve arg) with
    | .ok bs => .ok bs
    | .error e =>
      if e.cause = .isDir then .error ("decode accounts: yaml: input error: read " ++ arg ++ ": is a directory")
      else .error ("open " ++ arg ++ ": " ++ e.cause.text)

/-- `accounts ...`: the account list. -/
def accountsCommand (m : Machine) (s : Settings) (name : String) (flags : Flags) (stdin : String) :
    Answer :=
  let args := flags.args
  if name = "list" then
    match loadState m s with
    | .ok (st, m) => { machine := m, out := Report.accountsText st }
    | .error e => failWith m e
  else if name = "export" then
    match loadState m s with
    | .error e => failWith m e
    | .ok (st, m) =>
      let text := writeAccountFile st.configs
      match args with
      | [] => { machine := m, out := text }
      | a :: _ =>
        if a = "-" then { machine := m, out := text }
        else match m.files.putBytes (m.resolve a) (Utf8.bytesOf text) m.now with
          | .ok files => { machine := { m with files } }
          | .error e => failWith m ("open " ++ a ++ ": " ++ e.cause.text)
  else if name = "import" then
    let arg := args.headD "-"
    let read : Except String (List AccountConfig) := do
      let bs ← importBytes m arg stdin
      match readAccountFile bs with
      | .ok cs => return cs.getD []
      | .error e => throw ("decode accounts: " ++ e.message)
    match read with
    | .error e => failWith m e
    | .ok cs =>
      match editAccounts m s fun _ => .ok (cs, ()) with
      | .ok (st, _, m) => { machine := m, out := "Imported " ++ toString st.accounts.length ++ " accounts\n" }
      | .error e => failWith m e
  else if name = "add" then
    let entry := ({ email := flags.text "email" "", displayName := flags.text "name" "",
                    ordinal := flags.integer "number" 0 } : AccountConfig).normalize
    let edit := fun (current : List AccountConfig) =>
      let rest := current.filter (·.email ≠ entry.email)
      let entry := if entry.ordinal = 0 then { entry with ordinal := (rest.map (·.ordinal)).foldl max 0 + 1 }
        else entry
      Except.ok (rest ++ [entry], entry)
    match editAccounts m s edit with
    | .ok (_, e, m) => { machine := m, out := "Saved " ++ e.email ++ " as number " ++ toString e.ordinal ++ "\n" }
    | .error e => failWith m e
  else
    let target := ({ email := args.headD "" } : AccountConfig).normalize.email
    let edit := fun (current : List AccountConfig) =>
      let rest := current.filter (·.email ≠ target)
      if rest.length = current.length then Except.error (target ++ " is not configured")
      else Except.ok (rest, ())
    match editAccounts m s edit with
    | .ok (_, _, m) => { machine := m, out := "Removed " ++ target ++ "\n" }
    | .error e => failWith m e

/-- The dashboard: it writes its log next to the state file, starts the services and draws on
the terminal until it is left; without a terminal it cannot start. -/
def dashboardCommand (m : Machine) (s : Settings) : Answer :=
  let logPath := (m.resolve s.statePath).parent ++ ["codexhud.log"]
  match m.files.appendBytes logPath [] m.now with
  | .error e => failWith m ("failed to open log file: " ++ e.message)
  | .ok files =>
    let m := { m with files }
    match manager m s with
    | .error e => failWith m ("failed to initialize services: " ++ e)
    | .ok (mgr, m) =>
      if m.terminal then
        let (mgr, _) := mgr.refresh (surroundings m s mgr.runner)
        { machine := settle m s mgr }
      else failWith m "error running TUI: could not open a new TTY: open /dev/tty: no such device or address"

/-- `help`: the help of the command the topic names, or the top-level usage. -/
def helpCommand (m : Machine) (topic : List String) : Answer :=
  match tree.topic topic with
  | some (path, cmd) => { machine := m, out := cmd.helpText path }
  | none =>
    { machine := m,
      note := "Unknown help topic [" ++ " ".intercalate (topic.map Text.quotedRaw) ++ "]\n" ++ Command.usageText [] tree false }

/-- The build line, dated today. -/
def versionLine (m : Machine) : String :=
  let today := m.now.utc.stamp [.year, .lit "-", .month, .lit "-", .day]
  (({} : BuildInfo).resolve { today }).line m.platform

/-- Whether a truth setting of the environment is on, off, or not given. -/
def truthSetting (m : Machine) (setting : String) : Option Bool :=
  let v := match m.getenv? (Completion.envVariable programName setting) with
    | some v => if v = "" then m.getenv? (Completion.envVariable "cobra" setting) else some v
    | none => m.getenv? (Completion.envVariable "cobra" setting)
  v.bind readTruth

/-- A completion request: the candidates for the last word of `line`, with their descriptions
when `descriptions` and the environment does not turn them off. -/
def completeCommand (m : Machine) (line : List String) (descriptions : Bool) : Answer :=
  let descriptions := descriptions && (truthSetting m "COMPLETION_DESCRIPTIONS").getD true
  let (out, note) := (complete requestTree line).render descriptions
  { machine := m, out, note }

/-- Runs a command that was found, once the settings are loaded. -/
def perform (m : Machine) (s : Settings) (names : List String) (flags : Flags) (stdin : String) : Answer :=
  match names with
  | [_, "status"] => statusCommand m s flags
  | [_, "automation"] => automationCommand m s flags
  | [_, "history"] => historyCommand m s flags
  | [_, "accounts", name] => accountsCommand m s name flags stdin
  | [_, "help"] => helpCommand m flags.args
  | [_, "completion", shell] =>
    match Completion.Shell.ofName? shell with
    | some sh => { machine := m, out := sh.script programName !(flags.switch "no-descriptions") }
    | none => { machine := m }
  | [_, "__complete"] => completeCommand m flags.args true
  | [_, "__completeNoDesc"] => completeCommand m flags.args false
  | _ => dashboardCommand m s

/-- Runs the program on a machine with a command line and a standard input. -/
def run (m : Machine) (args : List String) (stdin : String) : Machine × Outcome :=
  match (treeFor args).start args with
  | .help t => (m, { stdout := t })
  | .refused msg hint =>
    (m, { exit := 1, stderr := "Error: " ++ msg ++ "\n" ++
      (if hint then "Run '" ++ programName ++ " --help' for usage.\n" else "") })
  | .run path cmd flags =>
    let names := (path ++ [cmd]).map Command.name
    if !prepares path cmd then (m, { stdout := versionLine m ++ "\n" })
    else match m.settings with
      | .error e => (m, (failWith m ("failed to load configuration: " ++ e)).outcome)
      | .ok (s, m) =>
        match cmd.info.checkFlags flags with
        | .error e => (m, (failWith m e).outcome)
        | .ok () =>
          let a := perform m s names flags stdin
          (a.machine, a.outcome)

end QuotaWatch.Cli
