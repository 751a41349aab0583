import QuotaWatch.Cli.Flag
import QuotaWatch.Text.Utf8
/-!
**A tree of commands: finding the one a command line names, and its help.**

A command has a name, help texts, an argument rule, flags (with `-h, --help`), whether it runs,
and flag checks. Words that are not flags or their values are followed down the tree while they
name subcommands. Running reads the flags, shows help for `--help` or a command that runs
nothing, checks the argument rule, prepares, then checks required flags and groups.
-/

namespace QuotaWatch.Cli

/-- How many arguments a command takes. -/
inductive ArgRule where
  /-- No rule of its own. -/
  | free
  | none
  | exactly (n : Nat)
  | atMost (n : Nat)
  | atLeast (n : Nat)
  deriving Inhabited, DecidableEq

/-- What a command offers when its arguments are completed. -/
inductive ArgCandidates where
  /-- Nothing of its own, so the shell may offer file names. -/
  | unknown
  /-- Nothing, and no file names either. -/
  | nothing
  /-- The subcommands of the command its arguments name, as the help command reads them. -/
  | commands
  deriving Inhabited, DecidableEq

/-- What a command is, apart from its subcommands. -/
structure CommandInfo where
  /-- The use line after the parent's path, e.g. `import <file|->`. -/
  use : String
  summary : String
  long : String := ""
  args : ArgRule := .free
  flags : List Flag := []
  /-- Whether the command runs something; otherwise it shows its help. -/
  runs : Bool := true
  /-- Whether the program prepares before this command and those below it; `none` leaves it to
  the parent. -/
  prepare : Option Bool := none
  /-- Flags that must be given. -/
  required : List String := []
  /-- Groups of flags of which one must be given. -/
  oneOf : List (List String) := []
  /-- Groups of flags of which at most one may be given. -/
  exclusive : List (List String) := []
  /-- Whether the use line omits `[flags]`. -/
  bareUse : Bool := false
  /-- Whether the command is left out of the lists of commands and of the suggestions. -/
  hidden : Bool := false
  /-- Whether the command reads its flags; one that does not takes its whole line as arguments. -/
  parsesFlags : Bool := true
  /-- What completing the command's arguments offers. -/
  candidates : ArgCandidates := .unknown
  deriving Inhabited

/-- The name of a command: the first word of its use line. -/
def CommandInfo.name (c : CommandInfo) : String := ((c.use.splitOn " ").headD "")

/-- The help flag of a command. -/
def helpFlag (name : String) : Flag := ⟨"help", some 'h', .switch, "help for " ++ name, "false"⟩

/-- A command's flags, with its help flag. -/
def CommandInfo.allFlags (c : CommandInfo) : List Flag := c.flags ++ [helpFlag c.name]

/-- A command with its subcommands, in the order they were added. -/
inductive Command where
  | node (info : CommandInfo) (subs : List Command)
  deriving Inhabited

namespace Command

/-- What the command is. -/
def info : Command → CommandInfo
  | .node i _ => i

/-- The subcommands, in the order they were added. -/
def subs : Command → List Command
  | .node _ s => s

/-- The name. -/
def name (c : Command) : String := c.info.name

end Command

/-! ### Finding the command -/

/-- Whether `--name` needs no value. -/
def switchNamed (flags : List Flag) (name : String) : Bool :=
  flags.any fun f => f.name == name && f.isSwitch

/-- Whether `-c` needs no value. -/
def switchShort (flags : List Flag) (c : Char) : Bool :=
  flags.any fun f => f.short == some c && f.isSwitch

/-- Whether an argument is a flag that takes the next argument as its value, as the command
finder judges it. -/
def takesNext (flags : List Flag) (s : String) : Bool :=
  let cs := s.toList
  if cs.contains '=' then false
  else match cs with
    | '-' :: '-' :: name => !switchNamed flags (String.ofList name)
    | ['-', c] => !switchShort flags c
    | _ => false

/-- The words of a command line that are neither flags nor values of flags; a flag that takes
a value with only that value left ends the search. -/
def commandWords (flags : List Flag) : List String → List String
  | [] => []
  | s :: rest =>
    if s = "--" then []
    else if takesNext flags s then
      match rest with
      | _ :: r@(_ :: _) => commandWords flags r
      | _ => []
    else if s ≠ "" && !s.startsWith "-" then s :: commandWords flags rest
    else commandWords flags rest
termination_by args => args.length

/-- The command line without the first word `x` that stands where a command name can. -/
def withoutWord (flags : List Flag) (x : String) : List String → List String
  | [] => []
  | s :: rest =>
    if s = "--" then s :: rest
    else if takesNext flags s then
      match rest with
      | v :: r => s :: v :: withoutWord flags x r
      | [] => [s]
    else if !s.startsWith "-" && s = x then rest
    else s :: withoutWord flags x rest
termination_by args => args.length

/-- Edits between two texts, counted over the bytes of their lowercase forms. -/
def editDistance (a b : String) : Nat :=
  let xs := Utf8.bytesOf (Text.toLower a)
  let ys := Utf8.bytesOf (Text.toLower b)
  let first : List Nat := List.range (ys.length + 1)
  let last := xs.zipIdx.foldl (fun (prev : List Nat) (x, i) =>
    let row := ys.zipIdx.foldl (fun (row : List Nat) (y, j) =>
      let del := prev.getD (j + 1) 0 + 1
      let ins := row.getD j 0 + 1
      let sub := prev.getD j 0 + (if x = y then 0 else 1)
      row ++ [min del (min ins sub)]) [i + 1]
    row) first
  last.getD ys.length 0

/-- Whether a command is listed among the available ones: it is not hidden, it runs or has
listed subcommands, and it is not the help command. -/
def Command.listed : Command → Bool
  | .node i subs => !i.hidden && i.name ≠ "help" && (i.runs || subs.attach.any fun ⟨s, _⟩ => s.listed)

/-- The suggestions for a word that names no subcommand. -/
def suggestions (c : Command) (word : String) : String :=
  let names := (c.subs.filter Command.listed).filterMap fun s =>
    if editDistance word s.name ≤ 2 || (Text.toLower s.name).startsWith (Text.toLower word) then
      some s.name else none
  if names.isEmpty then ""
  else "\n\nDid you mean this?\n" ++ String.join (names.map fun n => "\t" ++ n ++ "\n")

/-- The command a line names, from `c` down, with the rest of the line; `path` holds the
commands above `c`. -/
def Command.findFrom (path : List Command) (c : Command) (args : List String) :
    Nat → List Command × Command × List String
  | 0 => (path, c, args)
  | n + 1 =>
    match commandWords c.info.flags args with
    | [] => (path, c, args)
    | next :: _ =>
      match c.subs.find? (·.name == next) with
      | some sub => Command.findFrom (path ++ [c]) sub (withoutWord c.info.flags next args) n
      | none => (path, c, args)

/-- The path of a command: the names from the top down, joined by spaces. -/
def pathText (path : List Command) (c : Command) : String :=
  " ".intercalate ((path ++ [c]).map Command.name)

/-! ### Help -/

/-- Text padded with spaces on the right. -/
def padRight (s : String) (n : Nat) : String := s ++ String.ofList (List.replicate (n - s.length) ' ')

/-- The help lines of flags, sorted by name, the help texts aligned. -/
def flagLines (flags : List Flag) : String :=
  let sorted := flags.mergeSort fun a b => a.name ≤ b.name
  let heads := sorted.map fun f =>
    let names := match f.short with
      | some c => "  -" ++ c.toString ++ ", --" ++ f.name
      | none => "      --" ++ f.name
    names ++ (match f.kind with
      | .switch => ""
      | .integer => " int"
      | .text => " string")
  let width := (heads.map String.length).foldl max 0
  let lines := (sorted.zip heads).map fun (f, h) =>
    let zero := match f.kind with
      | .switch => f.default = "" || f.default = "false"
      | .integer => f.default = "" || f.default = "0"
      | .text => f.default = ""
    let dflt := if zero then "" else match f.kind with
      | .text => " (default " ++ Text.quoted f.default ++ ")"
      | _ => " (default " ++ f.default ++ ")"
    padRight h width ++ "   " ++ f.usage ++ dflt
  "\n".intercalate lines

/-- Trailing white space removed. -/
def trimEnd (s : String) : String :=
  String.ofList ((s.toList.reverse.dropWhile fun c => c = ' ' || c = '\n' || c = '\t' || c = '\r').reverse)

/-- The use line of a command below `path`. -/
def useLine (path : List Command) (c : Command) : String :=
  let prefix_ := " ".intercalate (path.map Command.name)
  let line := if path.isEmpty then c.info.use else prefix_ ++ " " ++ c.info.use
  if c.info.bareUse || (line.splitOn "[flags]").length > 1 then line else line ++ " [flags]"

/-- The usage text: use lines, subcommands, flags, and the pointer to more help. The help flag
is only counted when `helpKnown`: a command learns it when it is the one run, so the top-level
usage the help command shows for an unknown topic lacks it, and with no other flag it has no
flags section and no `[flags]` in its use line. -/
def Command.usageText (path : List Command) (c : Command) (helpKnown : Bool) : String :=
  let flags := if helpKnown then c.info.allFlags else c.info.flags
  let use := if flags.isEmpty then
      (if path.isEmpty then c.info.use else " ".intercalate (path.map Command.name) ++ " " ++ c.info.use)
    else useLine path c
  let me := pathText path c
  let listed := c.subs.filter Command.listed
  let hasSubs := !listed.isEmpty
  let longest := (c.subs.map fun s => s.name.length).foldl max 0
  let pad := max 11 longest
  let shown := (c.subs.filter fun s => s.listed || s.name = "help").mergeSort fun a b => a.name ≤ b.name
  "Usage:" ++ (if c.info.runs then "\n  " ++ use else "") ++
    (if hasSubs then "\n  " ++ me ++ " [command]" else "") ++
    (if hasSubs then "\n\nAvailable Commands:" ++
      String.join (shown.map fun s => "\n  " ++ padRight s.name pad ++ " " ++ s.info.summary) else "") ++
    (if flags.isEmpty then "" else "\n\nFlags:\n" ++ flagLines flags) ++
    (if hasSubs then "\n\nUse \"" ++ me ++ " [command] --help\" for more information about a command." else "") ++
    "\n"

/-- The help text: the longer text or the summary, then the usage. -/
def Command.helpText (path : List Command) (c : Command) : String :=
  let about := if c.info.long ≠ "" then c.info.long else c.info.summary
  let head := if trimEnd about = "" then "" else trimEnd about ++ "\n\n"
  head ++ (if c.info.runs || !c.subs.isEmpty then c.usageText path true else "")

/-! ### Starting a command -/

/-- What starting a command line comes to. -/
inductive Step where
  /-- Help to show on the standard output; the run succeeds. -/
  | help (text : String)
  /-- The line is refused; `usageHint` adds the pointer to the top-level help. -/
  | refused (message : String) (usageHint : Bool)
  /-- The command to run: the commands above it, itself, its flags and arguments. -/
  | run (path : List Command) (cmd : Command) (flags : Flags)

/-- Checks the arguments against a command's rule. -/
def ArgRule.check (r : ArgRule) (me : String) (args : List String) : Except String Unit :=
  match r, args with
  | .none, a :: _ => .error ("unknown command " ++ Text.quoted a ++ " for " ++ Text.quoted me)
  | .exactly n, _ =>
    if args.length = n then .ok ()
    else .error ("accepts " ++ toString n ++ " arg(s), received " ++ toString args.length)
  | .atMost n, _ =>
    if args.length ≤ n then .ok ()
    else .error ("accepts at most " ++ toString n ++ " arg(s), received " ++ toString args.length)
  | .atLeast n, _ =>
    if args.length ≥ n then .ok ()
    else .error ("requires at least " ++ toString n ++ " arg(s), only received " ++ toString args.length)
  | _, _ => .ok ()

/-- Finds the command of a line and reads its flags. -/
def Command.start (root : Command) (args : List String) : Step :=
  let (path, cmd, rest) := Command.findFrom [] root args args.length
  let me := pathText path cmd
  let words := commandWords cmd.info.flags rest
  let stray := decide (cmd.info.args = ArgRule.free) && !cmd.subs.isEmpty && path.isEmpty
  match stray, words with
  | true, w :: _ =>
    .refused ("unknown command " ++ Text.quoted w ++ " for " ++ Text.quoted me ++ suggestions cmd w) true
  | _, _ =>
    if !cmd.info.parsesFlags then
      match cmd.info.args.check me rest with
      | .error e => .refused e false
      | .ok () => .run path cmd { args := rest }
    else
    match parseFlags cmd.info.allFlags rest with
    | .error e => .refused e false
    | .ok flags =>
      if flags.switch "help" || !cmd.info.runs then .help (cmd.helpText path)
      else match cmd.info.args.check me flags.args with
        | .error e => .refused e false
        | .ok () => .run path cmd flags

/-- The command a help topic names, with the commands above it; none when the top-level
command refuses the topic's first word. -/
def Command.topic (root : Command) (args : List String) : Option (List Command × Command) :=
  let (path, cmd, rest) := Command.findFrom [] root args args.length
  let stray := decide (cmd.info.args = ArgRule.free) && !cmd.subs.isEmpty && path.isEmpty
  if stray && !(commandWords cmd.info.flags rest).isEmpty then none else some (path, cmd)

/-- Whether the program prepares before running a command: the nearest command up the tree
that says so decides. -/
def prepares (path : List Command) (cmd : Command) : Bool :=
  ((cmd :: path.reverse).findSome? (·.info.prepare)).getD false

/-- Checks the required flags and the flag groups. -/
def CommandInfo.checkFlags (c : CommandInfo) (flags : Flags) : Except String Unit := do
  let missing := (c.required.mergeSort (· ≤ ·)).filter fun n => !flags.changed n
  if !missing.isEmpty then
    throw ("required flag(s) " ++ ", ".intercalate (missing.map Text.quoted) ++ " not set")
  for g in c.oneOf do
    if !g.any flags.changed then
      throw ("at least one of the flags in the group [" ++ " ".intercalate g ++ "] is required")
  for g in c.exclusive do
    let set := (g.filter flags.changed).mergeSort (· ≤ ·)
    if set.length > 1 then
      throw ("if any flags in the group [" ++ " ".intercalate g ++ "] are set none of the others can be; [" ++
        " ".intercalate set ++ "] were all set")

end QuotaWatch.Cli
