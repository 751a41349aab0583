import QuotaWatch.Cli.Command
import QuotaWatch.Text.Space
/-!
**Completing a command line.**

The other words name a command as when run. A word after a flag that takes a value is its value;
a dashed word is a flag name, required flags not given first; any other word is a subcommand
name, then the required flags. Required and exclusive flag groups count. The answer ends with
directive 4 when subcommands or flags were considered or nothing was offered, else 0.
-/

namespace QuotaWatch.Cli

/-- The answer to a completion request: the candidates, each perhaps with a description after
a tab, the directive, and an error to report beside them. -/
structure Completions where
  candidates : List String := []
  directive : Nat := 0
  error : Option String := none
  deriving Inhabited

/-- The directive that offers no file names. -/
def noFiles : Nat := 4

/-- The names of the flags a directive sums, as the message ending a request shows them. -/
def directiveText (d : Nat) : String :=
  let names := [(1, "ShellCompDirectiveError"), (2, "ShellCompDirectiveNoSpace"),
    (4, "ShellCompDirectiveNoFileComp"), (8, "ShellCompDirectiveFilterFileExt"),
    (16, "ShellCompDirectiveFilterDirs"), (32, "ShellCompDirectiveKeepOrder")]
  let set := names.filter fun (b, _) => d / b % 2 = 1
  if d ≥ 64 then "ERROR: unexpected ShellCompDirective value: " ++ toString d
  else if set.isEmpty then "ShellCompDirectiveDefault"
  else ", ".intercalate (set.map (·.2))

/-- Whether a word reads as a flag: a dash and a letter other than a dash, or two dashes and
more. -/
def isFlagWord (s : String) : Bool :=
  match s.toList with
  | '-' :: '-' :: _ :: _ => true
  | '-' :: c :: _ => c ≠ '-'
  | _ => false

/-- The flag a name found in a word stands for: a one-letter name is a short name. -/
def flagNamed (flags : List Flag) (name : String) : Option Flag :=
  match name.toList with
  | [c] => if c.toNat < 0x80 then flags.find? (·.short == some c) else flags.find? (·.name == name)
  | _ => flags.find? (·.name == name)

/-- The name of the flag a word ending in a flag names: what follows the two dashes of a long
flag, else the last letter of a run of short names. -/
def flagNameOf (word : String) : String :=
  if word.startsWith "--" then String.ofList (word.toList.drop 2)
  else match word.toList.getLast? with
    | some c => c.toString
    | none => ""

/-- The flag whose value the last word `last` is, if it is one, with the arguments left before
it and the part of the word being completed; or the complaint about a flag the command named
`me` does not have. -/
def valueTarget (me : String) (flags : List Flag) (args : List String) (last : String) :
    Option Flag × List String × String × Option String :=
  let cs := last.toList
  let (name, rest, withEqual) :=
    if cs.head? = some '-' && cs.contains '=' then
      let before := String.ofList (cs.takeWhile (· ≠ '='))
      (flagNameOf before, String.ofList ((cs.dropWhile (· ≠ '=')).drop 1), true)
    else ("", last, false)
  if cs.head? = some '-' && !cs.contains '=' then (none, args, last, none)
  else
    let (name, trimmed) :=
      if name ≠ "" then (name, args)
      else match args.getLast? with
        | some prev =>
          if isFlagWord prev && !prev.toList.contains '=' then (flagNameOf prev, args.dropLast)
          else ("", args)
        | none => ("", args)
    if name = "" then (none, trimmed, rest, none)
    else match flagNamed flags name with
      | none => (none, args, last,
        some ("Subcommand '" ++ me ++ "' does not support flag '" ++ name ++ "'"))
      | some f =>
        if !withEqual && f.isSwitch then (none, args, rest, none) else (some f, trimmed, rest, none)

/-- A word as a list of arguments shows it: between brackets, separated by spaces. -/
def argsText (args : List String) : String := "[" ++ " ".intercalate args ++ "]"

/-- The candidates naming a flag that start with `word`: its long name, then its short one,
each with the flag's help; none for a flag no longer offered. -/
def flagCandidates (hidden : List String) (word : String) (f : Flag) : List String :=
  if hidden.contains f.name then []
  else
    (if ("--" ++ f.name).startsWith word then ["--" ++ f.name ++ "\t" ++ f.usage] else []) ++
    (match f.short with
      | some c => if ("-" ++ c.toString).startsWith word then ["-" ++ c.toString ++ "\t" ++ f.usage] else []
      | none => [])

/-- The subcommands of a command that start with `word`, with their summaries, sorted by name;
the help command is offered with the others. -/
def commandCandidates (c : Command) (word : String) : List String :=
  let shown := (c.subs.filter fun s => s.listed || (s.name = "help" && !s.info.hidden)).mergeSort
    fun a b => a.name ≤ b.name
  (shown.filter fun s => s.name.startsWith word).map fun s => s.name ++ "\t" ++ s.info.summary

/-- Whether a command has subcommands that completion offers. -/
def offersCommands (c : Command) : Bool :=
  c.subs.any fun s => s.listed || (s.name = "help" && !s.info.hidden)

/-- The command the words `args` name from `root`, with the arguments left; none when the
top-level command refuses a stray word. -/
def findCommand (root : Command) (args : List String) : Option (List Command × Command × List String) :=
  let (path, cmd, rest) := Command.findFrom [] root args args.length
  let stray := decide (cmd.info.args = ArgRule.free) && !cmd.subs.isEmpty && path.isEmpty
  if stray && !(commandWords cmd.info.flags rest).isEmpty then none else some (path, cmd, rest)

/-- The candidates for the last word of `args` (which is not empty) on the tree `root`. -/
def complete (root : Command) (args : List String) : Completions :=
  let last := args.getLastD ""
  let before := args.dropLast
  match findCommand root before with
  | none => { error := some ("unable to find a command for arguments: " ++ argsText before) }
  | some (_, cmd, words) =>
    let info := cmd.info
    let flags := (info.allFlags).mergeSort fun a b => a.name ≤ b.name
    let (target, words, word, flagError) :=
      if info.parsesFlags then valueTarget cmd.name flags words last else (none, words, last, none)
    let parsed := if info.parsesFlags then parseFlags flags words else .ok { args := words }
    let ended := if info.parsesFlags then parseFlags flags (words ++ ["--"]) else .ok { args := words ++ ["--"] }
    match parsed with
    | .error e => { error := some ("Error while parsing flags from args " ++ argsText words ++ ": " ++ e) }
    | .ok given =>
      let valuesAllowed := match ended with
        | .ok p => decide (p.args.length ≤ given.args.length)
        | .error _ => true
      match flagError, valuesAllowed with
      | some e, true => { error := some e }
      | _, _ =>
      if given.changed "help" then { directive := noFiles }
      else
        let rest := given.args
        let required := if !info.parsesFlags then [] else
          info.required ++ (info.oneOf.filter fun g => !g.any given.changed).flatten
        let hidden := if !info.parsesFlags then [] else
          info.exclusive.flatMap fun g =>
            (g.filter given.changed).flatMap fun set => g.filter (· ≠ set)
        let requiredCandidates := (flags.filter fun f => required.contains f.name && !given.changed f.name).flatMap
          (flagCandidates hidden word)
        if target.isNone && word.startsWith "-" && !word.toList.contains '=' && valuesAllowed then
          let cands := if requiredCandidates.isEmpty then
              (flags.filter fun f => !given.changed f.name).flatMap (flagCandidates hidden word)
            else requiredCandidates
          let directive := match cands with
            | [one] => if one.endsWith "=" then 2 else noFiles
            | _ => noFiles
          { candidates := cands, directive }
        else
          let (cands, directive) := match target with
            | some _ => (([] : List String), 0)
            | none =>
              let anyGiven := info.parsesFlags && !given.set.isEmpty
              let (subs, d) := if rest.isEmpty && !anyGiven then
                  (commandCandidates cmd word, if offersCommands cmd then noFiles else 0)
                else ([], 0)
              (subs ++ requiredCandidates, d)
          if target.isSome && valuesAllowed then { candidates := cands, directive }
          else match info.candidates with
            | .unknown => { candidates := cands, directive }
            | .nothing => { candidates := cands, directive := noFiles }
            | .commands =>
              match findCommand root rest with
              | none => { candidates := cands, directive := noFiles }
              | some (_, named, _) =>
                { candidates := cands ++ commandCandidates named word, directive := noFiles }

/-- What answering a request prints: on the standard output each candidate on a line (its
description dropped unless `descriptions`, only its first line, trimmed) and then `:` and the
directive; on the standard error the error, if any, and the directive's names. -/
def Completions.render (c : Completions) (descriptions : Bool) : String × String :=
  let shown := c.candidates.map fun cand =>
    let cand := if descriptions then cand else String.ofList (cand.toList.takeWhile (· ≠ '\t'))
    let cand := String.ofList (cand.toList.takeWhile (· ≠ '\n'))
    Text.trimSpace cand ++ "\n"
  let err := match c.error with
    | some e => "[Debug] [Error] " ++ e ++ "\n"
    | none => ""
  (String.join shown ++ ":" ++ toString c.directive ++ "\n",
    err ++ "Completion ended with directive: " ++ directiveText c.directive ++ "\n")

end QuotaWatch.Cli
