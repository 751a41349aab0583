import QuotaWatch.Completion.Bash
import QuotaWatch.Completion.Zsh
import QuotaWatch.Completion.Fish
import QuotaWatch.Completion.PowerShell
/-!
**The completion script of each shell.**

`Shell.script` gives the script a shell loads for the program. With descriptions the script
asks for candidates with `__complete`, without them with `__completeNoDesc`, so that the
program leaves the descriptions out.
-/

namespace QuotaWatch.Completion

/-- The shells a completion script is written for. -/
inductive Shell where
  | bash
  | zsh
  | fish
  | powerShell
  deriving DecidableEq, Repr, Inhabited

/-- The shell a name stands for. -/
def Shell.ofName? : String → Option Shell
  | "bash" => some .bash
  | "zsh" => some .zsh
  | "fish" => some .fish
  | "powershell" => some .powerShell
  | _ => none

/-- The command that asks for candidates, with or without their descriptions. -/
def requestCommand (descriptions : Bool) : String :=
  if descriptions then "__complete" else "__completeNoDesc"

/-- The script of a shell for the program `n`. -/
def Shell.script (s : Shell) (n : String) (descriptions : Bool) : String :=
  let request := requestCommand descriptions
  match s with
  | .bash => bashScript n request
  | .zsh => zshScript n request
  | .fish => fishScript n request
  | .powerShell => powerShellScript n request

end QuotaWatch.Completion
