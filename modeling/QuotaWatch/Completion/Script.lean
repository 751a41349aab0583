/-!
**What the completion scripts share.**

Each shell's script runs the program with a request command and the words typed so far, and
reads back one candidate a line, perhaps with a tab and a description, then `:` and a directive:
a sum of 1 (error), 2 (no space), 4 (no file names), 8 (extensions to filter by), 16 (directories
only) and 32 (keep order). With none, the shell's file names are offered when no candidate is.
Functions and variables are named after the program.
-/

namespace QuotaWatch.Completion

/-- A name padded on the right with spaces to 36 characters. -/
def padName (n : String) : String := n ++ String.ofList (List.replicate (36 - n.length) ' ')

/-- The environment variable of the program `n` for a setting: the name and the setting joined
by an underscore, in capitals, with dashes turned into underscores. -/
def envVariable (n setting : String) : String :=
  String.ofList ((n ++ "_" ++ setting).toList.map fun c =>
    if c = '-' then '_' else if 'a' ≤ c ∧ c ≤ 'z' then Char.ofNat (c.toNat - 32) else c)

/-- The variable that turns the program's active help off when it is `0`. -/
def activeHelpVariable (n : String) : String := envVariable n "ACTIVE_HELP"

theorem padName_length (n : String) (h : n.length ≤ 36) : (padName n).length = 36 := by
  simp [padName, String.length_append]
  omega

end QuotaWatch.Completion
