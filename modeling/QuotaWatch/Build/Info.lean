/-!
**Build information.**

A build knows its version, commit and date when they were stamped into it. Whatever was not
stamped is found the first time any of it is asked for: the commit and the version from the
source repository, or `unknown` and `dev` when there is none, and the date as today's.
-/

namespace QuotaWatch

/-- The program's name in its build line. -/
def programName : String := "codexhud"

/-- What a build knows about itself; empty fields are not known yet. -/
structure BuildInfo where
  version : String := ""
  commit : String := ""
  date : String := ""
  deriving Inhabited, DecidableEq

/-- What the surroundings tell about a build: the repository's description of the commit and
its latest tag, if there is a repository, and today's date. -/
structure BuildContext where
  describe : Option String := none
  latestTag : Option String := none
  today : String
  deriving Inhabited

namespace BuildInfo

/-- A text without a leading `v`. -/
def dropV (s : String) : String :=
  match s.toList with
  | 'v' :: r => String.ofList r
  | _ => s

/-- Fills the fields that are not known: the date is today's, the commit is the repository's
description (`unknown` without one), the version its latest tag without `v` (`dev` without
one). -/
def resolve (b : BuildInfo) (ctx : BuildContext) : BuildInfo :=
  let nonEmpty := fun (o : Option String) => o.filter (· ≠ "")
  { date := if b.date = "" then ctx.today else b.date
    commit := if b.commit = "" then (nonEmpty ctx.describe).getD "unknown" else b.commit
    version := if b.version = "" then ((nonEmpty ctx.latestTag).map dropV).getD "dev"
      else b.version }

/-- The build line for a platform `os/arch`. -/
def line (b : BuildInfo) (platform : String) : String :=
  programName ++ " " ++ b.version ++ " (commit: " ++ b.commit ++ ", built: " ++ b.date ++ ", " ++
    platform ++ ")"

end BuildInfo

end QuotaWatch
