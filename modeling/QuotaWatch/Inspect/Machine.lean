import QuotaWatch.Inspect.Read
import QuotaWatch.Cli.Program
/-!
**Describing a machine and a run of the command line in the inspection form.**

A machine is set up from objects: variables to set (a `null` value removes one), files to write
below a directory (their parent directories are made), modification times to apply, and a
program to install. A run's outcome is written as its status and its two streams; files and
directory listings are read back as text and sorted names.
-/

namespace QuotaWatch

open Json

namespace Machine

/-- The members of an object, none for anything else. -/
def membersOf : Json → List (String × Json)
  | .obj fs => fs
  | _ => []

/-- Sets the variables of an object, or removes those given as `null`; values are rewritten by
`expand` first. -/
def withEnvJson (m : Machine) (expand : String → String) (j : Json) : Machine :=
  (membersOf j).foldl (fun m (k, v) => match v with
    | .str s => m.setenv k (expand s)
    | _ => m.unsetenv k) m

/-- Writes a file below `base`, making its parent directories. -/
def writeFile (m : Machine) (p : Path) (data : List UInt8) : Except String Machine := do
  let t ← (m.files.mkdirAll p.parent m.now).mapError FsError.message
  let t ← (t.putBytes p data m.now).mapError FsError.message
  return { m with files := t }

/-- Writes the texts of an object as files below `base`. -/
def withFilesJson (m : Machine) (base : Path) (j : Json) : Except String Machine :=
  (membersOf j).foldlM (fun m (rel, v) => match v with
    | .str s => m.writeFile (base.join rel) (Utf8.bytesOf s)
    | _ => .error ("field " ++ rel ++ ": not a string")) m

/-- Sets the modification times of an object's paths below `base`. -/
def withMtimesJson (m : Machine) (base : Path) (j : Json) : Machine :=
  (membersOf j).foldl (fun m (rel, v) => match v with
    | .str s => match Instant.parseRfc3339? s with
      | some t => { m with files := m.files.setMtime (base.join rel) t }
      | none => m
    | _ => m) m

/-- Installs a program: its text as a file that can be started. -/
def withProgram (m : Machine) (p : Path) (text : String) : Except String Machine := do
  let m ← m.writeFile p (Utf8.bytesOf text)
  return { m with programs := p :: m.programs }

/-- The text of a file, if there is one. -/
def readText (m : Machine) (p : Path) : Option String :=
  (m.files.bytesAt p).toOption.map Utf8.textOf

/-- The sorted names in a directory, if it is one. -/
def listNames (m : Machine) (p : Path) : Option (List String) :=
  (m.files.children p).toOption.map (·.map (·.1))

end Machine

/-- A run's outcome, its texts passed through `f`. -/
def Cli.Outcome.toJson (o : Cli.Outcome) (f : String → String) : Json :=
  .obj [("exit", .ofNat o.exit), ("stdout", .str (f o.stdout)), ("stderr", .str (f o.stderr))]

end QuotaWatch
