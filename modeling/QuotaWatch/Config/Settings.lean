import QuotaWatch.Config.DotEnv
import QuotaWatch.Decimal.Parse
/-!
**Settings from the environment.**

Settings come from environment variables, after the first existing environment file among
`.env`, `~/.config/codexhud/.env` and `~/.codex/.env` is loaded without overriding; an empty
variable counts as unset. Paths default below the home directory and are cleaned lexically;
intervals, the tail size and notifications fall back to defaults when malformed. Thresholds out
of range, a warning threshold below the critical one, and a watch mode other than `fsnotify` or
`poll` are errors.
-/

namespace QuotaWatch

namespace PathName

/-- Pushes a path element onto the cleaned elements so far (kept in reverse): `..` removes
the last element that is not `..`, and is dropped at the root. -/
def push (rooted : Bool) (acc : List String) (e : String) : List String :=
  if e = "" || e = "." then acc
  else if e = ".." then
    match acc with
    | x :: r => if x = ".." then e :: acc else r
    | [] => if rooted then [] else [e]
  else e :: acc

/-- The shortest path naming the same file by purely lexical processing: repeated slashes and
`.` elements go, `..` cancels the element before it, and an empty result is `.`. -/
def clean (p : String) : String :=
  let rooted := p.startsWith "/"
  let parts := ((p.splitOn "/").foldl (push rooted) []).reverse
  let body := "/".intercalate parts
  if rooted then "/" ++ body
  else if body = "" then "." else body

/-- Joins path elements with slashes, skipping empty ones, and cleans the result; no elements
at all give the empty path. -/
def join (parts : List String) : String :=
  match parts.filter (· ≠ "") with
  | [] => ""
  | ps => clean ("/".intercalate ps)

end PathName

/-- A decimal number with an optional sign that fits in 64 signed bits. -/
def parseDecimalInt? (s : String) : Option Int :=
  let (neg, digits) := match s.toList with
    | '-' :: r => (true, r)
    | '+' :: r => (false, r)
    | r => (false, r)
  if digits.isEmpty || !digits.all Char.isDigit then none
  else
    let n : Int := digits.foldl (fun a c => a * 10 + (c.toNat - 48 : Nat)) 0
    let v := if neg then -n else n
    if v < -(Int.pow 2 63) || v ≥ Int.pow 2 63 then none else some v

/-- The spellings of true and false. -/
def parseTruth? (s : String) : Option Bool :=
  if ["1", "t", "T", "TRUE", "true", "True"].contains s then some true
  else if ["0", "f", "F", "FALSE", "false", "False"].contains s then some false
  else none

/-- What the settings are. -/
structure Settings where
  codexHome : String
  sessionsDir : String
  authPath : String
  statePath : String
  databasePath : String
  watchMode : String
  helloModel : String
  codexBin : String
  logLevel : String
  logFormat : String
  refreshInterval : Duration
  watchDebounce : Duration
  tailBytes : Int
  critical : Percent
  warning : Percent
  notifications : Bool
  deriving Inhabited

/-- Why the settings are refused. -/
inductive SettingsError where
  /-- A threshold that is not a number. -/
  | notANumber (key : String) (e : FloatTextError)
  /-- A threshold that is not a percentage. -/
  | notAPercent (key : String) (e : PercentError)
  /-- The warning threshold is below the critical one. -/
  | warningBelowCritical (warning critical : Percent)
  /-- An unknown watch mode. -/
  | watchMode (mode : String)

/-- The message of a settings error. -/
def SettingsError.message : SettingsError → String
  | .notANumber k e => "invalid " ++ k ++ ": " ++ e.message
  | .notAPercent k e => "invalid " ++ k ++ ": " ++ e.message
  | .warningBelowCritical w c =>
    "CODEXHUD_WARNING_PERCENT (" ++ w.text ++ ") must not be below CODEXHUD_CRITICAL_PERCENT (" ++
      c.text ++ ")"
  | .watchMode m =>
    "CODEXHUD_WATCH_MODE must be \"fsnotify\" or \"poll\", got " ++ Text.quoted m

/-- The value of a variable, empty when unset. -/
def Env.value (env : Env) (k : String) : String := (env.get? k).getD ""

/-- Loads the first environment file that exists, in order of preference. -/
def Env.loadFirst (env : Env) : List (Option (List UInt8)) → Env
  | [] => env
  | some data :: _ => env.loadFile data
  | none :: rest => env.loadFirst rest

namespace Settings

/-- The text of a variable, or a default when it is unset or empty. -/
def text (env : Env) (k d : String) : String :=
  let v := env.value k
  if v = "" then d else v

/-- A duration variable: a duration, else whole seconds, else the default. -/
def duration (env : Env) (k : String) (d : Duration) : Duration :=
  let v := env.value k
  if v = "" then d
  else match Duration.parse? v with
    | .ok x => x
    | .error _ =>
      match parseDecimalInt? v with
      | some n => Duration.scale (Int64.ofInt n) Duration.second
      | none => d

/-- A number variable, or the default. -/
def number (env : Env) (k : String) (d : Int) : Int :=
  (parseDecimalInt? (env.value k)).getD d

/-- A truth variable, or the default. -/
def truth (env : Env) (k : String) (d : Bool) : Bool :=
  (parseTruth? (env.value k)).getD d

/-- A percentage variable: unset gives the default, anything but a percentage is an error. -/
def percent (env : Env) (k : String) (d : Float) : Except SettingsError Percent :=
  let v := env.value k
  if v = "" then .ok ⟨d⟩
  else match Decimal.parseFloat v with
    | .error e => .error (.notANumber k e)
    | .ok f => match Percent.make f with
      | .error e => .error (.notAPercent k e)
      | .ok p => .ok p

/-- The default refresh interval, five minutes. -/
def defaultRefresh : Duration := Duration.scale 5 Duration.minute

/-- The default tail size, 256 KiB. -/
def defaultTail : Int := 262144

/-- The settings from an environment, with `home` as the home directory; without one (an empty
`home`) the files are looked for in the working directory. -/
def load (env : Env) (home : String) : Except SettingsError Settings := do
  let codexHome := text env "CODEX_HOME" (PathName.join [home, ".codex"])
  let dataPath := fun (name : String) =>
    if home = "" then name else PathName.join [home, ".config", "codexhud", name]
  let refresh := duration env "CODEXHUD_REFRESH_INTERVAL" defaultRefresh
  let tail := number env "CODEXHUD_TAIL_BYTES" defaultTail
  let critical ← percent env "CODEXHUD_CRITICAL_PERCENT" 5
  let warning ← percent env "CODEXHUD_WARNING_PERCENT" 15
  if warning.less critical then throw (.warningBelowCritical warning critical)
  let mode := Text.toLower (text env "CODEXHUD_WATCH_MODE" "fsnotify")
  if mode ≠ "fsnotify" && mode ≠ "poll" then throw (.watchMode mode)
  return {
    codexHome := codexHome
    sessionsDir := text env "CODEXHUD_SESSIONS_DIR" (PathName.join [codexHome, "sessions"])
    authPath := text env "CODEXHUD_AUTH_PATH" (PathName.join [codexHome, "auth.json"])
    statePath := text env "CODEXHUD_STATE_PATH" (dataPath "state.json")
    databasePath := text env "CODEXHUD_DATABASE_PATH" (dataPath "history.db")
    watchMode := mode
    helloModel := text env "CODEXHUD_HELLO_MODEL" "gpt-5.1-codex-mini"
    codexBin := env.value "CODEX_BIN"
    logLevel := text env "CODEXHUD_LOG_LEVEL" "info"
    logFormat := text env "CODEXHUD_LOG_FORMAT" "text"
    refreshInterval := if refresh.toInt ≤ 0 then defaultRefresh else refresh
    watchDebounce := duration env "CODEXHUD_WATCH_DEBOUNCE" (Duration.scale 3 Duration.second)
    tailBytes := if tail ≤ 0 then defaultTail else tail
    critical := critical
    warning := warning
    notifications := truth env "CODEXHUD_NOTIFICATIONS" true }

/-- The variables the settings read. -/
def variableNames : List String :=
  ["CODEX_HOME", "CODEX_BIN", "CODEXHUD_REFRESH_INTERVAL", "CODEXHUD_TAIL_BYTES",
   "CODEXHUD_CRITICAL_PERCENT", "CODEXHUD_WARNING_PERCENT", "CODEXHUD_WATCH_MODE",
   "CODEXHUD_SESSIONS_DIR", "CODEXHUD_AUTH_PATH", "CODEXHUD_STATE_PATH", "CODEXHUD_DATABASE_PATH",
   "CODEXHUD_HELLO_MODEL", "CODEXHUD_LOG_LEVEL", "CODEXHUD_LOG_FORMAT", "CODEXHUD_WATCH_DEBOUNCE",
   "CODEXHUD_NOTIFICATIONS"]

/-- The settings after loading the first existing environment file of the working directory,
`~/.config/codexhud` and `~/.codex`, in that order. -/
def loadWithFiles (env : Env) (home : String) (files : List (Option (List UInt8))) :
    Except SettingsError Settings :=
  load (env.loadFirst files) home

end Settings

end QuotaWatch
