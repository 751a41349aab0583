import Mathlib
import QuotaWatch.Config.Settings
/-!
**What a duration setting denotes.**

A duration variable is read as unit text, else as a bare decimal integer of seconds
(`Settings.denotedNanos`). Unit text beyond 64 bits is refused, but the seconds are multiplied in
64-bit arithmetic, so a setting is the denoted count of nanoseconds reduced modulo `2^64` into
the signed range (`Settings.duration_toInt`): the count itself exactly when it fits
(`Settings.wrappedOr_of_fits`). The loaded refresh interval is that value when positive and five
minutes otherwise (`Settings.load_durations`); a bare `18446744074` refreshes every 0.29 s.

Main definitions:

* `Settings.denotedNanos` — the nanoseconds a setting's text denotes, unit text or bare seconds;
* `Settings.wrappedOr` — that count reduced into the signed 64-bit range, or a default.

Main results:

* `Settings.duration_toInt` — a duration setting is its denoted count wrapped to 64 bits;
* `Settings.wrappedOr_of_fits` — a count that fits is kept exactly;
* `Settings.load_durations` — **the loaded durations, and the refresh interval's fallback**;
* `Settings.huge_refresh_interval_wraps` — a bare count of seconds past 64 bits of nanoseconds
  gives a refresh interval of under a second.
-/

namespace QuotaWatch.Settings

/-- The nanoseconds a duration text denotes, as an unbounded integer: those of its unit text, or
a bare decimal integer of seconds; `none` when it is neither. -/
def denotedNanos (v : String) : Option Int :=
  match Duration.parse? v with
  | .ok x => some x.toInt
  | .error _ => (parseDecimalInt? v).map (· * 1000000000)

/-- What a 64-bit duration holds of the count `v` denotes, or `d` when `v` denotes none: the
count reduced modulo `2^64` into `[-2^63, 2^63)`. -/
def wrappedOr (v : String) (d : Int) : Int := ((denotedNanos v).map (Int.bmod · (2 ^ 64))).getD d

theorem denotedNanos_empty : denotedNanos "" = none := rfl

/-- A count that fits in 64 signed bits is held as it is. -/
theorem wrappedOr_of_fits {v : String} {d n : Int} (hv : denotedNanos v = some n)
    (lo : -2 ^ 63 ≤ n) (hi : n < 2 ^ 63) : wrappedOr v d = n := by
  rw [wrappedOr, hv, Option.map_some, Option.getD_some]
  exact Int.bmod_eq_of_le (by omega) (by omega)

/-- `n` seconds, multiplied as 64-bit words. -/
theorem toInt_scale_second (n : Int) :
    (Duration.scale (Int64.ofInt n) Duration.second).toInt = (n * 1000000000).bmod (2 ^ 64) := by
  simp only [Duration.scale, Duration.toInt, Duration.second, Int64.toInt_mul, Int64.toInt_ofInt]
  exact Int.bmod_mul_bmod

/-- **A duration setting is what its text denotes, wrapped into 64 bits**, or the default when
the text is unset, empty or neither unit text nor a decimal integer. -/
theorem duration_toInt (env : Env) (k : String) (d : Duration) :
    (duration env k d).toInt = wrappedOr (env.value k) d.toInt := by
  unfold duration wrappedOr
  dsimp only
  split
  case isTrue hv => rw [hv, denotedNanos_empty]; rfl
  case isFalse =>
    -- a case split on the parse, not on a match: the two matches on it may share one matcher
    unfold denotedNanos
    cases hp : Duration.parse? (env.value k) with
    | ok x =>
      simp only [Option.map_some, Option.getD_some, Duration.toInt]
      exact (Int64.toInt_bmod_size x.nanos).symm
    | error e =>
      simp only
      cases parseDecimalInt? (env.value k) with
      | none => rfl
      | some n => rw [Option.map_some, Option.map_some, Option.getD_some, toInt_scale_second]

/-- What a successful load holds of its two durations. -/
theorem load_ok_durations {env : Env} {home : String} {s : Settings} (h : load env home = .ok s) :
    s.refreshInterval = (let r := duration env "CODEXHUD_REFRESH_INTERVAL" defaultRefresh
      if r.toInt ≤ 0 then defaultRefresh else r) ∧
    s.watchDebounce = duration env "CODEXHUD_WATCH_DEBOUNCE" (Duration.scale 3 Duration.second) := by
  unfold load at h
  cases hc : percent env "CODEXHUD_CRITICAL_PERCENT" 5 <;>
    cases hw : percent env "CODEXHUD_WARNING_PERCENT" 15 <;>
    simp only [hc, hw, bind, Except.bind, pure, Except.pure, throw, throwThe, MonadExceptOf.throw,
      reduceCtorEq] at h
  -- the two refusals, then the record
  split at h
  · cases h
  split at h
  · cases h
  cases h
  exact ⟨rfl, rfl⟩

/-- **The durations a load yields.** The watch debounce is the wrapped count its variable denotes,
or three seconds; the refresh interval is the wrapped count of its variable, or five minutes,
and five minutes again when that is not positive, so it is always positive. -/
theorem load_durations {env : Env} {home : String} {s : Settings} (h : load env home = .ok s) :
    s.watchDebounce.toInt = wrappedOr (env.value "CODEXHUD_WATCH_DEBOUNCE") 3000000000 ∧
    s.refreshInterval.toInt =
      (if wrappedOr (env.value "CODEXHUD_REFRESH_INTERVAL") 300000000000 ≤ 0 then 300000000000
        else wrappedOr (env.value "CODEXHUD_REFRESH_INTERVAL") 300000000000) ∧
    0 < s.refreshInterval.toInt := by
  obtain ⟨hr, hd⟩ := load_ok_durations h
  have hdef : defaultRefresh.toInt = 300000000000 := rfl
  refine ⟨by rw [hd, duration_toInt]; rfl, ?_, ?_⟩
  · rw [hr]
    dsimp only
    rw [apply_ite Duration.toInt, duration_toInt, hdef]
  · rw [hr]
    dsimp only
    split
    · rw [hdef]; omega
    · omega

/-- A refresh interval of a bare `18446744074`, with the codex paths given. -/
def hugeIntervalEnv : Env :=
  ⟨[("CODEXHUD_REFRESH_INTERVAL", "18446744074"), ("CODEX_HOME", "/c"),
    ("CODEXHUD_SESSIONS_DIR", "/c/s"), ("CODEXHUD_AUTH_PATH", "/c/a.json")]⟩

/-- The settings of `hugeIntervalEnv` without a home directory. -/
def hugeIntervalSettings : Settings :=
  { codexHome := "/c", sessionsDir := "/c/s", authPath := "/c/a.json",
    statePath := "state.json", databasePath := "history.db", watchMode := "fsnotify",
    helloModel := "gpt-5.1-codex-mini", codexBin := "", logLevel := "info", logFormat := "text",
    refreshInterval := ⟨290448384⟩, watchDebounce := ⟨3000000000⟩, tailBytes := 262144,
    critical := ⟨5⟩, warning := ⟨15⟩, notifications := true }

theorem load_hugeInterval_durations :
    load hugeIntervalEnv "" = .ok hugeIntervalSettings ∧
      hugeIntervalSettings.watchDebounce.toInt = wrappedOr "" 3000000000 ∧
      hugeIntervalSettings.refreshInterval.toInt =
        (if wrappedOr "18446744074" 300000000000 ≤ 0 then 300000000000
          else wrappedOr "18446744074" 300000000000) ∧
      0 < hugeIntervalSettings.refreshInterval.toInt :=
  have h : load hugeIntervalEnv "" = .ok hugeIntervalSettings := rfl
  ⟨h, load_durations h⟩

/-- **Eighteen billion seconds is a refresh every 0.29 s**: `18446744074` seconds overflows 64 bits
of nanoseconds and wraps to 290448384 ns, neither the number of seconds nor the default. -/
theorem huge_refresh_interval_wraps :
    (load hugeIntervalEnv "").map (·.refreshInterval.toInt) = .ok 290448384 ∧
      (290448384 : Int) ≠ 18446744074 * 1000000000 ∧ (290448384 : Int) ≠ defaultRefresh.toInt :=
  ⟨rfl, by decide, by decide⟩

end QuotaWatch.Settings
