import QuotaWatch.Term.Join
import QuotaWatch.Quota.Level
import QuotaWatch.Quota.Window
/-!
**The colours and styles of the dashboard.**

The palette is a dark theme of 256-colour entries: green for the primary accent and for
success, purple as the secondary accent, blue for the five-hour window and for information,
orange for the weekly window, yellow for warnings and red for errors, and greys for muted text
and backgrounds.

Levels pick the style of a remaining percentage: green above the thresholds, yellow at the
warning level, bold red at the critical level.
-/

namespace QuotaWatch.Theme

open Term

/-- Green. -/
def primary : Color := .palette 42
/-- Purple. -/
def secondary : Color := .palette 63
/-- Grey. -/
def subtle : Color := .palette 240
/-- Blue, the five-hour window. -/
def fiveHour : Color := .palette 39
/-- Orange, the weekly window. -/
def weekly : Color := .palette 208
/-- Green. -/
def success : Color := .palette 42
/-- Red. -/
def error : Color := .palette 196
/-- Yellow. -/
def warning : Color := .palette 220
/-- Blue. -/
def info : Color := .palette 39
/-- The darker background. -/
def bgDark : Color := .palette 235
/-- The lighter background. -/
def bgLight : Color := .palette 237
/-- Bright text. -/
def textPrimary : Color := .palette 252
/-- Secondary text. -/
def textSecondary : Color := .palette 245
/-- Muted text. -/
def textMuted : Color := .palette 240
/-- Light yellow badge text. -/
def badgeText : Color := .palette 229

/-- The accent colour of a window. -/
def windowColor (k : WindowKind) : Color := if k = .fiveHour then fiveHour else weekly

/-- Floating notifications. -/
def toast : Style :=
  { border := some Border.rounded, borderFg := some primary, padding := ⟨0, 1, 0, 1⟩,
    margin := ⟨0, 0, 1, 0⟩ }

/-- Main headings. -/
def title : Style := { bold := true, fg := some primary, margin := ⟨0, 0, 1, 0⟩ }

/-- Document margins. -/
def doc : Style := { margin := ⟨1, 2, 1, 2⟩, padding := ⟨0, 1, 0, 1⟩ }

/-- A bordered card. -/
def card : Style :=
  { border := some Border.rounded, borderFg := some subtle, padding := ⟨1, 2, 1, 2⟩,
    margin := ⟨0, 0, 1, 0⟩ }

/-- The card of the signed-in account. -/
def activeCard : Style := { card with borderFg := some primary }

/-- The card of the recommended account. -/
def recommendedCard : Style := { card with borderFg := some secondary }

/-- Card headers. -/
def cardTitle : Style := { bold := true, fg := some primary }

/-- Progress bar labels. -/
def progressLabel : Style := { fg := some textSecondary, width := 8 }

/-- Help text. -/
def help : Style := { fg := some textMuted }

/-- Keyboard shortcut keys. -/
def helpKey : Style := { fg := some primary, bold := true }

/-- Help descriptions. -/
def helpDesc : Style := { fg := some textSecondary }

/-- The help overlay. -/
def helpPanel : Style :=
  { border := some Border.double, borderFg := some primary, padding := ⟨1, 3, 1, 3⟩,
    bg := some bgDark }

/-- The base of the markers next to account names. -/
def badge : Style := { padding := ⟨0, 1, 0, 1⟩, bold := true }

/-- The marker of the signed-in account. -/
def activeBadge : Style := { badge with fg := some bgDark, bg := some primary }

/-- The marker of the recommended account. -/
def recommendedBadge : Style := { badge with fg := some badgeText, bg := some secondary }

/-- The marker of a depleted account. -/
def depletedBadge : Style := { badge with fg := some badgeText, bg := some error }

/-- Remaining quota above the warning threshold. -/
def quotaHigh : Style := { fg := some success }

/-- Remaining quota at or below the warning threshold. -/
def quotaMedium : Style := { fg := some warning }

/-- Remaining quota at or below the critical threshold. -/
def quotaLow : Style := { fg := some error, bold := true }

/-- Accounts without a measurement. -/
def quotaUnknown : Style := { fg := some subtle, italic := true }

/-- Error messages. -/
def errorText : Style := { fg := some error }

/-- Warning messages. -/
def warningText : Style := { fg := some warning }

/-- Information messages. -/
def infoText : Style := { fg := some info }

/-- The style of a level: critical, warning, or anything else. -/
def levelStyle (l : Level) : Style :=
  if l.code = 2 then quotaLow else if l.code = 1 then quotaMedium else quotaHigh

/-- Text in one foreground colour. -/
def inColor (c : Color) : Style := { fg := some c }

/-- Content centred in a width. -/
def centerHorizontal (p : Profile) (content : String) (width : Nat) : String :=
  Style.render p { width := width, align := .center } content

/-- Content centred in a width and a height. -/
def centerBoth (p : Profile) (content : String) (width height : Nat) : String :=
  Style.render p { width := width, height := height, align := .center, alignV := .center } content

end QuotaWatch.Theme
