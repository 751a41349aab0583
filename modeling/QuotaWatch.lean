import QuotaWatch.Hud.Program
import QuotaWatch.Inspect.Dashboard
import QuotaWatch.Inspect.Machine
import QuotaWatch.Inspect.Render
import QuotaWatch.Main
import QuotaWatch.Proofs.Accounts.Replace
import QuotaWatch.Proofs.Advice.Priority
import QuotaWatch.Proofs.Config.Durations
import QuotaWatch.Proofs.Credential.Identity
import QuotaWatch.Proofs.Gate.ForcedRefresh
import QuotaWatch.Proofs.History.Order
import QuotaWatch.Proofs.Hud.Selection
import QuotaWatch.Proofs.Persist.Retention
import QuotaWatch.Proofs.Persist.Throttle
import QuotaWatch.Proofs.Persist.Writable
import QuotaWatch.Proofs.Quota.Rollover
import QuotaWatch.Proofs.Refresh.Frame
import QuotaWatch.Proofs.Refresh.Publication
import QuotaWatch.Proofs.SessionLog.Locate
import QuotaWatch.Proofs.SessionLog.Screen
import QuotaWatch.Proofs.SessionLog.TailScan
import QuotaWatch.Service.Loop
