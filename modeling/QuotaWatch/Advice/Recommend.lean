import QuotaWatch.Quota.Status
/-!
**Which account to use next.**

The active account is kept while available (stickiness); else the available account whose week
ends first, ties to more remaining; else the depleted one that recovers first; with no known
status, nothing. The priority order lists the available active account, then the other available
and the depleted ones, each ranked stably, then the unknown ones as given.
-/

namespace QuotaWatch

/-- Why an account is recommended. -/
inductive Reason where
  | stickiness
  | earliestWeeklyReset
  | allDepleted
  | noData
  deriving DecidableEq, Repr, Inhabited

/-- The stored name of a reason. -/
def Reason.name : Reason → String
  | .stickiness => "stickiness"
  | .earliestWeeklyReset => "earliestWeeklyReset"
  | .allDepleted => "allDepleted"
  | .noData => "noData"

/-- A recommendation: the account (none only for no data), why, and the active email it was
made for. -/
structure Decision where
  recommended : Option Account := none
  reason : Reason := .noData
  activeEmail : String := ""
  deriving Inhabited

/-- The one-line description of a decision. -/
def Decision.summary (d : Decision) : String :=
  match d.recommended with
  | none => "No usage recorded yet."
  | some a =>
    let name := a.label ++ " (" ++ a.email ++ ")"
    match d.reason with
    | .stickiness => "Keep using " ++ name ++ "."
    | .allDepleted => "All accounts depleted. " ++ name ++ " recovers first."
    | _ =>
      if a.email = d.activeEmail then "Keep using " ++ name ++ "."
      else "Switch to " ++ name ++ ", its weekly window resets first."

/-- An account with its status. -/
structure Candidate where
  account : Account
  status : Status

namespace Candidate

/-- The weekly reset time of a candidate (the first instant when unknown). -/
def resetsAt (c : Candidate) : Instant := (c.status.weekly.map (·.resetsAt)).getD Instant.zero

/-- The weekly remaining of a candidate (zero when unknown). -/
def remaining (c : Candidate) : Percent := (c.status.weekly.map (·.remaining)).getD Percent.zero

/-- The ranking within a group: earlier weekly reset first, then more remaining first. -/
def compare (a b : Candidate) : Ordering :=
  if a.resetsAt.before b.resetsAt then .lt
  else if b.resetsAt.before a.resetsAt then .gt
  else if b.remaining.less a.remaining then .lt
  else if a.remaining.less b.remaining then .gt
  else .eq

/-- Whether `a` ranks ahead of `b`. -/
def ranksAhead (a b : Candidate) : Bool := compare a b == .lt

end Candidate

/-- The first candidate that no later one ranks ahead of, scanning in order. -/
def firstBest (c : Candidate) (rest : List Candidate) : Candidate :=
  rest.foldl (fun best x => if x.ranksAhead best then x else best) c

namespace Thresholds

/-- The candidates of a list of accounts. -/
def candidates (t : Thresholds) (accounts : List Account) : List Candidate :=
  accounts.map fun a => ⟨a, t.status a⟩

/-- The candidates of a status. -/
def ofKind (cs : List Candidate) (k : StatusKind) : List Candidate :=
  cs.filter (·.status.kind == k)

/-- The active candidate, when an active email is given and an account has it. -/
def findActive (cs : List Candidate) (email : String) : Option Candidate :=
  if email = "" then none else cs.find? (·.account.email == email)

/-- The recommendation for a list of accounts and the active email. -/
def recommend (t : Thresholds) (accounts : List Account) (active : String) : Decision :=
  let cs := t.candidates accounts
  let sticky := (findActive cs active).filter (·.status.kind == .available)
  match sticky with
  | some c => ⟨some c.account, .stickiness, active⟩
  | none =>
    match ofKind cs .available with
    | c :: rest => ⟨some (firstBest c rest).account, .earliestWeeklyReset, active⟩
    | [] =>
      match ofKind cs .depleted with
      | c :: rest => ⟨some (firstBest c rest).account, .allDepleted, active⟩
      | [] => ⟨none, .noData, active⟩

/-- A group ranked, ties in the given order. -/
def ranked (cs : List Candidate) : List Candidate :=
  cs.mergeSort fun a b => a.compare b != .gt

/-- Every account in recommendation order. -/
def prioritize (t : Thresholds) (accounts : List Account) (active : String) : List Account :=
  let cs := t.candidates accounts
  let sticky := (findActive cs active).filter (·.status.kind == .available)
  let stickyEmail := (sticky.map (·.account.email)).getD ""
  let group := fun (k : StatusKind) =>
    ranked ((ofKind cs k).filter (·.account.email != stickyEmail))
  (sticky.map (·.account)).toList ++ (group .available).map (·.account) ++
    (group .depleted).map (·.account) ++ (ofKind cs .unknown).map (·.account)

end Thresholds

end QuotaWatch
