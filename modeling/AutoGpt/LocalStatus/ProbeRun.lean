import AutoGpt.Library.Machine
import AutoGpt.LocalStatus.AuthMaterial

/-
  One run of `sync_chatgpt_account_local_status_by_id`: its
  probes through proxy candidates, the retry of an incomplete
  subscription, and the write that stores a probe of the
  account's revision or probes once more. Each probe is one
  step, and other fields of the account may change before
  every step. A refresh token is consumed by its first
  successful refresh.
-/

open PyText (strip)

----
-- Probes
----

namespace LocalStatus

/- `is_local_status_proxy_transport_error` and `str.lower()`. -/
structure ProbeEnv where
  transportError : String → Nat → Bool
  lower : String → String

/- What a probe reports of the account: `auth` and `subscription`; its message is the error code
   where it has none. -/
structure ProbeReport where
  auth_state : String := "unknown"
  http_status : Nat := 0
  message : String := ""
  plan : String := "unknown"
  active_until : String := ""
deriving DecidableEq

/- A probe with its private update of the credentials. -/
structure Probe where
  report : ProbeReport
  update : Option CredentialUpdate := none
deriving DecidableEq

/- The tokens of a successful refresh; the manager has checked that there is an access token. -/
structure OAuthTokens where
  access_token : String
  refresh_token : String
  nonempty : strip access_token ≠ ""

/- What comes from outside a probe: that no proxy could be resolved, the answer to the refresh, an
   exception after it, and the report. -/
structure ProbeDraw where
  unresolved : Option ProbeReport := none
  oauth : Option OAuthTokens := none
  raised : Option String := none
  report : ProbeReport := {}

/- A refresh call: the token it has used, whether the account
   had that token stored, and what it has obtained. -/
structure RefreshCall where
  used : String
  stored : Bool
  update : Option CredentialUpdate

/- A token that a successful refresh has invalidated. -/
def consumed (calls : List RefreshCall) (token : String) :
    Bool :=
  calls.any fun call => call.update.isSome && decide (call.used = token)

/- The update that a refresh has obtained. -/
def OAuthTokens.update (tokens : OAuthTokens) (used : String) :
    CredentialUpdate where
  access_token := strip tokens.access_token
  refresh_token := firstText [tokens.refresh_token, used]

/- `_resolve_probe_access_token`, as far as the update goes. -/
def obtained (draw : ProbeDraw) (calls : List RefreshCall)
    (used : String) : Option CredentialUpdate :=
  if consumed calls used then none
  else draw.oauth.map fun tokens => tokens.update used

/- `probe_local_chatgpt_status`. -/
def probeLocal (draw : ProbeDraw) (stored : String)
    (calls : List RefreshCall) (account : ProbeAccount) : List RefreshCall × Except String Probe :=
  let used := account.refreshToken
  if used = "" ∧ account.accessToken = "" then
    (calls, .ok { report := { auth_state := "missing_refresh_token" } })
  else
    match draw.unresolved with
    | some report => (calls, .ok { report := report })
    | none =>
      let update := if used = "" then none else obtained draw calls used
      (if used = "" then calls
        else calls ++ [{ used := used, stored := decide (used = stored), update := update }],
        match draw.raised with
        | some error => .error error
        | none => .ok { report := draw.report, update := update })

----
-- Subscription Retries
----

variable (env : ProbeEnv)

/- `part in text`. -/
def within (part text : String) : Bool := decide (part.toList <:+: text.toList)

/- `normalize_subscription_plan`. -/
def normalizeSubscriptionPlan (plan : String) : String :=
  let normalized := String.ofList ((env.lower (strip plan)).toList.map fun c =>
        if c = '-' then '_' else c)
  if within "enterprise" normalized then "enterprise"
  else if within "team" normalized || within "business" normalized then "team"
  else if within "pro" normalized then "pro"
  else if within "plus" normalized then "plus"
  else if within "free" normalized then "free"
  else "unknown"

/- `PAID_PLAN_TYPES`. -/
def paidPlanTypes : List String := ["plus", "pro", "team", "business", "enterprise"]

/- `is_paid_subscription_plan`. -/
def isPaidSubscriptionPlan (plan : String) : Bool :=
  decide (normalizeSubscriptionPlan env plan ∈ paidPlanTypes)

/- `AUTH_VALID_STATES`. -/
def ProbeReport.authValid (report : ProbeReport) : Bool := decide
    (env.lower (strip report.auth_state) ∈ ["refresh_token_valid", "access_token_valid"])

/- `_subscription_retry_reason`. -/
def retryReason (report : ProbeReport) : String :=
  if report.authValid env = false then ""
  else
    let plan := normalizeSubscriptionPlan env report.plan
    if plan = "unknown" then "subscription_plan_unknown"
    else if isPaidSubscriptionPlan env plan ∧ strip report.active_until = "" then
      "subscription_expiry_missing"
    else ""

/- `_subscription_probe_score`. -/
def probeScore (report : ProbeReport) : Nat :=
  if report.authValid env = false then 0
  else
    let plan := normalizeSubscriptionPlan env report.plan
    if plan = "unknown" then 1
    else if isPaidSubscriptionPlan env plan ∧ strip report.active_until ≠ "" then 4
    else 3

/- `local_status_probe_proxy_failure`. -/
def proxyFailure (report : ProbeReport) : String :=
  let message := strip report.message
  if env.lower (strip report.auth_state) ≠ "probe_failed" then ""
  else if env.transportError message report.http_status then message
  else ""

----
-- Runs
----

/- `_AUTH_MATERIAL_PROBE_MAX_ATTEMPTS`. -/
def authMaterialProbeMaxAttempts : Nat := 2

/- Where a run is: before a probe, or before the retry of a
   first one; before its write; or ended. -/
inductive SyncStage where
| probing (first : Option Probe)
| writing (probe : Probe)
| ended
deriving DecidableEq

/- A run with the account's row and its calls so far. -/
structure SyncRun where
  row : Account
  snapshot : ProbeAccount
  candidates : Bool := true
  attempt : Nat := 1
  stage : SyncStage := .probing none
  calls : List RefreshCall := []

/- What can happen next: a probe with a candidate, the end of the candidates, the write, and a
   change of the account that keeps its tokens. -/
inductive SyncOp where
| probe (draw : ProbeDraw)
| exhausted
| write
| change (account : Account)

/- A changed account with the tokens that were there. -/
def Account.keepTokens (changed account : Account) : Account :=
  { changed with
    token := account.token
    extra :=
      { changed.extra with
        access_token := account.extra.access_token,
        refresh_token := account.extra.refresh_token, id_token := account.extra.id_token } }

namespace SyncRun

variable (env : ProbeEnv)

/- The next candidate after a transport failure, if the run has candidates. -/
def nextCandidate (run : SyncRun) : SyncRun :=
  { run with stage := if run.candidates then .probing none else .ended }

/- A result of the candidate: the next one after a transport failure, or the write. -/
def settle (run : SyncRun) (probe : Probe) : SyncRun :=
  if proxyFailure env probe.report ≠ "" then run.nextCandidate
  else { run with stage := .writing probe }

/- What a probe is followed by: an exception ends the run or brings the next candidate, a reason for
   a retry brings the retry, and of two probes the better one goes on, the later one if they are
   equal. -/
def afterProbe (run : SyncRun) (first : Option Probe) (result : Except String Probe) : SyncRun :=
  match result with
  | .error error =>
    if env.transportError error 0 then run.nextCandidate
    else { run with stage := .ended }
  | .ok probe =>
    match first with
    | none =>
      if retryReason env probe.report = "" then run.settle env probe
      else { run with stage := .probing (some probe) }
    | some first =>
      if probeScore env first.report ≤ probeScore env probe.report then run.settle env probe
      else run.settle env first

/- One probe of a candidate, or the retry of `_probe_local_status_with_subscription_retry`. -/
def probe (run : SyncRun) (draw : ProbeDraw) (first : Option Probe) : SyncRun :=
  let result := probeLocal draw run.row.refreshToken run.calls run.snapshot
  afterProbe env { run with calls := result.1 } first result.2

/- The write of a probe: an account of another identity is
   refused, one of another revision is probed again. -/
def write (run : SyncRun) (probe : Probe) : SyncRun :=
  if run.row.identity ≠ run.snapshot.identity then { run with stage := .ended }
  else if run.snapshot.revision = run.row.revision then
    { run with
      row :=
        match probe.update with
        | none => run.row
        | some update => run.row.updated update
      stage := .ended }
  else if run.attempt < authMaterialProbeMaxAttempts then
    { run with
      snapshot := buildProbeAccount run.row, attempt := run.attempt + 1,
      stage := .probing none }
  else { run with stage := .ended }

def step (run : SyncRun) : SyncOp → SyncRun × Unit
| .probe draw =>
    match run.stage with
    | .probing first => (run.probe env draw first, ())
    | _ => (run, ())
| .exhausted =>
    match run.stage with
    | .probing none => ({ run with stage := .ended }, ())
    | _ => (run, ())
| .write =>
    match run.stage with
    | .writing probe => (run.write probe, ())
    | _ => (run, ())
| .change account => ({ run with row := account.keepTokens run.row }, ())

end SyncRun

/- A run of an account and the detached account that it begins with. -/
abbrev syncRun (env : ProbeEnv) (row : Account) (snapshot : ProbeAccount)
    (candidates : Bool) (ops : List SyncOp) : SyncRun :=
  Machine.run (SyncRun.step env) { row := row, snapshot := snapshot, candidates := candidates } ops

end LocalStatus
