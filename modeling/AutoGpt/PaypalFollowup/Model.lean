import AutoGpt.Library.KeyedTable
import AutoGpt.Library.PyText
import Mathlib

/-
  The payment followups of `registration_paypal_followup.py`:
  the row of a payment, what a remote result or a login says
  of it, and the updates that a pass writes by the id of the
  row.
-/

open PyText (orElse strip)

----
-- Rows
----

namespace PaypalFollowup

inductive State where
| paymentPending
| reloginPending
| localRefreshPending
| paymentFailed
| paymentUnknown
| reloginFailed
| subscriptionConfirmed
| localUnconfirmed
| accountIdentityChanged
deriving DecidableEq

/- `TERMINAL_STATES`. -/
def State.terminal (state : State) : Bool := state ∈
    [.paymentFailed, .paymentUnknown, .reloginFailed, .subscriptionConfirmed, .localUnconfirmed,
      .accountIdentityChanged]

/- `ACTIVE_STATES`. -/
def State.active (state : State) : Bool :=
  state ∈ [.paymentPending, .reloginPending, .localRefreshPending]

/- `MAX_RELOGIN_ATTEMPTS`. -/
def maxReloginAttempts : Nat := 3

/- Texts of other modules, and the times of the settings, in seconds. -/
structure Env where
  lower : String → String
  upper : String → String
  sanitize : String → String
  is_proxy_error_text : String → Bool
  poll_interval_seconds : Nat
  poll_max_seconds : Nat
  local_refresh_grace_seconds : Nat

/- `RegistrationPaypalPaymentFollowupModel`; the refresh
   generation is the time that its text names. -/
structure Followup where
  id : Nat
  task_id : String := ""
  account_id : Nat
  account_email : String := ""
  account_created_at : String := ""
  batch_id : String := ""
  item_id : String := ""
  state : State := .paymentPending
  remote_status : String := ""
  remote_stage : String := ""
  payment_result : String := ""
  payment_result_code : String := ""
  remote_job_id : String := ""
  settlement_status : String := ""
  paypal_authorized : Bool := false
  merchant_redirect_succeeded : Option Bool := none
  entitlement_verified : Option Bool := none
  attempt_count : Nat := 0
  next_poll_at : Nat := 0
  deadline_at : Nat := 0
  relogin_attempt_count : Nat := 0
  local_refresh_generation : Option Nat := none
  last_error : String := ""
deriving DecidableEq

abbrev Followups := KeyedTable Followup Nat Followup.id

/- `text[:n]`. -/
def limited (n : Nat) (text : String) : String := String.ofList (text.toList.take n)

/- `_safe_text`. -/
def safeText (env : Env) (value : String) (limit : Nat) :
    String :=
  limited limit (env.sanitize value)

/- `str(value).strip().lower()`. -/
def lowered (env : Env) (value : String) : String := env.lower (strip value)

/- `_backoff`. -/
def backoff (env : Env) (attempt : Nat) : Nat :=
  min (env.poll_interval_seconds * 2 ^ (attempt - 1)) (15 * 60)

/- A commit writes the columns that differ from what its
   session has loaded; no session sets the identity. -/
def Followup.committed (new loaded current : Followup) :
    Followup where
  id := current.id
  task_id := Column.written new.task_id loaded.task_id current.task_id
  account_id := current.account_id
  account_email := Column.written new.account_email loaded.account_email current.account_email
  account_created_at := current.account_created_at
  batch_id := current.batch_id
  item_id := current.item_id
  state := Column.written new.state loaded.state current.state
  remote_status := Column.written new.remote_status loaded.remote_status current.remote_status
  remote_stage := Column.written new.remote_stage loaded.remote_stage current.remote_stage
  payment_result := Column.written new.payment_result loaded.payment_result current.payment_result
  payment_result_code :=
    Column.written new.payment_result_code loaded.payment_result_code current.payment_result_code
  remote_job_id := Column.written new.remote_job_id loaded.remote_job_id current.remote_job_id
  settlement_status :=
    Column.written new.settlement_status loaded.settlement_status current.settlement_status
  paypal_authorized :=
    Column.written new.paypal_authorized loaded.paypal_authorized current.paypal_authorized
  merchant_redirect_succeeded := Column.written new.merchant_redirect_succeeded
      loaded.merchant_redirect_succeeded current.merchant_redirect_succeeded
  entitlement_verified :=
    Column.written new.entitlement_verified loaded.entitlement_verified current.entitlement_verified
  attempt_count := Column.written new.attempt_count loaded.attempt_count current.attempt_count
  next_poll_at := Column.written new.next_poll_at loaded.next_poll_at current.next_poll_at
  deadline_at := Column.written new.deadline_at loaded.deadline_at current.deadline_at
  relogin_attempt_count := Column.written new.relogin_attempt_count loaded.relogin_attempt_count
      current.relogin_attempt_count
  local_refresh_generation := Column.written new.local_refresh_generation
      loaded.local_refresh_generation current.local_refresh_generation
  last_error := Column.written new.last_error loaded.last_error current.last_error

@[simp] theorem Followup.committed_id (new loaded current : Followup) :
    (new.committed loaded current).id = current.id := rfl

----
-- Remote Results And Logins
----

/- What `get_item_result` returns. -/
structure RemoteResult where
  status : String := ""
  stage : String := ""
  payment_result : String := ""
  payment_result_code : String := ""
  error_code : String := ""
  job_id : String := ""
  settlement_status : String := ""
  paypal_authorized : Option Bool := none
  merchant_redirect_succeeded : Option Bool := none
  entitlement_verified : Option Bool := none
  error : String := ""
deriving DecidableEq

/- `_remote_is_authorized`. -/
def remoteIsAuthorized (env : Env) (result : RemoteResult) :
    Bool :=
  result.paypal_authorized = some true || result.merchant_redirect_succeeded = some true ||
    lowered env result.settlement_status ∈
      ["merchant_redirect_succeeded", "authorized", "confirmed", "pending_verification"]

/- `_remote_failure_state`. -/
def remoteFailureState (env : Env) (result : RemoteResult) :
    Option State :=
  let status := lowered env result.status
  if remoteIsAuthorized env result then none
  else if status ∈ ["failed", "cancelled", "canceled"] ∨ lowered env result.settlement_status ∈
        ["merchant_redirect_failed", "failed", "vault_failed"] then
    some .paymentFailed
  else if status = "interrupted" ∨
      env.upper result.error_code ∈ ["SERVICE_RESTART_REVIEW_REQUIRED", "BATCH_INTERNAL_ERROR"] then
    some .paymentUnknown
  else none

def remoteNextState (env : Env) (result : RemoteResult) :
    State :=
  (remoteFailureState env result).getD
    (if remoteIsAuthorized env result then .reloginPending
      else .paymentPending)

structure LoginResult where
  ok : Bool := false
  error : String := ""
  error_code : String := ""
  message : String := ""

/- `candidate_result.get("error") or data.get("message")`. -/
def LoginResult.errorText (result : LoginResult) : String :=
  orElse result.error (orElse result.message "本地重新登录失败")

/- `_followup_login_proxy_error`. -/
def followupLoginProxyError (env : Env) (result : LoginResult) : Bool :=
  let error_code := lowered env result.error_code
  if error_code ∈ ["account_identity_mismatch", "account_deactivated",
        "password_invalid", "login_blocked", "missing_email",
        "missing_mailbox_state", "invalid_account_id",
        "account_not_found", "otp_rate_limited"] then false
  else error_code = "network_failed" || env.is_proxy_error_text result.errorText

/- The loop over the proxy candidates: it stops at a success,
   or at an error that is not one of the proxy. -/
def loginWith (env : Env) (before : LoginResult) :
    List LoginResult → LoginResult
| [] => before
| result :: rest =>
    if result.ok || !followupLoginProxyError env result then result
    else loginWith env result rest

/- The end of `_process_relogin`'s login; the candidates may have raised an error. -/
def loginResult (env : Env) (candidates : Except String (List LoginResult)) :
    LoginResult :=
  match candidates with
  | .error error => { error := error, error_code := "proxy_configuration_error" }
  | .ok results => loginWith env
        { error := "支付后登录没有可用代理候选", error_code := "proxy_configuration_error" } results

/- The codes after which a login is tried again. -/
def retryableCodes : List String := ["network_failed", "timeout", "rate_limited",
    "otp_rate_limited", "browser_lease_interrupted",
    "worker_exception", "proxy_configuration_error"]

----
-- Updates
----

/- The calls of `_persist_row_update`, with what they take from the row that the pass has read. -/
inductive Update where
| identityChanged (now : Nat)
| expired (now : Nat)
| loginSucceeded (attempts now : Nat)
| loginFailed (attempts now : Nat) (retry : Bool)
    (error : String)
| confirmed (now : Nat)
| unconfirmed (now : Nat)
| refreshLater (attempts now : Nat)
| pollError (attempts now : Nat) (error : String)
| polled (attempts now : Nat) (result : RemoteResult)
deriving DecidableEq

def oneDay : Nat := 24 * 60 * 60

def Update.apply (env : Env) (row : Followup) :
    Update → Followup
| .identityChanged now =>
    { row with
      state := .accountIdentityChanged, next_poll_at := now + oneDay,
      last_error := "账号身份已变化，停止自动跟进" }
| .expired now =>
    { row with
      state := .paymentUnknown, last_error := "支付跟进超过截止时间，需人工核验",
      next_poll_at := now + oneDay }
| .loginSucceeded attempts now =>
    { row with
      state := .localRefreshPending, relogin_attempt_count := attempts,
      local_refresh_generation := some now, next_poll_at := now + 8, last_error := "" }
| .loginFailed attempts now retry error =>
    { row with
      state := if retry then .reloginPending else .reloginFailed,
      relogin_attempt_count := attempts,
      next_poll_at := now + if retry then backoff env attempts else 3600, last_error := error }
| .confirmed now =>
    { row with
      state := .subscriptionConfirmed, next_poll_at := now + oneDay, last_error := "",
      entitlement_verified := some true }
| .unconfirmed now =>
    { row with
      state := .localUnconfirmed, next_poll_at := now + oneDay,
      last_error := "支付已授权，但本地状态刷新未确认付费权益" }
| .refreshLater attempts now => { row with next_poll_at := now + backoff env (max attempts 1) }
| .pollError attempts now error =>
    { row with
      attempt_count := attempts, next_poll_at := now + backoff env attempts,
      last_error := error }
| .polled attempts now result =>
    let authorized := remoteIsAuthorized env result
    { row with
      state := remoteNextState env result
      remote_status := limited 64 result.status
      remote_stage := safeText env result.stage 500
      payment_result := safeText env result.payment_result 500
      payment_result_code := safeText env
          (orElse result.payment_result_code result.error_code) 128
      remote_job_id := safeText env result.job_id 128
      settlement_status := limited 128 result.settlement_status
      paypal_authorized := authorized || result.paypal_authorized = some true
      merchant_redirect_succeeded := result.merchant_redirect_succeeded
      entitlement_verified := result.entitlement_verified
      attempt_count := attempts
      next_poll_at := now + if authorized then 8 else backoff env attempts
      last_error := safeText env result.error 500 }

def reloginUpdate (env : Env) (now : Nat) (row : Followup)
    (candidates : Except String (List LoginResult)) : Update :=
  let result := loginResult env candidates
  let attempts := row.relogin_attempt_count + 1
  if result.ok then .loginSucceeded attempts now
  else
    .loginFailed attempts now
      (decide
          (lowered env (orElse result.error_code "relogin_failed") ∈ retryableCodes) &&
        decide (attempts < maxReloginAttempts))
      (safeText env result.errorText 500)

/- The update of a row in local refresh. -/
def refreshUpdate (env : Env) (now : Nat) (confirmed : Bool) (row : Followup) : Update :=
  if confirmed then .confirmed now
  else
    match row.local_refresh_generation with
    | none => .refreshLater row.attempt_count now
    | some generation =>
      if env.local_refresh_grace_seconds ≤ now - generation
      then .unconfirmed now
      else .refreshLater row.attempt_count now

/- The update after a query of the remote result. -/
def pollUpdate (env : Env) (now : Nat) (row : Followup)
    (result : Except String RemoteResult) : Update :=
  let attempts := row.attempt_count + 1
  match result with
  | .error error => .pollError attempts now (safeText env error 500)
  | .ok result => .polled attempts now result

end PaypalFollowup
