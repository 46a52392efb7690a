import AutoGpt.Library.ActiveTable
import AutoGpt.Library.PyText
import Mathlib

/-
  The data of `api/external_access_tokens.py`: claims and
  their rows, the accounts with the copy of the last claim in
  their `extra`, and the live check of a token before it is
  handed out.
-/

open PyText (orElse strip)

----
-- Claims
----

namespace AccessTokens

/- `SCAN_BATCH_SIZE`. -/
def scanBatchSize : Nat := 50

/- `MAX_LEASE_SECONDS`. -/
def maxLeaseSeconds : Nat := 86400 * 7

/- `HARD_MAX_LIMIT`. -/
def hardMaxLimit : Nat := 100

/- The texts of `status` that the module writes. -/
inductive ClaimStatus where
| prechecking
| claimed
| processing
| paid
| failed
| released
| leaseExpired
| invalidToken
| missingToken
| precheckFailed
| subscribed
| duplicateInClaimRound
deriving DecidableEq

/- `ACTIVE_CLAIM_STATUSES`. -/
def ClaimStatus.active : ClaimStatus → Bool
| .prechecking => true
| .claimed => true
| .processing => true
| _ => false

/- A claim, as a row and as its dictionary. A deadline is the time of its ISO text, and none for the
   empty text. -/
structure Claim where
  claim_id : String
  account_id : Nat
  email : String
  consumer : String
  status : ClaimStatus := .prechecking
  token_source : String := ""
  token_fingerprint : String := ""
  auth_state : String := ""
  subscription_plan : String := ""
  lease_expires_at : Option Nat := none
  provider : String := ""
  external_payment_id : String := ""
  message : String := ""
  error_code : String := ""
  last_error : String := ""
  attempt : Nat
deriving DecidableEq

/- The claim table with its partial unique index. -/
abbrev Claims :=
  ActiveTable Claim String Nat Claim.claim_id Claim.account_id (fun claim => claim.status.active)

/- `_update_claim_row_from_claim`; the row is loaded again for
   the update, so every column is written. -/
def Claim.writtenTo (claim row : Claim) : Claim :=
  { row with
    consumer := claim.consumer, status := claim.status, email := claim.email,
    token_source := claim.token_source, token_fingerprint := claim.token_fingerprint,
    auth_state := claim.auth_state, subscription_plan := claim.subscription_plan,
    lease_expires_at := claim.lease_expires_at, provider := claim.provider,
    external_payment_id := claim.external_payment_id, message := claim.message,
    error_code := claim.error_code, last_error := claim.last_error }

/- A claim whose lease is over at this time. -/
def Claim.stale (now : Nat) (row : Claim) : Bool := decide (row.status = .claimed) &&
    row.lease_expires_at.any fun deadline => decide (deadline ≤ now)

/- What `_expire_stale_claims` sets. -/
def Claim.expired (row : Claim) : Claim :=
  { row with status := .leaseExpired, last_error := "AccessToken 领取租约超时，已自动释放" }

/- `_expire_stale_claims`. -/
def expireStaleClaims (now : Nat) (claims : Claims) : Claims :=
  claims.deactivateWhere (Claim.stale now) Claim.expired (fun _ => rfl) (fun _ => rfl)

/- `_active_claim_for_account`. -/
def activeClaimForAccount (claims : Claims) (account_id : Nat) :
    Bool :=
  claims.rows.any fun row => decide (row.account_id = account_id) && row.status.active

/- `_claim_is_blocking` on the copy in an account's `extra`. -/
def claimIsBlocking (slot : Option Claim) (now : Nat) : Bool :=
  match slot with
  | none => false
  | some claim =>
    if claim.status = .paid then true
    else if claim.status.active = false then false
    else !claim.stale now

----
-- Accounts
----

/- `EXTERNAL_AT_PAYMENT_KEY` in `extra`. -/
structure Payment where
  status : ClaimStatus
  provider : String
  external_payment_id : String
  claim_id : String
  message : String
  error_code : String

/- `EXTERNAL_AT_PRECHECK_KEY` in `extra`. -/
structure Precheck where
  last_status : ClaimStatus
  last_error : String
  retry_after_at : Option Nat

/- The keys of `extra` that the module reads. -/
structure Extra where
  access_token : String := ""
  refresh_token : String := ""
  claim : Option Claim := none
  payment : Option Payment := none
  precheck : Option Precheck := none

/- `AccountModel`. -/
structure Account where
  id : Nat
  email : String := ""
  platform : String := "chatgpt"
  status : String := "registered"
  token : String := ""
  extra : Extra := {}

abbrev Accounts := KeyedTable Account Nat Account.id

/- The columns that `_persist_account` writes; `extra` is one text, which every call changes. -/
def Account.writtenTo (account loaded row : Account) : Account :=
  { row with
    status := Column.written account.status loaded.status row.status,
    token := Column.written account.token loaded.token row.token, extra := account.extra }

/- `_persist_account`. -/
def persistAccount (account loaded : Account) (accounts : Accounts) : Accounts :=
  accounts.updateKey account.id (account.writtenTo loaded) (fun _ => rfl)

structure Env where
  lower : String → String
  digest : String → String

variable (env : Env)

/- The account states that are never handed out. -/
def excludedStatuses : List String := ["subscribed", "invalid", "banned", "account_deactivated"]

/- `str(extra.get("access_token") or account.token or "")`, stripped. -/
def Account.accessToken (account : Account) : String :=
  strip (orElse account.extra.access_token account.token)

/- `_precheck_blocked`. -/
def precheckBlocked (extra : Extra) (now : Nat) : Bool :=
  (extra.precheck.bind Precheck.retry_after_at).any
    fun retry_after_at => decide (now < retry_after_at)

/- `_locally_sendable`. -/
def locallySendable (account : Account) (now : Nat) : Bool :=
  if env.lower (strip account.status) ∈ excludedStatuses then false
  else if claimIsBlocking account.extra.claim now then false
  else if precheckBlocked account.extra now then false
  else
    decide (account.accessToken ≠ "") ||
      decide (strip account.extra.refresh_token ≠ "")

/- `_clean_text`. -/
def cleanText (value : String) (limit : Nat) : String :=
  let text := strip value
  if limit < text.length then String.ofList (text.toList.take limit) ++ "..."
  else text

/- `_fingerprint_token`. -/
def fingerprintToken (access_token : String) : String :=
  let token := strip access_token
  if token = "" then ""
  else "sha256:" ++ env.digest token

----
-- The Live Check
----

/- What the token refresh of an account comes to. -/
inductive RefreshAnswer where
| raised
| noProxy (message : String)
| result (success : Bool)
    (access_token refresh_token error_message : String)
deriving DecidableEq

/- What the probe of an account comes to, with what `chatgpt_account_state` derives from it: whether
   the plan is a paid one, the plan, and the status of the account. -/
structure Probe where
  auth_state : String
  auth_message : String := ""
  plan : String
  capabilities_plan : String := ""
  has_paid_subscription : Bool
  account_status : String

/- The answers that one live check gets; none is an exception of the probe. -/
structure Outside where
  refresh : RefreshAnswer := .raised
  probe : Option Probe := none

/- What `_preflight_access_token` returns. -/
inductive Preflight where
| rejected (status : ClaimStatus) (reason : String)
    (auth_state subscription_plan : String)
| ready (access_token token_source token_fingerprint : String)
    (auth_state subscription_plan : String)

/- `VALID_AUTH_STATES`. -/
def validAuthStates : List String := ["access_token_valid", "refresh_token_valid"]

/- `"invalid" in auth_state`. -/
def mentionsInvalid (auth_state : String) : Bool := decide ("invalid".toList <:+: auth_state.toList)

/- `_set_precheck_result`. -/
def setPrecheckResult (status : ClaimStatus) (reason : String)
    (now cooldown : Nat) (account : Account) : Account :=
  { account with
    extra :=
      { account.extra with
        precheck := some
            { last_status := status
              last_error := cleanText reason 800
              retry_after_at :=
                if status = .precheckFailed then some (now + cooldown)
                else none } } }

/- `refresh["message"]` of a refresh that has failed. -/
def refreshMessage : RefreshAnswer → String
| .raised => ""
| .noProxy message => "默认代理解析失败: " ++ message
| .result _ _ _ error_message => orElse error_message "refresh_token 刷新失败"

/- A refresh that has given a new access token. -/
def refreshedToken : RefreshAnswer → Option (String × String)
| .result success access_token refresh_token _ =>
    if success ∧ strip access_token ≠ "" then some (strip access_token, refresh_token)
    else none
| _ => none

/- The tokens of an account after a refresh. -/
def withTokens (access_token refresh_token : String) (account : Account) :
    Account :=
  { account with
    token := access_token
    extra :=
      { account.extra with
        access_token := access_token
        refresh_token := orElse
            (strip (orElse refresh_token (strip account.extra.refresh_token)))
            account.extra.refresh_token } }

variable (env : Env)

def Probe.subscriptionPlan (probe : Probe) : String := orElse (env.lower
      (strip (orElse probe.plan (orElse probe.capabilities_plan "unknown"))))
    "unknown"

/- The second half of `_preflight_access_token`: the probe with the token to be sent. -/
def checkToken (now cooldown : Nat) (account : Account)
    (access_token token_source : String) (probe : Probe) : Account × Preflight :=
  let account :=
    { account with
      token := access_token,
      extra := { account.extra with access_token := access_token } }
  let auth_state := strip probe.auth_state
  let plan := probe.subscriptionPlan env
  if auth_state ∉ validAuthStates then
    let status :=
      if mentionsInvalid auth_state ∨ auth_state = "unauthorized" then ClaimStatus.invalidToken
      else .precheckFailed
    let reason := orElse probe.auth_message
        ("access_token live 校验未通过: " ++ orElse auth_state "unknown")
    let account := setPrecheckResult status reason now cooldown account
    (if status = .invalidToken then
        { account with status := probe.account_status }
      else account,
      .rejected status reason auth_state plan)
  else if probe.has_paid_subscription ∨ plan ≠ "free" then
    let status :=
      if probe.has_paid_subscription then ClaimStatus.subscribed
      else .precheckFailed
    let reason :=
      if probe.has_paid_subscription then "live 探测显示账号已订阅: " ++ plan
      else "live 探测未能确认账号为 free: " ++ plan
    let account := setPrecheckResult status reason now cooldown account
    (if status = .subscribed then
        { account with status := probe.account_status }
      else account,
      .rejected status reason auth_state plan)
  else
    (setPrecheckResult .claimed "access_token live 校验有效且账号为 free" now cooldown account,
      .ready access_token token_source (fingerprintToken env access_token) auth_state plan)

/- The account after a failed refresh or without a token. -/
def rejectToken (status : ClaimStatus) (reason : String) (now cooldown : Nat) (account : Account) :
    Account × Preflight :=
  (setPrecheckResult status reason now cooldown account, .rejected status reason "" "")

/- The probe of a token, unless there is none. -/
def probeToken (now cooldown : Nat) (account : Account) (access_token token_source : String)
    (probe : Option Probe) : Option (Account × Preflight) :=
  if access_token = "" then
    some (rejectToken .missingToken "账号缺少 access_token" now cooldown account)
  else probe.map fun probe => checkToken env now cooldown account access_token token_source probe

/- `_preflight_access_token`: the account that it stores and what it returns. An exception of the
   refresh or of the probe ends it without a write. -/
def preflightAccessToken (allow_refresh : Bool) (now cooldown : Nat)
    (outside : Outside) (account : Account) : Option (Account × Preflight) :=
  let access_token := account.accessToken
  if allow_refresh ∧ strip account.extra.refresh_token ≠ "" then
    match outside.refresh with
    | .raised => none
    | answer =>
      match refreshedToken answer with
      | some (access_token, refresh_token) => probeToken env now cooldown
            (withTokens access_token refresh_token account)
            access_token "refresh_token" outside.probe
      | none =>
        if access_token = "" then some (rejectToken .invalidToken (orElse (refreshMessage answer)
                ("refresh_token 刷新失败且缺少可回退 " ++ "access_token")) now cooldown account)
        else probeToken env now cooldown account access_token "access_token" outside.probe
  else probeToken env now cooldown account access_token "access_token" outside.probe

end AccessTokens
