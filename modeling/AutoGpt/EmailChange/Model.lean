import AutoGpt.Library.KeyedTable
import AutoGpt.Library.PyText
import Mathlib

/-
  The data of `email_change.py`: the durable row of one change
  of a ChatGPT account's e-mail, the account, identities and
  their checks, and the errors with their classification.
-/

open PyText (orElse strip)

----
-- Texts And Identities
----

namespace EmailChange

/- The `PHASE_*` constants, and the phase that is given to `_wait_for_otp`. -/
inductive Phase where
| created
| sourceReauthRequired
| eligibilityChecked
| beginSent
| waitingChangeOtp
| remoteEmailChanged
| waitingTargetLoginOtp
| sessionCaptured
| identityVerified
| committed
| recoveryRequired
| rateLimited
| released
| verifyOtp
deriving DecidableEq

/- The `STATUS_*` constants; `halfDone` is `"partial"`. -/
inductive RowStatus where
| created
| running
| done
| failed
| halfDone
| releasing
| released
deriving DecidableEq

/- A mailbox state: its address, and all else in it. -/
structure Mailbox where
  email : String
  content : String := ""
deriving DecidableEq

/- What `decode_jwt_payload` finds in a token. -/
structure Claims where
  sub : String := ""
  chatgpt_account_id : String := ""

structure Identity where
  email : String := ""
  user_id : String := ""
  account_id : String := ""
  organization_id : String := ""
deriving DecidableEq

/- `chatgpt_email_change` in `extra_json`. -/
structure Marker where
  task_id : String
  source_email : String := ""
  target_email : String := ""
  mailbox_finalized : Bool := false
deriving DecidableEq

/- `chatgpt_email_change_recovery` in `extra_json`. -/
structure Recovery where
  task_id : String
  source_email : String
  target_email : String
  error_code : String
deriving DecidableEq

/- `extra_json`; `rest` is what no step here reads. -/
structure Extra where
  access_token : String := ""
  accessToken : String := ""
  session_token : String := ""
  sessionToken : String := ""
  cookies : String := ""
  cookie_header : String := ""
  account_id : String := ""
  organization_id : String := ""
  default_organization_id : String := ""
  mailbox_state : Option Mailbox := none
  marker : Option Marker := none
  recovery : Option Recovery := none
  rest : String := ""
deriving DecidableEq

/- `AccountModel`. -/
structure Account where
  id : Nat
  platform : String := "chatgpt"
  email : String
  password : String := ""
  user_id : String := ""
  token : String := ""
  extra : Extra := {}
deriving DecidableEq

abbrev Accounts := KeyedTable Account Nat Account.id

/- Functions of other modules. Lowering a stripped text that
   was lowered and stripped before changes nothing. -/
structure Env where
  lower : String → String
  lower_strip : ∀ text, lower (strip (lower (strip text))) = lower (strip text)
  sanitize_error_message : String → String
  valid_email : String → Bool
  decode_jwt_payload : String → Claims
  safe_mailbox_state : Option Mailbox → String → Option Mailbox
  mailbox_state_from_account : Account → Option Mailbox

/- `normalize_email`. -/
def normalizeEmail (env : Env) (value : String) : String := env.lower (strip value)

@[simp] theorem normalizeEmail_twice (env : Env) (value : String) :
    normalizeEmail env (normalizeEmail env value) = normalizeEmail env value :=
  env.lower_strip value

def occursIn (needle text : String) : Bool := decide (needle.toList <:+: text.toList)

/- `text[:n]`. -/
def limited (n : Nat) (text : String) : String := String.ofList (text.toList.take n)

/- A commit of a session on an account: it writes the columns
   that differ from what it has loaded. -/
def Account.committed (new loaded current : Account) :
    Account where
  id := current.id
  platform := current.platform
  email := Column.written new.email loaded.email current.email
  password := current.password
  user_id := Column.written new.user_id loaded.user_id current.user_id
  token := Column.written new.token loaded.token current.token
  extra := Column.written new.extra loaded.extra current.extra

theorem Account.committed_id (new loaded current : Account) :
    (new.committed loaded current).id = current.id := rfl

/- `COLLATE NOCASE`. -/
def sameNocase (left right : String) : Bool := decide
    (left.toList.map Char.toLower = right.toList.map Char.toLower)

/- `_cookie_header_from_extra`. -/
def cookieHeaderFromExtra (extra : Extra) : String :=
  let header := strip (orElse extra.cookies extra.cookie_header)
  let token := strip (orElse extra.session_token extra.sessionToken)
  if header ≠ "" then header
  else if token = "" then ""
  else "__Secure-next-auth.session-token=" ++ token ++ "; __Secure-authjs.session-token=" ++ token

/- `_detached_account`. -/
def detachedAccount (env : Env) (account : Account) : Account :=
  { account with
    email := normalizeEmail env account.email,
    token := orElse account.token account.extra.access_token }

----
-- Errors
----

/- `EmailChangeError`; `phase` may be empty. -/
structure ChangeError where
  code : String
  message : String
  phase : Option Phase := none
  retryable : Bool := false
  remote_changed : Bool := false
deriving DecidableEq

/- `EmailChangeIdentityMismatch`. -/
def identityMismatch (message : String) (phase : Phase) (remote_changed : Bool) :
    ChangeError where
  code := "identity_mismatch"
  message := message
  phase := some phase
  remote_changed := remote_changed

/- What a browser request answers: the fields of `data` that are read, and the identity that
   `extract_identity` finds in it. -/
structure HttpAnswer where
  ok : Bool := true
  status : Nat := 200
  code : String := ""
  text : String := ""
  is_json : Bool := true
  identity : Identity := {}
  eligible : Bool := false
  success : Bool := false

/- `_classify_http_error`. -/
def classifyHttpError (env : Env) (response : HttpAnswer) (phase : Phase) :
    ChangeError :=
  let code := (normalizeEmail env response.code).map fun c => if c = '-' then '_' else c
  let lowered := env.lower (code ++ " " ++ limited 500 response.text)
  let status := response.status
  if occursIn "reauth_required" lowered ∨ occursIn "reauth" lowered then
    { code := "reauth_required", message := "OpenAI 要求源账号重新认证",
      phase := some .sourceReauthRequired }
  else if occursIn "email_change_rate_limited" lowered ∨ status = 429 then
    { code := "email_change_rate_limited", message := "邮箱换绑请求被限流，请稍后重试", phase := some .rateLimited,
      retryable := true }
  else if occursIn "email_change_limit_reached" lowered then
    { code := "email_change_limit_reached", message := "该账号已达到邮箱换绑次数上限", phase := some phase }
  else if status ∈ [401, 403] then
    { code := "source_session_unauthorized", message := "源账号网页会话已失效或无权执行邮箱换绑", phase := some phase }
  else if status = 422 then
    { code := "invalid_request", message := "OpenAI 拒绝了邮箱换绑请求", phase := some phase }
  else
    { code := orElse code "openai_request_failed"
      message :=
        "OpenAI 邮箱换绑请求失败（HTTP " ++ (if status = 0 then "network" else toString status) ++ "）"
      phase := some phase
      retryable := status ∈ [0, 408, 425, 500, 502, 503, 504] }

/- The statuses after which the outcome of a verify request is unknown. -/
def unknownStatuses : List Nat := [0, 408, 409, 425, 500, 502, 503, 504]

/- What the code takes a verify request to have done. -/
inductive VerifyOutcome where
| success
| unknown
| rejected
deriving DecidableEq

def HttpAnswer.outcome (answer : HttpAnswer) : VerifyOutcome :=
  if answer.ok then
    if answer.success then .success else .unknown
  else if answer.status ∈ unknownStatuses then .unknown
  else .rejected

/- `verify_outcome_unknown`. -/
def verifyOutcomeUnknown (message : String) : ChangeError where
  code := "verify_outcome_unknown"
  message := message
  phase := some .recoveryRequired
  retryable := true
  remote_changed := true

/- The codes after which the source logs in again. -/
def reauthCodes : List String := ["reauth_required", "source_session_unauthorized",
    "source_session_missing", "source_account_id_missing",
    "source_user_id_missing"]

/- `requires_reauth`. -/
def ChangeError.requiresReauth (error : ChangeError) : Bool :=
  error.code ∈ reauthCodes || error.phase = some .sourceReauthRequired

----
-- The Durable Row
----

/- `ChatGPTEmailChangeModel`; a time that is not set is `none`. -/
structure ChangeRow where
  account_id : Nat
  source_email : String
  target_email : String
  source_chatgpt_user_id : String := ""
  source_chatgpt_account_id : String := ""
  source_organization_id : String := ""
  mailbox_state : Option Mailbox := none
  remove_social_subs : Bool := false
  phase : Phase := .created
  status : RowStatus := .created
  verify_submitted_at : Option Nat := none
  remote_changed_at : Option Nat := none
  committed_at : Option Nat := none
  mailbox_finalized_at : Option Nat := none
  error_code : String := ""
  sanitized_error : String := ""
  resumable : Bool := false

/- The arguments of an `_update`; those of `none` are not given. -/
structure Patch where
  phase : Option Phase := none
  status : Option RowStatus := none
  error : Option (String × String) := none
  resumable : Option Bool := none
  source : Option (String × String × String) := none
  verify_submitted_at : Option (Option Nat) := none
  remote_changed_at : Option Nat := none
  committed_at : Option Nat := none
  mailbox_finalized_at : Option Nat := none
  mailbox_state : Option (Option Mailbox) := none
deriving DecidableEq

/- `_update`. -/
def ChangeRow.patched (env : Env) (row : ChangeRow) (patch : Patch) : ChangeRow :=
  { row with
    source_chatgpt_user_id := (patch.source.map fun ids => ids.1).getD row.source_chatgpt_user_id
    source_chatgpt_account_id :=
      (patch.source.map fun ids => ids.2.1).getD row.source_chatgpt_account_id
    source_organization_id := (patch.source.map fun ids => ids.2.2).getD row.source_organization_id
    mailbox_state :=
      match patch.mailbox_state with
      | none => row.mailbox_state
      | some state => env.safe_mailbox_state state row.target_email
    phase := patch.phase.getD row.phase
    status := patch.status.getD row.status
    verify_submitted_at := patch.verify_submitted_at.getD row.verify_submitted_at
    remote_changed_at := patch.remote_changed_at.or row.remote_changed_at
    committed_at := patch.committed_at.or row.committed_at
    mailbox_finalized_at := patch.mailbox_finalized_at.or row.mailbox_finalized_at
    error_code := (patch.error.map fun error => error.1).getD row.error_code
    sanitized_error := (patch.error.map fun error => error.2).getD row.sanitized_error
    resumable := patch.resumable.getD row.resumable }

/- The row is past the boundary: `verify` may have been accepted. -/
def ChangeRow.crossed (row : ChangeRow) : Bool :=
  row.remote_changed_at.isSome || row.verify_submitted_at.isSome

----
-- Checks
----

structure Tokens where
  access_token : String := ""
  session_token : String := ""
  cookie_header : String := ""
  cookies : String := ""
  email : String := ""
  account_id : String := ""
  workspace_id : String := ""

def Tokens.cookieHeader (tokens : Tokens) : String :=
  strip (orElse tokens.cookie_header tokens.cookies)

/- `_local_identity`. -/
def localIdentity (env : Env) (account : Account) : Identity :=
  let extra := account.extra
  let claims := env.decode_jwt_payload
      (orElse extra.access_token (orElse extra.accessToken account.token))
  let stored := strip account.user_id
  let lowered := env.lower stored
  { email := normalizeEmail env account.email
    user_id := orElse (strip claims.sub)
        (if lowered.startsWith "user-" ∨ lowered.startsWith "user_" then stored
        else "")
    account_id := strip (orElse claims.chatgpt_account_id extra.account_id)
    organization_id := strip (orElse extra.organization_id extra.default_organization_id) }

/- `_source_identity`. -/
def sourceIdentity (env : Env) (account : Account) (remote : Identity) :
    Identity :=
  let known := localIdentity env account
  { email := normalizeEmail env (orElse remote.email known.email)
    user_id := strip (orElse remote.user_id known.user_id)
    account_id := strip (orElse known.account_id remote.account_id)
    organization_id := strip (orElse remote.organization_id known.organization_id) }

/- `_source_identity_from_row`. -/
def sourceIdentityFromRow (env : Env) (row : ChangeRow) (account : Account) :
    Identity :=
  let known := localIdentity env account
  { email := normalizeEmail env (orElse row.source_email known.email)
    user_id := strip (orElse row.source_chatgpt_user_id known.user_id)
    account_id := strip (orElse row.source_chatgpt_account_id known.account_id)
    organization_id := strip (orElse row.source_organization_id known.organization_id) }

def differs (expected actual : String) : Bool := expected ≠ "" && actual ≠ expected

def knownDiffer (expected actual : String) : Bool :=
  expected ≠ "" && actual ≠ "" && actual ≠ expected

/- `_assert_source_identity`. -/
def assertSourceIdentity (env : Env) (actual expected : Identity)
    (source_email : String) : Option ChangeError :=
  let actual_email := normalizeEmail env actual.email
  let actual_user_id := strip actual.user_id
  let actual_account_id := strip actual.account_id
  if actual_email = "" ∨ actual_email ≠ normalizeEmail env source_email then
    some (identityMismatch "源网页会话邮箱与本地账号不一致" .eligibilityChecked false)
  else if actual_user_id = "" then some
      { code := "source_user_id_missing", message := "源网页会话未返回用户 ID",
        phase := some .sourceReauthRequired, retryable := true }
  else if differs (strip expected.user_id)
      actual_user_id then
    some (identityMismatch "源网页会话用户 ID 与原账号不一致" .eligibilityChecked false)
  else if actual_account_id = "" then some
      { code := "source_account_id_missing", message := "源账号缺少可校验的 ChatGPT 账号 ID，需要重新认证",
        phase := some .sourceReauthRequired, retryable := true }
  else if differs (strip expected.account_id)
      actual_account_id then
    some (identityMismatch "源网页会话 ChatGPT 账号 ID 与原账号不一致" .eligibilityChecked false)
  else if knownDiffer
      (strip expected.organization_id)
      (strip actual.organization_id) then
    some (identityMismatch "源网页会话默认组织与原账号不一致" .eligibilityChecked false)
  else none

/- `_target_identity`. -/
def targetIdentity (env : Env) (tokens : Tokens) (target_email : String) :
    Identity :=
  let claims := env.decode_jwt_payload (strip tokens.access_token)
  { email := normalizeEmail env (orElse tokens.email target_email), user_id := strip claims.sub,
    account_id := strip (orElse claims.chatgpt_account_id tokens.account_id),
    organization_id := strip tokens.workspace_id }

def identityProbeFailed (message : String) (remote_changed retryable : Bool) :
    ChangeError where
  code := "identity_probe_failed"
  message := message
  phase := some .sessionCaptured
  retryable := retryable
  remote_changed := remote_changed

/- The checks of `_verify_remote_identity`. -/
def verifyIdentity (env : Env) (tokens : Tokens) (expected : Identity)
    (label : String) (remote_changed : Bool) (remote : Identity) : Except ChangeError Identity :=
  let token_identity := targetIdentity env tokens expected.email
  let actual_email := normalizeEmail env remote.email
  let actual_user_id := strip remote.user_id
  let actual_account_id := strip token_identity.account_id
  let captured_account_id := strip tokens.account_id
  let actual_organization_id := strip remote.organization_id
  let mismatch := fun message => Except.error
      (identityMismatch (label ++ message)
        (if remote_changed then .identityVerified
          else .sourceReauthRequired)
        remote_changed)
  if actual_email = "" ∨ actual_email ≠ normalizeEmail env expected.email then
    mismatch " /me 邮箱与预期邮箱不一致"
  else if actual_user_id = "" then mismatch " /me 未返回用户 ID"
  else if differs expected.user_id actual_user_id then mismatch " /me 用户 ID 与原账号不一致"
  else if differs (strip token_identity.user_id)
      actual_user_id then
    mismatch " JWT 用户 ID 与 /me 不一致"
  else if actual_account_id = "" then mismatch " JWT 未返回 ChatGPT 账号 ID"
  else if differs expected.account_id actual_account_id then mismatch " JWT ChatGPT 账号 ID 与原账号不一致"
  else if differs captured_account_id actual_account_id then mismatch "捕获账号 ID 与 JWT 不一致"
  else if knownDiffer expected.organization_id
      actual_organization_id then
    mismatch "默认组织与原账号不一致"
  else
    .ok
      { email := actual_email, user_id := actual_user_id, account_id := actual_account_id,
        organization_id := actual_organization_id }

/- `_verify_remote_identity`; a request that raises has no answer. -/
def verifyRemoteIdentity (env : Env) (tokens : Tokens) (expected : Identity)
    (label : String) (remote_changed : Bool) (response : Option HttpAnswer) :
    Except ChangeError Identity :=
  match response with
  | none => .error (identityProbeFailed (label ++ "后的账号身份校验请求失败") remote_changed true)
  | some response =>
    if response.status < 200 ∨ 300 ≤ response.status then .error (identityProbeFailed
          (label ++ "后的账号身份校验未通过") remote_changed
          (response.status ∈ [408, 429, 500, 502, 503, 504]))
    else if response.is_json = false then .error (identityProbeFailed
          (label ++ "账号身份校验返回格式异常") remote_changed false)
    else verifyIdentity env tokens expected label remote_changed response.identity

end EmailChange
