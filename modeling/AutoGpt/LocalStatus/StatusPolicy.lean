import AutoGpt.LocalStatus.ProbeRun

/-
  The status policy (`services/chatgpt_account_state.py`): the
  account status that the stored probe, the remote sync, the
  tokens and the payment markers of an account lead to, and
  when a second application changes the status once more.

  Main theorems: `StatusPolicy.policy_twice_iff`
-/

open PyText (orElse strip)
open Option

----
-- Evidence
----

namespace StatusPolicy

open LocalStatus (ProbeEnv within)

/- A checked section of a probe. A text is `str(value or "")`
   of its field; a status is `none` where `int()` refuses it. -/
structure Check where
  state : String := ""
  http_status : Option Int := some 0
  error_code : String := ""
  message : String := ""
deriving DecidableEq

structure Subscription where
  plan : String := ""
  chatgpt_account_id : String := ""
deriving DecidableEq

/- A probe with the sections that are objects; a subscription is `none` where it is empty. -/
structure Probe where
  auth : Check := {}
  subscription : Option Subscription := none
  codex : Check := {}
  codex_account_id : String := ""
deriving DecidableEq

structure RemoteSync where
  remote_state : String := ""
  last_probe_status_code : Option Int := some 0
  last_probe_error_code : String := ""
  last_probe_message : String := ""
  status_message : String := ""
  message : String := ""

variable (env : ProbeEnv)

/- `_lower_text(value)`. -/
def lower_text (value : String) : String := env.lower (strip value)

/- `_first_text(*values)`. -/
def first_text (values : List String) : String :=
  ((values.map strip).find? (fun text => text ≠ "")).getD ""

/- `is_account_deactivated_message(error_code, message)`. -/
def is_account_deactivated_message (error_code message : String) : Bool :=
  decide (lower_text env error_code ∈
    ["account_deactivated", "account_deleted", "account_delete", "deactivated_workspace"]) ||
  ["account_delete", "account_deleted", "account_deactivated", "deleted or deactivated",
    "account has been deleted or deactivated",
    "you do not have an account because it has been deleted or deactivated",
    "deactivated_workspace"].any (fun marker => within marker (lower_text env message))

/- The order of the tests of a section: a refused token, then
   the messages, then a forbidden account. -/
def checkReason (check : Check) (banned : List String) (refused deactivated forbidden : String) :
    Option String := do
  let status ← check.http_status
  let state := lower_text env check.state
  if status = 401 ∨
      state ∈ ["refresh_token_invalidated", "access_token_invalidated", "unauthorized"] then
    return refused
  if is_account_deactivated_message env check.error_code check.message then return deactivated
  if status = 403 ∧ state ∈ banned then return forbidden
  return ""

/- `classify_auth_probe_state(probe)`. -/
def classify_auth_probe_state (probe : Probe) : Option String :=
  checkReason env probe.auth ["account_deactivated", "banned_like"]
    "auth_401" "auth_deactivated" "auth_403"

/- `classify_local_probe_state(probe)`. -/
def classify_local_probe_state : Option Probe → Option String
| none => some ""
| some probe => do
    let auth_reason ← classify_auth_probe_state env probe
    if auth_reason ≠ "" then return auth_reason
    checkReason env probe.codex ["account_deactivated"] "codex_401" "codex_deactivated" "codex_403"

/- `classify_remote_sync_state(sync)`. -/
def classify_remote_sync_state : Option RemoteSync → Option String
| none => some ""
| some sync => do
    let remote_state := lower_text env sync.remote_state
    let status_code ← sync.last_probe_status_code
    let message := orElse sync.last_probe_message (orElse sync.status_message sync.message)
    if status_code = 401 ∨ remote_state ∈ ["access_token_invalidated", "unauthorized"] then
      return "remote_401"
    if is_account_deactivated_message env sync.last_probe_error_code message then
      return "remote_deactivated"
    if status_code = 403 ∧ remote_state ∈ ["account_deactivated", "banned_like"] then
      return "remote_403"
    return ""

----
-- Capabilities
----

open LocalStatus (ProbeEnv normalizeSubscriptionPlan isPaidSubscriptionPlan)

/- The payment snapshot `chatgpt_gopay`. -/
structure Snapshot where
  phase : String := ""
  status : String := ""
  result_state : String := ""
deriving DecidableEq

/- What the policy reads of `extra`. -/
structure Extra where
  access_token : String := ""
  refresh_token : String := ""
  account_id : String := ""
  workspace_id : String := ""
  organization_id : String := ""
  registered_auth_pending : Bool := false
  chatgpt_local : Option Probe := none
  chatgpt_gopay : Snapshot := {}
  last_payment_url : String := ""
  cashier_url : String := ""
deriving DecidableEq

structure Account where
  status : String
  token : String := ""
  access_token : String := ""
  refresh_token : String := ""
  user_id : String := ""
  workspace_id : String := ""
  cashier_url : String := ""
  extra : Extra := {}
deriving DecidableEq

variable (env : ProbeEnv)

/- `has_payment_success_marker(account)`. -/
def has_payment_success_marker (account : Account) : Bool :=
  let snapshot := account.extra.chatgpt_gopay
  let succeeded := ["done", "succeeded", "success"]
  decide (lower_text env snapshot.phase = "succeeded" ∨
    lower_text env snapshot.status ∈ succeeded ∨ lower_text env snapshot.result_state ∈ succeeded)

/- `has_payment_pending_marker(account)`. -/
def has_payment_pending_marker (account : Account) : Bool :=
  let snapshot := account.extra.chatgpt_gopay
  decide (lower_text env snapshot.phase ∈ ["created", "starting", "waiting_otp",
      "waiting_link_pin", "waiting_payment_pin", "verifying"] ∨
    lower_text env snapshot.status ∈ ["active", "started", "running"] ∨
    strip account.extra.last_payment_url ≠ "" ∨
    strip account.cashier_url ≠ "" ∨ strip account.extra.cashier_url ≠ "")

inductive AuthLevel where
| invalid
| refresh_token
| access_token_only
| registered_auth_pending
| unknown
deriving DecidableEq

inductive UploadGate where
| blocked_auth_invalid
| blocked_missing_at
| blocked_missing_rt
| blocked_missing_workspace
| ready
deriving DecidableEq

structure Capabilities where
  auth_level : AuthLevel
  upload_gate : UploadGate
  subscription_plan : String
  has_paid_subscription : Bool
  subscription_checked : Bool
  has_payment_success_marker : Bool
  has_payment_pending_marker : Bool

/- The probe that is classified: the given one, the stored one, or none. -/
def usedProbe (account : Account) (local_probe : Option Probe) : Probe :=
  (local_probe.or account.extra.chatgpt_local).getD {}

def Account.accessToken (account : Account) : String :=
  first_text [account.extra.access_token, account.access_token, account.token]

def Account.refreshToken (account : Account) : String :=
  first_text [account.extra.refresh_token, account.refresh_token]

def Probe.plan (probe : Probe) : String :=
  normalizeSubscriptionPlan env ((probe.subscription.map (·.plan)).getD "")

/- `auth_level`; a refusal is a reason or an invalid state. -/
def auth_level (account : Account) (auth_state : String) (refused : Bool) : AuthLevel :=
  if refused then .invalid
  else if auth_state = "refresh_token_valid" ∨ account.refreshToken ≠ "" then .refresh_token
  else if auth_state = "access_token_valid" ∨ account.accessToken ≠ "" then .access_token_only
  else if account.extra.registered_auth_pending ∧ account.accessToken = "" then
    .registered_auth_pending
  else .unknown

/- `upload_gate`. -/
def upload_gate (account : Account) (probe : Probe) (level : AuthLevel) : UploadGate :=
  let account_id := first_text [account.user_id, account.extra.account_id,
    (probe.subscription.getD {}).chatgpt_account_id, probe.codex_account_id]
  let workspace_id := first_text
    [account.extra.workspace_id, account.extra.organization_id, account.workspace_id]
  if level = .invalid then .blocked_auth_invalid
  else if account.accessToken = "" then .blocked_missing_at
  else if account.refreshToken = "" then .blocked_missing_rt
  else if account_id = "" ∨ workspace_id = "" then .blocked_missing_workspace
  else .ready

/- A reason or the state of the probe makes the level invalid. -/
def refused (auth_state auth_reason remote_reason : String) : Bool :=
  auth_reason ≠ "" || remote_reason ≠ "" || auth_state ∈ ["refresh_token_invalidated",
    "access_token_invalidated", "unauthorized", "account_deactivated", "banned_like"]

/- The capabilities for the reasons of the probe and the sync. -/
def capabilitiesOf (account : Account) (probe : Probe) (auth_reason remote_reason : String) :
    Capabilities :=
  let auth_state := lower_text env probe.auth.state
  let level := auth_level account auth_state (refused auth_state auth_reason remote_reason)
  { auth_level := level
    upload_gate := upload_gate account probe level
    subscription_plan := probe.plan env
    has_paid_subscription := isPaidSubscriptionPlan env (probe.plan env)
    subscription_checked := auth_state ∈ ["refresh_token_valid", "access_token_valid"] &&
      probe.subscription.isSome && probe.plan env ≠ "unknown"
    has_payment_success_marker := has_payment_success_marker env account
    has_payment_pending_marker := has_payment_pending_marker env account }

/- `classify_chatgpt_capabilities(account, ...)`; `none` is an error of `int()`. -/
def classify_chatgpt_capabilities (account : Account) (local_probe : Option Probe)
    (remote_sync : Option RemoteSync) : Option Capabilities := do
  let auth_reason ← classify_auth_probe_state env (usedProbe account local_probe)
  let remote_reason ← classify_remote_sync_state env remote_sync
  return capabilitiesOf env account (usedProbe account local_probe) auth_reason remote_reason

----
-- The Policy
----

open LocalStatus (ProbeEnv isPaidSubscriptionPlan)

/- The plan of the capabilities counts as paid. -/
def Capabilities.paid (c : Capabilities) : Bool :=
  c.has_paid_subscription || isPaidSubscriptionPlan env (lower_text env c.subscription_plan)

/- `_status_from_capabilities(account, capabilities)`, for the status of the account. -/
def status_from_capabilities (status : String) (c : Capabilities) : String :=
  let current_status := strip status
  if c.auth_level = .invalid ∨ c.upload_gate = .blocked_auth_invalid then "invalid"
  else if c.paid env ∨ c.has_payment_success_marker then "subscribed"
  else if current_status = "subscribed" then
    if c.subscription_checked then
      if c.has_payment_pending_marker then "pending_payment" else "registered"
    else "subscribed"
  else if current_status = "payment_failed" ∧ c.upload_gate ≠ .ready then "payment_failed"
  else if c.upload_gate = .blocked_missing_at ∧
      (c.auth_level = .registered_auth_pending ∨ c.auth_level = .access_token_only) then
    "pending_payment"
  else if c.upload_gate = .blocked_missing_rt ∧ c.auth_level = .access_token_only then
    "pending_payment"
  else if c.has_payment_pending_marker then "pending_payment"
  else if current_status ∈ ["invalid", "pending_payment", "payment_failed"] ∧
      c.upload_gate = .ready then
    if c.paid env then "subscribed" else "registered"
  else current_status

/- The reason of `apply_chatgpt_status_policy`. -/
def policy_reason (local_probe : Option Probe) (remote_sync : Option RemoteSync) :
    Option String := do
  let reason ← classify_local_probe_state env local_probe
  if reason ≠ "" then return reason
  classify_remote_sync_state env remote_sync

/- `setattr(account, "status", next_status)`, if there is one. -/
def Account.withStatus (account : Account) (next_status : String) : Account :=
  if next_status ≠ "" then { account with status := next_status } else account

/- `apply_chatgpt_status_policy(account, ...)`: its reason, or
   `none` where it raises, and the account that it leaves. -/
def apply_chatgpt_status_policy (account : Account) (local_probe : Option Probe)
    (remote_sync : Option RemoteSync) : Option String × Account :=
  match policy_reason env local_probe remote_sync with
  | none => (none, account)
  | some reason =>
    if reason ≠ "" then (some reason, { account with status := "invalid" })
    else
      match classify_chatgpt_capabilities env account local_probe remote_sync with
      | none => (none, account)
      | some capabilities =>
        (some reason, account.withStatus (status_from_capabilities env account.status capabilities))

----
-- Second Applications
----

/- Tokens are missing for a registered account. -/
def Capabilities.Gated (c : Capabilities) : Prop :=
  (c.upload_gate = .blocked_missing_at ∧
    (c.auth_level = .registered_auth_pending ∨ c.auth_level = .access_token_only)) ∨
  (c.upload_gate = .blocked_missing_rt ∧ c.auth_level = .access_token_only)

instance (c : Capabilities) : Decidable c.Gated := inferInstanceAs (Decidable (_ ∨ _))

/- A subscription that a check has found to be over. -/
def Capabilities.Lapsed (c : Capabilities) (current_status : String) : Prop :=
  current_status = "subscribed" ∧ c.subscription_checked ∧
    c.has_payment_pending_marker = false ∧ c.Gated

/- The status of an account that is neither invalid nor paid. -/
def unpaidStatus (c : Capabilities) (current_status : String) : String :=
  if current_status = "subscribed" then
    if c.subscription_checked then
      if c.has_payment_pending_marker then "pending_payment" else "registered"
    else "subscribed"
  else if current_status = "payment_failed" ∧ c.upload_gate ≠ .ready then "payment_failed"
  else if c.Gated ∨ c.has_payment_pending_marker then "pending_payment"
  else if current_status ∈ ["invalid", "pending_payment", "payment_failed"] ∧
      c.upload_gate = .ready then "registered"
  else current_status

variable {env : ProbeEnv}

theorem status_of_invalid
    (hInvalid : c.auth_level = .invalid ∨ c.upload_gate = .blocked_auth_invalid) :
    status_from_capabilities env status c = "invalid" :=
  if_pos hInvalid

theorem status_of_paid
    (hValid : ¬ (c.auth_level = .invalid ∨ c.upload_gate = .blocked_auth_invalid))
    (hPaid : c.paid env ∨ c.has_payment_success_marker) :
    status_from_capabilities env status c = "subscribed" := by
  unfold status_from_capabilities
  rw [if_neg hValid, if_pos hPaid]

theorem status_of_unpaid
    (hValid : ¬ (c.auth_level = .invalid ∨ c.upload_gate = .blocked_auth_invalid))
    (hUnpaid : ¬ (c.paid env ∨ c.has_payment_success_marker)) :
    status_from_capabilities env status c = unpaidStatus c (strip status) := by
  have hPaid : c.paid env = false := Bool.eq_false_iff.mpr (fun h => hUnpaid (.inl h))
  unfold status_from_capabilities unpaidStatus Capabilities.Gated
  rw [if_neg hValid, if_neg hUnpaid, hPaid]
  grind

/- A checked subscription becomes registered, and a registered
   account without its tokens is sent on. -/
theorem unpaidStatus_lapsed (hLapsed : c.Lapsed current_status) :
    unpaidStatus c current_status = "registered" ∧
      unpaidStatus c "registered" = "pending_payment" := by
  rcases hLapsed with ⟨hStatus, hChecked, hPending, hGated⟩
  unfold unpaidStatus
  constructor
  · rw [if_pos hStatus, if_pos hChecked, hPending]
    rfl
  · rw [if_neg (by decide), if_neg (by simp), if_pos (.inl hGated)]

/- Otherwise a second pass changes nothing. -/
theorem unpaidStatus_settled (hNot : ¬ c.Lapsed current_status) :
    unpaidStatus c (unpaidStatus c current_status) = unpaidStatus c current_status := by
  by_cases hSubscribed : current_status = "subscribed"
  · by_cases hChecked : c.subscription_checked
    · cases hPending : c.has_payment_pending_marker with
      | true => simp [unpaidStatus, hSubscribed, hChecked, hPending]
      | false =>
        have hGated : ¬ c.Gated := fun h => hNot ⟨hSubscribed, hChecked, hPending, h⟩
        simp [unpaidStatus, hSubscribed, hChecked, hPending, hGated]
    · simp [unpaidStatus, hSubscribed, hChecked]
  · by_cases hFailed : current_status = "payment_failed" ∧ c.upload_gate ≠ .ready
    · simp [unpaidStatus, hFailed]
    · by_cases hPending : c.Gated ∨ c.has_payment_pending_marker
      · have hNext : unpaidStatus c current_status = "pending_payment" := by
          unfold unpaidStatus
          rw [if_neg hSubscribed, if_neg hFailed, if_pos hPending]
        rw [hNext]
        simp [unpaidStatus, hPending]
      · by_cases hReady : current_status ∈ ["invalid", "pending_payment", "payment_failed"] ∧
            c.upload_gate = .ready
        · have hNext : unpaidStatus c current_status = "registered" := by
            unfold unpaidStatus
            rw [if_neg hSubscribed, if_neg hFailed, if_neg hPending, if_pos hReady]
          rw [hNext]
          simp [unpaidStatus, hPending]
        · have hNext : unpaidStatus c current_status = current_status := by
            unfold unpaidStatus
            rw [if_neg hSubscribed, if_neg hFailed, if_neg hPending, if_neg hReady]
          rw [hNext, hNext]

theorem strip_written
    (hWritten : written ∈ ["subscribed", "registered", "pending_payment", "payment_failed"]) :
    strip written = written := by
  have hAll : ∀ text ∈ ["subscribed", "registered", "pending_payment", "payment_failed"],
      strip text = text := by
    decide +kernel
  exact hAll written hWritten

theorem strip_unpaidStatus :
    strip (unpaidStatus c (strip status)) = unpaidStatus c (strip status) := by
  unfold unpaidStatus
  split_ifs
  iterate 6 exact strip_written (by simp)
  exact PyText.strip_strip status

/- The two applications after which an account is pending. -/
structure Capabilities.Relapsing (env : ProbeEnv) (c : Capabilities) (status : String) :
    Prop where
  valid : c.auth_level ≠ .invalid ∧ c.upload_gate ≠ .blocked_auth_invalid
  unpaid : c.paid env = false ∧ c.has_payment_success_marker = false
  lapsed : c.Lapsed (strip status)

theorem status_relapsing (hRelapsing : c.Relapsing env status) :
    status_from_capabilities env status c = "registered" ∧
      status_from_capabilities env "registered" c = "pending_payment" := by
  have hValid := not_or.mpr hRelapsing.valid
  have hUnpaid : ¬ (c.paid env ∨ c.has_payment_success_marker) := by
    rw [hRelapsing.unpaid.1, hRelapsing.unpaid.2]
    decide
  have hNext := unpaidStatus_lapsed hRelapsing.lapsed
  have hStrip : strip "registered" = "registered" := strip_written (by simp)
  rw [status_of_unpaid hValid hUnpaid, status_of_unpaid hValid hUnpaid, hStrip]
  exact hNext

theorem status_settled (hNot : ¬ c.Relapsing env status) :
    status_from_capabilities env (status_from_capabilities env status c) c =
      status_from_capabilities env status c := by
  by_cases hInvalid : c.auth_level = .invalid ∨ c.upload_gate = .blocked_auth_invalid
  · rw [status_of_invalid hInvalid, status_of_invalid hInvalid]
  · by_cases hPaid : c.paid env ∨ c.has_payment_success_marker
    · rw [status_of_paid hInvalid hPaid, status_of_paid hInvalid hPaid]
    · have hUnpaid := not_or.mp hPaid
      rw [Bool.not_eq_true, Bool.not_eq_true] at hUnpaid
      rw [status_of_unpaid hInvalid hPaid, status_of_unpaid hInvalid hPaid, strip_unpaidStatus]
      exact unpaidStatus_settled (fun h => hNot ⟨not_or.mp hInvalid, hUnpaid, h⟩)

----
-- The Exact Condition
----

/- The account is stored as subscribed, its checked plan is no longer paid and nothing points to a
   payment: it becomes registered. But no refresh token stands beside the access token that the
   probe has accepted, so that a registered account counts as pending payment. -/
structure Relapses (env : ProbeEnv) (account : Account) (probe : Probe) : Prop where
  subscribed : strip account.status = "subscribed"
  accepted : lower_text env probe.auth.state = "access_token_valid"
  no_refresh_token : account.refreshToken = ""
  checked : probe.subscription.isSome
  known : probe.plan env ≠ "unknown"
  unpaid : isPaidSubscriptionPlan env (probe.plan env) = false ∧
    isPaidSubscriptionPlan env (lower_text env (probe.plan env)) = false
  no_success : has_payment_success_marker env account = false
  no_pending : has_payment_pending_marker env account = false

variable {c : Capabilities}
/- A level without a refresh token, when the probe has accepted a token. -/
theorem gated_iff (hAccepted : auth_state ∈ ["refresh_token_valid", "access_token_valid"])
    (hLevel : c.auth_level = auth_level account auth_state false)
    (hGate : c.upload_gate = upload_gate account probe c.auth_level) :
    c.Gated ↔ auth_state = "access_token_valid" ∧ account.refreshToken = "" := by
  unfold Capabilities.Gated
  rw [hGate, hLevel]
  unfold upload_gate auth_level
  rcases List.mem_pair.mp hAccepted with hState | hState
  · simp [hState]
  · by_cases hRefresh : account.refreshToken = ""
    · by_cases hAccess : account.accessToken = ""
      · simp [hState, hRefresh, hAccess]
      · simp [hState, hRefresh, hAccess]
    · simp [hState, hRefresh]

theorem refused_iff (hAccepted : auth_state ∈ ["refresh_token_valid", "access_token_valid"]) :
    refused auth_state auth_reason remote_reason = false ↔
      auth_reason = "" ∧ remote_reason = "" := by
  unfold refused
  rcases List.mem_pair.mp hAccepted with hState | hState
  · simp [hState]
  · simp [hState]

theorem level_ne_invalid_iff (account : Account) (probe : Probe) (auth_state : String)
    (stop : Bool) :
    (auth_level account auth_state stop ≠ .invalid ∧
        upload_gate account probe (auth_level account auth_state stop) ≠ .blocked_auth_invalid) ↔
      stop = false := by
  cases stop with
  | true => exact iff_of_false (fun h => h.1 rfl) (by decide)
  | false =>
    have hLevel : auth_level account auth_state false ≠ .invalid := by
      unfold auth_level
      split_ifs <;> simp_all
    refine iff_of_true ⟨hLevel, ?_⟩ rfl
    unfold upload_gate
    rw [if_neg hLevel]
    split_ifs <;> simp

/- What the capabilities say of a lapsed subscription. -/
theorem relapses_iff (hIs : c = capabilitiesOf env account probe auth_reason remote_reason) :
    c.Relapsing env account.status ↔
      (auth_reason = "" ∧ remote_reason = "") ∧ Relapses env account probe := by
  have hLevel : c.auth_level = auth_level account (lower_text env probe.auth.state)
      (refused (lower_text env probe.auth.state) auth_reason remote_reason) := by
    rw [hIs]
    rfl
  have hGate : c.upload_gate = upload_gate account probe c.auth_level := by
    rw [hIs]
    rfl
  have hPaid : c.paid env = false ↔ isPaidSubscriptionPlan env (probe.plan env) = false ∧
      isPaidSubscriptionPlan env (lower_text env (probe.plan env)) = false := by
    rw [hIs]
    simp only [Capabilities.paid, capabilitiesOf, Bool.or_eq_false_iff]
  have hSuccess : c.has_payment_success_marker = has_payment_success_marker env account := by
    rw [hIs]
    rfl
  have hPending : c.has_payment_pending_marker = has_payment_pending_marker env account := by
    rw [hIs]
    rfl
  have hChecked : c.subscription_checked ↔
      (lower_text env probe.auth.state ∈ ["refresh_token_valid", "access_token_valid"] ∧
        probe.subscription.isSome) ∧ probe.plan env ≠ "unknown" := by
    rw [hIs]
    simp [capabilitiesOf]
  have hValid := level_ne_invalid_iff account probe (lower_text env probe.auth.state)
    (refused (lower_text env probe.auth.state) auth_reason remote_reason)
  rw [← hLevel, ← hGate] at hValid
  constructor
  · rintro ⟨hLevels, ⟨hUnpaid, hNone⟩, hStatus, hCheck, hWaiting, hGated⟩
    have hRefused := hValid.mp hLevels
    rcases hChecked.mp hCheck with ⟨⟨hAccepted, hSome⟩, hKnown⟩
    rw [hPaid] at hUnpaid
    rw [hSuccess] at hNone
    rw [hPending] at hWaiting
    rw [hRefused] at hLevel
    have hToken := (gated_iff hAccepted hLevel hGate).mp hGated
    exact ⟨(refused_iff hAccepted).mp hRefused,
      ⟨hStatus, hToken.1, hToken.2, hSome, hKnown, hUnpaid, hNone, hWaiting⟩⟩
  · rintro ⟨hReasons, h⟩
    have hAccepted : lower_text env probe.auth.state ∈
        ["refresh_token_valid", "access_token_valid"] := by
      rw [h.accepted]
      decide
    have hRefused := (refused_iff hAccepted).mpr hReasons
    rw [hRefused] at hLevel
    exact ⟨hValid.mpr hRefused, ⟨hPaid.mpr h.unpaid, hSuccess.trans h.no_success⟩, h.subscribed,
      hChecked.mpr ⟨⟨hAccepted, h.checked⟩, h.known⟩, hPending.trans h.no_pending,
      (gated_iff hAccepted hLevel hGate).mpr ⟨h.accepted, h.no_refresh_token⟩⟩

theorem policy_again (next_status : String) :
    classify_chatgpt_capabilities env (account.withStatus next_status) local_probe remote_sync =
      classify_chatgpt_capabilities env account local_probe remote_sync := by
  unfold Account.withStatus
  split
  · rfl
  · rfl

/- Neither the probes nor the sync raise or give a reason. -/
structure Clear (env : ProbeEnv) (account : Account) (local_probe : Option Probe)
    (remote_sync : Option RemoteSync) : Prop where
  reason : policy_reason env local_probe remote_sync = some ""
  auth : classify_auth_probe_state env (usedProbe account local_probe) = some ""
  remote : classify_remote_sync_state env remote_sync = some ""

section

variable (hReason : policy_reason env local_probe remote_sync = some "")
  (hCapabilities : classify_chatgpt_capabilities env account local_probe remote_sync = some c)
include hReason hCapabilities

theorem policy_of_clear :
    apply_chatgpt_status_policy env account local_probe remote_sync =
      (some "", account.withStatus (status_from_capabilities env account.status c)) := by
  unfold apply_chatgpt_status_policy
  rw [hReason, hCapabilities]
  rfl

theorem relapsing_iff :
    c.Relapsing env account.status ↔ Clear env account local_probe remote_sync ∧
        Relapses env account (usedProbe account local_probe) := by
  rcases bind_eq_some_iff.mp hCapabilities with ⟨auth_reason, hAuth, hRest⟩
  rcases bind_eq_some_iff.mp hRest with ⟨remote_reason, hRemote, hIs⟩
  rw [relapses_iff (some.inj hIs).symm]
  constructor
  · rintro ⟨⟨rfl, rfl⟩, hRelapses⟩
    exact ⟨⟨hReason, hAuth, hRemote⟩, hRelapses⟩
  · rintro ⟨hClear, hRelapses⟩
    exact ⟨⟨some.inj (hAuth.symm.trans hClear.auth),
      some.inj (hRemote.symm.trans hClear.remote)⟩, hRelapses⟩

end

/- A second application of the policy changes nothing just when the evidence raises or refuses the
   account, or the account is no lapsed subscription without a refresh token. -/
theorem policy_twice_iff (env : ProbeEnv) (account : Account) (local_probe : Option Probe)
    (remote_sync : Option RemoteSync) :
    (apply_chatgpt_status_policy env
        (apply_chatgpt_status_policy env account local_probe remote_sync).2
        local_probe remote_sync).2 =
        (apply_chatgpt_status_policy env account local_probe remote_sync).2 ↔
      ¬ (Clear env account local_probe remote_sync ∧
        Relapses env account (usedProbe account local_probe)) := by
  by_cases hReason : policy_reason env local_probe remote_sync = some ""
  · cases hCapabilities : classify_chatgpt_capabilities env account local_probe remote_sync with
    | none =>
      have hStay : apply_chatgpt_status_policy env account local_probe remote_sync =
          (none, account) := by
        unfold apply_chatgpt_status_policy
        rw [hReason, hCapabilities]
        rfl
      rw [hStay, hStay]
      refine iff_of_true rfl (fun h => ?_)
      unfold classify_chatgpt_capabilities at hCapabilities
      rw [h.1.auth, h.1.remote] at hCapabilities
      cases hCapabilities
    | some c =>
      rw [policy_of_clear hReason hCapabilities,
        policy_of_clear hReason ((policy_again _).trans hCapabilities),
        ← relapsing_iff hReason hCapabilities]
      by_cases hRelapsing : c.Relapsing env account.status
      · have hNext := status_relapsing hRelapsing
        refine iff_of_false (fun hSame => ?_) (not_not.mpr hRelapsing)
        rw [hNext.1] at hSame
        have hStatus := congrArg Account.status hSame
        change (Account.withStatus _ (status_from_capabilities env "registered" c)).status =
          "registered" at hStatus
        rw [hNext.2, Account.withStatus, if_pos (by decide)] at hStatus
        have hDiffers : "pending_payment" ≠ "registered" := by decide
        exact hDiffers hStatus
      · refine iff_of_true ?_ hRelapsing
        by_cases hNone : status_from_capabilities env account.status c = ""
        · have hStay : account.withStatus "" = account := rfl
          rw [hNone, hStay, hNone, hStay]
        · have hWrites (a : Account) : a.withStatus
              (status_from_capabilities env account.status c) =
              { a with status := status_from_capabilities env account.status c } :=
            if_pos hNone
          rw [hWrites account]
          change Account.withStatus _ (status_from_capabilities env
            (status_from_capabilities env account.status c) c) = _
          rw [status_settled hRelapsing, hWrites]
  · refine iff_of_true ?_ (fun h => hReason h.1.reason)
    cases hGiven : policy_reason env local_probe remote_sync with
    | none =>
      have hStay (a : Account) :
          apply_chatgpt_status_policy env a local_probe remote_sync = (none, a) := by
        unfold apply_chatgpt_status_policy
        rw [hGiven]
      rw [hStay, hStay]
    | some reason =>
      have hGives : reason ≠ "" := fun h => hReason (hGiven.trans (congrArg some h))
      have hInvalid (a : Account) : apply_chatgpt_status_policy env a local_probe remote_sync =
            (some reason, { a with status := "invalid" }) := by
        unfold apply_chatgpt_status_policy
        rw [hGiven]
        exact if_pos hGives
      rw [hInvalid, hInvalid]

/- `str.lower()` on ASCII texts. -/
def asciiEnv : ProbeEnv where
  transportError := fun _ _ => false
  lower := fun s => String.ofList (s.toList.map Char.toLower)

/- A probe that finds a free plan and a working token. -/
def freeProbe : Probe where
  auth := { state := "access_token_valid", http_status := some 200 }
  subscription := some { plan := "free" }

/- A subscribed account with it, without a refresh token. -/
def lapsedAccount : Account where
  status := "subscribed"
  access_token := "at"
  extra := { chatgpt_local := some freeProbe }

/- It is registered after one application, pending after two. -/
theorem lapsed_account_changes_twice :
    ¬ ∀ account local_probe remote_sync, (apply_chatgpt_status_policy asciiEnv
        (apply_chatgpt_status_policy asciiEnv account local_probe remote_sync).2
        local_probe remote_sync).2 =
      (apply_chatgpt_status_policy asciiEnv account local_probe remote_sync).2 := by
  intro hAll
  exact absurd (hAll lapsedAccount none none) (by decide +kernel)

end StatusPolicy
