import AutoGpt.Library.Machine
import AutoGpt.Library.PyText

/-
  The auth lifecycle projection of an account
  (`services/chatgpt_core/auth_lifecycle.py`): its timing, the
  evidence of a probe, and the derived state.
-/

open PyText (orElse strip)

----
-- Stored Values
----

namespace AuthLifecycle

inductive AtState where
| unknown
| valid
| expired
| revoked
| unauthorized_unknown
| not_present
deriving DecidableEq

inductive RtState where
| not_attempted
| not_present
| valid
| rejected
| failed_transient
| failed
| unknown
deriving DecidableEq

inductive RefreshResult where
| not_attempted
| not_present
| success
| rejected
| failed_transient
| failed
deriving DecidableEq

inductive EvidenceState where
| unknown
| active_confirmed
| deactivated_confirmed
| banned_suspected
deriving DecidableEq

inductive ProbeState where
| never_checked
| not_checked
| success
| failed_transient
deriving DecidableEq

inductive Confidence where
| exact
| estimated
| unknown
deriving DecidableEq

inductive DerivedState where
| account_deactivated
| account_blocked_suspected
| rt_backed
| refresh_failed_at_valid
| refresh_failed_at_unusable
| refresh_failed_at_unknown
| at_only_valid
| at_only_expired
| at_revoked
| at_expired
| no_auth_material
| not_checked
| unknown
deriving DecidableEq

inductive Availability where
| blocked_account_deactivated
| blocked_account_suspected
| ready
| degraded_at_fallback
| blocked_auth_material
| degraded_at_unprobed
| blocked_missing_rt
| blocked_at_expired
| blocked_at_revoked
| blocked_missing_at
| unknown
deriving DecidableEq

inductive MaterialType where
| refresh_token
| access_token_only
| unknown
deriving DecidableEq

/- `projection["material"]`. -/
structure Material where
  type : MaterialType := .unknown
  has_access_token : Bool := false
  has_refresh_token : Bool := false
  has_session_token : Bool := false
  has_cookies : Bool := false
deriving DecidableEq

/- `projection["access_token"]`. -/
structure AccessToken where
  state : AtState := .unknown
  issued_at : String := ""
  expires_at : String := ""
  expiry_source : String := ""
  expiry_confidence : Confidence := .unknown
  observed_at : String := ""
  last_probe_at : String := ""
  last_http_status : Int := 0
  last_error_code : String := ""

/- `projection["refresh_token"]`. -/
structure RefreshToken where
  state : RtState := .unknown
  last_attempt_at : String := ""
  last_success_at : String := ""
  last_failure_at : String := ""
  last_result : RefreshResult := .not_attempted
  last_http_status : Int := 0
  last_error_code : String := ""
  last_error_message : String := ""

/- `projection["web_session"]`. -/
structure WebSession where
  expires_at : String := ""
  expiry_source : String := ""
  observed_at : String := ""

/- `projection["account_evidence"]`; `time` is its `at`. -/
structure AccountEvidence where
  state : EvidenceState := .unknown
  code : String := ""
  message : String := ""
  time : String := ""
  last_active_at : String := ""

/- `projection["probe"]`. -/
structure ProbeBlock where
  state : ProbeState := .never_checked
  checked_at : String := ""
  transport : String := ""
  error_code : String := ""
  error_message : String := ""

/- `projection["derived"]`. -/
structure Derived where
  state : DerivedState := .unknown
  availability : Availability := .unknown

/- The projection, without its subscription copy. -/
structure Projection where
  material_revision : String := ""
  material : Material := {}
  access_token : AccessToken := {}
  refresh_token : RefreshToken := {}
  web_session : WebSession := {}
  account_evidence : AccountEvidence := {}
  probe : ProbeBlock := {}
  derived : Derived := {}
  updated_at : String := ""

/- `extra["chatgpt_local"]["auth"]`. -/
structure LocalAuth where
  access_token_issued_at : String := ""
  access_token_expires_at : String := ""
  access_token_expiry_source : String := ""
  state : String := ""
  error_code : String := ""
  message : String := ""
  checked_at : String := ""

/- The keys of `extra` that the lifecycle reads or writes. A missing or falsy value is `""`; the
   lifecycle key is kept if its schema is the current one. -/
structure Values where
  access_token : String := ""
  accessToken : String := ""
  refresh_token : String := ""
  refreshToken : String := ""
  session_token : String := ""
  sessionToken : String := ""
  cookies : String := ""
  cookie_header : String := ""
  registered_at : String := ""
  created_at : String := ""
  access_token_captured_at : String := ""
  access_token_issued_at : String := ""
  access_token_expires_at : String := ""
  access_token_expiry_source : String := ""
  local_auth : LocalAuth := {}
  web_session_expires_at : String := ""
  web_session_expires : String := ""
  web_session_expiry_source : String := ""
  web_session_observed_at : String := ""
  chatgpt_auth_lifecycle : Option Projection := none

/- The columns of the account that the lifecycle reads. -/
structure Account where
  access_token : String := ""
  token : String := ""
  refresh_token : String := ""
  created_at : String := ""

structure Credentials where
  access_token : String
  refresh_token : String
  session_token : String
  cookies : String

/- `projection["material"]` of the credentials. -/
def materialOf (c : Credentials) : Material where
  type :=
    if c.refresh_token ≠ "" then .refresh_token
    else if c.access_token ≠ "" then .access_token_only
    else .unknown
  has_access_token := c.access_token != ""
  has_refresh_token := c.refresh_token != ""
  has_session_token := c.session_token != ""
  has_cookies := c.cookies != ""

structure JwtTimes where
  exp : String := ""
  iat : String := ""

/- Texts and times: `str.lower`, the parsing of a non-empty time text to microseconds, `isoformat`,
   `decode_jwt_payload`, the hash of the credentials and `_safe_text`. A hash is not empty, and
   equal ones are of material of one kind. -/
structure Env where
  lower : String → String
  parse_time : String → Option Int
  isoformat : Int → String
  jwt_times : String → JwtTimes
  material_hash : Credentials → String
  safe_text : String → String
  material_hash_ne : ∀ c, material_hash c ≠ ""
  material_of_hash : ∀ c c', material_hash c = material_hash c' → materialOf c = materialOf c'

----
-- Timing
----

variable (env : Env)

/- `_as_epoch(value)`. -/
def as_epoch (value : String) : Option Int :=
  let raw := strip value
  if raw = "" then none else env.parse_time raw

/- `iso_from_value(value)`. -/
def iso_from_value (value : String) : String :=
  match as_epoch env value with
  | none => ""
  | some epoch => env.isoformat epoch

/- `iso_from_value` of a number of microseconds: a number of
   seconds over 10^11 is taken for milliseconds. -/
def iso_from_number (number : Int) : String :=
  let number :=
    if 100000000000 * 1000000 < number then number / 1000
    else number
  if 0 < number then env.isoformat number else ""

/- `_as_epoch(expires_at) <= _as_epoch(now)`; `None` raises. -/
def passed (expires_at now : String) : Option Bool :=
  match as_epoch env expires_at, as_epoch env now with
  | some expiry, some instant => some (decide (expiry ≤ instant))
  | _, _ => none

/- `expires_at and _as_epoch(expires_at) <= _as_epoch(now)`. -/
def expiredBy (expires_at now : String) : Option Bool :=
  if expires_at = "" then some false
  else passed env expires_at now

/- `_credentials(account, extra)`. -/
def credentials (account : Account) (values : Values) :
    Credentials where
  access_token := strip (orElse values.access_token
        (orElse values.accessToken (orElse account.access_token account.token)))
  refresh_token := strip
      (orElse values.refresh_token (orElse values.refreshToken account.refresh_token))
  session_token := strip (orElse values.session_token values.sessionToken)
  cookies := strip (orElse values.cookies values.cookie_header)

/- The comparison for an access token that is there. -/
def tokenExpired (c : Credentials) (expires_at now : String) : Option Bool :=
  if c.access_token = "" then some false
  else expiredBy env expires_at now

structure Timing where
  issued_at : String
  expires_at : String
  expiry_source : String
  expiry_confidence : Confidence

/- `token_timing(token)`. -/
def token_timing (token : String) : Timing :=
  let exp := iso_from_value env (env.jwt_times token).exp
  let issued := iso_from_value env (env.jwt_times token).iat
  { issued_at := issued, expires_at := exp, expiry_source := if exp ≠ "" then "jwt_exp" else "",
    expiry_confidence := if exp ≠ "" then .exact else .unknown }

/- `_capture_timestamp(account, values, fallback)`. -/
def capture_timestamp (account : Account) (values : Values) (fallback : String) :
    String :=
  (([values.access_token_captured_at, values.registered_at,
        values.created_at, account.created_at].map (iso_from_value env)).find?
    (fun normalized => normalized != "")).getD fallback

/- `ACCESS_TOKEN_ONLY_LIFETIME_SECONDS` in microseconds. -/
def accessTokenOnlyLifetime : Int := 10 * 24 * 60 * 60 * 1000000

/- `ACCESS_TOKEN_ONLY_EXPIRY_SOURCE`. -/
def accessTokenOnlyExpirySource : String := "at_only_10d_policy"

/- `explicit_expiry_value`. -/
def explicitExpiryValue (values : Values) : String :=
  orElse values.access_token_expires_at values.local_auth.access_token_expires_at

/- The `expiry_source` of an explicit expiry. -/
def explicitExpirySource (values : Values) : String := orElse values.access_token_expiry_source
    (orElse values.local_auth.access_token_expiry_source "oauth_expires_in")

/- The timing of the token, with a stated issue time. -/
def issuedTiming (values : Values) (token : String) : Timing :=
  let timing := token_timing env token
  let explicit_issued := iso_from_value env
      (orElse values.access_token_issued_at values.local_auth.access_token_issued_at)
  if explicit_issued ≠ "" ∧ timing.issued_at = "" then { timing with issued_at := explicit_issued }
  else timing

/- The timing before the AT-only policy. -/
def explicitTiming (values : Values) (token : String) :
    Timing :=
  let timing := issuedTiming env values token
  let explicit_expiry := iso_from_value env (explicitExpiryValue values)
  if timing.expires_at = "" ∧ explicit_expiry ≠ "" then
    { timing with
      expires_at := explicit_expiry
      expiry_source := explicitExpirySource values
      expiry_confidence :=
        if explicitExpirySource values = accessTokenOnlyExpirySource then .estimated
        else .exact }
  else timing

/- `access_token_timing`; `clock` is its `utc_now_iso()`. -/
def access_token_timing (account : Account) (values : Values) (c : Credentials)
    (captured_at : String) (allow_at_only_policy : Bool) (clock : String) : Timing :=
  let timing := explicitTiming env values c.access_token
  if timing.expires_at ≠ "" ∨ c.access_token = "" then timing
  else if allow_at_only_policy = false ∨ c.refresh_token ≠ "" then timing
  else
    let captured :=
      orElse (iso_from_value env captured_at) (capture_timestamp env account values clock)
    match as_epoch env captured with
    | none => timing
    | some captured_epoch =>
      { issued_at := orElse timing.issued_at captured,
        expires_at := iso_from_number env (captured_epoch + accessTokenOnlyLifetime),
        expiry_source := accessTokenOnlyExpirySource, expiry_confidence := .estimated }

/- `for key in (...): if timing.get(key): at[key] = ...`; a confidence is never falsy. -/
def AccessToken.withTiming (timing : Timing) (access : AccessToken) : AccessToken :=
  { access with
    issued_at := orElse timing.issued_at access.issued_at,
    expires_at := orElse timing.expires_at access.expires_at,
    expiry_source := orElse timing.expiry_source access.expiry_source,
    expiry_confidence := timing.expiry_confidence }

----
-- Classification
----

/- The `at_state` of one probe. -/
inductive ProbedAt where
| valid
| expired
| revoked
| unauthorized_unknown
| rejected
| probe_failed
| not_present
| unknown
deriving DecidableEq

/- `access_probe`; `http_status` is `int(... or 0)`, if it does
   not raise, and `attempted` is false only for `False`. -/
structure AccessProbe where
  attempted : Bool := true
  http_status : Option Int := some 0
  error_code : String := ""
  message : String := ""

/- `incoming["refresh_attempt"]`. -/
structure RefreshAttempt where
  attempted : Bool := false
  success : Bool := false
  error_code : String := ""
  http_status : Option Int := some 0
  message : String := ""
  access_token_expires_at : String := ""

structure Probe where
  checked_at : String := ""
  auth : AccessProbe := {}
  access_token_probe : Option AccessProbe := none
  refresh_attempt : RefreshAttempt := {}

/- `marker in text`. -/
def contains (text marker : String) : Bool := decide (marker.toList <:+: text.toList)

/- `is_deactivated_evidence(error_code, message)`. -/
def is_deactivated_evidence (error_code message : String) :
    Bool :=
  let text := env.lower (strip (error_code ++ " " ++ message))
  ["account_deactivated", "account deleted", "account disabled", "deleted or deactivated",
    "deactivated workspace", "workspace_deactivated"].any (contains text)

/- `classify_access_probe(status_code, error_code, message)`. -/
def classify_access_probe (probe : AccessProbe) :
    ProbedAt × EvidenceState :=
  let status := probe.http_status.getD 0
  let code := env.lower (strip probe.error_code)
  if status = 200 then (.valid, .active_confirmed)
  else if status = 401 then
    if code = "token_expired" then (.expired, .unknown)
    else if code ∈ ["token_invalidated", "token_revoked", "invalid_token", "invalid_grant"] then
      (.revoked, .unknown)
    else (.unauthorized_unknown, .unknown)
  else if status = 402 ∨ status = 403 then
    if is_deactivated_evidence env code probe.message
    then (.rejected, .deactivated_confirmed)
    else if status = 403 then (.rejected, .banned_suspected)
    else (.probe_failed, .unknown)
  else (.probe_failed, .unknown)

/- `classify_refresh_attempt(attempt)`. -/
def classify_refresh_attempt (attempt : RefreshAttempt) :
    RefreshResult × RtState :=
  if attempt.attempted = false then (.not_attempted, .not_attempted)
  else if attempt.success then (.success, .valid)
  else
    let code := env.lower (strip attempt.error_code)
    let status := attempt.http_status.getD 0
    let message := env.lower attempt.message
    if code ∈ ["token_revoked", "token_invalidated", "invalid_grant", "invalid_token"] then
      (.rejected, .rejected)
    else if status = 401 ∨ status = 403 then (.rejected, .rejected)
    else if status = 429 ∨ status = 0 ∨ 500 ≤ status ∨
        ["timeout", "timed out", "proxy", "connection"].any (contains message) then
      (.failed_transient, .failed_transient)
    else (.failed, .unknown)

/- `rt_state in {"rejected", "failed_transient", "failed"}`. -/
def RtState.isFailure : RtState → Bool
| .rejected => true
| .failed_transient => true
| .failed => true
| _ => false

/- `derive_state`. -/
def derive_state (at_state : AtState) (rt_state : RtState) (account_evidence_state : EvidenceState)
    (at_present rt_present : Bool) : Derived :=
  if account_evidence_state = .deactivated_confirmed then
    ⟨.account_deactivated, .blocked_account_deactivated⟩
  else if account_evidence_state = .banned_suspected then
    ⟨.account_blocked_suspected, .blocked_account_suspected⟩
  else if rt_state = .valid ∧ at_state ∈ [.valid, .expired, .unknown] then ⟨.rt_backed, .ready⟩
  else if rt_state.isFailure ∧ at_state = .valid then
    ⟨.refresh_failed_at_valid, .degraded_at_fallback⟩
  else if rt_state.isFailure ∧ (at_state ∈
          [.expired, .revoked, .unauthorized_unknown, .not_present] ∨
        at_present = false) then
    ⟨.refresh_failed_at_unusable, .blocked_auth_material⟩
  else if rt_state.isFailure ∧ at_state = .unknown ∧ at_present then
    ⟨.refresh_failed_at_unknown, .degraded_at_unprobed⟩
  else if rt_present = false ∧ at_state = .valid then ⟨.at_only_valid, .blocked_missing_rt⟩
  else if rt_present = false ∧ at_state = .expired then ⟨.at_only_expired, .blocked_at_expired⟩
  else if at_state = .revoked then ⟨.at_revoked, .blocked_at_revoked⟩
  else if at_state = .expired then ⟨.at_expired, .blocked_at_expired⟩
  else if at_present = false ∧ rt_present = false then ⟨.no_auth_material, .blocked_missing_at⟩
  else if rt_state = .not_attempted then ⟨.not_checked, .unknown⟩
  else ⟨.unknown, .unknown⟩

/- `derive_state` of the components of a projection. -/
def Projection.rederived (p : Projection) : Derived :=
  derive_state p.access_token.state p.refresh_token.state
    p.account_evidence.state p.material.has_access_token p.material.has_refresh_token

----
-- A Projection From The Account
----

/- The `at_state` of `build_account_lifecycle_projection`. -/
def builtAtState (c : Credentials) (timing : Timing) (values : Values)
    (now : String) : Option AtState := do
  let expired ← tokenExpired env c timing.expires_at now
  let at_state : AtState :=
    if c.access_token = "" then .not_present
    else if expired then .expired
    else .unknown
  let legacy_auth_state := env.lower (strip values.local_auth.state)
  let legacy_auth_code := env.lower (strip values.local_auth.error_code)
  if legacy_auth_code ∈ ["token_invalidated", "token_revoked"]
  then some .revoked
  else if legacy_auth_code = "token_expired" ∨ legacy_auth_state = "access_token_expired" then
    some .expired
  else if c.access_token ≠ "" ∧ legacy_auth_state ∈ ["refresh_token_valid", "access_token_valid"] ∧
      at_state ≠ .expired then
    some .valid
  else some at_state

/- `legacy_evidence_state`. -/
def legacyEvidenceState (values : Values) : EvidenceState :=
  let legacy_auth_state := env.lower (strip values.local_auth.state)
  if legacy_auth_state = "account_deactivated" then .deactivated_confirmed
  else if legacy_auth_state = "banned_like" then .banned_suspected
  else .unknown

/- `build_account_lifecycle_projection(account, extra)`. -/
def build_account_lifecycle_projection (account : Account) (values : Values) (now : String) :
    Option Projection := do
  let c := credentials account values
  let captured_at := capture_timestamp env account values now
  let timing := access_token_timing env account values c captured_at true now
  let at_state ← builtAtState env c timing values now
  let evidence_state := legacyEvidenceState env values
  let rt_state : RtState :=
    if c.refresh_token ≠ "" then .not_attempted
    else .not_present
  some
    { material_revision := env.material_hash c
      material := materialOf c
      access_token :=
        { state := at_state, issued_at := timing.issued_at, expires_at := timing.expires_at,
          expiry_source := timing.expiry_source, expiry_confidence := timing.expiry_confidence,
          observed_at := if c.access_token ≠ "" then captured_at else "" }
      refresh_token :=
        { state := rt_state
          last_result :=
            if c.refresh_token ≠ "" then .not_attempted
            else .not_present }
      web_session :=
        { expires_at := strip (orElse values.web_session_expires_at values.web_session_expires)
          expiry_source := strip values.web_session_expiry_source
          observed_at := strip values.web_session_observed_at }
      account_evidence :=
        { state := evidence_state, code := values.local_auth.error_code,
          message := env.safe_text values.local_auth.message, time := values.local_auth.checked_at }
      probe := {}
      derived :=
        derive_state at_state rt_state evidence_state (c.access_token != "") (c.refresh_token != "")
      updated_at := now }

/- `_projection_from_extra_or_account(account, extra)`. -/
def projection_from_extra_or_account (account : Account) (values : Values) (now : String) :
    Option Projection :=
  match values.chatgpt_auth_lifecycle with
  | some existing => some existing
  | none => build_account_lifecycle_projection env account values now

----
-- Probes
----

/- The access token's timing after a probe. -/
def probedTiming (account : Account) (values : Values)
    (refresh_attempt : RefreshAttempt) (now clock : String) (access : AccessToken) : AccessToken :=
  let c := credentials account values
  let timed :=
    if c.access_token ≠ "" then
      let timing := access_token_timing env account values c "" true clock
      let timed := access.withTiming timing
      { timed with observed_at := orElse timed.observed_at now }
    else access
  if refresh_attempt.access_token_expires_at ≠ "" then
    { timed with
      expires_at := orElse (iso_from_value env refresh_attempt.access_token_expires_at)
          refresh_attempt.access_token_expires_at
      expiry_source := "oauth_expires_in"
      expiry_confidence := .exact }
  else timed

def probedRefresh (c : Credentials) (refresh_attempt : RefreshAttempt)
    (now : String) (refresh : RefreshToken) : Option RefreshToken :=
  if refresh_attempt.attempted then do
    let http_status ← refresh_attempt.http_status
    let result := classify_refresh_attempt env refresh_attempt
    some
      { state := result.2
        last_attempt_at := now
        last_success_at :=
          if refresh_attempt.success then now
          else refresh.last_success_at
        last_failure_at :=
          if refresh_attempt.success then refresh.last_failure_at
          else now
        last_result := result.1
        last_http_status := http_status
        last_error_code := refresh_attempt.error_code
        last_error_message := env.safe_text refresh_attempt.message }
  else if c.refresh_token = "" then some
      { refresh with state := .not_present, last_result := .not_present }
  else some refresh

/- The `at_state` and `evidence_state` of a probe. -/
def probedStates (c : Credentials) (access_probe : AccessProbe) (expires_at now : String) :
    Option (ProbedAt × EvidenceState) :=
  if access_probe.attempted then some (classify_access_probe env access_probe)
  else do
    let expired ← expiredBy env expires_at now
    some
      (if expired then .expired
        else if c.access_token = "" then .not_present
        else .unknown,
        .unknown)

/- `at["state"]` after a probe. -/
def probedAtState (c : Credentials) (at_state : ProbedAt)
    (expires_at now : String) (state : AtState) : Option AtState :=
  match at_state with
  | .valid => some .valid
  | .expired => some .expired
  | .revoked => some .revoked
  | .unauthorized_unknown => some .unauthorized_unknown
  | _ =>
    if c.access_token = "" then some .not_present
    else do
      let expired ← expiredBy env expires_at now
      some (if expired then .expired else state)

/- `at_state in {"expired", "revoked", "unauthorized_unknown"}`. -/
def ProbedAt.isTerminal : ProbedAt → Bool
| .expired => true
| .revoked => true
| .unauthorized_unknown => true
| _ => false

def probedEvidence (access_probe : AccessProbe) (at_state : ProbedAt)
    (evidence_state : EvidenceState) (now : String)
    (evidence : AccountEvidence) : AccountEvidence :=
  let evidence : AccountEvidence :=
    if at_state.isTerminal ∧ evidence.state = .active_confirmed then
      { state := .unknown, code := "superseded_by_access_token_state", message := "", time := now,
        last_active_at := evidence.time }
    else evidence
  match evidence_state with
  | .deactivated_confirmed =>
    { evidence with
      state := .deactivated_confirmed,
      code := orElse access_probe.error_code "account_deactivated",
      message := env.safe_text access_probe.message, time := now }
  | .banned_suspected =>
    if evidence.state ≠ .deactivated_confirmed then
      { evidence with
        state := .banned_suspected, code := orElse access_probe.error_code "http_403",
        message := env.safe_text access_probe.message, time := now }
    else evidence
  | .active_confirmed =>
    { evidence with state := .active_confirmed, code := "", message := "", time := now }
  | .unknown => evidence

def probedBlock (access_probe : AccessProbe) (at_state : ProbedAt)
    (http_status : Int) (now : String) : ProbeBlock where
  state :=
    if access_probe.attempted ∧ (at_state = .valid ∨ at_state.isTerminal) then .success
    else if access_probe.attempted = false then .not_checked
    else .failed_transient
  checked_at := now
  transport := if http_status = 0 then "network" else "http"
  error_code := access_probe.error_code
  error_message := env.safe_text access_probe.message

/- `apply_probe_lifecycle`; `none` is an exception, and `clock` is `utc_now_iso()` during the call.
   -/
def apply_probe_lifecycle (account : Account) (values : Values) (probe : Probe)
    (clock : String) : Option Projection := do
  let projection ← projection_from_extra_or_account env account values clock
  let now := orElse probe.checked_at clock
  let access_probe := probe.access_token_probe.getD probe.auth
  let c := credentials account values
  let access :=
    probedTiming env account values probe.refresh_attempt now clock projection.access_token
  let refresh ← probedRefresh env c probe.refresh_attempt now projection.refresh_token
  let states ← probedStates env c access_probe access.expires_at now
  let state ← probedAtState env c states.1 access.expires_at now access.state
  let http_status ← access_probe.http_status
  let next : Projection :=
    { projection with
      material_revision := env.material_hash c
      material := materialOf c
      access_token :=
        { access with
          state := state, last_probe_at := now, last_http_status := http_status,
          last_error_code := access_probe.error_code }
      refresh_token := refresh
      account_evidence :=
        probedEvidence env access_probe states.1 states.2 now projection.account_evidence
      probe := probedBlock env access_probe states.1 http_status now
      updated_at := clock }
  some { next with derived := next.rederived }

----
-- Captured Material
----

structure Capture where
  access_token_expires_at : String := ""
  access_token_expiry_source : String := ""
  web_session_expires_at : String := ""

/- `material_changed`. -/
def materialChanged (projection : Projection) (c : Credentials) : Bool :=
  projection.material_revision != "" && projection.material_revision != env.material_hash c

/- `values` after a changed material is stamped. -/
def stampedValues (c : Credentials) (changed : Bool) (captured_at : String)
    (values : Values) : Values :=
  if changed ∧ c.access_token ≠ "" then { values with access_token_captured_at := captured_at }
  else values

/- `timing_values`. -/
def timingValues (capture : Capture) (changed : Bool)
    (access : AccessToken) (values : Values) : Values :=
  if capture.access_token_expires_at ≠ "" then
    { values with
      access_token_expires_at := capture.access_token_expires_at
      access_token_expiry_source := orElse capture.access_token_expiry_source
          "oauth_expires_in" }
  else if changed then
    { values with access_token_expires_at := "", access_token_expiry_source := "" }
  else if iso_from_value env values.access_token_expires_at = "" ∧ access.expires_at ≠ "" then
    { values with
      access_token_expires_at := access.expires_at,
      access_token_expiry_source := access.expiry_source }
  else values

/- The access token's timing after a capture. -/
def capturedTiming (account : Account) (timing_values : Values)
    (c : Credentials) (capture : Capture) (changed : Bool)
    (captured_at : String) (access : AccessToken) : AccessToken :=
  let timing := access_token_timing env account timing_values c
      (if changed then captured_at else "") true captured_at
  let timed := access.withTiming timing
  let explicit_access_expiry := iso_from_value env capture.access_token_expires_at
  if explicit_access_expiry ≠ "" then
    { timed with
      expires_at := explicit_access_expiry,
      expiry_source := orElse capture.access_token_expiry_source "oauth_expires_in",
      expiry_confidence := .exact }
  else timed

/- The access token after a capture; a changed material starts without evidence. -/
def capturedAccess (c : Credentials) (changed : Bool) (captured_at : String)
    (access : AccessToken) : Option AccessToken := do
  let expired ← tokenExpired env c access.expires_at captured_at
  let access : AccessToken :=
    if changed then
      { access with
        state :=
          if c.access_token = "" then .not_present
          else if expired then .expired
          else .unknown
        last_probe_at := ""
        last_http_status := 0
        last_error_code := "" }
    else access
  if c.access_token = "" then some access
  else
    some
      { access with
        observed_at := captured_at
        state :=
          if expired then .expired
          else if access.state = .not_present then .unknown
          else access.state }

/- The blocks that a changed material resets. -/
def resetEvidence (c : Credentials) (projection : Projection) :
    Projection :=
  { projection with
    refresh_token :=
      { state :=
          if c.refresh_token ≠ "" then .not_attempted
          else .not_present
        last_result :=
          if c.refresh_token ≠ "" then .not_attempted
          else .not_present }
    account_evidence := {}
    probe := {}
    derived := {} }

def capturedWeb (c : Credentials) (capture : Capture) (changed : Bool)
    (captured_at : String) (web : WebSession) : WebSession :=
  let web : WebSession :=
    if changed ∧ c.session_token = "" ∧ c.cookies = ""
    then {}
    else web
  let explicit_web_expiry := iso_from_value env capture.web_session_expires_at
  if explicit_web_expiry ≠ "" then
    { expires_at := explicit_web_expiry, expiry_source := "web_session_expires",
      observed_at := captured_at }
  else web

/- `values` after an explicit expiry of the web session. -/
def webValues (capture : Capture) (captured_at : String) (values : Values) : Values :=
  let explicit_web_expiry := iso_from_value env capture.web_session_expires_at
  if explicit_web_expiry ≠ "" then
    { values with
      web_session_expires_at := explicit_web_expiry,
      web_session_expiry_source := "web_session_expires", web_session_observed_at := captured_at }
  else values

/- `apply_material_capture`, with the `values` that it changes in place: `timing_values` is a copy
   of them only if the material changed. -/
def apply_material_capture (account : Account) (values : Values) (capture : Capture)
    (captured_at : String) : Option Values := do
  let projection ← projection_from_extra_or_account env account values captured_at
  let c := credentials account values
  let changed := materialChanged env projection c
  let values := stampedValues c changed captured_at values
  let timing_values := timingValues env capture changed projection.access_token values
  let values := if changed then values else timing_values
  let access ← capturedAccess env c changed captured_at
      (capturedTiming env account timing_values c capture
        changed captured_at projection.access_token)
  let reset :=
    if changed then resetEvidence c projection
    else projection
  let next : Projection :=
    { reset with
      material_revision := env.material_hash c, material := materialOf c,
      access_token := access,
      web_session := capturedWeb env c capture changed captured_at projection.web_session,
      updated_at := captured_at }
  some { webValues env capture captured_at values with chatgpt_auth_lifecycle := some next }

----
-- Steps
----

/- The account and its `extra`. -/
structure Stored where
  account : Account := {}
  values : Values := {}

/- A call on the account, or a save of its other data. -/
inductive LifecycleOp where
| apply_probe_lifecycle (probe : Probe) (clock : String)
| apply_material_capture (capture : Capture) (clock : String)
| save (account : Account) (values : Values)

/- A call that raises stores nothing; a save keeps the lifecycle key. -/
def lifecycleStep (env : Env) (s : Stored) :
    LifecycleOp → Stored × Unit
| .apply_probe_lifecycle probe clock =>
    match apply_probe_lifecycle env s.account s.values probe clock with
    | none => (s, ())
    | some next => ({ s with values := { s.values with chatgpt_auth_lifecycle := some next } }, ())
| .apply_material_capture capture clock =>
    match apply_material_capture env s.account s.values capture clock with
    | none => (s, ())
    | some values => ({ s with values := values }, ())
| .save account values =>
    ({ account := account
       values := { values with chatgpt_auth_lifecycle := s.values.chatgpt_auth_lifecycle } }, ())

end AuthLifecycle
