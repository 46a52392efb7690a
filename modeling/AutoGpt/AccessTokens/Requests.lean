import AutoGpt.AccessTokens.Model
import AutoGpt.Library.JobPool

/-
  The routes of `api/external_access_tokens.py` as jobs. A
  claim request commits its reservation, the result of the
  live check and the outcome one after the other for each
  account; a release or a result reads first and commits
  later. Between two commits all other requests may run.
-/

open PyText (orElse strip)

----
-- Jobs
----

namespace AccessTokens

/- `ClaimAccessTokensRequest`. -/
structure ClaimRequest where
  consumer : String := ""
  limit : Int := 1
  lease_seconds : Int := 0
  allow_refresh : Option Bool := none

/- The configured numbers and defaults of a claim request. -/
structure Config where
  max_limit : Int := 50
  default_lease_seconds : Int := 86400
  precheck_cooldown_seconds : Int := 600
  allow_refresh : Bool := true

/- `AccessTokenResultRequest`. -/
structure ResultRequest where
  status : String
  provider : String := "external"
  external_payment_id : String := ""
  message : String := ""
  error_code : String := ""

structure Item where
  claim_id : String
  account_id : Nat
  email : String
  access_token : String
  token_source : String
  auth_state : String
  subscription_plan : String
  consumer : String
  claim_status : ClaimStatus
  lease_expires_at : Option Nat

structure Round where
  now : Nat
  limit : Nat
  lease_seconds : Nat
  cooldown : Nat
  consumer : String
  allow_refresh : Bool
  claimed : List Item := []
  sent_fingerprints : List String := []
  last_seen_id : Nat := 0

/- The accounts of a scan that are still to be visited. Every
   commit expires what the session has loaded. -/
inductive Batch where
| loaded (accounts : List Account)
| expired (ids : List Nat)

def Batch.ids : Batch → List Nat
| .loaded accounts => accounts.map Account.id
| .expired ids => ids

/- What a request does with the claim that it looks up. -/
inductive Purpose where
| release (reason : String)
| result (claim_id : String) (request : ResultRequest)

inductive Answer where
| none
| items (claimed : List Item)
| kept
| released (claim : Claim)
| idempotent (claim : Claim) (payment : Payment)
| written (claim : Claim) (payment : Payment)
| raised (status_code : Nat) (detail : String)

/- What a request does next, with what it has read so far. -/
inductive Job where
| expire (request : ClaimRequest) (config : Config)
| scan (r : Round)
| visit (r : Round) (batch : Batch)
| reserve (r : Round) (account : Account) (batch : Batch)
| insert (r : Round) (account : Account) (ids : List Nat)
| preflight (r : Round) (claim : Claim) (ids : List Nat)
| probe (r : Round) (claim : Claim) (account : Account)
    (now : Nat) (ids : List Nat)
| reread (r : Round) (claim : Claim) (result : Preflight)
    (ids : List Nat)
| record (r : Round) (claim : Claim) (account : Account)
    (access_token : Option String) (ids : List Nat)
| find (claim_id : String) (purpose : Purpose)
| findAccount (row : Claim) (purpose : Purpose)
| release (row : Claim) (account : Account) (reason : String)
| result (row : Claim) (account : Account)
    (claim_id : String) (request : ResultRequest) (status : ClaimStatus)
| finished (answer : Answer)

structure Shared where
  clock : Nat
  accounts : Accounts
  claims : Claims := .empty

structure Draw where
  seconds : Nat := 0
  claim_id : String := ""
  outside : Outside := {}

def internalError : Job := .finished (.raised 500 "Internal Server Error")

----
-- Claim Requests
----

variable (env : Env)

def clamp (low high : Nat) (value : Int) : Nat := (min (high : Int) (max (low : Int) value)).toNat

/- The start of `claim_access_tokens` at this time. -/
def startRound (request : ClaimRequest) (config : Config) (now : Nat) :
    Round :=
  let default_lease := clamp 60 maxLeaseSeconds config.default_lease_seconds
  { now := now
    limit := min (clamp 1 hardMaxLimit config.max_limit) (max 1 request.limit).toNat
    lease_seconds := clamp 60 maxLeaseSeconds
        (if request.lease_seconds = 0 then (default_lease : Int)
          else request.lease_seconds)
    cooldown := clamp 60 maxLeaseSeconds config.precheck_cooldown_seconds
    consumer := String.ofList ((strip request.consumer).toList.take 120)
    allow_refresh := request.allow_refresh.getD config.allow_refresh }

/- The accounts of the next scan, by increasing id. -/
def scanAccounts (last_seen_id : Nat) (accounts : Accounts) :
    List Account :=
  ((accounts.rows.filter fun account => decide (account.platform = "chatgpt") &&
        decide (account.status ∉ excludedStatuses) &&
        decide (last_seen_id < account.id)).mergeSort
    fun a b => decide (a.id ≤ b.id)).take scanBatchSize

def scan (r : Round) (s : Shared) : Shared × Job :=
  if r.limit ≤ r.claimed.length then (s, .finished (.items r.claimed))
  else
    match scanAccounts r.last_seen_id s.accounts with
    | [] => (s, .finished (.items r.claimed))
    | accounts => (s, .visit r (.loaded accounts))

def visitAccount (r : Round) (account : Account) (rest : Batch) (s : Shared) :
    Shared × Job :=
  let r := { r with last_seen_id := max r.last_seen_id account.id }
  if r.limit ≤ r.claimed.length then (s, .scan r)
  else if locallySendable env account r.now then (s, .reserve r account rest)
  else (s, .visit r rest)

/- The next account: as it was loaded, or as it is stored. -/
def visit (r : Round) (batch : Batch) (s : Shared) :
    Shared × Job :=
  match batch with
  | .loaded [] => (s, .scan r)
  | .loaded (account :: rest) => visitAccount env r account (.loaded rest) s
  | .expired [] => (s, .scan r)
  | .expired (id :: rest) =>
    match s.accounts.find? id with
    | none => (s, internalError)
    | some account => visitAccount env r account (.expired rest) s

/- `_reserve_access_token_claim`, up to the insertion. -/
def reserve (r : Round) (account : Account) (batch : Batch) (s : Shared) : Shared × Job :=
  if activeClaimForAccount s.claims account.id then (s, .visit r batch)
  else (s, .insert r account batch.ids)

def reservation (r : Round) (account : Account) (claim_id : String) :
    Claim where
  claim_id := claim_id
  account_id := account.id
  email := account.email
  consumer := r.consumer
  attempt :=
    match account.extra.claim with
    | none => 1
    | some claim => claim.attempt + 1

/- The commit of `_reserve_access_token_claim`. -/
def insert (draw : Draw) (r : Round) (account : Account)
    (ids : List Nat) (s : Shared) : Shared × Job :=
  let claim := reservation r account draw.claim_id
  match s.claims.insert? claim with
  | none => (s, .visit r (.expired ids))
  | some claims => ({ s with claims := claims }, .preflight r claim ids)

/- The account that `_preflight_access_token` reads. -/
def preflight (r : Round) (claim : Claim) (ids : List Nat) (s : Shared) :
    Shared × Job :=
  match s.accounts.find? claim.account_id with
  | none => (s, internalError)
  | some account => (s, .probe r claim account s.clock ids)

def probe (draw : Draw) (r : Round) (claim : Claim) (account : Account) (now : Nat) (ids : List Nat)
    (s : Shared) : Shared × Job :=
  match preflightAccessToken env r.allow_refresh now r.cooldown draw.outside account with
  | none => (s, internalError)
  | some (checked, result) => ({ s with accounts := persistAccount checked account s.accounts },
        .reread r claim result ids)

def Claim.rejected (status : ClaimStatus) (reason auth_state plan : String)
    (claim : Claim) : Claim :=
  { claim with
    status := status, last_error := cleanText reason 800, auth_state := auth_state,
    subscription_plan := plan }

/- A claim of a token that this response already holds. -/
def Claim.duplicate (token_fingerprint : String) (claim : Claim) :
    Claim :=
  { claim with
    status := .duplicateInClaimRound, token_fingerprint := token_fingerprint,
    last_error := "本轮领取已发送过相同 access_token，跳过重复发送" }

def Claim.handedOut (lease_expires_at : Nat)
    (token_source token_fingerprint auth_state plan : String) (claim : Claim) : Claim :=
  { claim with
    status := .claimed, lease_expires_at := some lease_expires_at,
    token_source := orElse token_source "access_token", token_fingerprint := token_fingerprint,
    auth_state := auth_state, subscription_plan := orElse plan "free", last_error := "" }

/- The account with the claim in its `extra`. -/
def Account.withClaim (claim : Claim) (account : Account) :
    Account :=
  { account with extra := { account.extra with claim := some claim } }

/- The account as it is after the live check, and the claim as the live check leaves it. -/
def reread (r : Round) (claim : Claim) (result : Preflight)
    (ids : List Nat) (s : Shared) : Shared × Job :=
  match s.accounts.find? claim.account_id with
  | none => (s, internalError)
  | some account =>
    match result with
    | .rejected status reason auth_state plan => (s, .record r
            (claim.rejected status reason auth_state plan) account none ids)
    | .ready access_token token_source token_fingerprint
        auth_state plan =>
        if token_fingerprint ≠ "" ∧ token_fingerprint ∈ r.sent_fingerprints then
          (s, .record r (claim.duplicate token_fingerprint) account none ids)
        else
          (s, .record { r with sent_fingerprints := token_fingerprint :: r.sent_fingerprints }
              (claim.handedOut (r.now + r.lease_seconds)
                token_source token_fingerprint auth_state plan) account (some access_token) ids)

/- `_serialize_claimed_item`. -/
def claimedItem (account : Account) (claim : Claim) (access_token : String) :
    Item where
  claim_id := claim.claim_id
  account_id := account.id
  email := account.email
  access_token := access_token
  token_source := claim.token_source
  auth_state := claim.auth_state
  subscription_plan := claim.subscription_plan
  consumer := claim.consumer
  claim_status := claim.status
  lease_expires_at := claim.lease_expires_at

def record (r : Round) (claim : Claim) (account : Account)
    (access_token : Option String) (ids : List Nat) (s : Shared) : Shared × Job :=
  match s.claims.update? claim.claim_id claim.writtenTo (fun _ => rfl) with
  | none => (s, internalError)
  | some claims => ({ s with
         claims := claims,
         accounts := persistAccount (account.withClaim claim) account s.accounts },
        .visit
          (match access_token with
            | none => r
            | some access_token =>
              { r with claimed := r.claimed ++ [claimedItem account claim access_token] })
          (.expired ids))

----
-- Releases And Results
----

/- `_find_claim`, the row. -/
def find (claim_id : String) (purpose : Purpose) (s : Shared) :
    Shared × Job :=
  match s.claims.find? (strip claim_id) with
  | none => (s, .finished (.raised 404 "AccessToken claim 不存在"))
  | some row => (s, .findAccount row purpose)

/- The texts of `paid` and `failed` results. -/
def resultStatus (status : String) : Option ClaimStatus :=
  let status := env.lower (strip status)
  if status ∈ ["success", "succeeded", "paid", "subscribed"] then some .paid
  else if status ∈ ["failed", "fail", "error", "cancelled", "canceled"] then some .failed
  else none

/- A payment that records this result already. -/
def Payment.records (claim_id payment_id : String) (status : ClaimStatus)
    (payment : Payment) : Bool :=
  decide (payment.claim_id = claim_id) &&
    decide (payment.external_payment_id = payment_id) &&
    decide (payment.status = status)

/- `_find_claim`, the account, and what follows up to the writes. -/
def findAccount (row : Claim) (purpose : Purpose) (s : Shared) :
    Shared × Job :=
  match s.accounts.find? row.account_id with
  | none => (s, .finished (.raised 404 "claim 对应账号不存在"))
  | some account =>
    match purpose with
    | .release reason =>
      if row.status = .paid then (s, .finished .kept)
      else (s, .release row account reason)
    | .result claim_id request =>
      match resultStatus env request.status with
      | none => (s, .finished (.raised 400 "status 只能是 paid/failed"))
      | some status =>
        match account.extra.payment with
        | none => (s, .result row account claim_id request status)
        | some payment =>
          if payment.records claim_id
              (strip request.external_payment_id)
              status then
            (s, .finished (.idempotent row payment))
          else (s, .result row account claim_id request status)

def Claim.releasedFor (reason : String) (claim : Claim) : Claim :=
  { claim with status := .released, last_error := "", message := strip reason }

/- The commit of a claim and of its account. -/
def commitClaim (claim : Claim) (account loaded : Account)
    (answer : Answer) (s : Shared) : Shared × Job :=
  match s.claims.update? claim.claim_id claim.writtenTo (fun _ => rfl) with
  | none => (s, internalError)
  | some claims => ({ s with
         claims := claims,
         accounts := persistAccount account loaded s.accounts },
        .finished answer)

/- The commit of `release_access_token_claim`. -/
def release (row : Claim) (account : Account) (reason : String) (s : Shared) : Shared × Job :=
  let claim := row.releasedFor reason
  commitClaim claim (account.withClaim claim) account (.released claim) s

def Claim.resulted (request : ResultRequest) (status : ClaimStatus) (claim : Claim) : Claim :=
  { claim with
    status := status
    provider := orElse (strip (orElse request.provider "external")) "external"
    external_payment_id := strip request.external_payment_id
    message := cleanText request.message 800
    error_code := cleanText request.error_code 200
    last_error :=
      if status = .paid then claim.last_error
      else
        cleanText (orElse request.message (orElse request.error_code "外部服务回写支付失败"))
          800 }

/- The payment of a result, under the id of the request. -/
def Claim.payment (claim_id : String) (claim : Claim) :
    Payment where
  status := claim.status
  provider := claim.provider
  external_payment_id := claim.external_payment_id
  claim_id := claim_id
  message := claim.message
  error_code := claim.error_code

def Account.withPayment (claim_id : String) (claim : Claim) (account : Account) : Account :=
  { account with
    extra := { account.extra with claim := some claim, payment := some (claim.payment claim_id) } }

/- `_refresh_account_local_status`; an exception of its probe changes nothing. -/
def Account.refreshed (probe : Option Probe) (account : Account) :
    Account :=
  match probe with
  | none => account
  | some probe => { account with status := probe.account_status }

/- The commit of `write_access_token_result`; a payment makes the account's status known first. -/
def result (draw : Draw) (row : Claim) (account : Account)
    (claim_id : String) (request : ResultRequest)
    (status : ClaimStatus) (s : Shared) : Shared × Job :=
  let claim := row.resulted request status
  let stored := account.withPayment claim_id claim
  commitClaim claim
    (if status = .paid then stored.refreshed draw.outside.probe
      else stored)
    account (.written claim (claim.payment claim_id)) s

----
-- Steps
----

def Shared.wait (seconds : Nat) (s : Shared) : Shared := { s with clock := s.clock + seconds }

def stepJob (env : Env) (draw : Draw) (s : Shared) :
    Job → Shared × Job
| .expire request config => ({ s with claims := expireStaleClaims s.clock s.claims },
      .scan (startRound request config s.clock))
| .scan r => scan r s
| .visit r batch => visit env r batch s
| .reserve r account batch => reserve r account batch s
| .insert r account ids => insert draw r account ids s
| .preflight r claim ids => preflight r claim ids s
| .probe r claim account now ids => probe env draw r claim account now ids s
| .reread r claim result ids => reread r claim result ids s
| .record r claim account access_token ids => record r claim account access_token ids s
| .find claim_id purpose => find claim_id purpose s
| .findAccount row purpose => findAccount env row purpose s
| .release row account reason => release row account reason s
| .result row account claim_id request status => result draw row account claim_id request status s
| .finished answer => (s, .finished answer)

/- One step of a request after some seconds. -/
def advance (env : Env) (draw : Draw) (s : Shared) (job : Job) :
    Shared × Job :=
  stepJob env draw (s.wait draw.seconds) job

def Job.done : Job → Bool
| .finished _ => true
| _ => false

inductive Request where
| claim (request : ClaimRequest) (config : Config)
| release (claim_id : String) (reason : String)
| result (claim_id : String) (request : ResultRequest)

def Request.job : Request → Job
| .claim request config => .expire request config
| .release claim_id reason => .find claim_id (.release reason)
| .result claim_id request => .find claim_id (.result claim_id request)

def program (env : Env) :
    JobPool.Program Shared Job Request Draw where
  start := Request.job
  advance := advance env
  done := Job.done
  ended := .finished .none

abbrev Op := JobPool.Op Request Draw

/- The system that starts with some accounts and no claims. -/
abbrev run (env : Env) (accounts : Accounts) (ops : List Op) :
    JobPool.State Shared Job :=
  JobPool.run (program env) { clock := 0, accounts := accounts } ops

end AccessTokens
