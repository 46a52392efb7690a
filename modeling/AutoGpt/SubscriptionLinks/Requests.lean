import AutoGpt.SubscriptionLinks.Model
import AutoGpt.Library.JobPool

/-
  The routes of `api/external_subscription.py`, and the local
  verification that its timers start, as jobs. A claim request
  commits its reservation and its outcome one after the other
  for each account. A result or a verification reads first,
  commits what the status probe has found, reads the account
  again and commits the outcome later. Between two commits all
  other requests may run.
-/

open PyText (orElse strip)

----
-- Jobs
----

namespace SubscriptionLinks

/- `ClaimSubscriptionLinksRequest`. -/
structure ClaimRequest where
  consumer : String := ""
  limit : Int := 1
  plan : String := ""
  country : String := ""
  currency : String := ""
  lease_seconds : Int := defaultLeaseSeconds

/- `SubscriptionLinkResultRequest`. -/
structure ResultRequest where
  status : String
  provider : String := "external"
  external_payment_id : String := ""
  message : String := ""
  error_code : String := ""

structure Item where
  claim_id : String
  account_id : Nat
  email : String
  status : String
  payment_link : String
  claim_status : Status
  consumer : String
  lease_expires_at : Option Nat
  verify_after_at : Option Nat

structure Round where
  now : Nat
  limit : Nat
  lease_seconds : Nat
  consumer : String
  plan : String
  country : String
  claimed : List Item := []
  last_seen_id : Nat := 0

/- The accounts of a scan that are still to be visited. Every
   commit expires what the session has loaded. -/
inductive Batch where
| loaded (accounts : List Account)
| expired (ids : List Nat)

def Batch.ids : Batch → List Nat
| .loaded accounts => accounts.map Account.id
| .expired ids => ids

/- What a request does with the claim that it looks up. -/
inductive Purpose where
| release (reason : String)
| result (claim_id : String) (request : ResultRequest)
| verify

/- A result of `paid` or `failed`, or a verification, which
   probe the status of the account first. -/
inductive Cause where
| paid (claim_id : String) (request : ResultRequest)
| failed (claim_id : String) (request : ResultRequest)
| verify

structure Call where
  about : String
  now : Nat
  cause : Cause

/- How a call ends a claim: a release, a result of `processing`, a payment that the status probe has
   confirmed, a result of `paid` or of `failed` or a verification without that. -/
inductive Ending where
| released
| processing
| confirmed
| unconfirmed
| failed
| unverified
deriving DecidableEq

def Ending.status : Ending → Status
| .released => .released
| .processing => .processing
| .confirmed => .paid
| .unconfirmed => .processing
| .failed => .failed
| .unverified => .failed

inductive Answer where
| none
| items (claimed : List Item)
| kept
| skipped (claim : Claim)
| idempotent (claim : Claim) (payment : Payment)
| written (claim : Claim)
| raised (status_code : Nat) (detail : String)

/- What a request does next, with what it has read so far. -/
inductive Job where
| expire (request : ClaimRequest)
| scan (r : Round)
| visit (r : Round) (batch : Batch)
| reserve (r : Round) (account : Account) (link : Link)
    (batch : Batch)
| insert (r : Round) (account : Account) (link : Link)
    (ids : List Nat)
| preflight (r : Round) (claim : Claim) (account_id : Nat)
    (extra : Extra) (link : Link) (ids : List Nat)
| sync (r : Round) (claim : Claim) (account : Account)
    (extra : Extra) (ids : List Nat)
| synced (r : Round) (claim : Claim) (account_id : Nat)
    (ids : List Nat)
| record (r : Round) (claim : Claim) (stored loaded : Account)
    (sent : Bool) (ids : List Nat)
| find (claim_id : String) (purpose : Purpose)
| findAccount (row : Claim) (purpose : Purpose)
| refresh (call : Call) (account : Account) (claim : Claim)
| reread (call : Call) (account_id : Nat) (claim : Claim)
    (probe : Probe)
| checkout (call : Call) (account : Account) (claim : Claim)
    (probe_failed : Bool)
| commit (about : String) (ending : Ending) (claim : Claim)
    (stored loaded : Account) (answer : Answer)
| finished (answer : Answer)

structure Shared where
  clock : Nat
  accounts : Accounts
  claims : Claims := .empty

structure Draw where
  seconds : Nat := 0
  claim_id : String := ""
  outside : Outside := {}

def internalError : Job := .finished (.raised 500 "Internal Server Error")

/- The commit of a claim and of its account. A claim without a row leaves the table alone. -/
def writeBack (claim : Claim) (stored loaded : Account) (s : Shared) :
    Option Shared :=
  let accounts := persistAccount stored loaded s.accounts
  match s.claims.find? claim.claim_id with
  | none => some { s with accounts := accounts }
  | some _ => (s.claims.update? claim.claim_id claim.writtenTo (fun _ => rfl)).map fun claims =>
          { s with claims := claims, accounts := accounts }

----
-- Claim Requests
----

variable (env : Env)

/- `_claim_requires_usd_zero`. -/
def claimRequiresUsdZero (request : ClaimRequest) : Bool := decide (strip request.currency = "") ||
    decide (env.upper (strip request.currency) = "USD")

/- The start of `claim_subscription_links` at this time. -/
def startRound (request : ClaimRequest) (now : Nat) : Round where
  now := now
  limit := (min (maxLimit : Int) (max 1 request.limit)).toNat
  lease_seconds := (min (maxLeaseSeconds : Int) (max 60 request.lease_seconds)).toNat
  consumer := String.ofList ((strip request.consumer).toList.take 120)
  plan := request.plan
  country := request.country

/- The expiry of the stale claims at this time. -/
def expire (request : ClaimRequest) (s : Shared) :
    Shared × Job :=
  ({ s with claims := expireStaleClaims s.clock s.claims },
    if claimRequiresUsdZero env request then .scan (startRound request s.clock)
    else .finished (.raised 400 "外部订阅链接只允许抽取 USD 0 元账单"))

/- The accounts of the next scan, by increasing id. -/
def scanAccounts (last_seen_id : Nat) (accounts : Accounts) :
    List Account :=
  ((accounts.rows.filter fun account => decide (account.platform = "chatgpt") &&
        decide (account.status ∉ ["subscribed", "invalid"]) &&
        decide (last_seen_id < account.id)).mergeSort
    fun a b => decide (a.id ≤ b.id)).take scanBatchSize

def scan (r : Round) (s : Shared) : Shared × Job :=
  if r.limit ≤ r.claimed.length then (s, .finished (.items r.claimed))
  else
    match scanAccounts r.last_seen_id s.accounts with
    | [] => (s, .finished (.items r.claimed))
    | accounts => (s, .visit r (.loaded accounts))

/- `_claim_matches_filters`. -/
def claimMatchesFilters (r : Round) (link : Link) : Bool :=
  decide (env.lower (strip link.plan) = "plus") &&
    (decide (r.country = "") ||
      decide (env.normalizeCountry r.country link.currency =
          env.normalizeCountry link.country link.currency))

/- The link of an account that can be handed out. -/
def sendableLink (r : Round) (account : Account) : Option Link :=
  if claimIsActive account.extra.claim r.now then none
  else
    (paymentLink env account.extra).filter fun link =>
      !linkIsBlocked link r.now && claimMatchesFilters env r link

def visitAccount (r : Round) (account : Account) (rest : Batch) (s : Shared) :
    Shared × Job :=
  let r := { r with last_seen_id := max r.last_seen_id account.id }
  if r.limit ≤ r.claimed.length then (s, .scan r)
  else
    match sendableLink env r account with
    | none => (s, .visit r rest)
    | some link => (s, .reserve r account link rest)

/- The next account: as it was loaded, or as it is stored. -/
def visit (r : Round) (batch : Batch) (s : Shared) :
    Shared × Job :=
  match batch with
  | .loaded [] => (s, .scan r)
  | .loaded (account :: rest) => visitAccount env r account (.loaded rest) s
  | .expired [] => (s, .scan r)
  | .expired (id :: rest) =>
    match s.accounts.find? id with
    | none => (s, internalError)
    | some account => visitAccount env r account (.expired rest) s

/- `_reserve_subscription_claim`, up to the insertion. -/
def reserve (r : Round) (account : Account) (link : Link)
    (batch : Batch) (s : Shared) : Shared × Job :=
  if activeClaimForAccount s.claims account.id then (s, .visit r batch)
  else (s, .insert r account link batch.ids)

def reservation (r : Round) (account : Account) (link : Link) (claim_id : String) : Claim where
  claim_id := claim_id
  account_id := account.id
  consumer := r.consumer
  payment_link := link.url
  plan := orElse link.plan "plus"
  country := link.country
  currency := link.currency
  precheck_expires_at := some (r.now + defaultPrecheckSeconds)
  attempt :=
    match account.extra.claim with
    | none => 1
    | some claim => claim.attempt + 1

/- The commit of `_reserve_subscription_claim`. -/
def insert (draw : Draw) (r : Round) (account : Account) (link : Link)
    (ids : List Nat) (s : Shared) : Shared × Job :=
  let claim := reservation r account link draw.claim_id
  match s.claims.insert? claim with
  | none => (s, .visit r (.expired ids))
  | some claims =>
    ({ s with claims := claims }, .preflight r claim account.id account.extra link ids)

/- A claim whose link is rejected, and its account. -/
def Claim.rejected (rejection : Rejection) (reason : String) (claim : Claim) :
    Claim :=
  { claim with
    status := rejection.status, last_error := cleanText reason 800,
    failure_status := some rejection.status }

def Account.rejected (r : Round) (rejection : Rejection) (reason : String)
    (claim : Claim) (extra : Extra) (account : Account) : Account :=
  { account with
    extra :=
      { markLinkStatus rejection.status reason none none
          (if rejection = .precheckFailed then some (r.now + precheckFailedCooldownSeconds)
          else none) extra with
        claim := some claim } }

def recordRejected (r : Round) (rejection : Rejection) (reason : String)
    (claim : Claim) (extra : Extra) (account : Account) (ids : List Nat) : Job :=
  let claim := claim.rejected rejection reason
  .record r claim (account.rejected r rejection reason claim extra) account false ids

/- A claim that is handed out, and its account. -/
def Claim.handedOut (r : Round) (link : Link) (claim : Claim) : Claim :=
  { claim with
    status := .claimed, lease_expires_at := some (r.now + r.lease_seconds),
    verify_after_at := some (r.now + env.verify_after_seconds), payment_link := link.url,
    plan := orElse link.plan "plus", country := link.country, currency := "USD", last_error := "" }

def Account.handedOut (claim : Claim) (extra : Extra) (account : Account) :
    Account :=
  markPaymentPending
    { account with
      extra := markLinkStatus .leased "已通过 USD 0 元本地预检并出租"
          claim.lease_expires_at claim.verify_after_at none { extra with claim := some claim } }

def preflight (draw : Draw) (r : Round) (claim : Claim) (account_id : Nat)
    (extra : Extra) (link : Link) (ids : List Nat) (s : Shared) : Shared × Job :=
  match s.accounts.find? account_id with
  | none => (s, internalError)
  | some account =>
    match draw.outside.preflight with
    | .ready =>
      let claim := claim.handedOut env r link
      (s, .record r claim (account.handedOut claim extra) account true ids)
    | .rejected rejection reason =>
      if rejection = .alreadyPaid then (s, .sync r claim account extra ids)
      else (s, recordRejected r rejection reason claim extra account ids)

/- The account as `_refresh_account_local_status` stores it. -/
def Account.refreshed (probe : Probe) (extra : Extra) (account : Account) :
    Account :=
  { account with status := probe.account_status, extra := extra }

/- The status probe of an account that has paid already; an exception is noted in the reason. -/
def sync (draw : Draw) (r : Round) (claim : Claim) (account : Account)
    (extra : Extra) (ids : List Nat) (s : Shared) : Shared × Job :=
  match draw.outside.probe with
  | none => (s, recordRejected r .alreadyPaid "已经支付过: 账号状态更新失败" claim extra account ids)
  | some probe => ({ s with
         accounts := persistAccount (account.refreshed probe extra) account s.accounts },
        .synced r claim account.id ids)

def synced (r : Round) (claim : Claim) (account_id : Nat)
    (ids : List Nat) (s : Shared) : Shared × Job :=
  match s.accounts.find? account_id with
  | none => (s, internalError)
  | some account => (s, recordRejected r .alreadyPaid
          (if env.lower (strip account.status) = "subscribed" then "已经支付过: 已同步账号状态为已订阅"
          else "已经支付过: 已触发账号状态更新，本地仍未确认订阅")
          claim account.extra account ids)

/- `_serialize_claimed_item`. -/
def claimedItem (account : Account) (claim : Claim) : Item where
  claim_id := claim.claim_id
  account_id := account.id
  email := account.email
  status := account.status
  payment_link := claim.payment_link
  claim_status := claim.status
  consumer := claim.consumer
  lease_expires_at := claim.lease_expires_at
  verify_after_at := claim.verify_after_at

def record (r : Round) (claim : Claim) (stored loaded : Account)
    (sent : Bool) (ids : List Nat) (s : Shared) : Shared × Job :=
  match writeBack claim stored loaded s with
  | none => (s, internalError)
  | some s => (s, .visit
          (if sent then { r with claimed := r.claimed ++ [claimedItem stored claim] }
          else r)
          (.expired ids))

----
-- Releases, Results And Verifications
----

/- The texts of a result's `status`. -/
def resultStatus (status : String) : Option Status :=
  let status := env.lower (strip status)
  if status ∈ ["success", "succeeded", "paid", "subscribed"] then some .paid
  else if status ∈ ["failed", "fail", "error", "cancelled", "canceled"] then some .failed
  else if status ∈ ["processing", "pending", "running"] then some .processing
  else none

/- A payment that records this result already. -/
def Payment.records (claim_id payment_id : String) (status : Status) (payment : Payment) : Bool :=
  decide (payment.claim_id = claim_id) &&
    decide (payment.external_payment_id = payment_id) &&
    decide (payment.status = status)

/- `payment` of a result. -/
def ResultRequest.payment (claim_id : String) (status : Status)
    (request : ResultRequest) : Payment where
  status := status
  provider := orElse (strip (orElse request.provider "external")) "external"
  external_payment_id := strip request.external_payment_id
  claim_id := claim_id
  message := strip request.message
  error_code := strip request.error_code

/- `claim.update` of a result. -/
def Claim.reported (payment : Payment) (claim : Claim) : Claim :=
  { claim with
    status := payment.status, external_payment_id := payment.external_payment_id,
    provider := payment.provider }

def Account.withResult (claim : Claim) (payment : Payment) (account : Account) :
    Account :=
  { account with extra := { account.extra with claim := some claim, payment := some payment } }

/- A result of `processing`. -/
def commitProcessing (about claim_id : String) (request : ResultRequest)
    (account : Account) (claim : Claim) : Job :=
  let payment := request.payment claim_id .processing
  let claim := claim.reported payment
  let marked :=
    { markPaymentPending account with
      extra := markLinkStatus .verifyPending (orElse payment.message "外部回写处理中")
          none none none account.extra }
  .commit about .processing claim (marked.withResult claim payment) account (.written claim)

def commitRelease (about reason : String) (account : Account) (claim : Claim) :
    Job :=
  let claim := { claim with status := .released, release_reason := strip reason }
  .commit about .released claim
    { account with
      extra := markLinkStatus .available (orElse reason "claim 已释放") none none none
          { account.extra with claim := some claim } }
    account (.written claim)

/- What a request does with the account and the claim that it has found. -/
def begin (account : Account) (claim : Claim) (purpose : Purpose) (now : Nat) : Job :=
  match purpose with
  | .release reason =>
    if claim.status = .paid then .finished .kept
    else commitRelease claim.claim_id reason account claim
  | .verify =>
    if claim.status = .claimed ∨ claim.status = .processing then .refresh
        { about := claim.claim_id, now := now, cause := .verify } account claim
    else .finished (.skipped claim)
  | .result claim_id request =>
    match resultStatus env request.status with
    | none => .finished (.raised 400 "status 只能是 paid/failed/processing")
    | some status =>
      match account.extra.payment.filter (Payment.records claim_id
            (strip request.external_payment_id) status) with
      | some payment => .finished (.idempotent claim payment)
      | none =>
        if status = .processing then commitProcessing claim.claim_id claim_id request account claim
        else
          .refresh
            { about := claim.claim_id
              now := now
              cause :=
                if status = .paid then .paid claim_id request
                else .failed claim_id request }
            account
            (claim.reported (request.payment claim_id status))

/- An account whose `extra` has a claim of this id. -/
def Account.hasClaim (claim_id : String) (account : Account) :
    Bool :=
  decide (account.platform = "chatgpt") &&
    account.extra.claim.any fun claim => decide (claim.claim_id = claim_id)

/- `_find_claim`, the row; a claim without a row is looked for in the accounts. -/
def find (claim_id : String) (purpose : Purpose) (s : Shared) :
    Shared × Job :=
  let missing : Job := .finished (.raised 404 "claim 不存在")
  if strip claim_id = "" then (s, missing)
  else
    match s.claims.find? (strip claim_id) with
    | some row => (s, .findAccount row purpose)
    | none =>
      match s.accounts.rows.find? (Account.hasClaim (strip claim_id)) with
      | none => (s, missing)
      | some account =>
        match account.extra.claim with
        | none => (s, missing)
        | some claim => (s, begin env account claim purpose s.clock)

/- `_find_claim`, the account of the row. -/
def findAccount (row : Claim) (purpose : Purpose) (s : Shared) :
    Shared × Job :=
  match s.accounts.find? row.account_id with
  | none => (s, .finished (.raised 404 "claim 对应账号不存在"))
  | some account =>
    if account.platform = "chatgpt" then (s, begin env account row purpose s.clock)
    else (s, .finished (.raised 404 "claim 对应账号不存在"))

/- `_set_claim_paid`. -/
def setClaimPaid (about provider message : String) (account : Account) (claim : Claim) : Job :=
  let claim := { claim with status := .paid, provider := provider }
  let payment : Payment :=
    { status := .paid, provider := provider, external_payment_id := claim.external_payment_id,
      claim_id := claim.claim_id, message := message, error_code := "" }
  let stored := account.withResult claim payment
  .commit about .confirmed claim (markPaymentSucceeded
      { stored with extra := markLinkStatus .paid message none none none stored.extra })
    account (.written claim)

/- `_set_claim_verify_pending`. -/
def setClaimVerifyPending (about : String) (now : Nat) (reason : String)
    (payment : Payment) (account : Account) (claim : Claim) : Job :=
  let verify_after_at := some (now + env.verify_after_seconds)
  let claim :=
    { claim with
      status := .processing, verify_after_at := verify_after_at,
      last_error := cleanText reason 800 }
  let payment := { payment with status := .verifyPending, verify_after_at := verify_after_at }
  let stored := account.withResult claim payment
  .commit about .unconfirmed claim
    (markPaymentPending
      { stored with
        extra := markLinkStatus .verifyPending reason none verify_after_at none stored.extra })
    account (.written claim)

/- `_set_claim_failed`. -/
def setClaimFailed (about : String) (status : Status) (reason : String)
    (account : Account) (claim : Claim) : Job :=
  let claim :=
    { claim with
      status := .failed, last_error := cleanText reason 800,
      failure_status := some status }
  let payment : Payment :=
    { status := .failed, provider := "local_verify",
      external_payment_id := claim.external_payment_id, claim_id := claim.claim_id,
      message := cleanText reason 800, error_code := status.text }
  let stored := account.withResult claim payment
  .commit about .unverified claim (markPaymentFailed
      { stored with extra := markLinkStatus status reason none none none stored.extra })
    account (.written claim)

/- A failed result that the probe does not contradict. -/
def commitFailed (about : String) (payment : Payment) (account : Account) (claim : Claim) : Job :=
  let reason := orElse payment.message payment.error_code
  let claim := { claim with last_error := reason }
  let marked :=
    { markPaymentFailed account with
      extra := markLinkStatus .available reason none none none account.extra }
  .commit about .failed claim (marked.withResult claim payment) account (.written claim)

/- What follows the status probe, or its exception. -/
def afterProbe (call : Call) (account : Account) (claim : Claim) (probe : Option Probe) : Job :=
  let confirmed := probe.any Probe.has_paid_subscription
  match call.cause with
  | .paid claim_id request =>
    let payment := request.payment claim_id .paid
    if confirmed then setClaimPaid call.about payment.provider
        (orElse payment.message "外部回写已支付，本地已确认订阅状态") account claim
    else
      setClaimVerifyPending env call.about call.now
        (if probe.isNone then "本地订阅状态刷新失败"
        else "外部回写已支付，但本地订阅状态尚未显示 " ++ "Plus/付费计划")
        payment account claim
  | .failed claim_id request =>
    if confirmed then setClaimPaid call.about "local_verify" "外部回写失败，但本地已确认订阅状态" account claim
    else commitFailed call.about (request.payment claim_id .failed) account claim
  | .verify =>
    if confirmed then setClaimPaid call.about "local_verify"
        (verifyLabel env ++ " 本地复核已确认订阅状态") account claim
    else .checkout call account claim probe.isNone

/- The status probe of a call, and its commit. -/
def refresh (draw : Draw) (call : Call) (account : Account)
    (claim : Claim) (s : Shared) : Shared × Job :=
  match draw.outside.probe with
  | none => (s, afterProbe env call account claim none)
  | some probe => ({ s with
         accounts := persistAccount (account.refreshed probe account.extra) account s.accounts },
        .reread call account.id claim probe)

def Cause.report : Cause → Claim → Claim
| .paid claim_id request, claim => claim.reported (request.payment claim_id .paid)
| .failed claim_id request, claim => claim.reported (request.payment claim_id .failed)
| .verify, claim => claim

/- The account after its status probe. The claim is the one in its `extra`, if there is one. -/
def reread (call : Call) (account_id : Nat) (claim : Claim)
    (probe : Probe) (s : Shared) : Shared × Job :=
  match s.accounts.find? account_id with
  | none => (s, internalError)
  | some account => (s, afterProbe env call account
          (call.cause.report (account.extra.claim.getD claim)) (some probe))

/- The preflight of the link in a verification. -/
def checkout (draw : Draw) (call : Call) (account : Account)
    (claim : Claim) (probe_failed : Bool) : Job :=
  let unverified := setClaimFailed call.about
      (if probe_failed then .unverified else .timeoutUnpaid)
      (if probe_failed then "本地状态复核失败"
      else verifyLabel env ++ " 本地复核未确认 paid/subscribed")
      account claim
  match paymentLink env account.extra with
  | none => unverified
  | some _ =>
    match draw.outside.preflight with
    | .ready => unverified
    | .rejected .precheckFailed _ => unverified
    | .rejected .alreadyPaid _ => setClaimFailed call.about .alreadyPaid
          (verifyLabel env ++ " checkout 复核显示该订阅链接已支付，" ++ "但本地订阅状态尚未显示 Plus/付费计划") account claim
    | .rejected rejection reason => setClaimFailed call.about rejection.status reason account claim

def commit (claim : Claim) (stored loaded : Account) (answer : Answer)
    (s : Shared) : Shared × Job :=
  match writeBack claim stored loaded s with
  | none => (s, internalError)
  | some s => (s, .finished answer)

----
-- Steps
----

def Shared.wait (seconds : Nat) (s : Shared) : Shared := { s with clock := s.clock + seconds }

def stepJob (env : Env) (draw : Draw) (s : Shared) :
    Job → Shared × Job
| .expire request => expire env request s
| .scan r => scan r s
| .visit r batch => visit env r batch s
| .reserve r account link batch => reserve r account link batch s
| .insert r account link ids => insert draw r account link ids s
| .preflight r claim account_id extra link ids =>
    preflight env draw r claim account_id extra link ids s
| .sync r claim account extra ids => sync draw r claim account extra ids s
| .synced r claim account_id ids => synced env r claim account_id ids s
| .record r claim stored loaded sent ids => record r claim stored loaded sent ids s
| .find claim_id purpose => find env claim_id purpose s
| .findAccount row purpose => findAccount env row purpose s
| .refresh call account claim => refresh env draw call account claim s
| .reread call account_id claim probe => reread env call account_id claim probe s
| .checkout call account claim probe_failed =>
    (s, checkout env draw call account claim probe_failed)
| .commit _ _ claim stored loaded answer => commit claim stored loaded answer s
| .finished answer => (s, .finished answer)

/- One step of a request after some seconds. -/
def advance (env : Env) (draw : Draw) (s : Shared) (job : Job) :
    Shared × Job :=
  stepJob env draw (s.wait draw.seconds) job

def Job.done : Job → Bool
| .finished _ => true
| _ => false

/- A request as it arrives, or a timer that fires. -/
inductive Request where
| claim (request : ClaimRequest)
| release (claim_id : String) (reason : String)
| result (claim_id : String) (request : ResultRequest)
| verify (claim_id : String)

def Request.job (env : Env) : Request → Job
| .claim request =>
    let plan := env.lower (strip request.plan)
    if plan ≠ "" ∧ plan ≠ "plus" then .finished (.raised 400 "外部订阅链接只支持 Plus 套餐")
    else .expire request
| .release claim_id reason => .find claim_id (.release reason)
| .result claim_id request => .find claim_id (.result claim_id request)
| .verify claim_id => .find claim_id .verify

def program (env : Env) :
    JobPool.Program Shared Job Request Draw where
  start := Request.job env
  advance := advance env
  done := Job.done
  ended := .finished .none

abbrev Op := JobPool.Op Request Draw

/- The system that starts with some accounts and no claims. -/
abbrev run (env : Env) (accounts : Accounts) (ops : List Op) :
    JobPool.State Shared Job :=
  JobPool.run (program env) { clock := 0, accounts := accounts } ops

end SubscriptionLinks
