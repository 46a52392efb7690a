import AutoGpt.Library.ActiveTable
import AutoGpt.Library.PyText

/-
  The data of `api/external_subscription.py`: claims and their
  rows, and the accounts with the copy of the last claim, the
  last payment and the payment link in their `extra`.
-/

open PyText (strip)

----
-- Claims
----

namespace SubscriptionLinks

/- `SCAN_BATCH_SIZE`. -/
def scanBatchSize : Nat := 50

/- `MAX_LIMIT`. -/
def maxLimit : Nat := 100

/- `MAX_LEASE_SECONDS`. -/
def maxLeaseSeconds : Nat := 86400

/- `DEFAULT_LEASE_SECONDS`. -/
def defaultLeaseSeconds : Nat := 900

/- `DEFAULT_PRECHECK_SECONDS`. -/
def defaultPrecheckSeconds : Nat := 300

/- `PRECHECK_FAILED_COOLDOWN_SECONDS`. -/
def precheckFailedCooldownSeconds : Nat := 600

/- The texts of `status`, `link_status` and `failure_status` that the module writes. -/
inductive Status where
| prechecking
| claimed
| processing
| paid
| failed
| released
| leaseExpired
| precheckExpired
| invalid
| alreadyPaid
| notUsd
| amountNotZero
| precheckFailed
| available
| leased
| verifyPending
| unverified
| timeoutUnpaid
deriving DecidableEq

def Status.text : Status → String
| .prechecking => "prechecking"
| .claimed => "claimed"
| .processing => "processing"
| .paid => "paid"
| .failed => "failed"
| .released => "released"
| .leaseExpired => "lease_expired"
| .precheckExpired => "precheck_expired"
| .invalid => "invalid"
| .alreadyPaid => "already_paid"
| .notUsd => "not_usd"
| .amountNotZero => "amount_not_zero"
| .precheckFailed => "precheck_failed"
| .available => "available"
| .leased => "leased"
| .verifyPending => "verify_pending"
| .unverified => "unverified"
| .timeoutUnpaid => "timeout_unpaid"

/- `ACTIVE_CLAIM_STATUSES`. -/
def Status.active : Status → Bool
| .prechecking => true
| .claimed => true
| .processing => true
| _ => false

/- A claim, as a row and as its dictionary. A deadline is the time of its ISO text, and none for the
   empty text. -/
structure Claim where
  claim_id : String
  account_id : Nat
  consumer : String := ""
  status : Status := .prechecking
  payment_link : String := ""
  plan : String := "plus"
  country : String := ""
  currency : String := ""
  precheck_expires_at : Option Nat := none
  lease_expires_at : Option Nat := none
  verify_after_at : Option Nat := none
  provider : String := ""
  external_payment_id : String := ""
  last_error : String := ""
  failure_status : Option Status := none
  release_reason : String := ""
  attempt : Nat := 1
deriving DecidableEq

/- The claim table with its partial unique index. -/
abbrev Claims :=
  ActiveTable Claim String Nat Claim.claim_id Claim.account_id (fun claim => claim.status.active)

/- `_update_claim_row_from_claim` on the row that it finds; the
   row is loaded for it, so every column is written. -/
def Claim.writtenTo (claim row : Claim) : Claim :=
  { row with
    consumer := claim.consumer, status := claim.status, payment_link := claim.payment_link,
    plan := claim.plan, country := claim.country, currency := claim.currency,
    lease_expires_at := claim.lease_expires_at, verify_after_at := claim.verify_after_at,
    provider := claim.provider, external_payment_id := claim.external_payment_id,
    last_error := claim.last_error, failure_status := claim.failure_status,
    release_reason := claim.release_reason, attempt := claim.attempt }

/- A row of this status whose deadline is over. -/
def stale (status : Status) (deadline : Claim → Option Nat) (now : Nat) (row : Claim) : Bool :=
  decide (row.status = status) && (deadline row).any fun time => decide (time ≤ now)

/- What the first statement of `_expire_stale_claims` sets. -/
def Claim.precheckExpired (row : Claim) : Claim :=
  { row with status := .precheckExpired, last_error := "预检预占超时，已自动释放" }

/- What the second statement of `_expire_stale_claims` sets. -/
def Claim.leaseExpired (row : Claim) : Claim :=
  { row with status := .leaseExpired, last_error := "领取租约超时，已自动释放" }

/- `_expire_stale_claims`. -/
def expireStaleClaims (now : Nat) (claims : Claims) : Claims := (claims.deactivateWhere
      (stale .prechecking Claim.precheck_expires_at now)
      Claim.precheckExpired (fun _ => rfl)
      (fun _ => rfl)).deactivateWhere
    (stale .claimed Claim.lease_expires_at now)
    Claim.leaseExpired (fun _ => rfl) (fun _ => rfl)

/- `_active_claim_for_account`. -/
def activeClaimForAccount (claims : Claims) (account_id : Nat) :
    Bool :=
  claims.rows.any fun row => decide (row.account_id = account_id) && row.status.active

/- `_claim_is_active` on the copy in an account's `extra`. -/
def claimIsActive (slot : Option Claim) (now : Nat) : Bool :=
  match slot with
  | none => false
  | some claim => (decide (claim.status = .claimed) ||
        decide (claim.status = .processing)) &&
        claim.lease_expires_at.any fun deadline => decide (now < deadline)

----
-- Accounts
----

/- `chatgpt_last_payment_link` in `extra`. -/
structure Link where
  url : String := ""
  plan : String := ""
  country : String := ""
  currency : String := ""
  link_status : Option Status := none
  link_status_reason : String := ""
  precheck_retry_after_at : Option Nat := none
  lease_expires_at : Option Nat := none
  verify_after_at : Option Nat := none

/- `EXTERNAL_PAYMENT_KEY` in `extra`. -/
structure Payment where
  status : Status
  provider : String
  external_payment_id : String
  claim_id : String
  message : String
  error_code : String
  verify_after_at : Option Nat := none

/- The keys of `extra` that the module reads. -/
structure Extra where
  claim : Option Claim := none
  payment : Option Payment := none
  link : Link := {}

/- `AccountModel`. -/
structure Account where
  id : Nat
  email : String := ""
  platform : String := "chatgpt"
  status : String := "registered"
  extra : Extra := {}

abbrev Accounts := KeyedTable Account Nat Account.id

/- The columns that `_persist_account` writes; `extra` is one text, which every call changes. -/
def Account.writtenTo (account loaded row : Account) : Account :=
  { row with
    status := Column.written account.status loaded.status row.status,
    extra := account.extra }

/- `_persist_account`. -/
def persistAccount (account loaded : Account) (accounts : Accounts) : Accounts :=
  accounts.updateKey account.id (account.writtenTo loaded) (fun _ => rfl)

structure Env where
  lower : String → String
  upper : String → String
  normalizeCountry : String → String → String
  verify_after_seconds : Nat

variable (env : Env)

/- `_verify_label`. -/
def verifyLabel : String := toString env.verify_after_seconds ++ "s"

/- `_clean_text`. -/
def cleanText (value : String) (limit : Nat) : String :=
  let text := strip value
  if limit < text.length then String.ofList (text.toList.take limit) ++ "..."
  else text

/- `_payment_link_from_account`. -/
def paymentLink (extra : Extra) : Option Link :=
  if strip extra.link.url ≠ "" ∧ env.lower (strip extra.link.plan) = "plus" then some extra.link
  else none

/- `TERMINAL_LINK_STATUSES`. -/
def terminalLinkStatuses : List Status := [.paid, .alreadyPaid, .invalid, .notUsd, .amountNotZero]

/- `_link_is_blocked`. -/
def linkIsBlocked (link : Link) (now : Nat) : Bool :=
  match link.link_status with
  | none => false
  | some status =>
    if status ∈ terminalLinkStatuses then true
    else if status = .precheckFailed then link.precheck_retry_after_at.any fun time =>
        decide (now < time)
    else if status = .leased ∨ status = .verifyPending then (link.lease_expires_at.any fun time =>
        decide (now < time)) ||
        link.verify_after_at.any fun time => decide (now < time)
    else false

/- `_mark_link_status`; the deadlines that are given replace the old ones. -/
def markLinkStatus (status : Status) (reason : String)
    (lease_expires_at verify_after_at retry_after_at : Option Nat) (extra : Extra) : Extra :=
  { extra with
    link :=
      { extra.link with
        link_status := some status, link_status_reason := cleanText reason 800,
        lease_expires_at := lease_expires_at.or extra.link.lease_expires_at,
        verify_after_at := verify_after_at.or extra.link.verify_after_at,
        precheck_retry_after_at := retry_after_at.or extra.link.precheck_retry_after_at } }

/- The account states that payments do not change. -/
def settledAccountStatuses : List String := ["invalid", "subscribed"]

/- `mark_payment_pending`. -/
def markPaymentPending (account : Account) : Account :=
  if strip account.status ∈ settledAccountStatuses then account
  else { account with status := "pending_payment" }

/- `mark_payment_failed`. -/
def markPaymentFailed (account : Account) : Account :=
  if strip account.status ∈ settledAccountStatuses then account
  else { account with status := "payment_failed" }

/- `mark_payment_succeeded`. -/
def markPaymentSucceeded (account : Account) : Account := { account with status := "subscribed" }

/- What the status probe of an account comes to: whether the
   plan is a paid one, and the status of the account. -/
structure Probe where
  has_paid_subscription : Bool
  account_status : String

/- The link states with which a preflight rejects a link. -/
inductive Rejection where
| invalid
| alreadyPaid
| notUsd
| amountNotZero
| precheckFailed
deriving DecidableEq

def Rejection.status : Rejection → Status
| .invalid => .invalid
| .alreadyPaid => .alreadyPaid
| .notUsd => .notUsd
| .amountNotZero => .amountNotZero
| .precheckFailed => .precheckFailed

/- What the preflight of a link returns, from the cache or from the checkout probe. -/
inductive Preflight where
| ready
| rejected (rejection : Rejection) (reason : String)

/- The answers of the outside to one step; none is an exception of the status probe. -/
structure Outside where
  probe : Option Probe := none
  preflight : Preflight := .ready

end SubscriptionLinks
