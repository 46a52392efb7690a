import AutoGpt.Library.KeyedTable
import AutoGpt.Library.PyText
import Mathlib.Data.List.Dedup
import Mathlib.Data.List.Sort

/-
  The iCloud HME tables of `core/db.py`: the aliases, the
  accounts that are matched with them by email, and the
  recheck queue; and the classification of the aliases for the
  automatic deletion.
-/

open PyText (strip)

----
-- Rows
----

namespace IcloudHme

/- `IcloudHmeAliasModel`; `status` is free text. -/
structure Alias where
  id : Nat
  anonymous_id : String
  hme : String
  forward_to : String := ""
  enabled : Bool := false
  created_source : String := "unknown"
  purpose : String := "chatgpt_register"
  bound_service : String := "chatgpt"
  bound_account_email : String := ""
  task_id : String := ""
  status : String := "reserved"
  use_count : Nat := 0
  last_error : String := ""

/- `AccountModel`. -/
structure Account where
  id : Nat
  email : String := ""
  platform : String := "chatgpt"
  status : String := "registered"
deriving DecidableEq

/- `IcloudHmeRecheckQueueModel`. -/
structure RecheckItem where
  id : Nat
  campaign_id : String
  anonymous_id : String
  status : String := "pending"
  result_code : String := ""
  result_message : String := ""
  saved_account_id : Nat := 0
  access_token_saved : Bool := false
  delete_candidate : Bool := false
  delete_candidate_reason : String := ""
  attempt_count : Nat := 0
  last_task_id : String := ""
  last_error : String := ""
  created_at : Nat := 0
  started_at : Option Nat := none
deriving DecidableEq

abbrev Aliases := KeyedTable Alias String Alias.anonymous_id

abbrev Accounts := KeyedTable Account Nat Account.id

abbrev Queue := KeyedTable RecheckItem Nat RecheckItem.id

/- The store. An alias is inserted under its stripped id only, and row ids begin with one. -/
structure Tables where
  aliases : Aliases
  accounts : Accounts
  queue : Queue := .empty
  stripped : ∀ row ∈ aliases.rows, strip row.anonymous_id = row.anonymous_id
  positive : ∀ account ∈ accounts.rows, 0 < account.id

----
-- Aliases And Their Accounts
----

/- `str.lower` with two of its values, the classification of the error of a recheck, and
   `is_account_deactivated_message` of a text. -/
structure Env where
  lower : String → String
  lower_empty : lower "" = ""
  lower_invalid : lower "invalid" = "invalid"
  classifyRecheckError : String → String
  isAccountDeactivatedMessage : String → Bool

variable (env : Env)

/- `_norm_alias_email`. -/
def normAliasEmail (value : String) : String := env.lower (strip value)

def Alias.inFlight (row : Alias) : Bool := decide (strip row.status = "in_use") ||
    (decide (strip row.status = "reserved") &&
      decide (strip row.task_id ≠ ""))

def Alias.readyStock (purpose bound_service : String) (row : Alias) : Bool := row.enabled &&
    decide (strip row.status = "reserved") &&
    decide (strip row.task_id = "") &&
    decide (strip row.bound_account_email = "") &&
    decide (row.purpose = purpose) &&
    decide (row.bound_service = bound_service)

/- The emails by which accounts match an alias. -/
def Alias.matchEmails (row : Alias) : List String := ([normAliasEmail env row.hme,
    normAliasEmail env row.bound_account_email].filter fun email => decide (email ≠ "")).dedup

/- `accounts_by_email` of some emails. -/
def matchedAccounts (accounts : Accounts) (emails : List String) :
    List Account :=
  emails.flatMap fun email => accounts.rows.filter fun account =>
      decide (account.platform = "chatgpt") &&
        decide (normAliasEmail env account.email = email)

def Account.alive (account : Account) : Bool :=
  decide (env.lower (strip account.status) ≠ "invalid")

/- `_latest_icloud_hme_recheck_campaign_id`. -/
def latestRecheckCampaignId (queue : Queue) : String :=
  match (queue.rows.insertionSort fun a b => b.created_at ≤ a.created_at).head? with
  | none => ""
  | some item => strip item.campaign_id

/- `recheck_by_anonymous_id` of a campaign. -/
def recheckByAnonymousId (queue : Queue) (campaign_id anonymous_id : String) :
    Option RecheckItem :=
  (queue.rows.filter fun item => decide (item.campaign_id = campaign_id) &&
      decide (strip item.anonymous_id ≠ "") &&
      decide (strip item.anonymous_id = anonymous_id)
  ).getLast?

----
-- Candidates
----

inductive Kind where
| orphan
| boundInvalid
deriving DecidableEq

/- A candidate of `run_once`. -/
structure Candidate where
  anonymous_id : String
  hme : String
  kind : Kind
  account_ids : List Nat
  recheck_confirmed : Bool
deriving DecidableEq

/- What the classification says about an alias. -/
inductive Disposition where
| retired
| inFlight
| readyStock
| recheckNotConfirmed
| orphan (recheck_confirmed : Bool)
| accountAlive
| boundInvalid (account_ids : List Nat)
    (recheck_confirmed : Bool)

variable (env : Env)

/- The classification by the matching accounts. -/
def classifyAccounts (matched : List Account) (recheck_confirmed : Bool) :
    Disposition :=
  if matched = [] then .orphan recheck_confirmed
  else if matched.any (Account.alive env) then .accountAlive
  else
    .boundInvalid
      (((matched.map Account.id).filter fun id => decide (id ≠ 0)).dedup.insertionSort (· ≤ ·))
      recheck_confirmed

/- The loop body of `list_icloud_hme_deletion_candidates`. -/
def classify (purpose bound_service : String) (tables : Tables) (row : Alias) : Disposition :=
  if strip row.status = "retired" then .retired
  else if row.inFlight then .inFlight
  else if row.readyStock purpose bound_service then .readyStock
  else
    let campaign_id := latestRecheckCampaignId tables.queue
    let confirmed := decide (campaign_id ≠ "") && (recheckByAnonymousId tables.queue campaign_id
          (strip row.anonymous_id)).any RecheckItem.delete_candidate
    if campaign_id ≠ "" ∧ confirmed = false then .recheckNotConfirmed
    else classifyAccounts env (matchedAccounts env tables.accounts (row.matchEmails env)) confirmed

/- The candidate of an alias, with its kind. -/
def candidate? (purpose bound_service : String) (tables : Tables)
    (row : Alias) : Option Candidate :=
  match classify env purpose bound_service tables row with
  | .orphan recheck_confirmed => some
        { anonymous_id := strip row.anonymous_id, hme := row.hme, kind := .orphan,
          account_ids := [], recheck_confirmed := recheck_confirmed }
  | .boundInvalid account_ids recheck_confirmed => some
        { anonymous_id := strip row.anonymous_id, hme := row.hme, kind := .boundInvalid,
          account_ids := account_ids, recheck_confirmed := recheck_confirmed }
  | _ => none

/- `list_icloud_hme_deletion_candidates` as `run_once` reads
   it: first the orphans, then the others. -/
def listDeletionCandidates (purpose bound_service : String) (tables : Tables) :
    List Candidate :=
  let found := (tables.aliases.rows.filterMap (candidate? env purpose bound_service tables)).filter
      fun cand => decide (cand.anonymous_id ≠ "")
  (found.filter fun cand => decide (cand.kind = .orphan)) ++
    found.filter fun cand => decide (cand.kind = .boundInvalid)

end IcloudHme
