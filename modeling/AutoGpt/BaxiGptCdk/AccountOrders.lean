import AutoGpt.BaxiGptCdk.PollTargets

/-
  The orders in `extra.baxigpt_cdk` of accounts, as
  `baxigpt_cdk_repository.py` and `baxigpt_status_poller.py`
  find and write them. A payload is built whole from a card's
  record, and a commit writes `extra_json` as one column.
-/

open PyText (orElse strip)

----
-- Accounts
----

namespace BaxiGptCdk

/- `extra["baxigpt_cdk"]`. -/
structure OrderPayload where
  status : String
  upstream_status : String := ""
  cdk_id : Nat := 0
  order_id : String := ""
  display_id : String := ""
  remote_email : String := ""
  task_id : String := ""
  bound_at : String := ""
  submitted_at : String := ""
  paid_at : String := ""
  last_checked_at : String := ""
  last_error_message : String := ""
  local_status_refresh : Option String := none
  polling_disabled : Bool := false
  polling_disabled_at : String := ""
  polling_disabled_reason : String := ""
deriving DecidableEq

/- An account; `rest` is what else is in `extra_json`: the history of orders, markers, probes. -/
structure OrderAccount where
  id : Nat
  platform : String := "chatgpt"
  email : String := ""
  status : String := ""
  payload : Option OrderPayload := none
  rest : String := ""
deriving DecidableEq

/- `extra_json`. -/
abbrev OrderAccount.extra_json (account : OrderAccount) :
    Option OrderPayload × String :=
  (account.payload, account.rest)

/- A commit writes the columns that differ from what its session has loaded. -/
def OrderAccount.committed (new loaded current : OrderAccount) : OrderAccount :=
  let extra_json := Column.written new.extra_json loaded.extra_json current.extra_json
  { current with
    status := Column.written new.status loaded.status current.status,
    payload := extra_json.1, rest := extra_json.2 }

@[simp] theorem OrderAccount.committed_id (new loaded current : OrderAccount) :
    (new.committed loaded current).id = current.id := rfl

abbrev OrderAccounts := KeyedTable OrderAccount Nat OrderAccount.id

def OrderAccount.pollingDisabled (account : OrderAccount) :
    Bool :=
  account.payload.any OrderPayload.polling_disabled

----
-- Bound Accounts
----

/- The account that a record names by id, or else by email. -/
def boundAccount? (accounts : OrderAccounts) (account_id : Nat)
    (email : String) : Option OrderAccount :=
  (if 0 < account_id then accounts.find? account_id
    else none).or
    (if email = "" then none
    else accounts.rows.find? fun account => account.platform = "chatgpt" && account.email = email)

/- The email by which a record names its account. -/
def Row.accountEmail (record : Row) : String :=
  strip (orElse record.bound_account_email record.remote_email)

/- The account of `persist_bound_account_extra`, or of
   `_refresh_bound_account_after_paid` for a paid record. -/
def persistedAccount? (accounts : OrderAccounts) (record : Row) :
    Option OrderAccount :=
  if record.status = .paid then (boundAccount? accounts record.bound_account_id
        record.accountEmail).filter fun account => account.platform = "chatgpt"
  else boundAccount? accounts record.bound_account_id (strip record.bound_account_email)

/- `_record_polling_disabled`. -/
def recordPollingDisabled (accounts : OrderAccounts) (record : Row) : Bool :=
  (boundAccount? accounts record.bound_account_id
    record.accountEmail).any OrderAccount.pollingDisabled

----
-- Payloads
----

/- `mark_payment_succeeded` or `mark_payment_failed`. -/
def applyPaymentState (record_status : Status) (account_status : String) :
    String :=
  match record_status with
  | .paid => "subscribed"
  | .failed =>
    if strip account_status ∈ ["invalid", "subscribed"] then account_status
    else "payment_failed"
  | _ => account_status

def Row.orderPayload (record : Row) (local_status_refresh : Option String)
    (account : OrderAccount) : OrderPayload where
  status := record.status.text
  upstream_status := record.upstream_status
  cdk_id := record.id
  order_id := record.order_id
  display_id := record.display_id
  remote_email := orElse account.email record.remote_email
  task_id := record.task_id
  bound_at := record.bound_at
  submitted_at := record.submitted_at
  paid_at := record.paid_at
  last_checked_at := record.last_checked_at
  last_error_message := record.last_error_message
  local_status_refresh :=
    local_status_refresh.or (account.payload.bind OrderPayload.local_status_refresh)

/- `persist_account_binding_extra`, for the status of the record. -/
def persistAccountBindingExtra (record : Row) (local_status_refresh : Option String)
    (apply_payment_state : Bool) (rest : String) (account : OrderAccount) : OrderAccount :=
  { account with
    status :=
      if apply_payment_state then applyPaymentState record.status account.status
      else account.status
    payload := some (record.orderPayload local_status_refresh account)
    rest := rest }

/- What a poll makes of the account of a record, with the
   summary of the local status if it was paid. -/
def persistedByPoll (record : Row) (summary rest : String)
    (account : OrderAccount) : OrderAccount :=
  if record.status = .paid then persistAccountBindingExtra record (some summary) false rest account
  else persistAccountBindingExtra record none true rest account

theorem payload_persistedByPoll (record : Row) (summary rest : String) (account : OrderAccount) :
    ∃ payload, (persistedByPoll record summary rest account).payload = some payload ∧
        payload.order_id = record.order_id := by
  unfold persistedByPoll
  split
  · exact ⟨_, rfl, rfl⟩
  · exact ⟨_, rfl, rfl⟩

/- An account that a commit has changed holds the new payload,
   unless its columns of `extra_json` were not written. -/
theorem payload_committed (new loaded current : OrderAccount) :
    (new.committed loaded current).payload = new.payload ∨ (new.extra_json = loaded.extra_json ∧
        (new.committed loaded current).payload = current.payload) := by
  unfold OrderAccount.committed Column.written
  by_cases hSame : new.extra_json = loaded.extra_json
  · exact .inr ⟨hSame, by simp only [if_pos hSame]⟩
  · exact .inl (by simp only [if_neg hSame])

end BaxiGptCdk
