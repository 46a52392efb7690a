import AutoGpt.Library.KeyedTable
import AutoGpt.Library.Machine
import AutoGpt.Library.PyText

/-
  The recorders of the phone pool
  (`services/chatgpt_core/phone_pool_repository.py`): how a
  task's outcome changes the row of the phone that it used.
-/

open PyText (strip)

----
-- Rows
----

namespace PhonePool

/- `str.lower` and `str.isdigit` with a law that
   `_normalize_email` relies on, and the text of a time. -/
structure Env where
  lower : String → String
  isdigit : Char → Bool
  isoformat : Int → String
  lower_again :
    ∀ value, lower (strip (lower (strip value))) = lower (strip value)

/- `ALL_STATUSES`. -/
inductive PhoneStatus where
| active
| cannot_send
| rate_limited
| cooldown
| exhausted
| disabled
deriving DecidableEq

/- The status of a name in `ALL_STATUSES`. -/
def PhoneStatus.ofName? (name : String) : Option PhoneStatus :=
  if name = "active" then some .active
  else if name = "cannot_send" then some .cannot_send
  else if name = "rate_limited" then some .rate_limited
  else if name = "cooldown" then some .cooldown
  else if name = "exhausted" then some .exhausted
  else if name = "disabled" then some .disabled
  else none

/- The columns of `PhonePoolModel` that a recorder reads or writes; the JSON column is the list that
   it stores. -/
structure PhoneRow where
  phone_e164 : String
  status : PhoneStatus := .active
  bound_count : Int := 0
  bound_account_emails_json : List String := []
  max_accounts : Int := 3
  success_count : Int := 0
  fail_count : Int := 0
  last_error_code : String := ""
  last_error_message : String := ""
  cooldown_until : String := ""
  last_used_at : String := ""
  updated_at : Int := 0
deriving DecidableEq

abbrev PhoneTable := KeyedTable PhoneRow String PhoneRow.phone_e164

variable (env : Env)

/- `normalize_phone(value)`. -/
def normalize_phone (value : String) : String :=
  let digits := value.toList.filter env.isdigit
  if digits = [] then "" else "+" ++ String.ofList digits

/- `_normalize_email(value)`. -/
def normalize_email (value : String) : String := env.lower (strip value)

/- One round of the loops of the two functions below. -/
def add_email (emails : List String) (value : String) :
    List String :=
  let email := normalize_email env value
  if email = "" ∨ email ∈ emails then emails
  else emails ++ [email]

/- `_parse_email_list(value)`. -/
def parse_email_list (value : List String) : List String := value.foldl (add_email env) []

/- `_dump_email_list(values)`. -/
def dump_email_list (values : List String) : List String := values.foldl (add_email env) []

/- The row that `add` and `import_lines` create. -/
def imported_row (phone_norm : String) (max_accounts : Int) (now : Int) :
    PhoneRow where
  phone_e164 := phone_norm
  max_accounts := max (if max_accounts = 0 then 3 else max_accounts) 1
  updated_at := now

/- `value[:limit]`. -/
def truncated (limit : Nat) (value : String) : String := String.ofList (value.toList.take limit)

----
-- Recorders
----

/- `int(model.max_accounts or default)`. -/
def PhoneRow.capacity (row : PhoneRow) (default : Int) : Int :=
  if row.max_accounts = 0 then default else row.max_accounts

/- What `record_success` does to the row. -/
def PhoneRow.recordSuccess (email : String) (now : Int) (row : PhoneRow) : PhoneRow :=
  let email_norm := normalize_email env email
  let bound_emails := parse_email_list env row.bound_account_emails_json
  let is_new := email_norm ∉ bound_emails
  let bound_count :=
    if email_norm = "" ∨ is_new then row.bound_count + 1
    else row.bound_count
  { row with
    bound_account_emails_json :=
      if email_norm = "" then row.bound_account_emails_json
      else if is_new then dump_email_list env (bound_emails ++ [email_norm])
      else dump_email_list env bound_emails
    bound_count := bound_count
    success_count := row.success_count + 1
    last_used_at := env.isoformat now
    last_error_code := ""
    last_error_message := ""
    cooldown_until := ""
    status :=
      if row.capacity 3 ≤ bound_count then .exhausted
      else .active
    updated_at := now }

/- What `record_phone_signup_success` does to the row. -/
def PhoneRow.recordPhoneSignupSuccess (email : String) (now : Int) (row : PhoneRow) : PhoneRow :=
  let email_norm := normalize_email env email
  let bound_emails := parse_email_list env row.bound_account_emails_json
  { row with
    bound_account_emails_json :=
      if email_norm ≠ "" ∧ email_norm ∉ bound_emails then
        dump_email_list env (bound_emails ++ [email_norm])
      else dump_email_list env bound_emails
    bound_count := max (row.bound_count + 1) (row.capacity 1)
    success_count := row.success_count + 1
    last_used_at := env.isoformat now
    last_error_code := "registered_phone_signup"
    last_error_message := ""
    cooldown_until := ""
    status := .exhausted
    updated_at := now }

/- What `record_failure` does to the row. -/
def PhoneRow.recordFailure (status error_code error_message : String) (cooldown_seconds : Int)
    (now : Int) (row : PhoneRow) : PhoneRow :=
  let target := (PhoneStatus.ofName? status).getD .active
  let forwarding := strip error_code = "api_forward_error"
  { row with
    fail_count := row.fail_count + 1
    last_used_at := env.isoformat now
    last_error_code := truncated 64 error_code
    last_error_message := truncated 500 error_message
    status :=
      if target ≠ .active then target
      else if forwarding then .active
      else row.status
    cooldown_until :=
      if target = .active ∧ forwarding then ""
      else if 0 < cooldown_seconds then env.isoformat (now + cooldown_seconds)
      else row.cooldown_until
    updated_at := now }

/- What `record_probe_success` does to the row. -/
def PhoneRow.recordProbeSuccess (now : Int) (row : PhoneRow) : PhoneRow :=
  { row with
    status := .active, last_used_at := env.isoformat now, last_error_code := "",
    last_error_message := "", cooldown_until := "", updated_at := now }

theorem recordSuccess_phone (email : String) (now : Int) (row : PhoneRow) :
    (row.recordSuccess env email now).phone_e164 = row.phone_e164 := rfl

theorem recordPhoneSignupSuccess_phone (email : String) (now : Int) (row : PhoneRow) :
    (row.recordPhoneSignupSuccess env email now).phone_e164 = row.phone_e164 := rfl

theorem recordFailure_phone (status error_code error_message : String)
    (cooldown_seconds now : Int) (row : PhoneRow) :
    (row.recordFailure env status error_code error_message
      cooldown_seconds now).phone_e164 =
      row.phone_e164 := rfl

theorem recordProbeSuccess_phone (now : Int) (row : PhoneRow) :
    (row.recordProbeSuccess env now).phone_e164 = row.phone_e164 := rfl

/- `record_success(phone, email=...)`. -/
def record_success (phone email : String) (now : Int) (t : PhoneTable) :
    PhoneTable :=
  t.updateKey (normalize_phone env phone) (fun row => row.recordSuccess env email now)
    (recordSuccess_phone env email now)

/- `record_phone_signup_success(phone, email=...)`. -/
def record_phone_signup_success (phone email : String) (now : Int) (t : PhoneTable) :
    PhoneTable :=
  t.updateKey (normalize_phone env phone) (fun row => row.recordPhoneSignupSuccess env email now)
    (recordPhoneSignupSuccess_phone env email now)

/- `record_failure(phone, status=..., ...)`. -/
def record_failure (phone status error_code error_message : String)
    (cooldown_seconds now : Int) (t : PhoneTable) : PhoneTable :=
  t.updateKey (normalize_phone env phone)
    (fun row => row.recordFailure env status error_code error_message cooldown_seconds now)
    (recordFailure_phone env status error_code error_message cooldown_seconds now)

/- `record_probe_success(phone)`. -/
def record_probe_success (phone : String) (now : Int) (t : PhoneTable) :
    PhoneTable :=
  t.updateKey (normalize_phone env phone) (fun row => row.recordProbeSuccess env now)
    (recordProbeSuccess_phone env now)

/- `record_prefix_unavailable(phone, error_code=...)`. -/
def record_prefix_unavailable (phone error_code reason : String)
    (now : Int) (t : PhoneTable) : PhoneTable :=
  record_failure env phone "cannot_send" (truncated 64 (PyText.orElse error_code "cannot_send"))
    reason 0 now t

/- `PHONE_POOL_RATE_LIMIT_RECOVERY_SECONDS`. -/
def rate_limit_recovery_seconds : Int := 60 * 60

/- `record_task_status(phone, task_status, ...)`. -/
def record_task_status (phone task_status reason email : String)
    (now : Int) (t : PhoneTable) : PhoneTable :=
  if task_status = "registered_phone_signup" then record_phone_signup_success env phone email now t
  else if task_status = "bound" then record_success env phone email now t
  else if task_status = "sms_probe_received" then record_probe_success env phone now t
  else if task_status = "openai_phone_limit" ∨ task_status = "phone_already_used" then
    record_failure env phone "exhausted" task_status reason 0 now t
  else if task_status = "openai_rejected" ∨ task_status = "api_no_code" ∨
      task_status = "api_error" then
    record_prefix_unavailable env phone task_status reason now t
  else if task_status = "api_forward_error" then
    record_failure env phone "active" task_status reason 0 now t
  else if task_status = "rate_limited" then
    record_failure env phone "rate_limited" task_status reason rate_limit_recovery_seconds now t
  else if task_status = "browser_error" ∨ task_status = "account_auth_error" ∨
      task_status = "unknown" then
    record_failure env phone "active" task_status reason 0 now t
  else t

inductive RecordCall where
| record_success (phone email : String) (now : Int)
| record_phone_signup_success
    (phone email : String) (now : Int)
| record_failure
    (phone status error_code error_message : String) (cooldown_seconds now : Int)
| record_task_status
    (phone task_status reason email : String) (now : Int)

def recordStep (t : PhoneTable) :
    RecordCall → PhoneTable × Unit
| .record_success phone email now => (PhonePool.record_success env phone email now t, ())
| .record_phone_signup_success phone email now =>
    (PhonePool.record_phone_signup_success env phone email now t, ())
| .record_failure phone status error_code error_message
    cooldown_seconds now =>
    (PhonePool.record_failure env phone status error_code error_message cooldown_seconds now t, ())
| .record_task_status phone task_status reason email now =>
    (PhonePool.record_task_status env phone task_status reason email now t, ())

end PhonePool
