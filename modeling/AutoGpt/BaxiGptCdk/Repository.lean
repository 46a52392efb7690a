import AutoGpt.Library.KeyedTable
import AutoGpt.Library.Machine
import AutoGpt.Library.PyText
import Mathlib.Data.List.Sort

/-
  The card pool of `baxigpt_cdk_repository.py`.

  Every method opens a session of its own: it reads one row,
  computes, writes the columns that differ from what it read
  when it commits, and reads the row again for its answer.
  Nothing is locked between the read and the commit, so the
  three parts are steps of their own, and sessions of several
  tasks interleave between them.
-/

open PyText (orElse strip)

----
-- Rows And Upstream Answers
----

namespace BaxiGptCdk

/- The `STATUS_*` constants. -/
inductive Status where
| available
| reserved
| submitted
| processing
| paid
| failed
| disabled
deriving DecidableEq

/- `BaxiGptCdkPoolModel`, without stored answer texts. -/
structure Row where
  id : Nat
  code_hash : String
  status : Status := .available
  bound_account_id : Nat := 0
  bound_account_email : String := ""
  bound_at : String := ""
  task_id : String := ""
  order_id : String := ""
  display_id : String := ""
  remote_email : String := ""
  upstream_status : String := ""
  code_info_remaining : Int := 0
  code_info_total : Int := 0
  last_error_code : String := ""
  last_error_message : String := ""
  submitted_at : String := ""
  paid_at : String := ""
  last_checked_at : String := ""
deriving DecidableEq

/- An item of `response["orders"]`. -/
structure Order where
  status : String := ""
  email : String := ""
  display_id : String := ""
  created_at : String := ""
  paid_at : String := ""
deriving DecidableEq

/- An upstream answer: `str(response.get(key) or "")` for each text key, and the integers of the
   keys that are present. -/
structure Response where
  ok : Bool := false
  status : String := ""
  status_code : String := ""
  order_id : String := ""
  display_id : String := ""
  email : String := ""
  remaining : Option Int := none
  total : Option Int := none
  used : Option Int := none
  message : String := ""
  msg : String := ""
  error : String := ""
  detail : String := ""
  reason : String := ""
  orders : List Order := []
deriving DecidableEq

/- The columns of `AccountModel` that the pool reads. -/
structure Account where
  id : Nat
  platform : String
  email : String

/- `str.lower` and `hashlib.sha256(...).hexdigest()`. -/
structure Env where
  lower : String → String
  sha256 : String → String

/- `hash_code`. -/
def hashCode (env : Env) (value : String) : String :=
  let code := strip value
  if code = "" then "" else env.sha256 code

/- `response_message`. -/
def responseMessage (response : Response) (fallback : String) :
    String :=
  (([response.message, response.msg, response.error,
      response.detail, response.reason].map strip).find? (fun text => text != "")).getD fallback

/- `text[:n]`. -/
def truncate (n : Nat) (text : String) : String := String.ofList (text.toList.take n)

/- `str(... or "").strip().lower()`. -/
def lowered (env : Env) (value : String) : String := env.lower (strip value)

/- The statuses that say an order was paid. -/
def paidStatuses : List String := ["paid", "success", "completed"]

/- The statuses that say an order is on its way. -/
def processingStatuses : List String := ["processing", "pending", "submitted"]

/- The statuses that say an order has failed. -/
def failedStatuses : List String :=
  ["failed", "expired", "cancelled", "canceled", "invalid", "used"]

----
-- What The Methods Write
----

/- `_clear_available_binding`. -/
def clearAvailableBinding (model : Row) : Row :=
  { model with
    bound_account_id := 0, bound_account_email := "", bound_at := "", task_id := "",
    order_id := "", display_id := "", remote_email := "", upstream_status := "" }

/- The statuses from which `reserve_for_account` reserves. -/
def reservable (model : Row) : Bool :=
  model.status ∈ [.available, .reserved, .processing, .submitted]

/- `reserve_for_account` on the row it read. -/
def reserveForAccount (account_id : Nat) (email task_id now : String) (model : Row) : Row :=
  { model with
    status := .reserved, bound_account_id := account_id,
    bound_account_email := strip email, bound_at := now, task_id := strip task_id,
    last_error_code := "", last_error_message := "" }

/- The first condition of `mark_code_info`. -/
def codeInfoUsable (response : Response) : Bool := response.ok && (response.remaining.isNone ||
      decide (0 < response.remaining.getD 0))

/- The statuses that a usable code-info does not reset. -/
def codeInfoKeeps (model : Row) : Bool :=
  model.status ∈ [.reserved, .processing, .submitted, .disabled]

/- `mark_code_info` on the row it read. -/
def markCodeInfo (response : Response) (now : String) (model : Row) : Row :=
  let checked :=
    { model with
      code_info_remaining := response.remaining.getD 0,
      code_info_total := response.total.getD 0, last_checked_at := now }
  if codeInfoUsable response then
    let freed :=
      if codeInfoKeeps model then checked
      else clearAvailableBinding { checked with status := .available }
    { freed with last_error_code := "", last_error_message := "" }
  else
    let failed :=
      if model.status ∈ [.paid, .processing, .submitted, .disabled]
      then checked
      else { checked with status := .failed }
    { failed with
      last_error_code := "code_info_failed"
      last_error_message := truncate 1000
          (responseMessage response "卡密不可用") }

/- `mark_submit_success` on the row it read. -/
def markSubmitSuccess (env : Env) (response : Response) (now : String) (model : Row) : Row :=
  let raw_status := orElse (lowered env (orElse response.status "submitted")) "submitted"
  let status : Status :=
    if raw_status ∈ paidStatuses then .paid
    else if raw_status ∈ ["processing", "pending"] then .processing
    else .submitted
  { model with
    status := status, order_id := strip (orElse response.order_id model.order_id),
    display_id := strip (orElse response.display_id model.display_id),
    remote_email := strip (orElse response.email model.remote_email), upstream_status := raw_status,
    submitted_at := now, last_checked_at := now,
    paid_at := if status = .paid then now else model.paid_at, last_error_code := "",
    last_error_message := "" }

/- `mark_failure` on the row it read. -/
def markFailure (error_code error_message : String) (response : Option Response) (now : String)
    (model : Row) : Row :=
  { model with
    status := .failed
    upstream_status := orElse
        (orElse (response.elim "" Response.status) model.upstream_status) "failed"
    last_error_code := truncate 80 error_code
    last_error_message := truncate 1000 error_message
    last_checked_at := now }

/- `mark_status_response` on the row it read. -/
def markStatusResponse (env : Env) (response : Response) (now : String) (model : Row) : Row :=
  let raw_status := lowered env response.status
  let status : Option Status :=
    if raw_status ∈ paidStatuses then some .paid
    else if raw_status ∈ processingStatuses then some .processing
    else if raw_status ∈ failedStatuses then some .failed
    else none
  let marked :=
    { model with
      status := status.getD model.status
      upstream_status := orElse raw_status model.upstream_status
      remote_email := strip (orElse response.email model.remote_email)
      display_id := strip (orElse response.display_id model.display_id)
      order_id := strip (orElse response.order_id model.order_id)
      last_checked_at := now
      paid_at :=
        if status = some .paid then orElse model.paid_at now
        else model.paid_at }
  if status = some .failed then
    { marked with
      last_error_code := orElse raw_status "upstream_failed"
      last_error_message := truncate 1000
          (orElse response.message
            (orElse response.msg
              (orElse response.error
                "上游状态失败"))) }
  else marked

----
-- The Query Answer
----

/- The orders whose status is in the list. -/
def ordersIn (env : Env) (statuses : List String) (response : Response) : List Order :=
  response.orders.filter (fun order => lowered env order.status ∈ statuses)

/- `chosen_order`. -/
def chosenOrder (env : Env) (response : Response) : Order :=
  (ordersIn env processingStatuses response ++ ordersIn env paidStatuses response ++
    ordersIn env failedStatuses response).headD {}

/- `paid_orders[0]`. -/
def paidOrder (env : Env) (response : Response) : Order :=
  (ordersIn env paidStatuses response).headD {}

/- The branches of `mark_query_response`. -/
inductive QueryBranch where
| refused
| processing
| quota
| paid
| paidOrder
| exhausted
| failed
| other
deriving DecidableEq

/- The `if` chain of `mark_query_response`. -/
def queryBranch (env : Env) (response : Response) (model : Row) :
    QueryBranch :=
  let raw_status := lowered env response.status
  let remaining := response.remaining.getD 0
  if response.ok = false then .refused
  else if ordersIn env processingStatuses response ≠ [] then .processing
  else if response.remaining.isSome ∧ 0 < remaining then .quota
  else if raw_status ∈ paidStatuses then .paid
  else if ordersIn env paidStatuses response ≠ [] then .paidOrder
  else if response.remaining.isSome ∧ remaining ≤ 0 ∨
      (response.used.isSome ∧ 0 < response.used.getD 0 ∧ response.orders = [] ∧
        strip model.order_id = "") then
    .exhausted
  else if raw_status ∈ failedStatuses ∨ ordersIn env failedStatuses response ≠ [] then .failed
  else .other

/- `model.status = status`, except on a disabled card. -/
def setUnlessDisabled (status : Status) (model : Row) : Row :=
  if model.status = .disabled then model
  else { model with status := status }

/- The account that a ChatGPT email belongs to. -/
def accountOf (accounts : List Account) (email : String) :
    Option Nat :=
  (accounts.find? fun account => account.platform = "chatgpt" && account.email = email).map
    Account.id

/- A query binds the card to the email of an order. -/
def bindEmail (accounts : List Account) (email : String) (model : Row) : Row :=
  if email = "" then model
  else
    { model with
      bound_account_email := email
      bound_account_id := (accountOf accounts email).getD
          model.bound_account_id }

/- `last_error_code = last_error_message = ""`. -/
def clearError (model : Row) : Row := { model with last_error_code := "", last_error_message := "" }

/- The part of `mark_query_response` before its branches. -/
def queryChecked (env : Env) (response : Response) (now : String) (model : Row) : Row :=
  let chosen := chosenOrder env response
  { model with
    last_checked_at := now
    code_info_remaining := response.remaining.getD model.code_info_remaining
    code_info_total := response.total.getD model.code_info_total
    display_id := orElse (strip chosen.display_id) model.display_id
    remote_email := orElse (strip chosen.email) model.remote_email
    submitted_at := orElse model.submitted_at
        (strip chosen.created_at) }

/- The branch that `mark_query_response` takes. -/
def queryMarked (env : Env) (accounts : List Account) (response : Response) (now : String)
    (branch : QueryBranch) (model : Row) : Row :=
  let raw_status := lowered env response.status
  let chosen := chosenOrder env response
  let paid := paidOrder env response
  match branch with
  | .refused =>
    { setUnlessDisabled .failed model with
      last_error_code :=
        orElse raw_status (orElse (lowered env response.status_code) "query_failed")
      last_error_message := truncate 1000
          (responseMessage response "卡密查询失败") }
  | .processing => clearError
        (bindEmail accounts (strip chosen.email) (setUnlessDisabled .processing model))
  | .quota => clearError
        (if model.status = .disabled then model
          else clearAvailableBinding { model with status := .available })
  | .paid => clearError
        { setUnlessDisabled .paid model with
          paid_at := orElse model.paid_at
              (orElse (strip chosen.paid_at)
                now) }
  | .paidOrder =>
    let bound := bindEmail accounts (strip paid.email) (setUnlessDisabled .paid model)
    clearError
      { bound with
        display_id := orElse (strip paid.display_id) model.display_id
        remote_email := orElse (strip paid.email) model.remote_email
        submitted_at := orElse model.submitted_at (strip paid.created_at)
        paid_at := orElse model.paid_at
            (orElse (strip paid.paid_at)
              now) }
  | .exhausted =>
    { setUnlessDisabled .failed model with
      last_error_code := "quota_exhausted"
      last_error_message :=
        if ordersIn env paidStatuses response = [] then "卡密配额已用完，但未查询到成功订单"
        else "卡密配额已用完" }
  | .failed =>
    { setUnlessDisabled .failed model with
      last_error_code := orElse raw_status (orElse (lowered env chosen.status) "query_order_failed")
      last_error_message := truncate 1000
          (responseMessage response
            "卡密查询返回订单失败") }
  | .other => model

/- `mark_query_response` on the row it read. -/
def markQueryResponse (env : Env) (accounts : List Account) (response : Response) (now : String)
    (model : Row) : Row :=
  let raw_status := lowered env response.status
  let raw_status_code := lowered env response.status_code
  let chosen_status := lowered env (chosenOrder env response).status
  let marked := queryMarked env accounts response now (queryBranch env response model)
      (queryChecked env response now model)
  { marked with
    upstream_status :=
      if marked.status = .available then orElse raw_status
          (orElse raw_status_code (orElse chosen_status marked.upstream_status))
      else
        orElse raw_status
          (orElse chosen_status
            (orElse raw_status_code
              marked.upstream_status)) }

----
-- Sessions
----

/- One method call, without the time and the task. -/
inductive Request where
| reserveForAccount (record_id account_id : Nat)
    (email : String)
| markCodeInfo (record_id : Nat) (response : Response)
| markQueryResponse (code : String) (response : Response)
| markSubmitSuccess (record_id : Nat) (response : Response)
| markFailure (record_id : Nat)
    (error_code error_message : String) (response : Option Response)
| markStatusResponse (record_id : Nat) (response : Response)
deriving DecidableEq

abbrev Cards := KeyedTable Row Nat Row.id

def Request.find (env : Env) (cards : Cards) :
    Request → Option Row
| .reserveForAccount record_id _ _ => cards.find? record_id
| .markCodeInfo record_id _ => cards.find? record_id
| .markQueryResponse code _ =>
    let code_hash := hashCode env code
    if code_hash = "" then none
    else cards.rows.find? fun row => row.code_hash = code_hash
| .markSubmitSuccess record_id _ => cards.find? record_id
| .markFailure record_id _ _ _ => cards.find? record_id
| .markStatusResponse record_id _ => cards.find? record_id

/- A method may return `None` on the row it read. -/
def Request.accepts (model : Row) : Request → Bool
| .reserveForAccount _ _ _ => reservable model
| .markCodeInfo _ _ => true
| .markQueryResponse _ _ => true
| .markSubmitSuccess _ _ => true
| .markFailure _ _ _ _ => true
| .markStatusResponse _ _ => true

/- The row that a method leaves in its session. -/
def perform (env : Env) (accounts : List Account)
    (task_id now : String) (model : Row) : Request → Row
| .reserveForAccount _ account_id email => reserveForAccount account_id email task_id now model
| .markCodeInfo _ response => markCodeInfo response now model
| .markQueryResponse _ response => markQueryResponse env accounts response now model
| .markSubmitSuccess _ response => markSubmitSuccess env response now model
| .markFailure _ error_code error_message response =>
    markFailure error_code error_message response now model
| .markStatusResponse _ response => markStatusResponse env response now model

inductive Phase where
| loaded
| committed
| closed
deriving DecidableEq

/- A session that a task has opened on one card. -/
structure Session where
  task_id : String
  request : Request
  now : String
  snapshot : Row
  phase : Phase := .loaded
deriving DecidableEq

/- A commit writes a column that differs from what was read. -/
def column {α : Type} [DecidableEq α] (read new stored : α) : α :=
  if new = read then stored else new

/- The `UPDATE` of one row; its key is never written. -/
def updateColumns (read new stored : Row) : Row where
  id := stored.id
  code_hash := stored.code_hash
  status := column read.status new.status stored.status
  bound_account_id := column read.bound_account_id new.bound_account_id stored.bound_account_id
  bound_account_email :=
    column read.bound_account_email new.bound_account_email stored.bound_account_email
  bound_at := column read.bound_at new.bound_at stored.bound_at
  task_id := column read.task_id new.task_id stored.task_id
  order_id := column read.order_id new.order_id stored.order_id
  display_id := column read.display_id new.display_id stored.display_id
  remote_email := column read.remote_email new.remote_email stored.remote_email
  upstream_status := column read.upstream_status new.upstream_status stored.upstream_status
  code_info_remaining :=
    column read.code_info_remaining new.code_info_remaining stored.code_info_remaining
  code_info_total := column read.code_info_total new.code_info_total stored.code_info_total
  last_error_code := column read.last_error_code new.last_error_code stored.last_error_code
  last_error_message :=
    column read.last_error_message new.last_error_message stored.last_error_message
  submitted_at := column read.submitted_at new.submitted_at stored.submitted_at
  paid_at := column read.paid_at new.paid_at stored.paid_at
  last_checked_at := column read.last_checked_at new.last_checked_at stored.last_checked_at

/- What the commit of a session makes of the stored row. -/
def Session.write (env : Env) (accounts : List Account) (s : Session) (stored : Row) : Row :=
  updateColumns s.snapshot (perform env accounts s.task_id s.now s.snapshot s.request) stored

/- The pool and the sessions that tasks opened on it. -/
structure Pool where
  cards : Cards
  sessions : List Session := []

/- One step: a whole read-only call, or one of the three parts of a session. The account table of a
   commit is the one that `mark_query_response` reads inside its transaction. -/
inductive Op where
| listSubmitCandidates (ids : List Nat)
| load (task_id : String) (request : Request) (now : String)
| commit (session : Nat) (accounts : List Account)
| refresh (session : Nat)

inductive Answer where
| records (records : List Row)
| none
| opened (session : Nat)
| committed
| record (record : Option Row)
| ignored

/- `list_by_ids`. -/
def listByIds (ids : List Nat) (cards : Cards) : List Row :=
  let normalized_ids := ids.filter (fun id => 0 < id)
  let order := fun row : Row => normalized_ids.length - 1 - normalized_ids.reverse.idxOf row.id
  (cards.rows.filter (fun row => row.id ∈ normalized_ids))
    |>.insertionSort (fun a b => order a ≤ order b)

/- `list_submit_candidates`. -/
def listSubmitCandidates (ids : List Nat) (cards : Cards) :
    List Row :=
  let records :=
    if ids = [] then cards.rows.insertionSort (fun a b => a.id ≤ b.id)
    else listByIds ids cards
  records.filter fun record => record.status = .available ||
      record.status ∈ [.paid, .failed] &&
        decide (0 < record.code_info_remaining)

/- The first part of a method: its session reads a row. -/
def load (env : Env) (task_id : String) (request : Request) (now : String)
    (pool : Pool) : Pool × Answer :=
  match request.find env pool.cards with
  | none => (pool, .none)
  | some model =>
    if request.accepts model then
      ({ pool with
         sessions := pool.sessions ++
             [{ task_id := task_id, request := request, now := now, snapshot := model }] },
        .opened pool.sessions.length)
    else (pool, .none)

def setPhase (i : Nat) (s : Session) (phase : Phase) (pool : Pool) : Pool :=
  { pool with sessions := pool.sessions.set i { s with phase := phase } }

/- The second part: the session writes and commits. -/
def commit (env : Env) (i : Nat) (accounts : List Account) (pool : Pool) : Pool × Answer :=
  match pool.sessions[i]? with
  | none => (pool, .ignored)
  | some s =>
    match s.phase with
    | .committed => (pool, .ignored)
    | .closed => (pool, .ignored)
    | .loaded => (setPhase i s .committed
          { pool with
            cards := pool.cards.updateKey s.snapshot.id
                (s.write env accounts) (fun _ => rfl) },
          .committed)

/- The third part: the session reads its answer and ends. -/
def refresh (i : Nat) (pool : Pool) : Pool × Answer :=
  match pool.sessions[i]? with
  | none => (pool, .ignored)
  | some s =>
    match s.phase with
    | .loaded => (pool, .ignored)
    | .closed => (pool, .ignored)
    | .committed => (setPhase i s .closed pool, .record (pool.cards.find? s.snapshot.id))

def step (env : Env) (pool : Pool) : Op → Pool × Answer
| .listSubmitCandidates ids => (pool, .records (listSubmitCandidates ids pool.cards))
| .load task_id request now => load env task_id request now pool
| .commit session accounts => commit env session accounts pool
| .refresh session => refresh session pool

end BaxiGptCdk
