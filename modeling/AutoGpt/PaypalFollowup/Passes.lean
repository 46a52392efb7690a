import AutoGpt.Library.JobPool
import AutoGpt.PaypalFollowup.Model

/-
  Passes of `reconcile_due_followups` and calls of
  `ensure_payment_followup`. A pass works from the rows it has
  read at its start; each update opens a session of its own
  and writes by the id of the row, whatever the row has become
  since. Any number of passes overlap.
-/

open PyText (orElse)

----
-- Ensures
----

namespace PaypalFollowup

/- The arguments of `ensure_payment_followup`. -/
structure EnsureRequest where
  task_id : String := ""
  account_id : Nat := 0
  account_email : String := ""
  account_created_at : String := ""
  batch_id : String := ""
  item_id : String := ""
  remote_status : String := "pending"
deriving DecidableEq

/- A row is about the payment with this identity. -/
def Followup.hasIdentity (row : Followup) (account_id : Nat)
    (account_created_at batch_id item_id : String) : Bool :=
  row.account_id = account_id && row.account_created_at = account_created_at &&
    row.batch_id = batch_id && row.item_id = item_id

/- `_find_followup`. -/
def findFollowup (rows : Followups) (request : EnsureRequest) :
    Option Followup :=
  rows.rows.find? fun row => row.hasIdentity request.account_id
      request.account_created_at request.batch_id request.item_id

def EnsureRequest.newRow (env : Env) (request : EnsureRequest) (now id : Nat) :
    Followup where
  id := id
  task_id := limited 160 request.task_id
  account_id := request.account_id
  account_email := limited 320 request.account_email
  account_created_at := limited 64 request.account_created_at
  batch_id := limited 128 request.batch_id
  item_id := limited 128 request.item_id
  state := .paymentPending
  remote_status := limited 64 (orElse request.remote_status "pending")
  next_poll_at := now
  deadline_at := now + env.poll_max_seconds

/- The row that is already there, with what a repeated call changes. -/
def EnsureRequest.resumed (request : EnsureRequest) (now : Nat) (row : Followup) :
    Followup :=
  { row with
    task_id := limited 160 (orElse request.task_id row.task_id)
    account_email := limited 320 (orElse request.account_email row.account_email)
    remote_status := limited 64 (orElse request.remote_status row.remote_status)
    next_poll_at := min (if row.next_poll_at = 0 then now
        else row.next_poll_at) now }

/- The identity is unique: a second row for it is refused. -/
def insertFollowup (rows : Followups) (row : Followup) :
    Followups :=
  if rows.rows.any fun other =>
      other.hasIdentity row.account_id row.account_created_at row.batch_id row.item_id then rows
  else rows.insertNew row

----
-- Passes
----

/- The time at which a pass began, and its rows that are still to be processed. -/
structure Pass where
  now : Nat
  rows : List Followup
deriving DecidableEq

/- What a call or a pass does next, with what it has read. -/
inductive Job where
| ensureRead (request : EnsureRequest)
| ensureInsert (request : EnsureRequest) (now : Nat)
| ensureWrite (request : EnsureRequest) (now : Nat)
    (loaded : Followup)
| passRead (states : List State) (limit : Nat)
| next (pass : Pass)
| processing (row : Followup) (pass : Pass)
| relogin (row : Followup) (pass : Pass)
| polling (row : Followup) (now : Nat) (pass : Pass)
| persistRead (row : Followup) (update : Update) (pass : Pass)
| persistWrite (row : Followup) (update : Update)
    (loaded : Followup) (pass : Pass)
| finished
deriving DecidableEq

/- What comes from outside a step: the time; whether the account still matches the row; whether its
   subscription is confirmed; how the logins with the candidates end; and the remote result. -/
structure Draw where
  now : Nat := 0
  matches_row : Bool := true
  confirmed : Bool := false
  candidates : Except String (List LoginResult) := .ok []
  result : Except String RemoteResult := .ok {}

def dueRows (states : List State) (limit now : Nat) (rows : Followups) :
    List Followup :=
  let due := rows.rows.filter fun row => decide (row.state ∈ states) && row.state.active &&
        decide (row.next_poll_at ≤ now)
  (due.insertionSort fun a b => a.next_poll_at ≤ b.next_poll_at).take
    (max 1 (min (if limit = 0 then 20 else limit) 100))

/- `_process_row` up to its network call or its update. -/
def processRow (env : Env) (draw : Draw) (row : Followup) (pass : Pass) :
    Job :=
  match row.state with
  | .paymentPending =>
    if row.deadline_at ≠ 0 ∧ row.deadline_at ≤ draw.now then
      .persistRead row (.expired draw.now) pass
    else .polling row draw.now pass
  | .reloginPending => .relogin row pass
  | .localRefreshPending => .persistRead row (refreshUpdate env draw.now draw.confirmed row) pass
  | _ => .next pass

def Job.advance (env : Env) (draw : Draw) (rows : Followups) :
    Job → Followups × Job
| .ensureRead request => (rows,
      if request.account_id = 0 ∨ request.batch_id = "" ∨ request.item_id = "" then .finished
      else
        match findFollowup rows request with
        | none => .ensureInsert request draw.now
        | some row =>
          if row.state.terminal then .finished
          else .ensureWrite request draw.now row)
| .ensureInsert request now => (insertFollowup rows (request.newRow env now rows.nextId), .finished)
| .ensureWrite request now loaded => (rows.updateKey loaded.id
        ((request.resumed now loaded).committed loaded)
        (Followup.committed_id _ loaded),
      .finished)
| .passRead states limit => (rows, .next
        { now := draw.now, rows := dueRows states limit draw.now rows })
| .next pass => (rows,
      match pass.rows with
      | [] => .finished
      | row :: rest =>
        let rest := { pass with rows := rest }
        if draw.matches_row then .processing row rest
        else .persistRead row (.identityChanged pass.now) rest)
| .processing row pass => (rows, processRow env draw row pass)
| .relogin row pass =>
    (rows, .persistRead row (reloginUpdate env draw.now row draw.candidates) pass)
| .polling row now pass => (rows, .persistRead row (pollUpdate env now row draw.result) pass)
| .persistRead row update pass => (rows,
      match rows.find? row.id with
      | none => .next pass
      | some loaded => .persistWrite row update loaded pass)
| .persistWrite _ update loaded pass => (rows.updateKey loaded.id
        ((update.apply env loaded).committed loaded)
        (Followup.committed_id _ loaded),
      .next pass)
| .finished => (rows, .finished)

inductive Request where
| ensure (request : EnsureRequest)
| reconcile (states : List State) (limit : Nat)

def Request.job : Request → Job
| .ensure request => .ensureRead request
| .reconcile states limit => .passRead states limit

def followups (env : Env) :
    JobPool.Program Followups Job Request Draw where
  start := Request.job
  advance := Job.advance env
  done := fun job => decide (job = .finished)
  ended := .finished

abbrev Op := JobPool.Op Request Draw

abbrev followupRun (env : Env) (ops : List Op) :
    JobPool.State Followups Job :=
  JobPool.run (followups env) KeyedTable.empty ops

end PaypalFollowup
