import AutoGpt.Library.JobPool
import AutoGpt.Library.KeyedTable
import Mathlib.Data.List.Sort

/-
  The durable refresh queue of `local_status_refresh.py`, for
  one account: its row, and the requests, workers, probes and
  recovery scans that read it and commit to it later. A
  session writes the columns that it has changed.
-/

----
-- The Row
----

namespace LocalStatus

/- `state` of a row. -/
inductive JobState where
| pending
| running
| retry_wait
| succeeded
| failed
deriving DecidableEq

def JobState.terminal : JobState → Bool
| .succeeded => true
| .failed => true
| _ => false

/- `_LOCAL_STATUS_AUTO_MAX_ATTEMPTS`. -/
def autoMaxAttempts : Nat := 3

/- `ChatGPTLocalStatusRefreshJobModel`. -/
structure RefreshJob where
  account_email : String
  account_created_at : String
  auth_revision_hash : String
  generation : Nat := 1
  state : JobState := .pending
  reason : String := ""
  attempt_count : Nat := 0
  max_attempts : Nat := autoMaxAttempts
  requested_at_ts : Nat := 0
  next_attempt_at_ts : Nat := 0
  started_at_ts : Nat := 0
  completed_at_ts : Nat := 0
  updated_at_ts : Nat := 0
  last_outcome : String := ""
  last_error : String := ""
deriving DecidableEq

/- A commit writes the columns that differ from what its session has loaded. -/
def RefreshJob.committed (new loaded current : RefreshJob) : RefreshJob where
  account_email := Column.written new.account_email loaded.account_email current.account_email
  account_created_at :=
    Column.written new.account_created_at loaded.account_created_at current.account_created_at
  auth_revision_hash :=
    Column.written new.auth_revision_hash loaded.auth_revision_hash current.auth_revision_hash
  generation := Column.written new.generation loaded.generation current.generation
  state := Column.written new.state loaded.state current.state
  reason := Column.written new.reason loaded.reason current.reason
  attempt_count := Column.written new.attempt_count loaded.attempt_count current.attempt_count
  max_attempts := Column.written new.max_attempts loaded.max_attempts current.max_attempts
  requested_at_ts :=
    Column.written new.requested_at_ts loaded.requested_at_ts current.requested_at_ts
  next_attempt_at_ts :=
    Column.written new.next_attempt_at_ts loaded.next_attempt_at_ts current.next_attempt_at_ts
  started_at_ts := Column.written new.started_at_ts loaded.started_at_ts current.started_at_ts
  completed_at_ts :=
    Column.written new.completed_at_ts loaded.completed_at_ts current.completed_at_ts
  updated_at_ts := Column.written new.updated_at_ts loaded.updated_at_ts current.updated_at_ts
  last_outcome := Column.written new.last_outcome loaded.last_outcome current.last_outcome
  last_error := Column.written new.last_error loaded.last_error current.last_error

structure QueueAccount where
  email : String
  created_at : String
  revision_hash : String
  has_auth : Bool := true
deriving DecidableEq

----
-- Requests
----

structure RefreshRequest where
  reason : String := "account_saved"
  delay_seconds : Nat := 0
deriving DecidableEq

/- The row that `_enqueue_local_status_refresh_job` starts from. -/
def newRow (account : QueueAccount) : RefreshJob where
  account_email := account.email
  account_created_at := account.created_at
  auth_revision_hash := account.revision_hash

/- `same_revision`. -/
def RefreshJob.sameRevision (job : RefreshJob) (account : QueueAccount) : Bool :=
  decide (job.account_email = account.email) &&
    decide (job.account_created_at = account.created_at) &&
    decide (job.auth_revision_hash = account.revision_hash)

/- `terminal_success_recent`. -/
def RefreshJob.successRecent (now : Nat) (account : QueueAccount) (job : RefreshJob) :
    Bool :=
  job.sameRevision account && decide (job.state = .succeeded) &&
    decide (0 < job.completed_at_ts) &&
    decide (now < job.completed_at_ts + 90)

/- `reset_attempts`. -/
def RefreshJob.resets (account : QueueAccount) (job : RefreshJob) : Bool :=
  !job.sameRevision account || job.state.terminal

/- `new_generation`. -/
def RefreshJob.nextGeneration (account : QueueAccount) (job : RefreshJob) : Nat :=
  if job.resets account then max 1 (job.generation + 1)
  else job.generation

def enqueuedRow (now : Nat) (account : QueueAccount) (request : RefreshRequest) (job : RefreshJob) :
    RefreshJob :=
  let resets := job.resets account
  let requested_due := now + request.delay_seconds
  { account_email := account.email
    account_created_at := account.created_at
    auth_revision_hash := account.revision_hash
    generation := job.nextGeneration account
    state := .pending
    reason := String.ofList (request.reason.toList.take 160)
    attempt_count := if resets then 0 else job.attempt_count
    max_attempts := autoMaxAttempts
    requested_at_ts := now
    next_attempt_at_ts :=
      if resets = false ∧ 0 < job.next_attempt_at_ts then min job.next_attempt_at_ts requested_due
      else requested_due
    started_at_ts := if resets then 0 else job.started_at_ts
    completed_at_ts := 0
    updated_at_ts := now
    last_outcome := ""
    last_error := "" }

/- The row that `_claim_refresh_job_attempt` sets. -/
def claimedRow (now : Nat) (job : RefreshJob) : RefreshJob :=
  { job with
    state := .running, attempt_count := job.attempt_count + 1, started_at_ts := now,
    updated_at_ts := now }

/- The arguments of `_update_refresh_job_state`. -/
structure StateUpdate where
  generation : Nat
  state : JobState
  attempt_count : Nat
  next_attempt_at : Nat
  completed_at : Option Nat := none
  last_outcome : String
  last_error : String
deriving DecidableEq

def StateUpdate.row (update : StateUpdate) (now : Nat) (job : RefreshJob) :
    RefreshJob :=
  { job with
    state := update.state, attempt_count := update.attempt_count,
    next_attempt_at_ts := update.next_attempt_at,
    completed_at_ts := update.completed_at.getD job.completed_at_ts, updated_at_ts := now,
    last_outcome := update.last_outcome, last_error := update.last_error }

def conclusive (outcome : String) : Bool := decide (outcome ∈ ["confirmed", "auth_invalid"])

/- The row that `_reconcile_refresh_job_after_probe` sets. -/
def reconciledRow (now : Nat) (outcome : String) (job : RefreshJob) :
    RefreshJob :=
  let attempt_count := max 1 job.attempt_count
  if conclusive outcome then
    { job with
      state := .succeeded, attempt_count := attempt_count, next_attempt_at_ts := 0,
      completed_at_ts := now, updated_at_ts := now, last_outcome := outcome, last_error := "" }
  else if job.state.terminal then { job with attempt_count := attempt_count, updated_at_ts := now }
  else
    { job with
      state := .retry_wait, attempt_count := attempt_count, next_attempt_at_ts := now + 5,
      updated_at_ts := now, last_outcome := outcome, last_error := "订阅状态探测未完成" }

/- The row that a recovery scan sets on a stale one. -/
def recoveredRow (now : Nat) (job : RefreshJob) : RefreshJob :=
  { job with state := .retry_wait, next_attempt_at_ts := now, updated_at_ts := now }

/- A running row that has not been touched for long. -/
def RefreshJob.staleRunning (now : Nat) (job : RefreshJob) :
    Bool :=
  decide (job.state = .running) &&
    decide (job.updated_at_ts + 180 ≤ now)

----
-- Jobs
----

/- The account and its row; `claimed` has the generation of each attempt that was claimed. -/
structure QueueState where
  account : QueueAccount
  job : Option RefreshJob := none
  claimed : List Nat := []

structure Attempt where
  generation : Nat
  attempt_count : Nat
  max_attempts : Nat
deriving DecidableEq

/- What a request, worker, probe or scan does next, with what
   it has read. A probe of a worker has its attempt. -/
inductive QueueJob where
| enqueueRead (request : RefreshRequest)
| enqueueWrite (now : Nat) (account : QueueAccount)
    (request : RefreshRequest) (loaded : Option RefreshJob)
| claimRead (generation : Nat)
| claimWrite (now generation : Nat) (loaded : RefreshJob)
| probing (attempt : Attempt)
| reconcileRead (outcome revision_hash : String)
    (attempt : Option Attempt)
| reconcileWrite (now : Nat) (outcome revision_hash : String)
    (loaded : RefreshJob) (attempt : Option Attempt)
| updateRead (update : StateUpdate)
| updateWrite (now : Nat) (update : StateUpdate)
    (loaded : RefreshJob)
| recoverRead
| recoverWrite (now : Nat) (loaded : RefreshJob)
| saveAccount (account : QueueAccount)
| finished
deriving DecidableEq

/- How a probe of a worker ends: it has raised before its
   result was stored, or the result is to be stored. -/
inductive ProbeEnd where
| raised (error : String)
| stored (outcome revision_hash : String)

/- What comes from outside a job: the time, the end of a probe, whether a worker is in flight, and
   the generation of the request with which a worker goes on. -/
structure QueueDraw where
  now : Nat := 0
  probe : ProbeEnd := .raised ""
  inFlight : Bool := false
  pending : Option Nat := none

/- `_start_local_status_refresh_worker`. -/
def startWorker (draw : QueueDraw) (generation : Nat) :
    QueueJob :=
  if draw.inFlight then .finished else .claimRead generation

/- A worker takes the request that waits for it. -/
def takePending (draw : QueueDraw) : QueueJob :=
  match draw.pending with
  | none => .finished
  | some generation => .claimRead generation

/- The update of a worker whose attempt has failed. -/
def failedUpdate (now : Nat) (outcome error : String) (attempt : Attempt) :
    StateUpdate :=
  let retries := attempt.attempt_count < attempt.max_attempts
  { generation := attempt.generation
    state := if retries then .retry_wait else .failed
    attempt_count := attempt.attempt_count
    next_attempt_at :=
      if retries then now + (if attempt.attempt_count ≤ 1 then 5 else 20)
      else 0
    completed_at := if retries then none else some now
    last_outcome := outcome
    last_error := error }

/- The update of a worker after its probe was stored. -/
def storedUpdate (now : Nat) (outcome : String) (attempt : Attempt) :
    StateUpdate :=
  if conclusive outcome then
    { generation := attempt.generation, state := .succeeded, attempt_count := attempt.attempt_count,
      next_attempt_at := 0, completed_at := some now, last_outcome := outcome, last_error := "" }
  else failedUpdate now outcome "订阅状态探测未完成" attempt

/- A probe that has been stored; that of a worker goes on. -/
def afterReconcile (now : Nat) (outcome : String) (attempt : Option Attempt) : QueueJob :=
  match attempt with
  | none => .finished
  | some attempt => .updateRead (storedUpdate now outcome attempt)

def afterUpdate (draw : QueueDraw) (update : StateUpdate) :
    QueueJob :=
  if update.state = .retry_wait then .claimRead (draw.pending.getD update.generation)
  else takePending draw

/- `_enqueue_local_status_refresh_job` up to its commit. -/
def enqueueRead (draw : QueueDraw) (request : RefreshRequest) (s : QueueState) : QueueJob :=
  if s.account.has_auth = false then .finished
  else if s.job.any (RefreshJob.successRecent draw.now s.account)
  then .finished
  else .enqueueWrite draw.now s.account request s.job

def enqueueBase (account : QueueAccount) (loaded : Option RefreshJob) :
    RefreshJob :=
  loaded.getD (newRow account)

/- Its commit; the row of another insert is in its way. -/
def enqueueWrite (draw : QueueDraw) (now : Nat) (account : QueueAccount)
    (request : RefreshRequest) (loaded : Option RefreshJob)
    (s : QueueState) : QueueState × QueueJob :=
  let new := enqueuedRow now account request (enqueueBase account loaded)
  match loaded, s.job with
  | none, none => ({ s with job := some new }, startWorker draw new.generation)
  | some loaded, some current =>
    ({ s with job := some (new.committed loaded current) }, startWorker draw new.generation)
  | _, _ => (s, .finished)

/- `_claim_refresh_job_attempt` up to its commit. -/
def claimRead (draw : QueueDraw) (generation : Nat) (s : QueueState) :
    QueueJob :=
  match s.job with
  | none => takePending draw
  | some job =>
    if job.generation ≠ generation ∨ job.state.terminal then takePending draw
    else if draw.now < job.next_attempt_at_ts then .claimRead generation
    else .claimWrite draw.now generation job

def commitRow (new loaded : RefreshJob) (s : QueueState) : QueueState :=
  { s with job := s.job.map fun current => new.committed loaded current }

/- `_reconcile_refresh_job_after_probe` up to the commit of the probe. -/
def reconcileRead (draw : QueueDraw) (outcome revision_hash : String)
    (attempt : Option Attempt) (s : QueueState) : QueueJob :=
  match s.job with
  | none => afterReconcile draw.now outcome attempt
  | some job =>
    if job.auth_revision_hash ≠ revision_hash ∨ job.state = .running then
      afterReconcile draw.now outcome attempt
    else .reconcileWrite draw.now outcome revision_hash job attempt

/- `_update_refresh_job_state` up to its commit. -/
def updateRead (draw : QueueDraw) (update : StateUpdate) (s : QueueState) : QueueJob :=
  match s.job with
  | none => afterUpdate draw update
  | some job =>
    if job.generation ≠ update.generation then afterUpdate draw update
    else .updateWrite draw.now update job

/- `_resume_due_local_status_refresh_jobs` up to its commit. -/
def recoverRead (draw : QueueDraw) (s : QueueState) : QueueJob :=
  match s.job with
  | none => .finished
  | some job =>
    if job.state.terminal then .finished
    else if job.state = .running then
      if job.staleRunning draw.now then .recoverWrite draw.now job
      else .finished
    else if draw.now < job.next_attempt_at_ts then .finished
    else startWorker draw job.generation

def QueueJob.advance (draw : QueueDraw) (s : QueueState) :
    QueueJob → QueueState × QueueJob
| .enqueueRead request => (s, LocalStatus.enqueueRead draw request s)
| .enqueueWrite now account request loaded =>
    LocalStatus.enqueueWrite draw now account request loaded s
| .claimRead generation => (s, LocalStatus.claimRead draw generation s)
| .claimWrite now generation loaded => ({ commitRow (claimedRow now loaded) loaded s with
       claimed := s.claimed ++ [generation] },
      .probing
        { generation := generation, attempt_count := loaded.attempt_count + 1,
          max_attempts := max 1 loaded.max_attempts })
| .probing attempt =>
    match draw.probe with
    | .raised error => (s, .updateRead (failedUpdate draw.now "probe_failed" error attempt))
    | .stored outcome revision_hash => (s, .reconcileRead outcome revision_hash (some attempt))
| .reconcileRead outcome revision_hash attempt =>
    (s, LocalStatus.reconcileRead draw outcome revision_hash attempt s)
| .reconcileWrite now outcome _ loaded attempt =>
    (commitRow (reconciledRow now outcome loaded) loaded s, afterReconcile draw.now outcome attempt)
| .updateRead update => (s, LocalStatus.updateRead draw update s)
| .updateWrite now update loaded =>
    (commitRow (update.row now loaded) loaded s, afterUpdate draw update)
| .recoverRead => (s, LocalStatus.recoverRead draw s)
| .recoverWrite now loaded =>
    (commitRow (recoveredRow now loaded) loaded s, startWorker draw loaded.generation)
| .saveAccount account => ({ s with account := account }, .finished)
| .finished => (s, .finished)

inductive QueueRequest where
| enqueue (request : RefreshRequest)
| probe (outcome revision_hash : String)
| recover
| save (account : QueueAccount)

def QueueRequest.job : QueueRequest → QueueJob
| .enqueue request => .enqueueRead request
| .probe outcome revision_hash => .reconcileRead outcome revision_hash none
| .recover => .recoverRead
| .save account => .saveAccount account

/- The queue of an account as a pool of jobs. -/
def refreshQueue :
    JobPool.Program QueueState QueueJob QueueRequest QueueDraw where
  start := QueueRequest.job
  advance := QueueJob.advance
  done := fun job => decide (job = .finished)
  ended := .finished

abbrev QueueOp := JobPool.Op QueueRequest QueueDraw

abbrev queueRun (account : QueueAccount) (ops : List QueueOp) :
    JobPool.State QueueState QueueJob :=
  JobPool.run refreshQueue { account := account } ops

----
-- Recovery Scans
----

/- The query of a recovery scan, over the rows of all
   accounts: the first open ones in the order of their time. -/
def openRows (rows : List RefreshJob) : List RefreshJob :=
  ((rows.filter fun job => !job.state.terminal).insertionSort
    fun a b => a.next_attempt_at_ts ≤ b.next_attempt_at_ts).take 100

/- Whether the scan asks for a worker for the row, and what it commits. -/
def resumeRow (now : Nat) (job : RefreshJob) :
    Option RefreshJob :=
  if job.state = .running then
    if job.staleRunning now then some (recoveredRow now job)
    else none
  else if now < job.next_attempt_at_ts then none
  else some job

/- `_resume_due_local_status_refresh_jobs`: the rows for which
   it starts workers, those without one in flight. -/
def resumeDue (now : Nat) (inFlight : RefreshJob → Bool)
    (rows : List RefreshJob) : List RefreshJob :=
  ((openRows rows).filterMap (resumeRow now)).filter fun job => !inFlight job

end LocalStatus
