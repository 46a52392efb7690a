import AutoGpt.Library.Machine
import AutoGpt.Library.PyText

/-
  The continuation of a registration pipeline
  (`services/chatgpt_core/registration_pipeline.py`): workers
  claim and finish it through the marker in the account's
  `extra`, each call in two steps, a read and a commit.
-/

open PyText (orElse strip)

----
-- The Marker
----

namespace RegistrationPipeline

/- `str.lower` and `str.upper`, with what they do to the states that a claim writes. -/
structure Env where
  lower : String → String
  upper : String → String
  lower_running : lower "running" = "running"
  lower_succeeded : lower "succeeded" = "succeeded"

/- `_text(value, limit)`. -/
def text (value : String) (limit : Nat) : String := String.ofList ((strip value).toList.take limit)

/- A stage of the pipeline. A time is the instant that `_timestamp` reads back, in microseconds, and
   0 if none. -/
structure Stage where
  state : String := ""
  reason_code : String := ""
  message : String := ""
  updated_at : Int := 0

/- `marker["requested"]`. -/
structure Requested where
  zero_amount : Bool := false
  payment_details : Bool := false
  payment_link : Bool := false
  payment : Bool := false

/- `any(requested.values())`. -/
def Requested.anyOf (requested : Requested) : Bool :=
  requested.zero_amount || requested.payment_details || requested.payment_link || requested.payment

/- `marker["continuation"]`. -/
structure Continuation where
  state : String := ""
  message : String := ""
  zero_amount_checkout_country : String := ""
  payment_link_profile_hash : String := ""
  payment_link_type : String := ""
  attempts : Int := 0
  started_at : Int := 0
  completed_at : Int := 0
  updated_at : Int := 0

/- `extra["chatgpt_registration_pipeline"]`. -/
structure Marker where
  version : Int := 3
  task_id : String := ""
  requested : Requested := {}
  legacy_combined : Bool := false
  continuation : Continuation := {}
  registration : Stage := {}
  zero_amount : Stage := {}
  payment_details : Stage := {}
  payment_link : Stage := {}
  payment : Stage := {}
  updated_at : Int := 0

/- The account and the keys of its `extra` that are read. -/
structure Row where
  id : Int
  platform : String := "chatgpt"
  email : String := ""
  created_at : String := ""
  token : String := ""
  access_token : String := ""
  accessToken : String := ""
  marker : Option Marker := none
  updated_at : Int := 0

/- `CONTINUATION_RUNNING_TIMEOUT_SECONDS`. -/
def continuationRunningTimeout : Int := 30 * 60 * 1000000

/- `PIPELINE_VERSION`. -/
def pipelineVersion : Int := 3

----
-- Claims
----

variable (env : Env)

/- `_country_code(value)`. -/
def country_code (value : String) : String :=
  let country := env.upper (text value 8)
  if country.length = 2 ∧ country.toList.all Char.isAlpha then country
  else "VN"

def pendingAuth (stage : Stage) : Bool := env.lower (text stage.state 64) == "pending_auth" ||
    env.lower (text stage.reason_code 128) == "registered_auth_pending"

/- `needs_continuation`. -/
def needsContinuation (marker : Marker) : Bool := env.lower (text marker.registration.state 64) ==
      "pending_auth" ||
    [marker.zero_amount, marker.payment_details,
      marker.payment_link, marker.payment].any (pendingAuth env)

/- The continuation runs, and did so less than half an hour ago. -/
def runningAt (continuation : Continuation) (now : Int) :
    Bool :=
  env.lower (text continuation.state 64) == "running" &&
    decide (0 < continuation.updated_at) &&
    decide (now - continuation.updated_at < continuationRunningTimeout)

/- The marker with the registration's auth recovered. -/
def authRecovered (marker : Marker) (now : Int) : Marker :=
  { marker with
    registration :=
      { state := "succeeded", reason_code := "auth_recovered", message := "注册成功，Auth 已补抓",
        updated_at := now } }

def Row.withMarker (row : Row) (marker : Marker) (now : Int) :
    Row :=
  { row with marker := some { marker with updated_at := now }, updated_at := now }

structure Context where
  account_id : Int
  email : String
  created_at : String
  task_id : String
  requested : Requested
  legacy_combined : Bool
  zero_amount_checkout_country : String
  payment_link_profile_hash : String
  payment_link_type : String
  zero_amount_state : String
  payment_details_state : String
  payment_link_state : String
  payment_state : String

def contextOf (row : Row) (marker : Marker) : Context where
  account_id := row.id
  email := row.email
  created_at := text row.created_at 64
  task_id := text marker.task_id 160
  requested := marker.requested
  legacy_combined := marker.legacy_combined
  zero_amount_checkout_country := country_code env marker.continuation.zero_amount_checkout_country
  payment_link_profile_hash := text marker.continuation.payment_link_profile_hash 128
  payment_link_type := orElse (env.lower (text marker.continuation.payment_link_type 32))
      "paypal"
  zero_amount_state := env.lower (text marker.zero_amount.state 64)
  payment_details_state := env.lower (text marker.payment_details.state 64)
  payment_link_state := env.lower (text marker.payment_link.state 64)
  payment_state := env.lower (text marker.payment.state 64)

inductive Refusal where
| account_not_found
| pipeline_not_found
| auth_still_missing
| nothing_to_resume
| already_running
deriving DecidableEq

/- What a claim does after its read: it answers at once, or it commits a row and answers then. -/
inductive ClaimOutcome where
| refused (reason : Refusal)
| completes (row : Row)
| claims (row : Row) (context : Context)

def startedContinuation (continuation : Continuation) (now : Int) :
    Continuation :=
  { continuation with
    state := "running", attempts := max continuation.attempts 0 + 1,
    started_at := now, updated_at := now }

/- `claim_registration_pipeline_continuation`, on the row that it read. -/
def claim_registration_pipeline_continuation (account : Option Row) (now : Int) : ClaimOutcome :=
  match account with
  | none => .refused .account_not_found
  | some row =>
    if env.lower row.platform ≠ "chatgpt" then .refused .account_not_found
    else
      match row.marker with
      | none => .refused .pipeline_not_found
      | some marker =>
        let access_token := text
            (orElse row.access_token (orElse row.accessToken row.token)) 16384
        let recovered := authRecovered marker now
        if access_token = "" then .refused .auth_still_missing
        else if needsContinuation env marker = false ∨ marker.requested.anyOf = false then
          .completes
            (row.withMarker
              { recovered with
                continuation :=
                  { marker.continuation with state := "completed", updated_at := now } }
              now)
        else if runningAt env marker.continuation now then .refused .already_running
        else
          let started :=
            { recovered with
              continuation := startedContinuation marker.continuation
                  now }
          .claims (row.withMarker started now) (contextOf env row started)

/- `finish_registration_pipeline_continuation`, on the row that it read; `none` is its `False`. -/
def finish_registration_pipeline_continuation (account : Option Row) (state message : String)
    (now : Int) : Option Row :=
  match account with
  | none => none
  | some row =>
    if env.lower row.platform ≠ "chatgpt" then none
    else
      match row.marker with
      | none => none
      | some marker => some
            (row.withMarker
              { marker with
                continuation :=
                  { marker.continuation with
                    state := orElse (env.lower (text state 64)) "completed",
                    message := text message 500, completed_at := now, updated_at := now }
                version := pipelineVersion }
              now)

----
-- Workers
----

structure Claim where
  call : Nat
  time : Int
deriving DecidableEq

inductive CallKind where
| claims
| completes
| finishes (claim : Nat)
deriving DecidableEq

structure Call where
  read : Option Row
  write : Row
  kind : CallKind
  time : Int
  seen : Nat
  committed : Bool := false

/- The account's row, the clock and the calls. Beside them the history: how many commits there were
   and when the last one was, the claims that were granted and not finished by their own worker,
   newest first, and the newest claim. -/
structure World where
  row : Option Row
  clock : Int
  clock_pos : 0 < clock
  calls : List Call := []
  commits : Nat := 0
  last_commit_at : Int := 0
  holders : List Claim := []
  latest : Option Claim := none

/- A worker reads for a claim or a finish, commits, or time
   passes. A finish names the claim call of its worker. -/
inductive WorkerOp where
| wait (time : Nat)
| claimRead
| finishRead (claim : Nat) (state message : String)
| commit (call : Nat)

variable (env : Env)

/- A call begins with what it read and will write. -/
def World.begins (w : World) (write : Row) (kind : CallKind) :
    World :=
  { w with
    calls := w.calls ++
        [{ read := w.row, write := write, kind := kind, time := w.clock, seen := w.commits }] }

/- The holders and the newest claim after a commit. -/
def World.credit (w : World) (call : Nat) (c : Call) : World :=
  match c.kind with
  | .claims => { w with holders := ⟨call, c.time⟩ :: w.holders, latest := some ⟨call, c.time⟩ }
  | .completes => w
  | .finishes claim => { w with holders := w.holders.filter (fun held => held.call != claim) }

def World.committed (w : World) (call : Nat) (c : Call) :
    World :=
  { w with
    row := some c.write, calls := w.calls.set call { c with committed := true },
    commits := w.commits + 1, last_commit_at := w.clock }

def World.pending (w : World) (call : Nat) : Option Call :=
  (w.calls[call]?).filter (fun c => !c.committed)

def workerStep (w : World) : WorkerOp → World × Unit
| .wait time => ({ w with clock := w.clock + time, clock_pos := by have := w.clock_pos; omega }, ())
| .claimRead =>
    match claim_registration_pipeline_continuation env w.row w.clock with
    | .refused _ => (w, ())
    | .completes row => (w.begins row .completes, ())
    | .claims row _ => (w.begins row .claims, ())
| .finishRead claim state message =>
    match finish_registration_pipeline_continuation env w.row state message w.clock with
    | none => (w, ())
    | some row => (w.begins row (.finishes claim), ())
| .commit call =>
    match w.pending call with
    | none => (w, ())
    | some c => ((w.committed call c).credit call c, ())

def World.fresh (row : Option Row) (clock : Int) (hClock : 0 < clock) :
    World where
  row := row
  clock := clock
  clock_pos := hClock

end RegistrationPipeline
