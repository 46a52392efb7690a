import AutoGpt.Library.Machine
import AutoGpt.Library.PyText
import Mathlib.Data.List.Basic

/-
  The cooperative task control of `core/task_runtime.py`:
  stop and skip requests, attempts, and the single challenge
  slot through which manual verification codes reach waiting
  workers.

  The lock is held from one wait of the condition to the
  next, so a step is one critical section: a call of a short
  method, the start of a wait up to its first pause, or one
  more pass of a waiter's loop up to its next pause. A waiter
  pauses on the condition or while its action handler runs.
-/

open PyText (orElse strip)

----
-- Challenges And Waiters
----

namespace TaskRuntime

/- The `status` of a challenge. -/
inductive ChallengeStatus where
| pending
| submitted
| cancelled
| expired
deriving DecidableEq

/- A dictionary with text values, in insertion order. -/
abbrev Metadata := List (String × String)

/- `{**metadata, key: value}`. -/
def setEntry (metadata : Metadata) (entry : String × String) :
    Metadata :=
  if metadata.any (fun e => e.1 = entry.1) then
    metadata.map fun e => if e.1 = entry.1 then entry else e
  else metadata ++ [entry]

/- `{**metadata, **patch}`. -/
def mergeMetadata (metadata patch : Metadata) : Metadata := patch.foldl setEntry metadata

/- The dictionary stored as `action_request`. -/
structure ActionRequest where
  seq : Nat
  action : String
  payload : Metadata
  requested_at : Nat
deriving DecidableEq

/- `VerificationChallenge`; times are milliseconds. -/
structure Challenge where
  challenge_id : String
  attempt_id : Option Nat
  phase : String
  phase_label : String
  email : String
  timeout_seconds : Nat
  created_at : Nat
  expires_at : Nat
  status : ChallengeStatus := .pending
  code : String := ""
  cancel_reason : String := ""
  metadata : Metadata := []
  actions : List String := []
  action_request : Option ActionRequest := none
  action_seq : Nat := 0
deriving DecidableEq

/- Where a waiter stands between two critical sections. -/
inductive Phase where
| polling
| handling (seq : Nat)
| done
deriving DecidableEq

/- The local variables of one `wait_for_verification_code`. -/
structure Waiter where
  challenge_id : String
  attempt_id : Option Nat
  phase_label : String
  timeout_value : Nat
  has_handler : Bool
  handled_action_seq : Nat := 0
  phase : Phase := .polling

/- The id that `wait_for_verification_code` formats. -/
def challengeId (milliseconds next_challenge_id : Nat) :
    String :=
  "verify_" ++ toString milliseconds ++ "_" ++ toString next_challenge_id

----
-- The Control
----

/- `RegisterTaskControl`, with the waits that were started on it; a waiter is named by its position.
   -/
structure Control where
  stop_requested : Bool := false
  completion_stop_requested : Bool := false
  after_current_requested : Bool := false
  pending_skip_requests : Nat := 0
  next_attempt_id : Nat := 1
  next_challenge_id : Nat := 1
  active_attempt_ids : List Nat := []
  skip_active_attempt_ids : List Nat := []
  pending_verification : Option Challenge := none
  waiters : List Waiter := []

inductive Raised where
| stopTask
| skipAttempt
| waitLost
| waitReplaced
| emptyCode
| waitCancelled
| waitTimeout (phase_label : String) (timeout : Nat)
| challengeIdRequired
| codeRequired
| actionRequired
| noChallenge (purpose : String)
| unknownChallenge
| challengeEnded (hint : String)
| challengeExpired
| actionUnsupported (action : String)
deriving DecidableEq

def Raised.message : Raised → String
| .stopTask => "任务已手动停止"
| .skipAttempt => "已手动跳过当前账号"
| .waitLost => "验证码等待状态已丢失"
| .waitReplaced => "验证码等待状态已被新的挑战替换"
| .emptyCode => "验证码为空"
| .waitCancelled => "验证码等待已取消"
| .waitTimeout phase_label timeout => "等待 " ++ phase_label ++ " 超时 (" ++ toString timeout ++ "s)"
| .challengeIdRequired => "challenge_id 不能为空"
| .codeRequired => "验证码不能为空"
| .actionRequired => "action 不能为空"
| .noChallenge purpose => "当前没有待" ++ purpose ++ "的验证码挑战"
| .unknownChallenge => "验证码挑战不存在或已过期"
| .challengeEnded hint => "验证码挑战已结束" ++ hint
| .challengeExpired => "验证码挑战已超时"
| .actionUnsupported action => "当前验证码挑战不支持动作: " ++ action

inductive Answer where
| done
| waiting
| handling (action : String) (payload : Metadata)
| returned (waiter : Nat) (code : String)
| raised (error : Raised)
| changed (value : Bool)
| attempt (attempt_id : Option Nat)
| submitted (challenge : Challenge)
| challenge (challenge : Challenge)
deriving DecidableEq

/- `_cancel_pending_verification`. -/
def cancelPendingVerification (reason : String) (c : Control) :
    Control :=
  match c.pending_verification with
  | none => c
  | some challenge =>
    if challenge.status = .pending then
      { c with
        pending_verification := some
            { challenge with status := .cancelled, cancel_reason := orElse reason "cancelled" } }
    else c

/- `request_stop`. -/
def requestStop (c : Control) : Control × Answer := (cancelPendingVerification "stop_requested"
    { c with stop_requested := true, after_current_requested := false },
    .changed (!c.stop_requested))

/- `request_completion_stop`. -/
def requestCompletionStop (c : Control) : Control × Answer :=
  (cancelPendingVerification "completion_stop_requested"
    { c with completion_stop_requested := true }, .changed (!c.completion_stop_requested))

/- `request_stop_after_current`. -/
def requestStopAfterCurrent (c : Control) : Control × Answer :=
  if c.stop_requested then (c, .changed false)
  else ({ c with after_current_requested := true }, .changed (!c.after_current_requested))

/- `request_skip_current`. -/
def requestSkipCurrent (c : Control) : Control × Answer :=
  let marked :=
    if c.active_attempt_ids.isEmpty then
      { c with pending_skip_requests := c.pending_skip_requests + 1 }
    else { c with skip_active_attempt_ids := c.skip_active_attempt_ids ∪ c.active_attempt_ids }
  (cancelPendingVerification "skip_requested" marked, .done)

/- `start_attempt`. -/
def startAttempt (c : Control) : Control × Answer :=
  if c.stop_requested || c.completion_stop_requested ||
      c.after_current_requested then (c, .attempt none)
  else
    ({ c with
       next_attempt_id := c.next_attempt_id + 1,
       active_attempt_ids := c.active_attempt_ids.insert c.next_attempt_id },
      .attempt (some c.next_attempt_id))

/- The two attempt sets without one attempt. -/
def discardAttempt (attempt_id : Nat) (c : Control) :
    Control :=
  { c with
    active_attempt_ids := c.active_attempt_ids.filter (fun a => a ≠ attempt_id),
    skip_active_attempt_ids := c.skip_active_attempt_ids.filter (fun a => a ≠ attempt_id) }

/- `finish_attempt`. -/
def finishAttempt (attempt_id : Option Nat) (c : Control) :
    Control × Answer :=
  match attempt_id with
  | none => (c, .done)
  | some id =>
    let discarded := discardAttempt id c
    match c.pending_verification with
    | none => (discarded, .done)
    | some challenge =>
      if challenge.attempt_id = some id ∧ challenge.status = .pending then
        (cancelPendingVerification "attempt_finished" discarded, .done)
      else (discarded, .done)

/- `resume_attempt`. -/
def resumeAttempt (attempt_id : Option Nat) (c : Control) :
    Control × Answer :=
  match attempt_id with
  | none => (c, .done)
  | some id =>
    if c.stop_requested || c.completion_stop_requested then (discardAttempt id c, .raised .stopTask)
    else ({ c with active_attempt_ids := c.active_attempt_ids.insert id }, .done)

/- `checkpoint`; it returns what it raises. -/
def checkpoint (consume_skip : Bool) (attempt_id : Option Nat)
    (c : Control) : Control × Option Raised :=
  if c.stop_requested || c.completion_stop_requested then (c, some .stopTask)
  else if consume_skip = false then (c, none)
  else if c.skip_active_attempt_ids.any
      (fun a => some a = attempt_id) then
    ({ c with
       skip_active_attempt_ids := c.skip_active_attempt_ids.filter (fun a => some a ≠ attempt_id) },
      some .skipAttempt)
  else if 0 < c.pending_skip_requests then ({ c with
       pending_skip_requests := c.pending_skip_requests - 1 },
      some .skipAttempt)
  else (c, none)

----
-- Waiting For A Code
----

def setWaiter (i : Nat) (w : Waiter) (c : Control) : Control :=
  { c with waiters := c.waiters.set i w }

def raiseFrom (i : Nat) (w : Waiter) (error : Raised) (c : Control) :
    Control × Answer :=
  (setWaiter i { w with phase := .done } c, .raised error)

/- `_pending_verification = None`. -/
def clearSlot (c : Control) : Control := { c with pending_verification := none }

def leaveCancelled (i : Nat) (w : Waiter) (current : Challenge) (c : Control) : Control × Answer :=
  let reason := orElse current.cancel_reason "cancelled"
  let cleared := clearSlot c
  if reason = "stop_requested" then raiseFrom i w .stopTask cleared
  else if reason = "skip_requested" then raiseFrom i w .skipAttempt
      { cleared with
        skip_active_attempt_ids :=
          cleared.skip_active_attempt_ids.filter (fun a => some a ≠ w.attempt_id) }
  else raiseFrom i w .waitCancelled cleared

/- A waiter whose challenge is still open. -/
def pollOpen (i : Nat) (w : Waiter) (current : Challenge)
    (now : Nat) (c : Control) : Control × Answer :=
  if w.has_handler ∧ w.handled_action_seq < current.action_seq then
    let request := current.action_request.getD
        { seq := 0, action := "", payload := [], requested_at := 0 }
    (setWaiter i
      { w with phase := .handling current.action_seq }
      { c with
        pending_verification := some
            { current with
              metadata := mergeMetadata current.metadata
                  [("action_status", "handling"), ("action", request.action)] } },
      .handling request.action request.payload)
  else if current.expires_at ≤ now then raiseFrom i w (.waitTimeout w.phase_label w.timeout_value)
      (clearSlot c)
  else (setWaiter i w c, .waiting)

/- A waiter that sees its own challenge in the slot. -/
def pollCurrent (i : Nat) (w : Waiter) (current : Challenge)
    (now : Nat) (c : Control) : Control × Answer :=
  match current.status with
  | .submitted =>
    let code := strip current.code
    if code = "" then raiseFrom i w .emptyCode (clearSlot c)
    else (setWaiter i { w with phase := .done } (clearSlot c), .returned i code)
  | .cancelled => leaveCancelled i w current c
  | .pending => pollOpen i w current now c
  | .expired => pollOpen i w current now c

/- One pass of the loop of a wait, after its checkpoint. -/
def pollSlot (i : Nat) (w : Waiter) (now : Nat) (c : Control) :
    Control × Answer :=
  match c.pending_verification with
  | none => raiseFrom i w .waitLost c
  | some current =>
    if current.challenge_id ≠ w.challenge_id then raiseFrom i w .waitReplaced c
    else pollCurrent i w current now c

def pollWaiter (i : Nat) (w : Waiter) (now : Nat) (c : Control) :
    Control × Answer :=
  match checkpoint true w.attempt_id c with
  | (next, some error) => raiseFrom i w error next
  | (next, none) => pollSlot i w now next

def poll (i now : Nat) (c : Control) : Control × Answer :=
  match c.waiters[i]? with
  | none => (c, .done)
  | some w =>
    match w.phase with
    | .polling => pollWaiter i w now c
    | .handling _ => (c, .done)
    | .done => (c, .done)

structure HandlerResult where
  metadata : Metadata := []
  error : String := ""
deriving DecidableEq

/- The handler returns, and its waiter passes the loop again. -/
def handlerReturn (i : Nat) (result : HandlerResult) (now : Nat) (c : Control) : Control × Answer :=
  match c.waiters[i]? with
  | none => (c, .done)
  | some w =>
    match w.phase with
    | .polling => (c, .done)
    | .done => (c, .done)
    | .handling seq =>
      match c.pending_verification with
      | none => pollWaiter i { w with phase := .polling } now c
      | some current =>
        if current.challenge_id ≠ w.challenge_id then
          pollWaiter i { w with phase := .polling } now c
        else
          pollWaiter i
            { w with handled_action_seq := seq, phase := .polling }
            now
            { c with
              pending_verification := some
                  { current with
                    metadata := mergeMetadata
                        (mergeMetadata current.metadata result.metadata)
                        [("action_status",
                          if result.error = "" then "done"
                          else "failed"),
                          ("action_error", result.error)] } }

/- The arguments of `wait_for_verification_code`. -/
structure WaitCall where
  attempt_id : Option Nat := none
  phase : String := ""
  phase_label : String := ""
  email : String := ""
  timeout_seconds : Int
  metadata : Metadata := []
  actions : List String := []
  has_handler : Bool := false
  milliseconds : Nat
  created_at : Nat
  now : Nat
deriving DecidableEq

def WaitCall.challenge (call : WaitCall) (n : Nat) :
    Challenge :=
  let timeout_value := (max call.timeout_seconds 1).toNat
  { challenge_id := challengeId call.milliseconds n, attempt_id := call.attempt_id,
    phase := orElse (strip (orElse call.phase "email_otp")) "email_otp",
    phase_label := orElse (strip (orElse call.phase_label "邮箱验证码")) "邮箱验证码",
    email := strip call.email, timeout_seconds := timeout_value, created_at := call.created_at,
    expires_at := call.created_at + 1000 * timeout_value, metadata := call.metadata,
    actions := (call.actions.map strip).filter (fun a => a != "") }

/- `wait_for_verification_code` up to its first pause. -/
def beginWait (call : WaitCall) (c : Control) :
    Control × Answer :=
  match checkpoint true call.attempt_id c with
  | (next, some error) => (next, .raised error)
  | (next, none) =>
    let challenge := call.challenge next.next_challenge_id
    let w : Waiter :=
      { challenge_id := challenge.challenge_id, attempt_id := call.attempt_id,
        phase_label := challenge.phase_label, timeout_value := challenge.timeout_seconds,
        has_handler := call.has_handler }
    pollWaiter next.waiters.length w call.now
      { next with
        next_challenge_id := next.next_challenge_id + 1,
        pending_verification := some challenge, waiters := next.waiters ++ [w] }

----
-- Operator Requests
----

/- The checks that the operator methods share: the slot holds the named challenge and it is pending.
   The texts of two of their errors depend on the method. -/
def openChallenge (purpose hint challenge_id : String) (c : Control) :
    Except Raised Challenge :=
  match c.pending_verification with
  | none => .error (.noChallenge purpose)
  | some challenge =>
    if challenge.challenge_id ≠ challenge_id then .error .unknownChallenge
    else if challenge.status ≠ .pending then .error (.challengeEnded hint)
    else .ok challenge

/- `submit_verification`. -/
def submitVerification (challenge_id code : String) (now : Nat) (c : Control) :
    Control × Answer :=
  let code_value := strip code
  if strip challenge_id = "" then (c, .raised .challengeIdRequired)
  else if code_value = "" then (c, .raised .codeRequired)
  else
    match openChallenge "提交" "，无法重复提交" (strip challenge_id) c with
    | .error e => (c, .raised e)
    | .ok challenge =>
      if challenge.expires_at ≤ now then (clearSlot c, .raised .challengeExpired)
      else
        let next := { challenge with code := code_value, status := .submitted }
        ({ c with pending_verification := some next }, .submitted next)

/- `update_verification_metadata`. -/
def updateVerificationMetadata (challenge_id : String) (patch : Metadata)
    (c : Control) : Control × Answer :=
  match openChallenge "更新" "" (strip challenge_id) c with
  | .error e => (c, .raised e)
  | .ok challenge =>
    let next := { challenge with metadata := mergeMetadata challenge.metadata patch }
    ({ c with pending_verification := some next }, .challenge next)

/- `request_verification_action`. -/
def requestVerificationAction (challenge_id action : String) (payload : Metadata)
    (now : Nat) (c : Control) : Control × Answer :=
  let action_value := strip action
  if strip challenge_id = "" then (c, .raised .challengeIdRequired)
  else if action_value = "" then (c, .raised .actionRequired)
  else
    match openChallenge "处理" "" (strip challenge_id) c with
    | .error e => (c, .raised e)
    | .ok challenge =>
      if challenge.expires_at ≤ now then (clearSlot c, .raised .challengeExpired)
      else if challenge.actions ≠ [] ∧ action_value ∉ challenge.actions.map strip
      then (c, .raised (.actionUnsupported action_value))
      else
        let seq := challenge.action_seq + 1
        let next :=
          { challenge with
            action_seq := seq
            action_request := some
                { seq := seq, action := action_value, payload := payload, requested_at := now }
            metadata := mergeMetadata challenge.metadata
                [("action_status", "pending"), ("action", action_value), ("action_error", "")] }
        ({ c with pending_verification := some next }, .challenge next)

/- `current_verification_snapshot`. -/
def currentVerificationSnapshot (c : Control) :
    Option Challenge :=
  c.pending_verification.filter (fun challenge => challenge.status = .pending)

----
-- Interleavings
----

inductive Op where
| beginWait (call : WaitCall)
| poll (waiter now : Nat)
| handlerReturn (waiter : Nat) (result : HandlerResult)
    (now : Nat)
| submitVerification (challenge_id code : String) (now : Nat)
| updateVerificationMetadata (challenge_id : String)
    (patch : Metadata)
| requestVerificationAction (challenge_id action : String)
    (payload : Metadata) (now : Nat)
| requestStop
| requestCompletionStop
| requestStopAfterCurrent
| requestSkipCurrent
| startAttempt
| finishAttempt (attempt_id : Option Nat)
| resumeAttempt (attempt_id : Option Nat)
| checkpoint (consume_skip : Bool) (attempt_id : Option Nat)
deriving DecidableEq

def step (c : Control) : Op → Control × Answer
| .beginWait call => beginWait call c
| .poll waiter now => poll waiter now c
| .handlerReturn waiter result now => handlerReturn waiter result now c
| .submitVerification challenge_id code now => submitVerification challenge_id code now c
| .updateVerificationMetadata challenge_id patch => updateVerificationMetadata challenge_id patch c
| .requestVerificationAction challenge_id action payload
    now =>
    requestVerificationAction challenge_id action payload now c
| .requestStop => requestStop c
| .requestCompletionStop => requestCompletionStop c
| .requestStopAfterCurrent => requestStopAfterCurrent c
| .requestSkipCurrent => requestSkipCurrent c
| .startAttempt => startAttempt c
| .finishAttempt attempt_id => finishAttempt attempt_id c
| .resumeAttempt attempt_id => resumeAttempt attempt_id c
| .checkpoint consume_skip attempt_id =>
    let r := checkpoint consume_skip attempt_id c
    (r.1, r.2.elim .done .raised)

abbrev run (c : Control) (ops : List Op) : Control := Machine.run step c ops

end TaskRuntime
