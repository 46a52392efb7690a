import AutoGpt.EmailChange.Model
import AutoGpt.Library.Machine

/-
  `ChatGPTEmailChangeService.run` on one durable row. A run
  keeps the row as it has read it, and goes from one call or
  commit to the next; each of them may raise, before or after
  it has taken place, and the process may be killed at each.
  Others edit and remove accounts at any time.
-/

open PyText (orElse strip)

----
-- Runs
----

namespace EmailChange

/- What a run does, besides the updates of its row and the warning on the account. -/
inductive Event where
| sourceMe
| eligibility
| beginChange
| waitOtp
| verify (outcome : VerifyOutcome)
| sourceLogin
| sourceCheck
| sourceCommit
| targetLogin
| targetCheck (tokens : Tokens) (me : Option HttpAnswer)
| localCommit
| finalizeMailbox
| finalizedCommit

/- The next step of a run, with what only this step needs. -/
inductive Pc where
| checkpoint
| accountRead
| openBrowser
| sourceMe
| eligibility
| beginChange
| waitOtp
| verify
| loopRaise (error : ChangeError)
| sourceLogin
| sourceCheck
| sourceRead (verified : Identity)
| sourceWrite (verified : Identity) (loaded : Account)
| sourceRefresh (verified : Identity)
| prepareTarget
| targetLogin
| targetCheck
| commitRead
| commitWrite (loaded : Account)
| finalize (committed_at : Nat)
| finalizedRead (committed_at : Nat)
| finalizedWrite (committed_at : Nat) (loaded : Account)
| update (patch : Patch) (next : Pc)
| closing (patch : Patch) (next : Pc)
| recoveryRead (code : String)
| recoveryWrite (code : String) (loaded : Account)
| finished
deriving DecidableEq

/- The variables of a run; `row` is what `_load_row` gave. -/
structure Run where
  task_id : String
  row : ChangeRow
  remote_changed : Bool
  target_state : Option Mailbox
  source_state : Option Mailbox := none
  account : Account
  source_identity : Identity := {}
  target_identity : Identity := {}
  expected : Identity := {}
  reauth_attempted : Bool := false
  tokens : Tokens := {}

structure Job where
  run : Run
  pc : Pc

inductive Ending where
| returned
| interrupted
| failed
| killed
deriving DecidableEq

/- What comes from outside a step. A step that does not return may have taken place. `me` is the
   answer to `requests.get`, if it does not raise. -/
structure Draw where
  now : Nat := 0
  ending : Ending := .returned
  took_place : Bool := false
  exception : String := ""
  answer : HttpAnswer := {}
  me : Option HttpAnswer := none
  code : String := ""
  mailbox : Option Mailbox := none
  tokens : Tokens := {}
  capture_error : Option ChangeError := none
  rest : String := ""

/- What is left when a run is killed, and the events so far. -/
structure World where
  row : ChangeRow
  accounts : Accounts
  log : List Event := []

/- `self.remote_changed` is set. -/
def Run.crossed (run : Run) : Run := { run with remote_changed := true }

def Run.at (run : Run) (pc : Pc) : Job where
  run := run
  pc := pc

----
-- Errors Of A Run
----

/- The update of a handler, and the warning that follows. -/
def Run.closed (env : Env) (run : Run) (error : ChangeError)
    (phase : Phase) (resumable crossed : Bool) : Job :=
  run.at
    (.closing
      { phase := some phase, status := some (if crossed then .halfDone else .failed),
        error := some (error.code, limited 1000 (env.sanitize_error_message error.message)),
        resumable := some resumable }
      (if crossed then .recoveryRead error.code
        else .finished))

/- The handler of `EmailChangeError`. -/
def Run.failed (env : Env) (run : Run) (error : ChangeError) : Job :=
  let crossed := error.remote_changed || run.remote_changed
  run.closed env error
    (if crossed then .recoveryRequired
      else error.phase.getD .created)
    (crossed || error.retryable || error.phase ∈ [some .sourceReauthRequired, some .rateLimited])
    crossed

/- The handlers of `TaskInterruption` and of all else. -/
def Run.stopped (env : Env) (run : Run) (code message : String) : Job :=
  run.closed env { code := code, message := message }
    (if run.remote_changed then .recoveryRequired
      else .created)
    run.remote_changed run.remote_changed

def Job.interrupted (env : Env) (job : Job) : Job :=
  match job.pc with
  | .verify => job.run.crossed.stopped env "stopped" "任务已停止"
  | .closing _ _ | .recoveryRead _ | .recoveryWrite _ _ => job.run.at .finished
  | _ => job.run.stopped env "stopped" "任务已停止"

/- An `EmailChangeError` that a caught exception becomes. -/
def caught (env : Env) (code message exception : String)
    (phase : Phase) (remote_changed : Bool) : ChangeError where
  code := code
  message := message ++ env.sanitize_error_message exception
  phase := some phase
  retryable := true
  remote_changed := remote_changed

def Job.crashed (env : Env) (draw : Draw) (job : Job) : Job :=
  match job.pc with
  | .verify => job.run.crossed.at (.loopRaise (verifyOutcomeUnknown "换绑确认请求结果未知，已转入只恢复模式"))
  | .sourceLogin | .sourceCheck => job.run.failed env (caught env "source_reauth_failed"
          "源账号重新认证失败：" draw.exception .sourceReauthRequired false)
  | .targetLogin => job.run.failed env (caught env "target_login_failed" "目标邮箱登录失败：" draw.exception
          .waitingTargetLoginOtp true)
  | .finalize _ => job.run.failed env (caught env "mailbox_finalize_failed"
          "目标邮箱租约确认失败：" draw.exception .recoveryRequired true)
  | .closing _ _ | .recoveryRead _ | .recoveryWrite _ _ => job.run.at .finished
  | _ => job.run.stopped env "email_change_exception" ("邮箱换绑异常：" ++ draw.exception)

----
-- The Remote Change
----

def running (phase : Phase) : Patch where
  phase := some phase
  status := some .running

def Identity.recorded (identity : Identity) :
    String × String × String :=
  (identity.user_id, identity.account_id, identity.organization_id)

/- The start of the loop of `_execute_remote_change`. -/
def Run.loopStart (run : Run) : Job := run.at (.update (running .eligibilityChecked) .openBrowser)

/- `_execute_remote_change`. -/
def Run.execute (env : Env) (run : Run) : Job := Run.loopStart { run with
      expected := sourceIdentityFromRow env run.row run.account, reauth_attempted := false }

/- The checks of `/me` and the record of the source. -/
def Run.afterSourceMe (env : Env) (draw : Draw) (run : Run) : Job :=
  if draw.answer.ok = false then
    run.at (.loopRaise (classifyHttpError env draw.answer .eligibilityChecked))
  else
    let identity := sourceIdentity env run.account draw.answer.identity
    match assertSourceIdentity env identity run.expected run.row.source_email with
    | some error => run.at (.loopRaise error)
    | none =>
      { run with source_identity := identity }.at
        (.update { source := some identity.recorded } .eligibility)

def Run.afterEligibility (env : Env) (draw : Draw) (run : Run) : Job :=
  if draw.answer.ok = false then
    run.at (.loopRaise (classifyHttpError env draw.answer .eligibilityChecked))
  else if draw.answer.eligible = false then run.at (.loopRaise
        { code := "not_eligible", message := "当前账号不满足邮箱换绑条件", phase := some .eligibilityChecked })
  else run.at (.update (running .eligibilityChecked) .beginChange)

def Run.afterBegin (env : Env) (draw : Draw) (run : Run) : Job :=
  if draw.answer.ok = false then run.at (.loopRaise (classifyHttpError env draw.answer .beginSent))
  else if draw.answer.success = false then run.at
      (.loopRaise
        { code := "begin_response_invalid", message := "OpenAI 未确认已发送换绑验证码",
          phase := some .beginSent, retryable := true })
  else
    run.at (.update (running .beginSent) (.update
          { running .waitingChangeOtp with mailbox_state := some run.target_state } .waitOtp))

/- The code of the mail is there: its cursor is frozen, and the
   boundary is marked before the request. -/
def Run.afterOtp (draw : Draw) (run : Run) : Job :=
  if strip draw.code = "" then run.at
      (.loopRaise
        { code := "otp_timeout", message := "换绑确认验证码未获取到验证码", phase := some .verifyOtp,
          remote_changed := run.remote_changed })
  else
    let frozen : Patch := { running .waitingChangeOtp with mailbox_state := some draw.mailbox }
    { run with target_state := draw.mailbox }.at (.update frozen (.update
          { frozen with verify_submitted_at := some (some draw.now) } .verify))

def Run.afterVerify (env : Env) (draw : Draw) (run : Run) : Job :=
  match draw.answer.outcome with
  | .unknown => run.crossed.at
        (.loopRaise
          (verifyOutcomeUnknown
            (if draw.answer.ok then "换绑确认响应缺少成功凭据，已转入只恢复模式"
            else "换绑确认请求结果未知，已转入只恢复模式")))
  | .rejected => run.at (.update { verify_submitted_at := some none }
          (.loopRaise (classifyHttpError env draw.answer .waitingChangeOtp)))
  | .success => run.crossed.at
        (.update
          { running .remoteEmailChanged with
            remote_changed_at := some draw.now,
            mailbox_state := some run.target_state }
          .prepareTarget)

/- The source mailbox can receive a login code. -/
def Run.reauthSource (env : Env) (run : Run) : Job :=
  match env.safe_mailbox_state run.source_state run.account.email with
  | some state =>
    if normalizeEmail env state.email = run.account.email then
      { run with source_state := some state }.at (.update
          { running .sourceReauthRequired with resumable := some true } .sourceLogin)
    else run.failed env sourceMailboxMissing
  | none => run.failed env sourceMailboxMissing
where
  sourceMailboxMissing : ChangeError :=
    { code := "source_mailbox_missing", message := "源账号缺少可恢复的邮箱收码通道，无法重新认证",
      phase := some .sourceReauthRequired }

/- The `except EmailChangeError` of the loop. -/
def Run.afterLoopRaise (env : Env) (run : Run) (error : ChangeError) : Job :=
  if error.requiresReauth = false then run.failed env error
  else if run.reauth_attempted then run.failed env
      { code := "source_reauth_exhausted", message := "源账号重新认证后仍无法通过换绑资格校验",
        phase := some .sourceReauthRequired, retryable := true }
  else run.reauthSource env

----
-- Source Sessions
----

/- `account_missing`. -/
def accountMissing (message : String) (remote_changed : Bool) :
    ChangeError where
  code := "account_missing"
  message := message
  remote_changed := remote_changed

def Run.afterSourceLogin (env : Env) (draw : Draw) (run : Run) : Job :=
  match draw.capture_error with
  | some error => run.failed env error
  | none =>
    { run with
      tokens := draw.tokens
      source_state := env.safe_mailbox_state draw.mailbox
          run.account.email }.at
      .sourceCheck

def Run.afterSourceCheck (env : Env) (draw : Draw) (run : Run) : Job :=
  match verifyRemoteIdentity env run.tokens { run.expected with email := run.account.email }
      "源账号重新认证" false draw.me with
  | .error error => run.failed env error
  | .ok verified =>
    if strip run.tokens.access_token = "" ∨ strip run.tokens.session_token = "" ∨
        run.tokens.cookieHeader = "" ∨
        strip verified.account_id = "" then
      run.failed env
        { code := "source_reauth_incomplete", message := "源账号重新认证成功但网页会话材料不完整",
          phase := some .sourceReauthRequired, retryable := true }
    else run.at (.sourceRead verified)

/- The checks of `_persist_source_session`. -/
def Run.afterSourceRead (env : Env) (accounts : Accounts) (run : Run) (verified : Identity) : Job :=
  match accounts.find? run.account.id with
  | none => run.failed env (accountMissing "原 ChatGPT 账号不存在" false)
  | some account =>
    if account.platform ≠ "chatgpt" then run.failed env (accountMissing "原 ChatGPT 账号不存在" false)
    else if normalizeEmail env account.email ≠ run.account.email then run.failed env
        { code := "source_row_changed", message := "源账号记录在重新认证期间已变化" }
    else if differs (strip account.extra.account_id)
        (strip verified.account_id) then
      run.failed env (identityMismatch "源账号重新认证捕获了另一个 ChatGPT 账号" .sourceReauthRequired false)
    else run.at (.sourceWrite verified account)

def Extra.withSession (extra : Extra) (tokens : Tokens) :
    Extra :=
  { extra with
    access_token := strip tokens.access_token,
    session_token := strip tokens.session_token, cookies := tokens.cookieHeader,
    cookie_header := tokens.cookieHeader }

/- What `_persist_source_session` writes. -/
def Run.sourceWritten (env : Env) (rest : String) (run : Run)
    (verified : Identity) (loaded : Account) : Account :=
  let extra := loaded.extra.withSession run.tokens
  { loaded with
    token := strip run.tokens.access_token
    user_id := strip (orElse verified.user_id loaded.user_id)
    extra :=
      { extra with
        account_id := strip verified.account_id,
        organization_id := orElse verified.organization_id extra.organization_id,
        mailbox_state := env.safe_mailbox_state run.source_state run.account.email, rest := rest } }

/- The known values of `verified` replace the expected. -/
def Identity.merged (expected verified : Identity) : Identity where
  email := orElse verified.email expected.email
  user_id := orElse verified.user_id expected.user_id
  account_id := orElse verified.account_id expected.account_id
  organization_id := orElse verified.organization_id expected.organization_id

/- The source is recorded again, and the loop starts anew. -/
def Run.afterSourceRefresh (env : Env) (draw : Draw) (accounts : Accounts) (run : Run)
    (verified : Identity) : Job :=
  match accounts.find? run.account.id with
  | none => (run.at (.sourceRefresh verified)).crashed env draw
  | some account =>
    let refreshed : Run :=
      { run with
        account := detachedAccount env account, expected := run.expected.merged verified,
        reauth_attempted := true }
    refreshed.at
      (.update
        { running .sourceReauthRequired with
          source := some verified.recorded,
          resumable := some false }
        refreshed.loopStart.pc)

----
-- The Local Commit
----

def Run.committedEmail (env : Env) (run : Run) : String :=
  normalizeEmail env ((run.target_state.map fun state => state.email).getD "")

/- `_prepare_target_login` before the login. -/
def Run.prepareTarget (env : Env) (run : Run) : Job :=
  if run.committedEmail env = "" then run.failed env
      { code := "target_mailbox_missing", message := "目标邮箱状态缺少地址", remote_changed := true }
  else
    run.at (.update (running .waitingTargetLoginOtp) (.update
          { running .waitingTargetLoginOtp with mailbox_state := some run.target_state }
          .targetLogin))

def Run.afterTargetLogin (env : Env) (draw : Draw) (run : Run) : Job :=
  match draw.capture_error with
  | some error => run.failed env error
  | none =>
    if draw.tokens.access_token = "" ∨ draw.tokens.session_token = "" ∨
        draw.tokens.cookie_header = "" then
      run.failed env
        { code := "target_login_incomplete", message := "目标邮箱登录成功但网页会话材料不完整",
          remote_changed := true }
    else
      let exported := env.safe_mailbox_state draw.mailbox (run.committedEmail env)
      { run with tokens := draw.tokens, target_state := exported }.at
        (.update { running .sessionCaptured with mailbox_state := some exported } .targetCheck)

def Run.afterTargetCheck (env : Env) (draw : Draw) (run : Run) : Job :=
  match verifyRemoteIdentity env run.tokens
      { run.source_identity with email := normalizeEmail env run.row.target_email }
      "目标邮箱登录" true draw.me with
  | .error error => run.failed env error
  | .ok verified =>
    { run with target_identity := verified }.at (.update
        { running .identityVerified with mailbox_state := some run.target_state } .commitRead)

/- The checks of `_commit_account` before it reads. -/
def Run.commitError (env : Env) (run : Run) :
    Option ChangeError :=
  let target_email := run.committedEmail env
  let source := run.source_identity
  let target := run.target_identity
  let mismatch := fun message => some (identityMismatch message .identityVerified true)
  if target_email = "" ∨ strip run.tokens.access_token = "" ∨ strip run.tokens.session_token = "" ∨
      run.tokens.cookieHeader = "" then
    some { code := "target_session_incomplete", message := "目标登录材料不完整", remote_changed := true }
  else if knownDiffer source.account_id
      (strip target.account_id) then
    mismatch "目标登录属于另一个 ChatGPT 账号"
  else if knownDiffer source.user_id target.user_id then mismatch "目标登录用户 ID 与原账号不一致"
  else if knownDiffer source.organization_id
      target.organization_id then
    mismatch "目标登录默认组织与原账号不一致"
  else if knownDiffer target_email target.email then mismatch "目标登录邮箱与冻结目标不一致"
  else none

/- Another ChatGPT account has the address. -/
def Accounts.conflict (accounts : Accounts) (target_email : String) (account_id : Nat) : Bool :=
  accounts.rows.any fun account => account.platform = "chatgpt" &&
      sameNocase account.email target_email && account.id ≠ account_id

/- `_commit_account` before it writes. -/
def Run.afterCommitRead (env : Env) (accounts : Accounts) (run : Run) : Job :=
  match run.commitError env with
  | some error => run.failed env error
  | none =>
    match accounts.find? run.row.account_id with
    | none => run.failed env (accountMissing "原 ChatGPT 账号不存在" true)
    | some account =>
      if account.platform ≠ "chatgpt" then run.failed env (accountMissing "原 ChatGPT 账号不存在" true)
      else if normalizeEmail env account.email ≠ normalizeEmail env run.source_identity.email then
        run.failed env
          { code := "source_row_changed", message := "原账号记录在换绑期间已被修改", remote_changed := true }
      else if accounts.conflict (run.committedEmail env)
          run.row.account_id then
        run.failed env
          { code := "target_email_conflict", message := "目标邮箱已被其他 ChatGPT 账号占用",
            remote_changed := true }
      else run.at (.commitWrite account)

/- What `_commit_account` writes. -/
def Run.targetCommitted (env : Env) (rest : String) (run : Run) (loaded : Account) : Account :=
  let extra := loaded.extra.withSession run.tokens
  let target_email := run.committedEmail env
  { loaded with
    email := target_email
    token := strip run.tokens.access_token
    user_id := strip (orElse run.source_identity.user_id
          (orElse loaded.user_id run.target_identity.user_id))
    extra :=
      { extra with
        account_id := orElse (strip run.target_identity.account_id) extra.account_id
        organization_id := orElse run.target_identity.organization_id extra.organization_id
        mailbox_state := env.safe_mailbox_state run.target_state target_email
        marker := some
            { task_id := run.task_id, source_email := normalizeEmail env run.source_identity.email,
              target_email := target_email }
        recovery := none
        rest := rest } }

----
-- The Mailbox
----

def Account.markedBy (account : Account) (task_id : String) :
    Bool :=
  decide (strip ((account.extra.marker.map fun marker => marker.task_id).getD "") = task_id)

def donePatch (committed_at finalized_at : Nat) (run : Run) : Patch where
  phase := some .committed
  status := some .done
  committed_at := some committed_at
  mailbox_finalized_at := some finalized_at
  mailbox_state := some run.target_state
  resumable := some false

/- `_finalize_target_mailbox` before the lease is confirmed. -/
def Run.finalizePc (run : Run) (committed_at : Nat) : Pc := .update
    { running .identityVerified with mailbox_state := some run.target_state }
    (.finalize committed_at)

def Run.afterCommitWrite (draw : Draw) (run : Run) : Job := run.at (.update
      { running .identityVerified with
        committed_at := some draw.now,
        mailbox_state := some run.target_state, resumable := some true }
      (run.finalizePc draw.now))

def Run.afterFinalize (env : Env) (draw : Draw) (run : Run) (committed_at : Nat) :
    Job :=
  { run with
    target_state := env.safe_mailbox_state draw.mailbox
        (normalizeEmail env run.row.target_email) }.at
    (.finalizedRead committed_at)

/- The checks of `_persist_finalized_mailbox_state`. -/
def Run.afterFinalizedRead (env : Env) (accounts : Accounts) (run : Run)
    (committed_at : Nat) : Job :=
  match accounts.find? run.row.account_id with
  | none => run.failed env (accountMissing "本地提交后的 ChatGPT 账号不存在" true)
  | some account =>
    if account.platform ≠ "chatgpt" then run.failed env (accountMissing "本地提交后的 ChatGPT 账号不存在" true)
    else if normalizeEmail env account.email ≠ normalizeEmail env run.row.target_email then
      run.failed env
        { code := "local_commit_missing", message := "目标邮箱已远端换绑，但本地账号提交状态不一致",
          remote_changed := true }
    else if account.markedBy run.task_id = false then run.failed env
        { code := "local_commit_marker_mismatch", message := "目标邮箱对应的本地提交标记不属于当前任务",
          remote_changed := true }
    else run.at (.finalizedWrite committed_at account)

def Run.finalized (env : Env) (rest : String) (run : Run) (loaded : Account) : Account :=
  { loaded with
    extra :=
      { loaded.extra with
        mailbox_state :=
          env.safe_mailbox_state run.target_state (normalizeEmail env run.row.target_email)
        marker := loaded.extra.marker.map fun marker => { marker with mailbox_finalized := true }
        recovery := none
        rest := rest } }

def Run.afterFinalizedWrite (draw : Draw) (run : Run) (committed_at : Nat) : Job := run.at (.update
      { running .identityVerified with
        mailbox_finalized_at := some draw.now,
        mailbox_state := some run.target_state }
      (.update (donePatch committed_at draw.now run) .finished))

----
-- The Start Of A Run
----

/- The variables with which a run starts. -/
def Run.loaded (env : Env) (task_id : String) (row : ChangeRow) : Run where
  task_id := strip task_id
  row := row
  remote_changed := row.crossed
  target_state := env.safe_mailbox_state row.mailbox_state row.target_email
  account := { id := row.account_id, email := "" }

def Run.afterCheckpoint (run : Run) : Job := run.at (.update
      { running
          (if run.remote_changed then .recoveryRequired
            else .created) with
        error := some ("", "")
        resumable := some false }
      .accountRead)

/- `_local_commit_present`; the account is detached. -/
def Run.localCommitPresent (env : Env) (run : Run) : Bool := decide
      (run.account.email = normalizeEmail env run.row.target_email) &&
    run.account.markedBy run.task_id

/- The local account already has the target e-mail. -/
def Run.recovered (draw : Draw) (run : Run) : Job :=
  let committed_at := run.row.committed_at.getD draw.now
  let close :=
    match run.row.mailbox_finalized_at with
    | none => run.finalizePc committed_at
    | some finalized_at => .update (donePatch committed_at finalized_at run) .finished
  run.at
    (match run.row.committed_at with
    | none => .update { committed_at := some draw.now } close
    | some _ => close)

def Run.targetReserved (env : Env) (run : Run) : Bool :=
  match run.target_state with
  | none => false
  | some state => decide (normalizeEmail env state.email = normalizeEmail env run.row.target_email)

/- Where a run goes on, once it has the account. -/
def Run.resumed (env : Env) (draw : Draw) (run : Run) : Job :=
  let current_email := run.account.email
  let identity := sourceIdentityFromRow env run.row run.account
  if run.targetReserved env = false then run.failed env
      { code := "target_mailbox_missing", message := "目标邮箱预留状态不存在或地址已变化",
        remote_changed := run.remote_changed }
  else if current_email = normalizeEmail env run.row.target_email then
    if run.localCommitPresent env then run.crossed.recovered draw
    else
      run.crossed.failed env
        { code := "local_commit_marker_mismatch", message := "本地账号邮箱已是目标地址，但缺少当前任务的提交标记",
          remote_changed := true }
  else if current_email ≠ normalizeEmail env run.row.source_email then run.failed env
      { code := "source_row_changed", message := "原账号邮箱已变化，无法确认当前换绑归属",
        remote_changed := run.remote_changed }
  else if run.row.committed_at.isSome then run.failed env
      { code := "local_commit_missing", message := "持久化记录显示已提交，但原账号邮箱仍未更新", remote_changed := true }
  else if run.remote_changed = false then run.execute env
  else if identity.user_id = "" ∨ identity.account_id = "" then run.failed env
      { code := "source_identity_missing_for_recovery", message := "远端换绑结果待恢复，但缺少原账号身份快照，禁止自动提交",
        remote_changed := true }
  else { run with source_identity := identity }.at .prepareTarget

def Run.opened (env : Env) (run : Run) (account : Account) : Run :=
  { run with
    account := detachedAccount env account
    source_state :=
      if normalizeEmail env account.email = normalizeEmail env run.row.source_email then
        env.mailbox_state_from_account account
      else none }

def Run.afterAccountRead (env : Env) (draw : Draw) (accounts : Accounts) (run : Run) : Job :=
  match accounts.find? run.row.account_id with
  | none => run.failed env (accountMissing "ChatGPT 账号不存在" false)
  | some account =>
    if account.platform ≠ "chatgpt" then run.failed env (accountMissing "ChatGPT 账号不存在" false)
    else (run.opened env account).resumed env draw

def Run.recoveryWritten (env : Env) (rest code : String) (run : Run)
    (row : ChangeRow) (loaded : Account) : Account :=
  { loaded with
    extra :=
      { loaded.extra with
        recovery := some
            { task_id := run.task_id, source_email := normalizeEmail env row.source_email,
              target_email := normalizeEmail env row.target_email, error_code := code }
        rest := rest } }

----
-- Steps
----

/- The event of a call. A verify request that does not return has an unknown outcome. -/
def Job.event (draw : Draw) (job : Job) : Option Event :=
  match job.pc with
  | .sourceMe => some .sourceMe
  | .eligibility => some .eligibility
  | .beginChange => some .beginChange
  | .waitOtp => some .waitOtp
  | .verify => some
        (.verify
          (if draw.ending = .returned then draw.answer.outcome
            else .unknown))
  | .sourceLogin => some .sourceLogin
  | .sourceCheck => some .sourceCheck
  | .targetLogin => some .targetLogin
  | .targetCheck => some (.targetCheck job.run.tokens draw.me)
  | .finalize _ => some .finalizeMailbox
  | _ => none

/- The account that a run writes: as it is after the write, as
   it was loaded, and the event of the write. -/
def Job.accountWrite (env : Env) (draw : Draw) (row : ChangeRow) (job : Job) :
    Option (Account × Account × List Event) :=
  let run := job.run
  match job.pc with
  | .sourceWrite verified loaded =>
    some (run.sourceWritten env draw.rest verified loaded, loaded, [.sourceCommit])
  | .commitWrite loaded => some (run.targetCommitted env draw.rest loaded, loaded, [.localCommit])
  | .finalizedWrite _ loaded =>
    some (run.finalized env draw.rest loaded, loaded, [.finalizedCommit])
  | .recoveryWrite code loaded =>
    some (run.recoveryWritten env draw.rest code row loaded, loaded, [])
  | _ => none

def Job.patch (job : Job) : Option Patch :=
  match job.pc with
  | .update patch _ => some patch
  | .closing patch _ => some patch
  | _ => none

/- A commit of an account; one that is gone is not written. -/
def World.commit (w : World) (new loaded : Account) (events : List Event) :
    World :=
  match w.accounts.find? loaded.id with
  | none => w
  | some _ =>
    { w with
      accounts :=
        w.accounts.updateKey loaded.id (new.committed loaded) (Account.committed_id new loaded)
      log := w.log ++ events }

def Job.effect (env : Env) (draw : Draw) (w : World) (job : Job) : World :=
  match job.patch with
  | some patch => { w with row := w.row.patched env patch }
  | none =>
    match job.accountWrite env draw w.row with
    | some (new, loaded, events) => w.commit new loaded events
    | none => { w with log := w.log ++ (job.event draw).toList }

/- Where a run goes on when the step returns. -/
def Job.next (env : Env) (draw : Draw) (w : World) (job : Job) : Job :=
  let run := job.run
  match job.pc with
  | .checkpoint => run.afterCheckpoint
  | .accountRead => run.afterAccountRead env draw w.accounts
  | .openBrowser =>
    if cookieHeaderFromExtra run.account.extra = "" then run.at
        (.loopRaise { code := "source_session_missing", message := "源账号缺少网页 Cookie 会话" })
    else run.at .sourceMe
  | .sourceMe => run.afterSourceMe env draw
  | .eligibility => run.afterEligibility env draw
  | .beginChange => run.afterBegin env draw
  | .waitOtp => run.afterOtp draw
  | .verify => run.afterVerify env draw
  | .loopRaise error => run.afterLoopRaise env error
  | .sourceLogin => run.afterSourceLogin env draw
  | .sourceCheck => run.afterSourceCheck env draw
  | .sourceRead verified => run.afterSourceRead env w.accounts verified
  | .sourceWrite verified loaded =>
    match w.accounts.find? loaded.id with
    | none => job.crashed env draw
    | some _ => run.at (.sourceRefresh verified)
  | .sourceRefresh verified => run.afterSourceRefresh env draw w.accounts verified
  | .prepareTarget => run.prepareTarget env
  | .targetLogin => run.afterTargetLogin env draw
  | .targetCheck => run.afterTargetCheck env draw
  | .commitRead => run.afterCommitRead env w.accounts
  | .commitWrite loaded =>
    match w.accounts.find? loaded.id with
    | none => job.crashed env draw
    | some _ => run.afterCommitWrite draw
  | .finalize committed_at => run.afterFinalize env draw committed_at
  | .finalizedRead committed_at => run.afterFinalizedRead env w.accounts committed_at
  | .finalizedWrite committed_at loaded =>
    match w.accounts.find? loaded.id with
    | none => job.crashed env draw
    | some _ => run.afterFinalizedWrite draw committed_at
  | .update _ next => run.at next
  | .closing _ next => run.at next
  | .recoveryRead code =>
    match w.accounts.find? w.row.account_id with
    | none => run.at .finished
    | some account =>
      if account.platform ≠ "chatgpt" then run.at .finished
      else run.at (.recoveryWrite code account)
  | .recoveryWrite _ _ => run.at .finished
  | .finished => run.at .finished

/- What is left of a step, however it ends. -/
def Job.world (env : Env) (draw : Draw) (w : World) (job : Job) : World :=
  if draw.ending = .returned ∨ draw.took_place then job.effect env draw w
  else w

/- Where a run goes on; a killed one does not. -/
def Job.after (env : Env) (draw : Draw) (w : World) (job : Job) :
    Option Job :=
  match draw.ending with
  | .returned => some (job.next env draw w)
  | .interrupted => some (job.interrupted env)
  | .failed => some (job.crashed env draw)
  | .killed => none

----
-- Sequences Of Runs
----

structure State where
  world : World
  current : Option Job := none

/- A run starts, with the id of its task; it makes a step; or
   another session writes or removes an account. -/
inductive Op where
| start (task_id : String)
| step (draw : Draw)
| edit (account : Account)
| remove (account_id : Nat)

/- A run is over when nothing is left to do. -/
def ongoing (job : Job) : Bool := decide (job.pc ≠ .finished)

def step (env : Env) (s : State) : Op → State × Unit
| .start task_id =>
    match s.current with
    | some _ => (s, ())
    | none =>
      if strip task_id = "" then (s, ())
      else
        ({ s with
           current := some
               ((Run.loaded env task_id s.world.row).at
                 .checkpoint) },
          ())
| .step draw =>
    match s.current with
    | none => (s, ())
    | some job =>
      ({ world := job.world env draw s.world
         current := (job.after env draw s.world).filter ongoing },
        ())
| .edit account =>
    ({ s with world := { s.world with accounts := s.world.accounts.put account } }, ())
| .remove account_id =>
    ({ s with
       world :=
         { s.world with
           accounts := s.world.accounts.deleteWhere fun account => account.id = account_id } },
      ())

def State.initial (row : ChangeRow) (accounts : Accounts) :
    State where
  world := { row := row, accounts := accounts }

abbrev runs (env : Env) (row : ChangeRow) (accounts : Accounts) (ops : List Op) : State :=
  Machine.run (step env) (State.initial row accounts) ops

end EmailChange
