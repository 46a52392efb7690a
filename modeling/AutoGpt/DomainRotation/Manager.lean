import AutoGpt.DomainRotation.Scheduler
import AutoGpt.Library.Machine
import Mathlib.Data.List.Sort

/-
  The public methods of `RegistrationDomainRotationManager`
  and the repair of stored groups at start-up.

  Every method holds the manager's lock from end to end, so a
  run is a list of method calls and retry callbacks. An
  object of a group keeps its number for ever; the tables say
  which objects the manager still knows.
-/

open PyText (orElse strip)

----
-- Worlds And Lookups
----

namespace DomainRotation

/- All group objects ever made, and the shared tables. -/
structure World where
  runtimes : List Runtime := []
  shared : Shared := {}

inductive Answer where
| done
| missing
| group (snapshot : Snapshot)
| raised (message : String)

/- The object that `_groups` has for a group id. -/
def World.lockGroup (w : World) (group_id : String) :
    Option Locked :=
  match w.shared.groups.find? group_id with
  | none => none
  | some link => (w.runtimes[link.runtime]?).map fun runtime =>
        { self := link.runtime, runtime := runtime, shared := w.shared }

/- `_runtime_item_for_task_locked`. -/
def World.lockTask (w : World) (task_id : String) :
    Option (Locked × Item) :=
  match w.shared.task_to_group.find? (strip task_id) with
  | none => none
  | some link =>
    match w.lockGroup link.group_id with
    | none => none
    | some s => (s.item? link.position).map fun item => (s, item)

def World.unlock (w : World) (s : Locked) : World where
  runtimes := w.runtimes.set s.self s.runtime
  shared := s.shared

----
-- Creating A Group
----

/- The arguments of `create_group`. -/
structure CreateGroup where
  group_id : String
  domains : List String
  requested_count_per_task : Int
  requested_concurrency_per_task : Int
  active_domain_slots : Int
  rejection_rate_threshold_percent : ℚ
  rejection_rate_min_samples : Int
  no_link_streak_threshold : Int
deriving DecidableEq

/- `str(raw).strip().lower().lstrip("@.")`. -/
def normalizeDomain (env : Env) (raw_domain : String) :
    String :=
  String.ofList ((lowered env raw_domain).toList.dropWhile (fun c => c = '@' || c = '.'))

/- One pass of the loop over the submitted domains. -/
def addDomain (domains : List String) (domain : String) :
    List String :=
  if domain = "" ∨ domain ∈ domains then domains
  else domains ++ [domain]

/- `normalized_domains`. -/
def normalizedDomains (env : Env) (domains : List String) :
    List String :=
  (domains.map (normalizeDomain env)).foldl addDomain []

def newItems (domains : List String) : Items where
  rows := (domains.zipIdx 1).map fun entry => { domain := entry.1, position := entry.2 }
  keys_nodup := by
    rw [List.map_map]
    have hPositions : (Item.position ∘ fun entry : String × Nat =>
            ({ domain := entry.1, position := entry.2 } : Item)) =
          Prod.snd := rfl
    rw [hPositions, List.zipIdx_map_snd]
    exact List.nodup_range'

def newSnapshot (call : CreateGroup) (domains : List String) :
    Snapshot where
  task_group_id := strip call.group_id
  requested_domain_count := domains.length
  requested_count_per_task := positiveInt call.requested_count_per_task 1
  requested_concurrency_per_task := positiveInt call.requested_concurrency_per_task 1
  active_domain_slots := min (positiveInt call.active_domain_slots 1) domains.length
  policy :=
    { rejection_rate_threshold_percent := min (max call.rejection_rate_threshold_percent 0) 100
      rejection_rate_min_samples := positiveInt call.rejection_rate_min_samples 10
      no_link_streak_threshold := positiveInt call.no_link_streak_threshold 10 }
  items := newItems domains

/- The object of a new group, registered under its id. -/
def newLocked (call : CreateGroup) (domains : List String) (w : World) : Locked where
  self := w.runtimes.length
  runtime := { snapshot := newSnapshot call domains }
  shared :=
    { w.shared with
      groups := w.shared.groups.put
          { group_id := strip call.group_id, runtime := w.runtimes.length } }

/- `create_group`; without a stored snapshot it gives up. -/
def createGroup (env : Env) (call : CreateGroup) (w : World) :
    World × Answer :=
  let domains := normalizedDomains env call.domains
  if strip call.group_id = "" ∨ domains = [] then
    (w, .raised "rotation group id and domains are required")
  else if (w.shared.groups.find?
      (strip call.group_id)).isSome then
    (w, .raised "rotation group already exists")
  else
    let s := newLocked call domains w
    if persists env s then
      let next := finalizeIfIdle env (fillSlotsLocked env (persist env s))
      ({ runtimes := w.runtimes ++ [next.runtime], shared := next.shared }, .group next.snapshot)
    else
      ({ w with shared := { w.shared with persist_calls := w.shared.persist_calls + 1 } },
        .raised "轮换任务组状态持久化失败，未启动任何域名任务")

----
-- Quality Events
----

def drainItem (trigger : Trigger) (item : Item) : Item :=
  { item with state := .draining, trigger := some trigger }

/- `_trigger_quality_stop_locked`. -/
def triggerQualityStop (env : Env) (position : Nat) (code message : String) (s : Locked) : Locked :=
  match s.item? position with
  | none => s
  | some item =>
    let task_id := strip item.task_id
    if item.state = .active ∧ task_id ≠ "" then
      let drained := persist env (s.edit position
            (drainItem { code := code, message := truncate 1000 message }) (fun _ => rfl))
      { drained with
        shared :=
          { drained.shared with
            stops := drained.shared.stops ++
                [{ task_id := task_id, mode := "after_current", reason := code }] } }
    else s

/- The counters after one registration decision. -/
def countDecision (disallowed : Bool) (item : Item) : Item :=
  let quality := item.quality
  { item with
    quality :=
      { quality with
        registration_decisions := quality.registration_decisions + 1
        registration_accepted :=
          if disallowed then quality.registration_accepted
          else quality.registration_accepted + 1
        registration_disallowed :=
          if disallowed then quality.registration_disallowed + 1
          else quality.registration_disallowed } }

/- `record_registration_result`. -/
def recordRegistrationResult (env : Env) (task_id decision : String) (w : World) :
    World × Answer :=
  let normalized_decision := lowered env decision
  if normalized_decision ∉ ["accepted", "registration_disallowed"] then (w, .done)
  else
    match w.lockTask task_id with
    | none => (w, .done)
    | some (s, item) =>
      let disallowed := decide (normalized_decision = "registration_disallowed")
      let counted := persist env ((markTechnicalRecovery item.position s).edit
            item.position (countDecision disallowed) (fun _ => rfl))
      let quality := (countDecision disallowed item).quality
      let policy := s.snapshot.policy
      let threshold := policy.rejection_rate_threshold_percent
      let minimum := policy.rejection_rate_min_samples
      if minimum ≤ quality.registration_decisions ∧ env.rateAbove threshold
            quality.registration_disallowed
            quality.registration_decisions then
        (w.unlock (triggerQualityStop env item.position "registration_rejection_rate_exceeded"
            ("开户拒绝率触发阈值：" ++ env.rateText threshold quality.registration_disallowed
                quality.registration_decisions ++ "（最小样本 " ++ toString minimum ++ "）") counted),
          .done)
      else (w.unlock counted, .done)

def ledgerOrder (a b : Account) : Bool := decide (a.attempt_order < b.attempt_order) ||
    decide (a.attempt_order = b.attempt_order ∧ a.account_id ≤ b.account_id)

/- The misses since the last success, in ledger order. -/
def missStreak (accounts : List Account) : Nat :=
  let terminal := ((accounts.insertionSort (fun a b => ledgerOrder a b)).map
      Account.state).filter (fun state => state ∈ [.success, .miss])
  (terminal.reverse.takeWhile (fun state => state ≠ .success)).length

def linkQuality (accounts : List Account) (quality : Quality) :
    Quality :=
  let count := fun states : List AccountState =>
    accounts.countP (fun account => account.state ∈ states)
  { quality with
    registered_accounts := accounts.length, link_success := count [.success],
    link_quality_miss := count [.miss], link_technical_neutral := count [.neutral],
    link_pending := count [.pending, .awaiting_link],
    link_current_miss_streak := missStreak accounts }

/- The item with recomputed link counters. -/
def requalify (accounts : List Account) (item : Item) : Item :=
  { item with quality := linkQuality accounts item.quality }

/- `_recompute_link_quality_locked`. -/
def recomputeLinkQuality (position : Nat) (s : Locked) :
    Locked :=
  s.edit position (requalify (s.runtime.accounts position)) (fun _ => rfl)

/- `accounts.setdefault`. -/
def addAccount (account : Account) (s : Locked) : Locked :=
  if (s.runtime.accounts account.position).any (fun a => a.account_id = account.account_id) then s
  else
    { s with
      runtime := { s.runtime with account_ledgers := s.runtime.account_ledgers ++ [account] } }

/- `record_registered_account`. -/
def recordRegisteredAccount (env : Env) (task_id : String)
    (account_id attempt_order : Int) (w : World) : World × Answer :=
  if positiveInt account_id 0 = 0 then (w, .done)
  else
    match w.lockTask task_id with
    | none => (w, .done)
    | some (s, item) =>
      let added := addAccount
          { position := item.position, account_id := positiveInt account_id 0,
            attempt_order := positiveInt attempt_order 1, state := .pending,
            reason_code := "registration_succeeded" }
          (markTechnicalRecovery item.position s)
      (w.unlock (persist env (recomputeLinkQuality item.position added)), .done)

/- `_set_account_outcome` on the account of the ledger. -/
def setAccountOutcome (position account_id : Nat) (state : AccountState)
    (reason_code : String) (s : Locked) : Locked :=
  { s with
    runtime :=
      { s.runtime with
        account_ledgers := s.runtime.account_ledgers.map fun account =>
            if account.position = position ∧ account.account_id = account_id then
              { account with state := state, reason_code := truncate 128 reason_code }
            else account } }

/- `_after_link_outcome_locked`. -/
def afterLinkOutcome (env : Env) (position : Nat) (s : Locked) : Locked :=
  let requalified := persist env (recomputeLinkQuality position s)
  match requalified.item? position with
  | none => requalified
  | some item =>
    let streak := item.quality.link_current_miss_streak
    let threshold := s.snapshot.policy.no_link_streak_threshold
    if threshold ≤ streak then triggerQualityStop env position "no_payment_link_streak_reached"
        ("连续 " ++ toString streak ++ " 个业务终态未提链成功，达到阈值 " ++ toString threshold) requalified
    else requalified

structure LinkResult where
  account_id : Int
  state : String := ""
  reason_code : String := ""
  message : String := ""
  error : String := ""
deriving DecidableEq

/- What an eligibility result makes of an account. -/
def eligibilityOutcome (state : String) (current_state : AccountState) :
    Option AccountState :=
  if state = "eligible" then
    if current_state ∈ [.pending, .awaiting_link] then some .awaiting_link
    else none
  else if state = "ineligible" then
    if current_state ≠ .success then some .miss else none
  else if state ∈ ["probe_failed", "skipped"] then
    if current_state ∉ [.success, .miss] then some .neutral
    else none
  else if current_state ∉ [.success, .miss, .neutral] then some .pending
  else none

def linkOutcome (state : String) (technical : Bool)
    (current_state : AccountState) : Option AccountState :=
  if state ∈ ["link_succeeded", "submitted", "submit_failed"]
  then some .success
  else if state = "extract_failed" ∧ current_state ≠ .success then
    some (if technical then .neutral else .miss)
  else if state = "pending_auth" ∧ current_state ∉ [.success, .miss, .neutral] then some .pending
  else if current_state ∉ [.success, .miss] then some .neutral
  else none

/- The common part of the two result methods. -/
def recordOutcome (env : Env) (task_id : String) (account_id : Nat) (reason_code : String)
    (outcome : AccountState → Option AccountState) (w : World) : World × Answer :=
  match w.lockTask task_id with
  | none => (w, .done)
  | some (s, item) =>
    match (s.runtime.accounts item.position).find?
        (fun account => account.account_id = account_id) with
    | none => (w, .done)
    | some account =>
      let changed :=
        match outcome account.state with
        | none => s
        | some state => setAccountOutcome item.position account_id state reason_code s
      (w.unlock (afterLinkOutcome env item.position changed), .done)

/- `record_eligibility_result`. -/
def recordEligibilityResult (env : Env) (task_id : String) (result : LinkResult)
    (w : World) : World × Answer :=
  let account_id := positiveInt result.account_id 0
  if account_id = 0 then (w, .done)
  else
    let state := lowered env (orElse result.state "probe_failed")
    let reason_code := lowered env (orElse result.reason_code state)
    recordOutcome env task_id account_id reason_code (eligibilityOutcome state) w

/- `record_link_result`. -/
def recordLinkResult (env : Env) (task_id : String) (result : LinkResult)
    (w : World) : World × Answer :=
  let account_id := positiveInt result.account_id 0
  if account_id = 0 then (w, .done)
  else
    let state := lowered env result.state
    let reason_code := lowered env (orElse result.reason_code state)
    let message := orElse result.message result.error
    recordOutcome env task_id account_id reason_code
      (linkOutcome state (technicalLinkFailure env reason_code message)) w

----
-- The End Of A Task
----

/- `_set_attempt_terminal_locked`. -/
def endAttempt (task_id state error : String) (item : Item) :
    Item :=
  { item with
    attempts := item.attempts.map fun a =>
        if strip a.task_id = strip task_id then
          { a with state := state, error := truncate 1000 error }
        else a }

def ItemState.text : ItemState → String
| .pending => "pending"
| .starting => "starting"
| .active => "active"
| .draining => "draining"
| .retry_wait => "retry_wait"
| .completed => "completed"
| .stopped => "stopped"
| .cancelled => "cancelled"
| .start_failed => "start_failed"
| .technical_failed => "technical_failed"
| .failed => "failed"
| .interrupted => "interrupted"
| .quality_rejected => "quality_rejected"

/- The state in which the task's end leaves its item. -/
def endState (triggered : Bool) (group_state : GroupState) (terminal_status : String) : ItemState :=
  if triggered then .quality_rejected
  else if group_state = .stopping then .stopped
  else if terminal_status = "done" then .completed
  else if terminal_status = "failed" then .failed
  else if terminal_status = "interrupted" then .interrupted
  else .stopped

def endItem (task_id terminal_status terminal_error : String)
    (group_state : GroupState) (item : Item) : Item :=
  let state := endState item.trigger.isSome group_state terminal_status
  let abnormal := terminal_status ∈ ["failed", "interrupted"]
  let keepsError := item.trigger.isSome || group_state = .stopping || group_state = .failing
  let ended :=
    { item with
      state := state
      error :=
        if keepsError = false ∧ abnormal then terminal_error
        else item.error }
  endAttempt task_id state.text (if abnormal then terminal_error else "") ended

/- `account_ledgers.pop(position)`. -/
def dropLedger (position : Nat) (s : Locked) : Locked :=
  { s with
    runtime :=
      { s.runtime with
        account_ledgers := s.runtime.account_ledgers.filter
            (fun account => account.position ≠ position) } }

/- `_task_to_group.pop(task_id)`. -/
def dropTask (task_id : String) (s : Locked) : Locked :=
  { s with
    shared :=
      { s.shared with
        task_to_group := s.shared.task_to_group.deleteWhere
            (fun link => link.task_id = strip task_id) } }

/- The slots are refilled and an idle group is finished. -/
def refill (env : Env) (s : Locked) : Locked := finalizeIfIdle env (fillSlotsLocked env s)

/- A task that failed for a technical reason only. -/
def endTechnical (env : Env) (item : Item) (task_id code label error : String)
    (now : Nat) (scheduleError : Option String) (s : Locked) : Locked :=
  let ended := endAttempt task_id "technical_failed" error item
  let scheduled := scheduleTechnicalRetry env ended task_id code label error now scheduleError
      (s.edit item.position (endAttempt task_id "technical_failed" error) (fun _ => rfl))
  let kept :=
    match scheduled.item? item.position with
    | none => scheduled
    | some current =>
      if current.state = .retry_wait then scheduled
      else dropLedger item.position scheduled
  refill env (persist env kept)

def failureOfEnd (item : Item) (terminal_status : String)
    (retryable : Option (String × String)) (progress : Bool) : String × String :=
  let domain := orElse item.domain "-"
  match retryable, progress with
  | some (_, label), true => ("technical_failure_after_business_progress",
        "域名 " ++ domain ++ " 在已有业务进度后遇到" ++ label ++ "；为避免整任务重放导致目标超发，" ++ "已停止补位并收口活动任务")
  | _, _ => (if terminal_status = "interrupted" then "domain_task_interrupted"
        else "domain_task_failed",
        "域名 " ++ domain ++ " 的注册任务出现不可恢复异常；" ++ "已停止补位并收口活动任务")

def endTask (env : Env) (item : Item) (task_id terminal_status terminal_error : String)
    (retryable : Option (String × String)) (progress : Bool) (s : Locked) : Locked :=
  let group_state := s.snapshot.state
  let end_ := endItem task_id terminal_status terminal_error group_state
  let recovered :=
    if item.trigger.isSome = false ∧ group_state ∉ [.stopping, .failing] ∧
        terminal_status = "done" then
      markTechnicalRecovery item.position s
    else s
  let ended := dropLedger item.position (recovered.edit item.position end_ (fun _ => rfl))
  let failed :=
    if terminal_status ∈ ["failed", "interrupted"] ∧ item.trigger.isSome = false ∧
        group_state = .running then
      let failure := failureOfEnd item terminal_status retryable progress
      beginGroupFailure env (end_ item) failure.1 failure.2 ended
    else ended
  refill env (persist env failed)

/- `handle_task_terminal`. -/
def handleTaskTerminal (env : Env) (task_id : String) (task : TaskSnapshot)
    (now : Nat) (scheduleError : Option String) (w : World) : World × Answer :=
  match w.lockTask task_id with
  | none => (w, .done)
  | some (s, item) =>
    let popped := dropTask task_id s
    let terminal_status := task.terminalStatus env
    let terminal_error := terminalError env task terminal_status
    let retryable := retryableTaskFailure env terminal_status terminal_error
    let progress := taskHasBusinessProgress env item task
    let plain := endTask env item task_id terminal_status terminal_error retryable progress popped
    match retryable with
    | none => (w.unlock plain, .done)
    | some (code, label) =>
      if terminal_status ∈ ["failed", "interrupted"] ∧ item.trigger.isSome = false ∧
          s.snapshot.state = .running ∧
          progress = false then
        (w.unlock
          (endTechnical env item task_id code label terminal_error now scheduleError popped), .done)
      else (w.unlock plain, .done)

----
-- Retries And Stops
----

/- The item that goes back to the queue for its retry. -/
def requeueItem (item : Item) : Item := { item with state := .pending, task_id := "" }

/- `retry_callback`. -/
def retryFires (env : Env) (timer : Timer) (w : World) :
    World × Answer :=
  match w.lockGroup timer.group_id with
  | none => (w, .done)
  | some s =>
    if s.self ≠ timer.runtime then (w, .done)
    else
      match s.item? timer.position with
      | none => (w, .done)
      | some item =>
        if s.snapshot.state = .running ∧ item.state = .retry_wait ∧
            item.retry_count = timer.retry_count then
          let requeued := persist env (s.edit timer.position requeueItem (fun _ => rfl))
          (w.unlock (finalizeIfIdle env (persist env (fillSlotsLocked env requeued))), .done)
        else (w, .done)

def stopItem (item : Item) : Item :=
  if item.state = .pending then { item with state := .cancelled }
  else if item.state = .retry_wait then { item with state := .stopped }
  else if item.state.isLive = false then item
  else if strip item.task_id = "" then { item with state := .stopped }
  else { item with state := .draining }

/- The group stops, and every item with it. -/
def stopItems (mode reason : String) (s : Locked) : Locked :=
  { s with
    runtime :=
      { s.runtime with
        snapshot :=
          { s.snapshot with
            state := .stopping
            stop_reason := truncate 1000 reason
            items := s.items.updateWhere (fun _ => true) stopItem
                (fun item => by
                  unfold stopItem; split_ifs <;> rfl) } }
    shared :=
      { s.shared with
        stops := s.shared.stops ++ stopCalls mode "rotation_group_stop" s.items.rows } }

def loadSnapshot (group_id : String) (w : World) :
    Answer :=
  match w.shared.persisted.find? group_id with
  | none => .missing
  | some snapshot => .group snapshot

/- `stop_group`. -/
def stopGroup (env : Env) (group_id mode reason : String) (w : World) :
    World × Answer :=
  let normalized_group_id := strip group_id
  let normalized_mode := if mode = "immediate" then mode else "after_current"
  match w.lockGroup normalized_group_id with
  | none => (w, loadSnapshot normalized_group_id w)
  | some s =>
    if s.snapshot.state.isTerminal then (w, .group s.snapshot)
    else
      let next := finalizeIfIdle env (persist env (stopItems normalized_mode
              (orElse reason "用户停止域名轮换任务组") s))
      (w.unlock next, .group next.snapshot)

/- `get_group`. -/
def getGroup (env : Env) (group_id : String) (w : World) :
    World × Answer :=
  let normalized_group_id := strip group_id
  match w.lockGroup normalized_group_id with
  | none => (w, loadSnapshot normalized_group_id w)
  | some s =>
    if s.snapshot.state.isTerminal then
      let stored := persist env s
      if persists env s then (w.unlock (retireRuntime true stored), .group s.snapshot)
      else (w.unlock stored, .group s.snapshot)
    else (w, .group s.snapshot)

----
-- Restarts And Runs
----

/- An item of a group that a restart has interrupted. -/
def interruptItem (item : Item) : Item :=
  if item.state.isSlot then { item with state := .interrupted }
  else item

/- The stored snapshot of a group of the old process. -/
def interruptSnapshot (snapshot : Snapshot) : Snapshot :=
  { snapshot with
    state := .interrupted
    stop_reason := "服务重启，轮换任务组已中断且不会自动恢复"
    items := snapshot.items.updateWhere (fun _ => true) interruptItem
        (fun item => by unfold interruptItem; split <;> rfl) }

/- `mark_stale_rotation_groups_interrupted`. -/
def markStaleGroupsInterrupted (w : World) : World :=
  { w with
    shared :=
      { w.shared with
        persisted := w.shared.persisted.updateWhere
            (fun snapshot => snapshot.state.isActive)
            interruptSnapshot (fun _ => rfl) } }

/- A new process: the maps and the timers of the old one are gone, and the start-up hook repairs the
   stored groups. The objects of the old process stay in the list, unreachable. -/
def restart (w : World) : World := markStaleGroupsInterrupted { w with
      shared := { w.shared with groups := .empty, task_to_group := .empty, timers := [] } }

inductive Op where
| createGroup (call : CreateGroup)
| recordRegistrationResult (task_id decision : String)
| recordRegisteredAccount (task_id : String)
    (account_id attempt_order : Int)
| recordEligibilityResult (task_id : String)
    (result : LinkResult)
| recordLinkResult (task_id : String) (result : LinkResult)
| handleTaskTerminal (task_id : String) (task : TaskSnapshot)
    (now : Nat) (scheduleError : Option String)
| retryFires (timer : Nat)
| stopGroup (group_id mode reason : String)
| getGroup (group_id : String)
| restart
deriving DecidableEq

/- Run one operation; a timer is named by its number. -/
def step (env : Env) (w : World) : Op → World × Answer
| .createGroup call => createGroup env call w
| .recordRegistrationResult task_id decision => recordRegistrationResult env task_id decision w
| .recordRegisteredAccount task_id account_id attempt_order =>
    recordRegisteredAccount env task_id account_id attempt_order w
| .recordEligibilityResult task_id result => recordEligibilityResult env task_id result w
| .recordLinkResult task_id result => recordLinkResult env task_id result w
| .handleTaskTerminal task_id task now scheduleError =>
    handleTaskTerminal env task_id task now scheduleError w
| .retryFires timer =>
    match w.shared.timers[timer]? with
    | none => (w, .done)
    | some timer => retryFires env timer w
| .stopGroup group_id mode reason => stopGroup env group_id mode reason w
| .getGroup group_id => getGroup env group_id w
| .restart => (restart w, .done)

abbrev run (env : Env) (ops : List Op) : World := Machine.run (step env) {} ops

end DomainRotation
