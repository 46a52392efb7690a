import AutoGpt.DomainRotation.Model

/-
  The `_locked` methods of `RegistrationDomainRotationManager`.

  A public method takes the manager's lock and works on one
  group. What it can touch is that group's runtime object and
  the tables that all groups share. Time stamps, log lines
  and published task meta are not kept: no method reads them.
-/

open PyText (orElse strip)

----
-- Shared Tables
----

namespace DomainRotation

/- An entry of `_groups`; an object is named by its number. -/
structure GroupLink where
  group_id : String
  runtime : Nat

/- An entry of `_task_to_group`. -/
structure TaskLink where
  task_id : String
  group_id : String
  position : Nat

/- A scheduled retry callback with what it closes over. -/
structure Timer where
  runtime : Nat
  group_id : String
  position : Nat
  retry_count : Nat

/- A call of `start_task`, with the state of its group. -/
structure StartCall where
  runtime : Nat
  domain : String
  position : Nat
  group_state : GroupState

/- A call of `stop_task`. -/
structure StopCall where
  task_id : String
  mode : String
  reason : String

/- What the groups share: the two maps of the manager, the stored snapshots, and the calls made so
   far. A timer that was cancelled may be running already, so timers stay. -/
structure Shared where
  groups : KeyedTable GroupLink String GroupLink.group_id := .empty
  task_to_group : KeyedTable TaskLink String TaskLink.task_id := .empty
  persisted : KeyedTable Snapshot String Snapshot.task_group_id := .empty
  timers : List Timer := []
  starts : List StartCall := []
  stops : List StopCall := []
  persist_calls : Nat := 0

structure Locked where
  self : Nat
  runtime : Runtime
  shared : Shared

abbrev Locked.snapshot (s : Locked) : Snapshot := s.runtime.snapshot

abbrev Locked.items (s : Locked) : Items := s.runtime.snapshot.items

abbrev Locked.item? (s : Locked) (position : Nat) :
    Option Item :=
  s.runtime.snapshot.items.find? position

def Locked.setItems (items : Items) (s : Locked) : Locked :=
  { s with runtime := { s.runtime with snapshot := { s.runtime.snapshot with items := items } } }

/- Write the fields of the item at a position. -/
def Locked.edit (position : Nat) (f : Item → Item)
    (hPosition : ∀ item, (f item).position = item.position) (s : Locked) : Locked :=
  s.setItems (s.items.updateKey position f hPosition)

/- `_persist_locked`; it tells whether the store took it. -/
def persist (env : Env) (s : Locked) : Locked :=
  { s with
    shared :=
      { s.shared with
        persist_calls := s.shared.persist_calls + 1
        persisted :=
          if env.persists s.shared.persist_calls then s.shared.persisted.put s.snapshot
          else s.shared.persisted } }

/- What the next call of `_persist_locked` returns. -/
def persists (env : Env) (s : Locked) : Bool := env.persists s.shared.persist_calls

----
-- Binding And Failure
----

def bindAttempt (task_id : String) (attempts : List Attempt) :
    List Attempt :=
  if attempts.any (fun a => strip a.task_id = task_id)
  then attempts.map fun a =>
      if strip a.task_id = task_id then { a with state := "active" }
      else a
  else attempts ++ [{ task_id := task_id, attempt := attempts.length + 1 }]

def bindItem (task_id : String) (item : Item) : Item :=
  { item with
    attempts := bindAttempt task_id item.attempts,
    attempt_count := (bindAttempt task_id item.attempts).length, task_id := task_id,
    state := .active, error := "" }

/- `_bind_task_locked`. -/
def bindTask (env : Env) (position : Nat) (task_id : String) (s : Locked) : Locked :=
  let normalized_task_id := strip task_id
  if normalized_task_id = "" then s
  else
    let bound := s.edit position (bindItem normalized_task_id) (fun _ => rfl)
    persist env
      { bound with
        shared :=
          { bound.shared with
            task_to_group := bound.shared.task_to_group.put
                { task_id := normalized_task_id, group_id := s.snapshot.task_group_id,
                  position := position } } }

/- `_cancel_pending_locked` on one item. -/
def cancelPending (item : Item) : Item :=
  if item.state = .pending then { item with state := .cancelled }
  else item

/- An item of a failing group, other than the failed one. -/
def failOther (item : Item) : Item :=
  if item.state = .retry_wait then
    { item with
      state := .technical_failed
      error := truncate 1000
          (orElse item.error
            "同组基础设施熔断，已取消技术重试") }
  else if item.state.isLive = false then item
  else if strip item.task_id = "" then { item with state := .stopped }
  else { item with state := .draining }

/- The tasks that are asked to stop, with one reason. -/
def stopCalls (mode reason : String) (items : List Item) :
    List StopCall :=
  (items.filter fun item => item.state.isLive && strip item.task_id != "").map fun item =>
      { task_id := strip item.task_id, mode := mode, reason := reason }

/- `_begin_group_failure_locked`. -/
def beginGroupFailure (env : Env) (failed : Item) (code reason : String) (s : Locked) : Locked :=
  let domain := orElse failed.domain "-"
  let safe_reason := truncate 1000 (env.sanitize reason)
  let others := fun item : Item => decide (item.position ≠ failed.position)
  let cancelled := s.items.updateWhere (fun _ => true) cancelPending
      (fun item => by unfold cancelPending; split <;> rfl)
  { s with
    runtime :=
      { s.runtime with
        snapshot :=
          { s.snapshot with
            state := .failing
            stop_reason := safe_reason
            failure := some
                { code := truncate 128 code, domain := domain, message := safe_reason,
                  error := truncate 1000 failed.error }
            items := cancelled.updateWhere others failOther
                (fun item => by
                  unfold failOther; split_ifs <;> rfl) } }
    shared :=
      { s.shared with
        stops := s.shared.stops ++ stopCalls "after_current"
              "rotation_group_task_failed"
              (cancelled.rows.filter others) } }

----
-- Filling Slots
----

def occupancy (snapshot : Snapshot) : Nat :=
  snapshot.items.rows.countP (fun item => item.state.isSlot)

def nextPending (snapshot : Snapshot) : Option Item :=
  snapshot.items.rows.find? (fun item => item.state = .pending)

/- The item whose task is about to be created. -/
def startingItem (item : Item) : Item := { item with state := .starting, task_id := "" }

/- The call of `start_task` is made. -/
def callStart (item : Item) (s : Locked) : Locked :=
  { s with
    shared :=
      { s.shared with
        starts := s.shared.starts ++
            [{ runtime := s.self, domain := item.domain, position := item.position,
               group_state := s.snapshot.state }] } }

/- The item whose task could not be created. -/
def startFailedItem (env : Env) (error : String) (item : Item) :
    Item :=
  { item with state := .start_failed, error := truncate 1000 (env.sanitize error) }

/- The handler of an exception of `start_task`. -/
def startFailed (env : Env) (position : Nat) (error : String) (s : Locked) : Locked :=
  let marked := s.edit position (startFailedItem env error) (fun _ => rfl)
  match marked.item? position with
  | none => marked
  | some failed => persist env (beginGroupFailure env failed "domain_task_start_failed"
          ("域名 " ++ orElse failed.domain "-" ++ " 的注册任务创建失败；已停止补位并收口活动任务") marked)

/- `bind_task` and the return of `start_task`. -/
def bindOutcome (env : Env) (position : Nat) (outcome : StartOutcome)
    (s : Locked) : Locked × Option String :=
  let bound :=
    match outcome.bound with
    | none => s
    | some task_id => bindTask env position task_id s
  match outcome.result with
  | .error error => (bound, some error)
  | .ok task_id =>
    match bound.item? position with
    | none => (bound, none)
    | some item =>
      if strip item.task_id = "" then (bindTask env position task_id bound, none)
      else (bound, none)

/- One item is taken from the queue and started. -/
def startItem (env : Env) (item : Item) (s : Locked) :
    Locked × Option String :=
  let called := callStart item (persist env (s.edit item.position startingItem (fun _ => rfl)))
  bindOutcome env item.position (env.starts s.shared.starts.length) called

/- The loop of `_fill_slots_locked`. -/
def fillSlots (env : Env) : Nat → Locked → Locked
| 0, s => s
| fuel + 1, s =>
    if s.snapshot.active_domain_slots ≤ occupancy s.snapshot
    then s
    else
      match nextPending s.snapshot with
      | none => s
      | some item =>
        match startItem env item s with
        | (next, none) => fillSlots env fuel next
        | (next, some error) => startFailed env item.position error next

/- `_fill_slots_locked`; each pass takes a pending item. -/
def fillSlotsLocked (env : Env) (s : Locked) : Locked :=
  if s.snapshot.state = .running then fillSlots env (s.items.rows.length + 1) s
  else s

----
-- Finishing A Group
----

def ItemState.isOpen (state : ItemState) : Bool := state.isSlot || state = .pending

def finalState (snapshot : Snapshot) : GroupState :=
  match snapshot.state with
  | .stopping => .stopped
  | .failing => .failed
  | .completed => .completed
  | .stopped => .stopped
  | .failed => .failed
  | .interrupted => .interrupted
  | .running =>
    if snapshot.items.rows.any (fun item => item.task_id != "")
    then .completed
    else .failed

/- `_retire_runtime_locked`. -/
def retireRuntime (remove : Bool) (s : Locked) : Locked :=
  let group_id := s.snapshot.task_group_id
  { s with
    runtime := { s.runtime with account_ledgers := [], technical_failure_events := [] }
    shared :=
      { s.shared with
        task_to_group := s.shared.task_to_group.deleteWhere (fun link => link.group_id = group_id)
        groups :=
          if remove && (s.shared.groups.find? group_id).any (fun link => link.runtime = s.self)
          then s.shared.groups.deleteWhere (fun link => link.group_id = group_id)
          else s.shared.groups } }

/- `snapshot["state"] = state`. -/
def Locked.setState (state : GroupState) (s : Locked) :
    Locked :=
  { s with runtime := { s.runtime with snapshot := { s.snapshot with state := state } } }

/- `_finalize_if_idle_locked`. -/
def finalizeIfIdle (env : Env) (s : Locked) : Locked :=
  if s.items.rows.any (fun item => item.state.isOpen) then s
  else
    let final := s.setState (finalState s.snapshot)
    retireRuntime (persists env final) (persist env final)

----
-- Technical Failures
----

/- `_record_technical_failure_locked` on the window. -/
def recordFailureEvent (now position : Nat) (code : String) (s : Locked) :
    List FailureEvent :=
  let window := max s.snapshot.policy.technical_failure_circuit_window_seconds 1
  s.runtime.technical_failure_events.filter
      (fun event => decide (now - event.at_ms ≤ 1000 * window)) ++
    [{ at_ms := now, code := code, position := position }]

/- The number of domains with a failure of this code. -/
def distinctDomains (code : String) (events : List FailureEvent) : Nat :=
  ((events.filter (fun event => event.code = code)).map FailureEvent.position).dedup.length

/- `_record_technical_failure_locked`. -/
def recordTechnicalFailure (item : Item) (task_id code label error : String)
    (now : Nat) (s : Locked) : Locked × Nat :=
  let events := recordFailureEvent now item.position code s
  let entry : TechnicalFailureEntry :=
    { domain := item.domain, position := item.position, task_id := task_id,
      attempt := positiveInt item.attempt_count 1, code := code, label := label,
      message := truncate 1000 (orElse error label) }
  let failures := s.snapshot.technical_failures ++ [entry]
  ({ s with
     runtime :=
       { s.runtime with
         technical_failure_events := events
         snapshot :=
           { s.snapshot with technical_failures := failures.drop (failures.length - 20) } } },
    distinctDomains code events)

/- The item's recorded failure is marked as recovered. -/
def recoverItem (item : Item) : Item :=
  { item with
    technical_failure := item.technical_failure.map fun failure =>
        { failure with recovered := true } }

/- `_mark_technical_recovery_locked`. -/
def markTechnicalRecovery (position : Nat) (s : Locked) :
    Locked :=
  let edited := s.edit position recoverItem (fun _ => rfl)
  { edited with
    runtime :=
      { edited.runtime with
        technical_failure_events := edited.runtime.technical_failure_events.filter
            (fun event => event.position ≠ position) } }

/- The item when its technical failure is final. -/
def technicalFailedItem (code label error : String) (retry_limit : Nat) (item : Item) : Item :=
  { item with
    state := .technical_failed
    error := error
    retry_limit := retry_limit
    technical_failure := some
        { code := code, label := label, message := error, retry_count := item.retry_count,
          retry_limit := retry_limit } }

def retryWaitItem (code label error : String) (retry_limit : Nat) (item : Item) : Item :=
  { item with
    state := .retry_wait
    retry_count := item.retry_count + 1
    error := error
    retry_limit := retry_limit
    technical_failure := some
        { code := code, label := label, message := error, retry_count := item.retry_count + 1,
          retry_limit := retry_limit } }

/- The item when its retry could not be scheduled. -/
def scheduleFailedItem (env : Env) (raised : String) (item : Item) : Item :=
  { item with state := .technical_failed, error := truncate 1000 (env.sanitize raised) }

/- `_schedule_technical_retry_locked`. The scheduler may raise an error; otherwise the callback is
   one more timer. -/
def scheduleTechnicalRetry (env : Env) (item : Item) (task_id code label error : String)
    (now : Nat) (scheduleError : Option String) (s : Locked) : Locked :=
  let policy := s.snapshot.policy
  let retry_limit := policy.technical_retry_limit
  let position := item.position
  let domain := orElse item.domain "-"
  let r := recordTechnicalFailure item task_id code label error now s
  let recorded := r.1
  let fail := fun (failed : Item) (code reason : String)
      (t : Locked) =>
    beginGroupFailure env failed code reason t
  if policy.technical_failure_circuit_distinct_domains ≤ r.2
  then
    let failed := technicalFailedItem code label error retry_limit item
    fail failed "technical_failure_circuit_open" (toString
          (max policy.technical_failure_circuit_window_seconds 1) ++ " 秒内已有 " ++ toString r.2 ++
        " 个域名出现同类" ++ label ++ "；已停止补位并收口活动任务，避免公共依赖故障扩散") (recorded.edit position
        (technicalFailedItem code label error retry_limit) (fun _ => rfl))
  else if retry_limit ≤ item.retry_count then
    let failed := technicalFailedItem code label error retry_limit item
    fail failed "technical_retry_exhausted"
      ("域名 " ++ domain ++ " 遇到" ++ label ++ "，同域自动重试 " ++ toString item.retry_count ++
        " 次后仍失败；已停止补位并收口活动任务") (recorded.edit position
        (technicalFailedItem code label error retry_limit) (fun _ => rfl))
  else
    let waiting := persist env (recorded.edit position (retryWaitItem code label error retry_limit)
          (fun _ => rfl))
    match scheduleError with
    | none =>
      { waiting with
        shared :=
          { waiting.shared with
            timers := waiting.shared.timers ++
                [{ runtime := s.self, group_id := s.snapshot.task_group_id, position := position,
                   retry_count := item.retry_count + 1 }] } }
    | some raised =>
      let failed := scheduleFailedItem env raised (retryWaitItem code label error retry_limit item)
      fail failed "technical_retry_schedule_failed" ("域名 " ++ domain ++ " 的技术重试无法调度；已停止补位并收口活动任务")
        (waiting.edit position (scheduleFailedItem env raised) (fun _ => rfl))

end DomainRotation
