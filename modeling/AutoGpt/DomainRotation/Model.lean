import AutoGpt.Library.KeyedTable
import AutoGpt.Library.PyText
import Mathlib

/-
  The data of `registration_domain_rotation.py`: groups of
  domain items, their link ledgers, and the tests on task
  results that decide what happens to an item.
-/

----
-- States
----

namespace DomainRotation

/- The `state` of an item. -/
inductive ItemState where
| pending
| starting
| active
| draining
| retry_wait
| completed
| stopped
| cancelled
| start_failed
| technical_failed
| failed
| interrupted
| quality_rejected
deriving DecidableEq

/- `_LIVE_TASK_ITEM_STATES`. -/
def ItemState.isLive (state : ItemState) : Bool := state ∈ [.starting, .active, .draining]

/- `_SLOT_ITEM_STATES`. -/
def ItemState.isSlot (state : ItemState) : Bool := state.isLive || state = .retry_wait

/- The `state` of a group. -/
inductive GroupState where
| running
| stopping
| failing
| completed
| stopped
| failed
| interrupted
deriving DecidableEq

/- `_ACTIVE_GROUP_STATES`. -/
def GroupState.isActive (state : GroupState) : Bool := state ∈ [.running, .stopping, .failing]

/- `_TERMINAL_GROUP_STATES`. -/
def GroupState.isTerminal (state : GroupState) : Bool :=
  state ∈ [.completed, .stopped, .failed, .interrupted]

/- `_TECHNICAL_RETRY_LIMIT`. -/
def technicalRetryLimit : Nat := 2

/- `_TECHNICAL_FAILURE_CIRCUIT_DISTINCT_DOMAINS`. -/
def circuitDistinctDomains : Nat := 2

/- `_TECHNICAL_FAILURE_CIRCUIT_WINDOW_SECONDS`. -/
def circuitWindowSeconds : Nat := 30

----
-- Items And Groups
----

/- The counters of `_new_quality`. -/
structure Quality where
  registration_decisions : Nat := 0
  registration_accepted : Nat := 0
  registration_disallowed : Nat := 0
  registered_accounts : Nat := 0
  link_success : Nat := 0
  link_quality_miss : Nat := 0
  link_technical_neutral : Nat := 0
  link_pending : Nat := 0
  link_current_miss_streak : Nat := 0
deriving DecidableEq

structure Trigger where
  code : String
  message : String
deriving DecidableEq

/- An entry of `item["attempts"]`. -/
structure Attempt where
  task_id : String
  attempt : Nat
  state : String := "active"
  error : String := ""
deriving DecidableEq

/- `item["technical_failure"]`. -/
structure TechnicalFailure where
  code : String
  label : String
  message : String
  retry_count : Nat
  retry_limit : Nat
  recovered : Bool := false
deriving DecidableEq

structure Item where
  domain : String
  position : Nat
  state : ItemState := .pending
  task_id : String := ""
  quality : Quality := {}
  trigger : Option Trigger := none
  error : String := ""
  attempts : List Attempt := []
  attempt_count : Nat := 0
  retry_count : Nat := 0
  retry_limit : Nat := technicalRetryLimit
  technical_failure : Option TechnicalFailure := none
deriving DecidableEq

/- `snapshot["policy"]`. -/
structure Policy where
  rejection_rate_threshold_percent : ℚ
  rejection_rate_min_samples : Nat
  no_link_streak_threshold : Nat
  technical_retry_limit : Nat := technicalRetryLimit
  technical_failure_circuit_distinct_domains : Nat := circuitDistinctDomains
  technical_failure_circuit_window_seconds : Nat := circuitWindowSeconds
deriving DecidableEq

/- `snapshot["failure"]`. -/
structure Failure where
  code : String
  domain : String
  message : String
  error : String
deriving DecidableEq

/- An entry of `snapshot["technical_failures"]`. -/
structure TechnicalFailureEntry where
  domain : String
  position : Nat
  task_id : String
  attempt : Nat
  code : String
  label : String
  message : String
deriving DecidableEq

abbrev Items := KeyedTable Item Nat Item.position

structure Snapshot where
  task_group_id : String
  state : GroupState := .running
  requested_domain_count : Nat
  requested_count_per_task : Nat
  requested_concurrency_per_task : Nat
  active_domain_slots : Nat
  policy : Policy
  items : Items
  failure : Option Failure := none
  technical_failures : List TechnicalFailureEntry := []
  stop_reason : String := ""
deriving DecidableEq

/- The `state` of a ledger account. -/
inductive AccountState where
| pending
| awaiting_link
| success
| miss
| neutral
deriving DecidableEq

/- An account of a link ledger, under its item's position. -/
structure Account where
  position : Nat
  account_id : Nat
  attempt_order : Nat
  state : AccountState
  reason_code : String
deriving DecidableEq

/- An entry of `technical_failure_events`; milliseconds. -/
structure FailureEvent where
  at_ms : Nat
  code : String
  position : Nat
deriving DecidableEq

/- `_RuntimeGroup`, without its frozen request template. -/
structure Runtime where
  snapshot : Snapshot
  account_ledgers : List Account := []
  technical_failure_events : List FailureEvent := []
deriving DecidableEq

/- The accounts under one position of the ledgers. -/
def Runtime.accounts (r : Runtime) (position : Nat) :
    List Account :=
  r.account_ledgers.filter (fun account => account.position = position)

----
-- Values And Texts
----

/- `_nonnegative_int`. -/
def nonnegativeInt (value : Int) : Nat := value.toNat

/- `_positive_int`. -/
def positiveInt (value : Int) (default : Nat) : Nat :=
  if 0 < nonnegativeInt value then nonnegativeInt value
  else default

/- `text[:n]`. -/
def truncate (n : Nat) (text : String) : String := String.ofList (text.toList.take n)

/- `marker in text`. -/
def contains (text marker : String) : Bool := marker.toList <:+: text.toList

/- What `start_task` does: it may bind a task id, and it returns one or raises. -/
structure StartOutcome where
  bound : Option String := none
  result : Except String String

/- The callbacks of a manager, by the number of the call, and the text and number functions of the
   runtime: `str.lower`, `int(text)` with 0 for a text that is no number, `sanitize_error_message`,
   the comparison of the rejection rate with its threshold, and the formatted rate. -/
structure Env where
  persists : Nat → Bool
  starts : Nat → StartOutcome
  lower : String → String
  intOf : String → Int
  sanitize : String → String
  rateAbove : ℚ → Nat → Nat → Bool
  rateText : ℚ → Nat → Nat → String

/- `_TASK_FAILURE_CATEGORIES`. -/
def taskFailureCategories :
    List (String × String × List String) :=
  [("dynamic_proxy_unavailable", "动态代理不可用",
      ["dynamic proxy", "proxy pool unavailable", "动态代理没有可用候选", "代理预检失败", "没有可用候选"]),
    ("proxy_unavailable", "代理连接异常", ["proxy", "socks", "代理"]),
    ("tls_failure", "TLS/SSL 连接异常", ["ssl", "tls", "wrong_version_number", "certificate verify"]),
    ("network_failure", "网络连接异常",
      ["connection", "econn", "network", "socket", "broken pipe", "dns", "连接", "网络"]),
    ("upstream_unavailable", "上游服务异常", ["429", "502", "503", "504", "cloudflare", "gateway",
        "internal server error", "rate limit", "service unavailable", "too many requests",
        "upstream", "上游", "限流", "服务不可用"]),
    ("task_timeout", "任务执行超时", ["timeout", "timed out", "hard timeout", "超时"]),
    ("browser_dependency_unavailable", "浏览器依赖不可用",
      ["browser closed", "browser_crashed", "sentinel_browser", "targetclosederror", "浏览器容量"]),
    ("storage_temporarily_unavailable", "状态存储暂时不可用",
      ["database is locked", "disk i/o", "persistence failed", "write failed", "数据库被锁定", "写入失败"])]

/- `_TECHNICAL_LINK_REASON_CODES`. -/
def technicalLinkReasonCodes : List String := ["account_identity_changed",
    "account_identity_changed_before_submit",
    "account_not_found", "invalid_account_id",
    "invalid_frozen_profile", "payment_link_persist_failed",
    "payment_link_queue_rejected",
    "postprocessor_unavailable", "task_exception"]

/- `_TECHNICAL_LINK_MESSAGE_MARKERS`. -/
def technicalLinkMessageMarkers : List String :=
  ["429", "502", "503", "504", "broken pipe", "cloudflare",
    "connection", "dns", "econn", "fetch failed", "gateway",
    "internal server error", "network", "proxy",
    "rate limit", "socket", "ssl", "service unavailable",
    "tls", "timeout", "timed out", "too many requests", "upstream", "上游", "连接", "代理", "限流",
    "服务不可用", "网络", "超时", "配置不可用"]

/- `str(value or "").strip().lower()`. -/
def lowered (env : Env) (value : String) : String := env.lower (PyText.strip value)

/- `_technical_link_failure`. -/
def technicalLinkFailure (env : Env) (reason_code message : String) : Bool :=
  technicalLinkReasonCodes.contains (lowered env reason_code) ||
    technicalLinkMessageMarkers.any (contains (lowered env message))

----
-- Task Results
----

/- The keys that a terminal task snapshot is read for. -/
structure TaskSnapshot where
  status : String := ""
  error : String := ""
  errors : List String := []
  success : Int := 0
  skipped : Int := 0
  progress : String := ""
deriving DecidableEq

/- `terminal_status`. -/
def TaskSnapshot.terminalStatus (env : Env) (task : TaskSnapshot) : String :=
  lowered env (PyText.orElse task.status "stopped")

/- `_terminal_error`. -/
def terminalError (env : Env) (task : TaskSnapshot) (terminal_status : String) : String :=
  let values := (task.error :: task.errors.reverse).map fun candidate =>
      PyText.strip (env.sanitize candidate)
  match values.find? (fun value => value != "") with
  | some value => truncate 1000 value
  | none =>
    if terminal_status = "interrupted" then "注册任务意外中断"
    else "注册任务异常结束"

/- `_retryable_task_failure`: a code and a label. -/
def retryableTaskFailure (env : Env) (terminal_status error : String) :
    Option (String × String) :=
  if terminal_status = "interrupted" then some ("task_interrupted", "注册任务意外中断")
  else
    let text := lowered env error
    if text = "" then none
    else
      (taskFailureCategories.find? fun category => category.2.2.any (contains text)).map
        fun category => (category.1, category.2.1)

/- The text before the first `/`, if there is one. -/
def beforeSlash (text : String) : Option String :=
  if text.toList.contains '/' then some (String.ofList (text.toList.takeWhile (· != '/')))
  else none

/- An attempt decision or a registered account is recorded. -/
def Quality.hasProgress (quality : Quality) : Bool := decide (0 < quality.registration_decisions) ||
    decide (0 < quality.registered_accounts)

def TaskSnapshot.hasProgress (env : Env) (task : TaskSnapshot) : Bool :=
  decide (0 < task.success) || decide (0 < task.skipped) ||
    (beforeSlash (PyText.strip task.progress)).any (fun text => decide (0 < env.intOf text))

/- `_task_has_business_progress`. -/
def taskHasBusinessProgress (env : Env) (item : Item) (task : TaskSnapshot) : Bool :=
  item.quality.hasProgress || task.hasProgress env

end DomainRotation
