import AutoGpt.WebSessionLease.Manager

/-
  The commands of one lease
  (`services/chatgpt_core/web_session_lease.py`). Requesters
  enqueue them, the owner thread takes them in `hold_browser`,
  and `request_release` fails those that are left. A step runs
  one atomic part of some thread.
-/

open PyText (orElse strip)

----
-- Commands
----

namespace LeaseCommands

open WebSessionLease (Lease LeaseStatus shortId)

/- `_safe_error`, `_safe_gcash_error`, `_url_digest`, and the
   url or the error of `validate_adyen_gcash_redirect_url`. -/
structure Env where
  safe_error : String → String
  safe_gcash_error : String → String
  url_digest : String → String
  validate_url : String → Except String String

inductive CommandKind where
| refresh_session
| open_gcash_link
deriving DecidableEq

structure Result where
  message : String
  remote_request_id : String := ""

/- `_LeaseCommand`; its id is its place in the list of all
   commands, and its payload is the fields of a link. -/
structure Command where
  kind : CommandKind
  url : String := ""
  url_digest : String := ""
  remote_request_id : String := ""
  remote_job_id : String := ""
  done : Bool := false
  cancelled : Bool := false
  result : Option Result := none
  error : String := ""

/- What a callback of `hold_browser` raises: a `WebSessionLeaseReleaseRequested`, another
   `TaskInterruption`, or another exception. -/
inductive Raised where
| release (text : String)
| interruption (text : String)
| error (text : String)
deriving DecidableEq

def Raised.text : Raised → String
| .release text => text
| .interruption text => text
| .error text => text

/- A thread in `request_refresh` or `request_open_gcash`; a
   wait that ran out has yet to cancel its command. -/
inductive Requester where
| putting (id : Nat)
| waiting (id : Nat)
| lapsed (id : Nat)
| expired (id : Nat)
| ended
deriving DecidableEq

/- A thread in `request_release`: it fails the pending commands, one in its hands at a time, and
   then stores `releasing`. -/
inductive Releaser where
| draining (held : Option Nat)
| storing
| ended
deriving DecidableEq

/- Where the owner thread is in `hold_browser`. -/
inductive Owner where
| idle
-- before the loop
| publishing
| starting
| early_release
| entering
| logging
-- the loop
| waiting
| releasing
| returning
| checking
| getting
| paging
-- one command
| taken (id : Nat)
| cleared (id : Nat)
| started (id : Nat)
| refresh_begins (id : Nat)
| refreshing (id : Nat)
| refreshed (id : Nat)
| reporting (id : Nat)
| opening (id : Nat)
| shown (id : Nat)
| opened (id : Nat)
| failed (id : Nat) (error : String)
| interrupted (id : Nat) (exc : Raised)
| finishing (id : Nat) (exc : Option Raised)
-- the handlers around the loop
| failing (exc : Raised)
| draining (exc : Raised) (held : Option Nat)
| closing
deriving DecidableEq

/- A lease with its commands and threads. Its `_release_event` is set together with
   `release_requested`. Beside them the history: the commands ever put on the queue. -/
structure World where
  lease : Lease
  commands : List Command := []
  queue : List Nat := []
  current_command : Option Nat := none
  gcash_commands : List (String × Nat) := []
  refresh_count : Nat := 0
  requesters : List Requester := []
  releasers : List Releaser := []
  owner : Owner := .idle
  enqueued : List Nat := []

inductive Answer where
| pending
| raised (text : String)
| returned (result : Option Result)
| snapshot (lease : Lease)

----
-- Updates
----

/- `transition`. -/
def World.transition (w : World) (status : LeaseStatus) (error now : String) : World :=
  if w.lease.refuses status then w
  else { w with lease := w.lease.moved status error now }

def World.modify (w : World) (id : Nat) (f : Command → Command) : World :=
  { w with commands := w.commands.modify id f }

def World.goes (w : World) (owner : Owner) : World := { w with owner := owner }

def World.isCancelled (w : World) (id : Nat) : Bool := (w.commands[id]?).any (·.cancelled)

def World.isDone (w : World) (id : Nat) : Bool := (w.commands[id]?).any (·.done)

def World.errorOf (w : World) (id : Nat) : String := ((w.commands[id]?).map (·.error)).getD ""

def Command.cancel (command : Command) : Command := { command with cancelled := true }

def Command.finish (command : Command) : Command := { command with done := true }

/- `_record_gcash_command_failure`, of the command. -/
def Command.recordFailure (env : Env) (error : String) (command : Command) : Command :=
  { command with
    error := orElse (env.safe_gcash_error error) "GCash 标签页打开失败", url := "",
    done := true }

/- What `_fail_pending_commands` does to a command. -/
def Command.fail (env : Env) (error : String) (command : Command) : Command :=
  match command.kind with
  | .open_gcash_link => (command.cancel.recordFailure env (orElse error "浏览器登录态已结束")).finish
  | .refresh_session => { command.cancel with error := orElse error "浏览器登录态已结束", done := true }

----
-- Requesters
----

variable (env : Env)

/- The check under the lock of both requests. -/
def World.accepts (w : World) : Bool := w.lease.status = .readyHolding && !w.lease.release_requested

/- A new command, which its requester has yet to put. -/
def World.creates (w : World) (command : Command) : World :=
  { w with
    commands := w.commands ++ [command],
    requesters := w.requesters ++ [.putting w.commands.length] }

/- `request_refresh`, up to its put. -/
def request_refresh (w : World) : World × Answer :=
  if w.accepts = false then (w, .raised "浏览器登录态当前不可刷新")
  else (w.creates { kind := .refresh_session }, .pending)

/- `GCASH_COMMAND_HISTORY_LIMIT`. -/
def gcashCommandHistoryLimit : Nat := 64

/- `_trim_gcash_commands_locked`: it drops the oldest command
   that is done, once for each one above the limit. -/
def trim_gcash_commands (w : World) : World :=
  { w with
    gcash_commands := (List.eraseP (fun entry => w.isDone entry.2))^[
          w.gcash_commands.length - gcashCommandHistoryLimit] w.gcash_commands }

/- The command that a new request for a link registers. -/
def World.registers (w : World) (command : Command) : World := trim_gcash_commands
    { w.creates command with
      gcash_commands := w.gcash_commands ++ [(command.remote_request_id, w.commands.length)] }

/- A request for a link that was requested before. -/
def World.joins (w : World) (id : Nat) (existing : Command)
    (digest job_id : String) : World × Answer :=
  if existing.url_digest ≠ digest then (w, .raised "同一 GCash remote_request_id 对应了不同链接")
  else if existing.remote_job_id ≠ "" ∧ job_id ≠ "" ∧ existing.remote_job_id ≠ job_id then
    (w, .raised "同一 GCash remote_request_id 对应了不同远端任务")
  else ({ w with requesters := w.requesters ++ [.waiting id] }, .pending)

/- `request_open_gcash`, up to its put. -/
def request_open_gcash (w : World) (url remote_request_id remote_job_id : String) :
    World × Answer :=
  let request_id := strip remote_request_id
  let job_id := shortId remote_job_id
  if request_id = "" then (w, .raised "GCash remote_request_id 不能为空")
  else if 256 < request_id.length then (w, .raised "GCash remote_request_id 过长")
  else
    match env.validate_url url with
    | .error text => (w, .raised text)
    | .ok validated_url =>
      let digest := env.url_digest validated_url
      if w.accepts = false then (w, .raised "浏览器登录态当前不能打开 GCash 链接")
      else
        match (w.gcash_commands.lookup request_id).bind
            (fun id => (w.commands[id]?).map (id, ·)) with
        | some (id, existing) => w.joins id existing digest job_id
        | none =>
          if w.gcash_commands.any
              (fun entry => !w.isDone entry.2) then
            (w, .raised "已有 GCash 标签页打开命令正在执行")
          else
            (w.registers
              { kind := .open_gcash_link, url := validated_url, url_digest := digest,
                remote_request_id := request_id, remote_job_id := job_id },
              .pending)

def World.setRequester (w : World) (i : Nat) (requester : Requester) : World :=
  { w with requesters := w.requesters.set i requester }

def World.puts (w : World) (i id : Nat) : World :=
  { w.setRequester i (.waiting id) with queue := w.queue ++ [id], enqueued := w.enqueued ++ [id] }

/- What a requester gets of a command that is done. -/
def Command.answer (command : Command) : Answer :=
  if command.error ≠ "" then .raised command.error
  else .returned command.result

/- A requester whose wait ran out cancels its command. -/
def World.expires (w : World) (i id : Nat) (kind : CommandKind) :
    World × Answer :=
  let cancelled := w.modify id Command.cancel
  match kind with
  | .refresh_session => (cancelled.setRequester i .ended, .raised "同步最新登录态超时")
  | .open_gcash_link => (cancelled.setRequester i (.expired id), .pending)

/- A requester goes on, or its wait runs out. -/
def requesterStep (w : World) (i : Nat) (expires : Bool) :
    World × Answer :=
  match w.requesters[i]? with
  | some (.putting id) => (w.puts i id, .pending)
  | some (.waiting id) =>
    match w.commands[id]? with
    | none => (w, .pending)
    | some command =>
      if command.done then (w.setRequester i .ended, command.answer)
      else if expires then (w.setRequester i (.lapsed id), .pending)
      else (w, .pending)
  | some (.lapsed id) =>
    match w.commands[id]? with
    | none => (w, .pending)
    | some command => w.expires i id command.kind
  | some (.expired id) => ((w.modify id
          (Command.recordFailure env "GCash 标签页打开超时")).setRequester i .ended,
        .raised "GCash 标签页打开超时")
  | _ => (w, .pending)

----
-- Releases
----

/- The locked part of `request_release`. -/
def request_release (w : World) (now : String) :
    World × Answer :=
  if w.lease.status.isTerminal then (w, .snapshot w.lease)
  else
    ({ w with
        lease := w.lease.releaseRequested now
        commands :=
          match w.current_command with
          | none => w.commands
          | some id => w.commands.modify id Command.cancel
        releasers := w.releasers ++ [.draining none] },
      .pending)

def World.setReleaser (w : World) (i : Nat) (releaser : Releaser) : World :=
  { w with releasers := w.releasers.set i releaser }

/- `request_release` goes on. -/
def releaserStep (w : World) (i : Nat) (now : String) :
    World × Answer :=
  match w.releasers[i]? with
  | some (.draining none) =>
    match w.queue with
    | [] => (w.setReleaser i .storing, .pending)
    | id :: rest => ({ w.setReleaser i (.draining (some id)) with queue := rest }, .pending)
  | some (.draining (some id)) =>
    ((w.modify id (Command.fail env "浏览器正在释放")).setReleaser i (.draining none), .pending)
  | some .storing =>
    let stored := w.transition .releasing "" now
    (stored.setReleaser i .ended, .snapshot stored.lease)
  | _ => (w, .pending)

----
-- The Owner Thread
----

/- What the callbacks and pages of the current part do. -/
inductive Outcome where
| ok
| raises (exc : Raised)
deriving DecidableEq

/- The `except` clauses around one command. -/
def caught (id : Nat) : Raised → Owner
| .error text => .failed id text
| exc => .interrupted id exc

/- After one command: the next one, or the handlers. -/
def afterCommand : Option Raised → Owner
| none => .getting
| some exc => .failing exc

def Raised.status : Raised → LeaseStatus
| .release _ => .releasing
| .interruption _ => .stopped
| .error _ => .interrupted

/- The error that a handler stores with it. -/
def Raised.leaseError : Raised → String
| .error text => env.safe_error text
| _ => ""

/- The error that a handler leaves in pending commands. -/
def Raised.commandError : Raised → String
| .release _ => "浏览器正在释放"
| .interruption _ => "任务已停止"
| .error text => orElse (env.safe_error text) "浏览器登录态已中断"

/- A command is taken and fails at once if it was cancelled. -/
def World.takes (w : World) (id : Nat) : World :=
  let asked :=
    if w.lease.release_requested then w.modify id Command.cancel
    else w
  if asked.isCancelled id then asked.goes (.failed id (orElse (asked.errorOf id) "浏览器登录态命令已取消"))
  else asked.goes (.cleared id)

/- The first part of `_process_refresh_command` and of `_process_open_gcash_command`. -/
def startedAt (id : Nat) (command : Command) : Owner :=
  match command.kind with
  | .refresh_session =>
    if command.cancelled then .failed id "同步请求已取消"
    else .refresh_begins id
  | .open_gcash_link =>
    if command.cancelled then .failed id (orElse command.error "GCash 标签页打开请求已取消")
    else
      match env.validate_url command.url with
      | .error text => .failed id text
      | .ok _ => .opening id

/- The session material of a refresh is written back. -/
def World.refreshes (w : World) (id : Nat) : World :=
  if w.isCancelled id then w.goes (.failed id "同步请求已取消，结果未写回")
  else { w with refresh_count := w.refresh_count + 1, owner := .refreshed id }

def World.opens (w : World) (id : Nat) : World :=
  if w.isCancelled id || w.lease.release_requested then
    w.goes (.failed id (orElse (w.errorOf id) "GCash 标签页打开请求已取消"))
  else w.goes (.shown id)

/- The page has been checked and brought to the front. -/
def World.shows (w : World) (id : Nat) : World := (w.modify id (fun command => { command with
      result := some
          { message := "已在对应账号的登录态浏览器中打开 GCash 标签页"
            remote_request_id := command.remote_request_id }
      url := ""
      done := true })).goes (.opened id)

def World.commandFails (w : World) (id : Nat) (kind : CommandKind) (error now : String) : World :=
  match kind with
  | .open_gcash_link => w.modify id (Command.recordFailure env (orElse (w.errorOf id) error))
  | .refresh_session =>
    let text := orElse (env.safe_error error) "同步最新登录态失败"
    (w.modify id (fun command => { command with error := text })).transition
        .readyHolding (env.safe_error text) now

/- The `finally` clause of a command. -/
def World.finishes (w : World) (id : Nat) : World :=
  { w.modify id Command.finish with
    current_command :=
      if w.current_command = some id then none
      else w.current_command }

/- Where the owner goes on when the part can raise. -/
def World.either (w : World) (outcome : Outcome) (ok : World) (handler : Raised → Owner) : World :=
  match outcome with
  | .ok => ok
  | .raises exc => w.goes (handler exc)

/- `hold_browser`, one part of it. -/
def hold_browser (w : World) (outcome : Outcome) (now : String) : World :=
  match w.owner with
  | .idle => w
  | .publishing => w.either outcome (w.goes .starting) (fun _ => .idle)
  | .starting => w.goes
        (if w.lease.release_requested then .early_release
        else .entering)
  | .early_release => (w.transition .releasing "" now).goes .closing
  | .entering => (w.transition .readyHolding "" now).goes .logging
  | .logging => w.either outcome (w.goes .waiting) (fun _ => .idle)
  | .waiting => w.goes
        (if w.lease.release_requested then .releasing
        else .checking)
  | .releasing => (w.transition .releasing "" now).goes .returning
  | .returning => w.either outcome (w.goes .idle) .failing
  | .checking => w.either outcome (w.goes .getting) .failing
  | .getting =>
    match w.queue with
    | [] => w.goes .paging
    | id :: rest => { w with queue := rest, owner := .taken id }
  | .paging => w.either outcome ({ w with lease := w.lease.touched now }.goes .waiting) .failing
  | .taken id => w.takes id
  | .cleared id => { w with current_command := some id, owner := .started id }
  | .started id =>
    match w.commands[id]? with
    | none => w
    | some command => w.goes (startedAt env id command)
  | .refresh_begins id => (w.transition .refreshingSession "" now).goes (.refreshing id)
  | .refreshing id => w.either outcome (w.refreshes id) (caught id)
  | .refreshed id => (w.transition .readyHolding "" now).goes (.reporting id)
  | .reporting id =>
    let reported := w.modify id (fun command =>
        { command with result := some { message := "已从保持中的浏览器同步最新登录态" } })
    reported.either outcome (reported.goes (.finishing id none)) (caught id)
  | .opening id => w.either outcome (w.opens id) (caught id)
  | .shown id => w.either outcome (w.shows id) (caught id)
  | .opened id => w.either outcome (w.goes (.finishing id none)) (caught id)
  | .failed id error =>
    match w.commands[id]? with
    | none => w
    | some command => (w.commandFails env id command.kind error now).goes (.finishing id none)
  | .interrupted id exc => (w.modify id (fun command =>
        { command with error := orElse (env.safe_error exc.text) "浏览器登录态命令已中断" })).goes
        (.finishing id (some exc))
  | .finishing id exc => (w.finishes id).goes (afterCommand exc)
  | .failing exc => (w.transition exc.status (exc.leaseError env) now).goes (.draining exc none)
  | .draining exc none =>
    match w.queue with
    | [] => w.goes .closing
    | id :: rest => { w with queue := rest, owner := .draining exc (some id) }
  | .draining exc (some id) => (w.modify id (Command.fail env (exc.commandError env))).goes
        (.draining exc none)
  | .closing => w.goes .idle

----
-- Interleavings
----

/- The statuses that the callers of `hold_browser` store in its thread, before and after it. -/
def callerStatus : LeaseStatus → Bool
| .waitingCapacity => true
| .authenticating => true
| .released => true
| .stopped => true
| .failed => true
| .interrupted => true
| _ => false

inductive CommandOp where
| caller (status : LeaseStatus) (error now : String)
| begins
| owner (outcome : Outcome) (now : String)
| requestRelease (now : String)
| releaser (i : Nat) (now : String)
| requestRefresh
| requestOpenGcash
    (url remote_request_id remote_job_id : String)
| requester (i : Nat) (expires : Bool)

def commandStep (env : Env) (w : World) :
    CommandOp → World × Answer
| .caller status error now =>
    if w.owner = .idle ∧ callerStatus status then (w.transition status error now, .pending)
    else (w, .pending)
| .begins =>
    if w.owner = .idle then (w.goes .publishing, .pending)
    else (w, .pending)
| .owner outcome now => (hold_browser env w outcome now, .pending)
| .requestRelease now => request_release w now
| .releaser i now => releaserStep env w i now
| .requestRefresh => request_refresh w
| .requestOpenGcash url remote_request_id remote_job_id =>
    request_open_gcash env w url remote_request_id remote_job_id
| .requester i expires => requesterStep env w i expires

end LeaseCommands
