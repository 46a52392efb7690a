import AutoGpt.IcloudHme.Model
import AutoGpt.Library.Machine

/-
  The worker of `services/icloud_hme_auto_delete.py`. One run
  lists the candidates, and then, one candidate after the
  other, waits, rechecks its accounts and deletes it at Apple.
  Between two steps other workers may change the tables in any
  way.
-/

open PyText (orElse strip)
open KeyedTable

----
-- Configuration And Requests
----

namespace IcloudHme

/- `IcloudHmeAutoDeleteConfig`. -/
structure Config where
  enabled : Bool := true
  max_per_run : Nat := 20
  rate_limit_backoff_minutes : Nat := 60
  error_backoff_minutes : Nat := 3
  recheck_before_delete : Bool := true
  pause_active_tasks : Bool := true
  dead_statuses : List String := ["account_deactivated", "password_invalid"]
  icloud_cookie : String := ""
  purpose : String := "chatgpt_register"
  bound_service : String := "chatgpt"
deriving DecidableEq

/- `DEFAULT_ERROR_BACKOFF_MAX_MINUTES`. -/
def defaultErrorBackoffMaxMinutes : Nat := 15

/- The arguments of `run_once`. -/
structure Request where
  force : Bool := false
  ignore_active_tasks : Bool := false
  delete : Bool := true

structure Process where
  rate_limit_until : Nat := 0
  error_backoff_until : Nat := 0
  consecutive_error_count : Nat := 0

/- `_set_error_backoff`. -/
def setErrorBackoff (config : Config) (now : Nat) (process : Process) : Process :=
  let count := process.consecutive_error_count + 1
  { process with
    consecutive_error_count := count
    error_backoff_until :=
      if config.error_backoff_minutes = 0 then 0
      else
        now + min (config.error_backoff_minutes * count)
            defaultErrorBackoffMaxMinutes * 60 }

/- `_clear_error_backoff`. -/
def clearErrorBackoff (process : Process) : Process :=
  { process with error_backoff_until := 0, consecutive_error_count := 0 }

structure Report where
  candidate_total : Nat := 0
  rechecked : Nat := 0
  deleted : Nat := 0
  kept_alive : Nat := 0
  skipped : Nat := 0
  delete_errors : List String := []
  rate_limited_hit : Bool := false
  ordinary_error_hit : Bool := false
  auth_expired : Bool := false
deriving DecidableEq

----
-- Rechecks
----

/- `_classify_recheck_result`. -/
inductive Verdict where
| alive
| dead
| keep
deriving DecidableEq

/- What `recheck_invalid_chatgpt_account` returns. -/
structure RecheckResult where
  ok : Bool
  error_code : String := ""

/- How the login of a recheck ends: with a session, after which the account has this status, with
   this error, or with an interruption. -/
inductive Login where
| session (status : String)
| failed (error_text : String)
| interrupted

/- The error codes after which a recheck invalidates an account. -/
def authoritativeInvalid : List String :=
  ["account_deactivated", "account_deleted", "account_delete", "deactivated_workspace"]

variable (env : Env)

/- `_classify_recheck_result`. -/
def classifyRecheckResult (dead_statuses : List String) (result : RecheckResult) :
    Verdict :=
  if result.ok then .alive
  else if env.lower (strip result.error_code) ∈ dead_statuses then .dead
  else .keep

/- The end of `_probe_account_ids`. -/
def probeVerdict (checked : List (Nat × Verdict)) :
    Option Verdict :=
  if .alive ∈ checked.map Prod.snd then some .alive
  else if .dead ∈ checked.map Prod.snd then some .dead
  else none

/- The account that a recheck reads first, and the result when there is nothing to log in with. -/
def recheckTarget (accounts : Accounts) (account_id : Nat)
    (mailbox_found : Bool) : Except RecheckResult Account :=
  match accounts.find? account_id with
  | none => .error { ok := false, error_code := "account_not_found" }
  | some account =>
    if account.platform ≠ "chatgpt" then .error { ok := false, error_code := "account_not_found" }
    else if strip account.email = "" then .error { ok := false, error_code := "missing_email" }
    else if mailbox_found then .ok account
    else .error { ok := false, error_code := "missing_mailbox_state" }

/- `_persist_recheck_success` and `_persist_recheck_failure` on the row that they find. -/
def Account.revived (status : String) (account : Account) :
    Account :=
  { account with status := status }

def Account.recheckFailed (original_status error_code : String) (account : Account) :
    Account :=
  { account with
    status :=
      if env.lower (strip error_code) ∈ authoritativeInvalid then "invalid"
      else
        env.lower
          (strip
            (orElse account.status
              (orElse original_status "registered"))) }

----
-- The Store
----

def Tables.updateAccount (account_id : Nat) (f : Account → Account)
    (hKey : ∀ account, (f account).id = account.id) (tables : Tables) : Tables :=
  { tables with
    accounts := tables.accounts.updateKey account_id f hKey
    positive := by
      intro account hMem
      rcases mem_rows_updateKey hMem with ⟨old, hFound, hIs⟩ | ⟨_, hOld⟩
      · rw [hIs, hKey]
        exact tables.positive old (mem_of_find? hFound).1
      · exact tables.positive account hOld }

/- The row of `_create_probe_account`. -/
def probeAccount (email : String) (id : Nat) : Account where
  id := id
  email := email
  status := "invalid"

/- `_create_probe_account`. -/
def Tables.createProbeAccount (email : String) (tables : Tables) : Tables :=
  { tables with
    accounts := tables.accounts.insertNew (probeAccount email tables.accounts.nextId)
    positive := by
      intro account hMem
      have hNew : tables.accounts.find? (probeAccount email tables.accounts.nextId).id = none :=
        find?_nextId tables.accounts
      rw [rows_insertNew tables.accounts hNew] at hMem
      rcases List.mem_append.mp hMem with hOld | hProbe
      · exact tables.positive account hOld
      · rw [List.mem_singleton.mp hProbe]
        exact Nat.succ_pos _ }

/- `_delete_probe_account`. -/
def Tables.deleteAccount (account_id : Nat) (tables : Tables) :
    Tables :=
  { tables with
    accounts := tables.accounts.deleteWhere fun account => decide (account.id = account_id)
    positive := fun account hMem => tables.positive account (List.mem_of_mem_filter hMem) }

/- `mark_icloud_hme_alias_retired` on the row. -/
def Alias.retire (reason : String) (row : Alias) : Alias :=
  { row with
    status := "retired"
    enabled := false
    last_error :=
      if strip reason = "" then row.last_error
      else String.ofList ((strip reason).toList.take 500) }

/- `mark_icloud_hme_alias_retired`. -/
def Tables.retireAlias (anonymous_id reason : String) (tables : Tables) : Tables :=
  { tables with
    aliases := tables.aliases.updateKey (strip anonymous_id) (Alias.retire reason) (fun _ => rfl)
    stripped := by
      intro row hMem
      rcases mem_rows_updateKey hMem with ⟨old, hFound, hIs⟩ | ⟨_, hOld⟩
      · rw [hIs]
        exact tables.stripped old (mem_of_find? hFound).1
      · exact tables.stripped row hOld }

/- The result of a recheck after its login, and its commit; an account that has gone by then is an
   exception, which counts as `keep`. -/
def finishRecheck (env : Env) (dead_statuses : List String)
    (account_id : Nat) (original_status : String) (login : Login)
    (tables : Tables) : Tables × Verdict :=
  match tables.accounts.find? account_id with
  | none => (tables, .keep)
  | some account =>
    if account.platform ≠ "chatgpt" then (tables, .keep)
    else
      match login with
      | .interrupted => (tables, .keep)
      | .session status =>
        (tables.updateAccount account_id (Account.revived status) (fun _ => rfl), .alive)
      | .failed error_text =>
        let error_code := env.classifyRecheckError error_text
        (tables.updateAccount account_id (Account.recheckFailed env original_status error_code)
          (fun _ => rfl),
          classifyRecheckResult env dead_statuses { ok := false, error_code := error_code })

----
-- The Steps Of A Run
----

/- A run in progress: its arguments, the candidates that it has not reached yet, and its report. -/
structure Run where
  config : Config
  delete : Bool
  rest : List Candidate := []
  report : Report := {}
deriving DecidableEq

/- A run that has not listed its candidates yet. -/
def Run.of (config : Config) (request : Request) : Run where
  config := config
  delete := request.delete

/- A candidate in progress, with the accounts that were checked
   and the verdicts; the code keeps the verdicts only. -/
structure Probe where
  run : Run
  cand : Candidate
  temp : Option Nat := none
  checked : List (Nat × Verdict) := []
deriving DecidableEq

inductive Job where
| idle
| list (run : Run)
| next (run : Run)
| probe (p : Probe) (left : List Nat)
| login (p : Probe) (account_id : Nat)
    (original_status : String) (left : List Nat)
| cleanup (p : Probe) (account_id : Nat)
    (verdict : Option Verdict)
| deactivate (p : Probe)
| delete (p : Probe)
| retire (p : Probe)
| finish (run : Run)
deriving DecidableEq

inductive Apple where
| ok
| aliasLimit (retry_after : Nat)
| authExpired (message : String)
| error (message : String)

/- The answers of the outside to one step: the stop event, the
   mailbox and the login of a recheck, and Apple's. -/
structure Draw where
  seconds : Nat := 0
  stopped : Bool := false
  mailbox_found : Bool := true
  login : Login := .interrupted
  apple : Apple := .ok

structure State where
  clock : Nat := 0
  tables : Tables
  process : Process := {}
  job : Job := .idle

inductive Answer where
| none
| calledDeactivate (anonymous_id : String)
| calledDelete (anonymous_id : String)
| returned (reason : String) (report : Report)
deriving DecidableEq

variable (env : Env)

def listCandidates (run : Run) (tables : Tables) : Job :=
  let candidates := listDeletionCandidates env run.config.purpose run.config.bound_service tables
  .next
    { run with
      rest := candidates.take run.config.max_per_run,
      report := { run.report with candidate_total := candidates.length } }

/- A candidate that is kept, in the report. -/
def Run.keptAlive (run : Run) : Run :=
  { run with report := { run.report with kept_alive := run.report.kept_alive + 1 } }

/- A candidate without a verdict, in the report. -/
def Run.skip (run : Run) : Run :=
  { run with report := { run.report with skipped := run.report.skipped + 1 } }

/- A candidate whose accounts were rechecked. -/
def Run.recheckedOne (run : Run) : Run :=
  { run with report := { run.report with rechecked := run.report.rechecked + 1 } }

def Run.deletedOne (run : Run) : Run :=
  { run with report := { run.report with deleted := run.report.deleted + 1 } }

/- A candidate that is dead; a dry run only counts it. -/
def confirmedDead (p : Probe) : Job :=
  if p.run.delete then .deactivate p
  else .next p.run.deletedOne

/- What follows the verdict on a candidate. -/
def afterVerdict (p : Probe) (verdict : Option Verdict) : Job :=
  let p := { p with run := p.run.recheckedOne }
  match verdict with
  | some .alive => .next p.run.keptAlive
  | some .dead => confirmedDead p
  | _ => .next p.run.skip

/- The head of the loop over the candidates, and the start of the recheck of the next one. -/
def nextCandidate (draw : Draw) (run : Run) (tables : Tables) : Tables × Job :=
  match run.rest with
  | [] => (tables, .finish run)
  | cand :: rest =>
    if draw.stopped then (tables, .finish run)
    else
      let run := { run with rest := rest }
      if run.config.recheck_before_delete = false then
        (tables, confirmedDead { run := run, cand := cand })
      else
        match cand.kind with
        | .boundInvalid => (tables, .probe { run := run, cand := cand } cand.account_ids)
        | .orphan =>
          if strip cand.hme = "" then (tables, afterVerdict { run := run, cand := cand } none)
          else
            (tables.createProbeAccount (strip cand.hme), .probe
                { run := run, cand := cand, temp := some tables.accounts.nextId }
                [tables.accounts.nextId])

def Probe.add (account_id : Nat) (verdict : Verdict) (p : Probe) : Probe :=
  { p with checked := p.checked ++ [(account_id, verdict)] }

/- The end of `_probe_candidate`. -/
def finishProbe (p : Probe) : Job :=
  let verdict := probeVerdict p.checked
  match p.temp with
  | none => afterVerdict p verdict
  | some account_id =>
    if verdict = some .alive then afterVerdict p verdict
    else .cleanup p account_id verdict

/- The loop of `_probe_account_ids`, and the first read of a recheck. -/
def probeNext (draw : Draw) (p : Probe) (left : List Nat) (tables : Tables) : Job :=
  match left with
  | [] => finishProbe p
  | account_id :: left =>
    if account_id = 0 then .probe p left
    else
      match recheckTarget tables.accounts account_id draw.mailbox_found with
      | .error result => .probe
            (p.add account_id (classifyRecheckResult env p.run.config.dead_statuses result))
            left
      | .ok account => .login p account_id (env.lower (strip account.status)) left

/- The call of `client.deactivate`. -/
def afterDeactivate (apple : Apple) (p : Probe) (s : State) :
    State :=
  match apple with
  | .aliasLimit retry_after =>
    { s with
      process :=
        { rate_limit_until := s.clock + max
                (p.run.config.rate_limit_backoff_minutes * 60)
                retry_after }
      job := .finish
          { p.run with report := { p.run.report with rate_limited_hit := true } } }
  | .authExpired message =>
    { s with
      job := .finish
          { p.run with
            report :=
              { p.run.report with
                auth_expired := true
                delete_errors := p.run.report.delete_errors ++ [orElse p.cand.hme
                        p.cand.anonymous_id ++ ": " ++
                      message] } } }
  | _ => { s with job := .delete p }

/- The call of `client.delete`. -/
def afterDelete (apple : Apple) (p : Probe) (s : State) : State :=
  match apple with
  | .ok => { s with job := .retire p }
  | .error message =>
    { s with
      job := .finish
          { p.run with
            report :=
              { p.run.report with
                ordinary_error_hit := true
                delete_errors := p.run.report.delete_errors ++ [orElse p.cand.hme
                        p.cand.anonymous_id ++ ": " ++
                      message] } } }
  | _ => afterDeactivate apple p s

def Kind.text : Kind → String
| .orphan => "orphan"
| .boundInvalid => "bound_invalid"

def finishRun (run : Run) (s : State) : State × Answer :=
  let process :=
    if run.report.ordinary_error_hit then setErrorBackoff run.config s.clock s.process
    else clearErrorBackoff s.process
  ({ s with
     process :=
       if run.report.rate_limited_hit then process
       else { process with rate_limit_until := 0 }
     job := .idle },
    .returned (if run.delete then "completed" else "dry_run") run.report)

def stepJob (draw : Draw) (s : State) : State × Answer :=
  match s.job with
  | .idle => (s, .none)
  | .list run => ({ s with job := listCandidates env run s.tables }, .none)
  | .next run =>
    let after := nextCandidate draw run s.tables
    ({ s with tables := after.1, job := after.2 }, .none)
  | .probe p left => ({ s with job := probeNext env draw p left s.tables }, .none)
  | .login p account_id original_status left =>
    let after :=
      finishRecheck env p.run.config.dead_statuses account_id original_status draw.login s.tables
    ({ s with tables := after.1, job := .probe (p.add account_id after.2) left }, .none)
  | .cleanup p account_id verdict =>
    ({ s with tables := s.tables.deleteAccount account_id, job := afterVerdict p verdict }, .none)
  | .deactivate p => (afterDeactivate draw.apple p s, .calledDeactivate p.cand.anonymous_id)
  | .delete p => (afterDelete draw.apple p s, .calledDelete p.cand.anonymous_id)
  | .retire p =>
    ({ s with
       tables := s.tables.retireAlias p.cand.anonymous_id ("auto_delete:" ++ p.cand.kind.text)
       job := .next p.run.deletedOne },
      .none)
  | .finish run => finishRun run s

----
-- The Worker
----

/- The checks at the head of `run_once`. -/
def start (config : Config) (request : Request)
    (active_tasks : Bool) (s : State) : State × Answer :=
  if request.force = false ∧ config.enabled = false then (s, .returned "disabled" {})
  else if config.pause_active_tasks ∧ active_tasks ∧
      request.ignore_active_tasks = false then
    (s, .returned "active_tasks" {})
  else if request.force = false ∧ s.clock < s.process.rate_limit_until then
    (s, .returned "rate_limit_backoff" {})
  else if request.force = false ∧ s.clock < s.process.error_backoff_until then
    (s, .returned "error_backoff" {})
  else if s.job ≠ .idle then (s, .returned "already_running" {})
  else if request.delete ∧ config.icloud_cookie = "" then (s, .returned "non_retryable_error" {})
  else ({ s with job := .list (Run.of config request) }, .none)

/- What can happen: other workers change the tables, `run_once` is called, the worker makes a step,
   the process starts again. -/
inductive Op where
| change (tables : Tables)
| start (config : Config) (request : Request)
    (active_tasks : Bool)
| step (draw : Draw)
| restart

def step (s : State) : Op → State × Answer
| .change tables => ({ s with tables := tables }, .none)
| .start config request active_tasks => start config request active_tasks s
| .step draw => stepJob env draw { s with clock := s.clock + draw.seconds }
| .restart => ({ s with process := {}, job := .idle }, .none)

abbrev run (tables : Tables) (ops : List Op) : State :=
  Machine.run (step env) { tables := tables } ops

end IcloudHme
