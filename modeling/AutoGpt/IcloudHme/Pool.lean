import AutoGpt.IcloudHme.Model
import AutoGpt.Library.JobPool

/-
  The alias pool of `core/db.py` and `api/icloud_hme.py`: tasks
  claim aliases and report what became of them, while imports
  and operators write to the same rows. A claim selects rows
  and updates one of them later; an import of the live list
  reads all rows first and writes them one by one later.
-/

open PyText (orElse strip)

----
-- Rows
----

namespace IcloudHme

/- `existing_used_by_system` of `insert_icloud_hme_alias`. -/
def Alias.existingUsed (row : Alias) : Bool := decide (0 < row.use_count) ||
    decide (strip row.task_id ≠ "") ||
    decide (strip row.bound_account_email ≠ "") ||
    decide (strip row.status ∈ ["in_use", "registered", "register_failed"])

/- `used_by_system` of a payload. -/
def Alias.usedBySystem (row : Alias) : Bool := decide (0 < row.use_count) ||
    decide (strip row.task_id ≠ "") ||
    decide (strip row.bound_account_email ≠ "") ||
    decide (row.status ∈
        ["in_use", "registered", "register_failed", "account_deactivated", "account_disabled"])

/- An item of an import; an empty text stands for a key that is missing. -/
structure Item where
  anonymous_id : String
  hme : String
  forward_to : String := ""
  enabled : Bool := false
  created_source : String := ""
  purpose : String := ""
  bound_service : String := ""
  bound_account_email : String := ""
  task_id : String := ""
  status : String := ""
  use_count : Nat := 0
  last_error : String := ""

/- `insert_icloud_hme_alias` on the row that it finds. -/
def Item.writtenTo (item : Item) (row : Alias) : Alias :=
  let used := row.existingUsed
  { row with
    hme := item.hme
    forward_to := item.forward_to
    enabled := item.enabled
    created_source := orElse (orElse item.created_source row.created_source) "unknown"
    purpose := orElse item.purpose "chatgpt_register"
    bound_service := orElse item.bound_service "chatgpt"
    bound_account_email :=
      if used then orElse item.bound_account_email row.bound_account_email
      else item.bound_account_email
    task_id :=
      if used then orElse item.task_id row.task_id
      else item.task_id
    status :=
      if used then orElse (orElse item.status row.status) "reserved"
      else orElse item.status "reserved"
    use_count :=
      if item.use_count = 0 then row.use_count
      else item.use_count
    last_error :=
      if used then orElse item.last_error row.last_error
      else item.last_error }

def Item.newRow (item : Item) (id : Nat) : Alias where
  id := id
  anonymous_id := item.anonymous_id
  hme := item.hme
  forward_to := item.forward_to
  enabled := item.enabled
  created_source := orElse item.created_source "unknown"
  purpose := orElse item.purpose "chatgpt_register"
  bound_service := orElse item.bound_service "chatgpt"
  bound_account_email := item.bound_account_email
  task_id := item.task_id
  status := orElse item.status "reserved"
  use_count := item.use_count
  last_error := item.last_error

def nextAliasId (aliases : Aliases) : Nat := (aliases.rows.map Alias.id).foldr max 0 + 1

/- `insert_icloud_hme_alias`, of an item with stripped ids. -/
def insertAlias (item : Item) (aliases : Aliases) : Aliases :=
  match aliases.find? item.anonymous_id with
  | none => aliases.insertNew (item.newRow (nextAliasId aliases))
  | some _ => aliases.updateKey item.anonymous_id item.writtenTo (fun _ => rfl)

----
-- Reports And Statements
----

/- What a task reports about the alias that it was handed. -/
inductive Outcome where
| success (bound_account_email task_id : String)
| failure (error_message task_id : String)
| deactivated (error_message task_id : String)
| release (error_message : String)

/- `update_icloud_hme_alias_on_success`, `update_icloud_hme_alias_on_failure`,
   `update_icloud_hme_alias_on_account_deactivated` and
   `release_icloud_hme_alias_after_early_failure` on the row. -/
def Outcome.writtenTo (outcome : Outcome) (row : Alias) : Alias :=
  match outcome with
  | .success bound_account_email task_id =>
    { row with
      status := "registered", bound_account_email := bound_account_email,
      task_id := task_id, last_error := "" }
  | .failure error_message task_id =>
    { row with status := "register_failed", last_error := error_message, task_id := task_id }
  | .deactivated error_message task_id =>
    { row with
      status := "account_deactivated", enabled := false, last_error := error_message,
      task_id := task_id }
  | .release error_message =>
    { row with status := "reserved", last_error := error_message, task_id := "" }

/- No report but that of success gives an alias back. -/
def Outcome.keeps : Outcome → Bool
| .success _ _ => true
| _ => false

variable (env : Env)

/- `recyclable_failed` of `bulk_enable_icloud_hme_aliases`. -/
def Alias.recyclable (row : Alias) : Bool := decide (strip row.status = "register_failed") &&
    !env.isAccountDeactivatedMessage (strip row.last_error)

/- The arguments of `bulk_enable_icloud_hme_aliases`. -/
structure BulkEnable where
  forward_to : String := ""
  only_manual_created : Bool := false
  only_unused : Bool := true

/- A row that `bulk_enable_icloud_hme_aliases` passes over. -/
def BulkEnable.skips (request : BulkEnable) (row : Alias) :
    Bool :=
  let forward_to := strip request.forward_to
  (decide (forward_to ≠ "") &&
      decide (strip row.forward_to ≠ forward_to)) ||
    (request.only_manual_created &&
      decide (strip row.created_source ≠ "manual_created")) ||
    (request.only_unused &&
      (decide
          (strip row.status ∈
            ["registered", "in_use", "retired", "account_deactivated", "account_disabled"]) ||
        env.isAccountDeactivatedMessage (strip row.last_error) ||
        (!row.recyclable env &&
          (decide (strip row.task_id ≠ "") ||
            decide (strip row.bound_account_email ≠ "")))))

/- The loop body of `bulk_enable_icloud_hme_aliases`. -/
def BulkEnable.writtenTo (row : Alias) : Alias :=
  if row.recyclable env then
    { row with
      status := "reserved", task_id := "", last_error := "", bound_account_email := "",
      enabled := true }
  else { row with enabled := true }

/- `bulk_enable_icloud_hme_aliases`. -/
def bulkEnable (request : BulkEnable) (aliases : Aliases) :
    Aliases :=
  aliases.updateWhere (fun row => !request.skips env row)
    (BulkEnable.writtenTo env) (by
      intro row
      unfold BulkEnable.writtenTo
      split <;> rfl)

/- `bulk_disable_used_icloud_hme_aliases`. -/
def bulkDisableUsed (forward_to : String) (aliases : Aliases) :
    Aliases :=
  aliases.updateWhere
    (fun row => (decide (strip forward_to = "") ||
        decide (strip row.forward_to = strip forward_to)) &&
        row.usedBySystem)
    (fun row => { row with enabled := false }) (fun _ => rfl)

/- `mark_icloud_hme_alias_used` on the row. -/
def Alias.markUsed (row : Alias) : Alias :=
  { row with
    use_count := row.use_count + 1
    enabled := false
    status :=
      if strip row.status = "reserved" then "in_use"
      else row.status }

/- `prune_icloud_hme_aliases_not_in_remote`. -/
def pruneAliases (remote_ids : List String) (purpose bound_service forward_to : String)
    (aliases : Aliases) : Aliases :=
  aliases.deleteWhere fun row => decide (row.purpose = purpose) &&
      decide (row.bound_service = bound_service) &&
      (decide (forward_to = "") ||
        decide (row.forward_to = forward_to)) &&
      decide (strip row.anonymous_id ∉ remote_ids)

----
-- Claims
----

/- The arguments of `claim_icloud_hme_alias`. -/
structure ClaimRequest where
  task_id : String := ""
  purpose : String := "chatgpt_register"
  bound_service : String := "chatgpt"
  forward_to : String := ""

/- `purpose` and `bound_service` with their defaults. -/
def normalizedPurpose (purpose : String) : String := orElse (strip purpose) "chatgpt_register"

def normalizedService (bound_service : String) : String := orElse (strip bound_service) "chatgpt"

/- A row that the `SELECT` of a claim finds. -/
def ClaimRequest.selects (request : ClaimRequest) (row : Alias) :
    Bool :=
  decide (row.status = "reserved") && row.enabled &&
    decide (row.purpose = normalizedPurpose request.purpose) &&
    decide (row.bound_service = normalizedService request.bound_service) &&
    decide (row.task_id = "") &&
    decide (row.bound_account_email = "") &&
    (decide (strip request.forward_to = "") ||
      decide (row.forward_to = strip request.forward_to))

/- The `SELECT` of a claim. -/
def selectAliases (request : ClaimRequest) (aliases : Aliases) :
    List Alias :=
  ((aliases.rows.filter request.selects).insertionSort fun a b => a.id ≤ b.id).take 25

/- The `WHERE` of its `UPDATE`. -/
def Alias.claimable (id : Nat) (row : Alias) : Bool :=
  decide (row.id = id) && decide (row.status = "reserved") &&
    decide (row.task_id = "")

/- The `SET` of its `UPDATE`. -/
def Alias.claimedBy (task_id : String) (row : Alias) : Alias :=
  { row with status := "in_use", task_id := task_id, use_count := row.use_count + 1 }

----
-- Jobs
----

/- An alias that a claim has returned; it stays open until the
   task releases it or reports its failure. -/
structure Handout where
  anonymous_id : String
  isOpen : Bool := true

/- The alias table, and all aliases handed out so far. -/
structure PoolState where
  aliases : Aliases
  handouts : List Handout := []

structure Remote where
  anonymous_id : String
  hme : String
  forward_to : String
  isActive : Bool

/- `IcloudHmeSyncRequest`. -/
structure SyncRequest where
  forward_to : String := "b@cccy.me"
  purpose : String := "chatgpt_register"
  bound_service : String := "chatgpt"
  prune_missing : Bool := false
  dry_run : Bool := false

/- The arguments and the counts of `import_icloud_hme_alias_rows`,
   and the ids of the live list if it is to prune. -/
structure Import where
  purpose : String
  bound_service : String
  forward_to : String
  pruneTo : Option (List String) := none
  inserted : Nat := 0
  updated : Nat := 0
  skipped : Nat := 0

inductive PoolAnswer where
| none
| claimed (row : Alias)
| noAlias
| imported (inserted updated skipped : Nat)
| raised (status_code : Nat) (detail : String)

/- What a request does next, with what it has read so far. -/
inductive PoolJob where
| select (request : ClaimRequest)
| claiming (request : ClaimRequest) (rows : List Alias)
| syncRead (request : SyncRequest) (left : List Remote)
    (items : List Item)
| importRead (i : Import) (items : List Item)
| importWrite (i : Import) (existed : Bool) (item : Item)
    (items : List Item)
| prune (i : Import) (remote_ids : List String)
| report (handout : Nat) (outcome : Outcome)
| bulkEnable (request : BulkEnable)
| bulkDisableUsed (forward_to : String)
| markUsed (anonymous_id : String)
| finished (answer : PoolAnswer)

/- The loop of a claim over the rows that it has selected. -/
def tryClaim (request : ClaimRequest) (rows : List Alias) (s : PoolState) : PoolState × PoolJob :=
  match rows with
  | [] => (s, .finished .noAlias)
  | row :: rows =>
    let task_id := strip request.task_id
    let aliases :=
      s.aliases.updateWhere (Alias.claimable row.id) (Alias.claimedBy task_id) (fun _ => rfl)
    match s.aliases.rows.filter (Alias.claimable row.id) with
    | [found] =>
      ({ aliases := aliases, handouts := s.handouts ++ [{ anonymous_id := found.anonymous_id }] },
        .finished (.claimed (found.claimedBy task_id)))
    | _ => ({ s with aliases := aliases }, .claiming request rows)

/- An item of the live list, with what the table says about it now. -/
def syncItem (request : SyncRequest) (remote : Remote) (existing : Option Alias) : Item :=
  let status := if remote.isActive then "reserved" else "retired"
  let item : Item :=
    { anonymous_id := remote.anonymous_id, hme := remote.hme, forward_to := remote.forward_to,
      status := status, created_source := "manual_created",
      purpose := normalizedPurpose request.purpose,
      bound_service := normalizedService request.bound_service }
  match existing with
  | none => item
  | some row =>
    let item := { item with enabled := row.enabled && decide (status ≠ "retired") }
    if row.usedBySystem then
      { item with
        created_source := orElse row.created_source "manual_created",
        status := orElse (strip (orElse row.status status)) "reserved", use_count := row.use_count,
        bound_account_email := row.bound_account_email, task_id := row.task_id,
        last_error := row.last_error }
    else if strip row.created_source ≠ "" then
      { item with created_source := strip row.created_source }
    else item

/- The first loop of `sync_live_aliases`. -/
def syncRead (request : SyncRequest) (left : List Remote)
    (items : List Item) (s : PoolState) : PoolJob :=
  match left with
  | [] => .importRead
        { purpose := normalizedPurpose request.purpose
          bound_service := normalizedService request.bound_service
          forward_to := orElse (strip request.forward_to) "b@cccy.me"
          pruneTo :=
            if request.prune_missing && !request.dry_run then some (items.map Item.anonymous_id)
            else none }
        items
  | remote :: left => .syncRead request left
        (items ++ [syncItem request remote (s.aliases.find? (strip remote.anonymous_id))])

/- The arguments that an import passes for an item. -/
def Import.item (i : Import) (item : Item) : Item :=
  { item with
    anonymous_id := strip item.anonymous_id
    hme := strip item.hme
    forward_to := orElse item.forward_to i.forward_to
    created_source := orElse item.created_source "unknown"
    purpose := orElse (orElse item.purpose i.purpose) "chatgpt_register"
    bound_service := orElse (orElse item.bound_service i.bound_service) "chatgpt"
    status := orElse
        (strip (orElse item.status "reserved"))
        "reserved" }

/- The loop of `import_icloud_hme_alias_rows`, up to its next read. -/
def importRead (i : Import) (items : List Item) (s : PoolState) : PoolJob :=
  match items with
  | [] =>
    match i.pruneTo with
    | none => .finished (.imported i.inserted i.updated i.skipped)
    | some remote_ids => .prune i remote_ids
  | item :: items =>
    if strip item.anonymous_id = "" ∨ strip item.hme = "" then
      .importRead { i with skipped := i.skipped + 1 } items
    else .importWrite i (s.aliases.find? (strip item.anonymous_id)).isSome item items

def Import.count (existed : Bool) (i : Import) : Import :=
  if existed then { i with updated := i.updated + 1 }
  else { i with inserted := i.inserted + 1 }

def reportOutcome (handout : Nat) (outcome : Outcome) (s : PoolState) :
    PoolState :=
  match s.handouts[handout]? with
  | none => s
  | some h =>
    { aliases := s.aliases.updateKey h.anonymous_id outcome.writtenTo
          (by
            intro row
            cases outcome <;> rfl)
      handouts := s.handouts.set handout
          { h with isOpen := h.isOpen && outcome.keeps } }

def PoolJob.advance (env : Env) (s : PoolState) :
    PoolJob → PoolState × PoolJob
| .select request => (s, .claiming request (selectAliases request s.aliases))
| .claiming request rows => tryClaim request rows s
| .syncRead request left items => (s, IcloudHme.syncRead request left items s)
| .importRead i items => (s, IcloudHme.importRead i items s)
| .importWrite i existed item items =>
    ({ s with aliases := insertAlias (i.item item) s.aliases }, .importRead (i.count existed) items)
| .prune i remote_ids =>
    ({ s with
       aliases := pruneAliases remote_ids i.purpose i.bound_service
           i.forward_to s.aliases },
      .finished (.imported i.inserted i.updated i.skipped))
| .report handout outcome => (reportOutcome handout outcome s, .finished .none)
| .bulkEnable request =>
    ({ s with aliases := IcloudHme.bulkEnable env request s.aliases }, .finished .none)
| .bulkDisableUsed forward_to =>
    ({ s with aliases := IcloudHme.bulkDisableUsed forward_to s.aliases }, .finished .none)
| .markUsed anonymous_id =>
    ({ s with
       aliases := s.aliases.updateKey (strip anonymous_id)
           Alias.markUsed (fun _ => rfl) },
      .finished .none)
| .finished answer => (s, .finished answer)

def PoolJob.done : PoolJob → Bool
| .finished _ => true
| _ => false

/- A request as it arrives; a sync with its live list. -/
inductive PoolRequest where
| claim (request : ClaimRequest)
| sync (request : SyncRequest) (live : List Remote)
| importCsv (purpose bound_service forward_to : String)
    (items : List Item)
| report (handout : Nat) (outcome : Outcome)
| bulkEnable (request : BulkEnable)
| bulkDisableUsed (forward_to : String)
| markUsed (anonymous_id : String)

def PoolRequest.job : PoolRequest → PoolJob
| .claim request => .select request
| .sync request live =>
    if request.prune_missing ∧ live = [] then .finished
        (.raised 400 ("iCloud HME list returned no aliases; " ++ "refusing to prune local aliases"))
    else .syncRead request live []
| .importCsv purpose bound_service forward_to items =>
    if items = [] then .finished (.raised 400 "no valid rows found in csv")
    else
      .importRead
        { purpose := normalizedPurpose purpose
          bound_service := normalizedService bound_service
          forward_to := orElse (strip forward_to)
              "b@cccy.me" }
        items
| .report handout outcome => .report handout outcome
| .bulkEnable request => .bulkEnable request
| .bulkDisableUsed forward_to => .bulkDisableUsed forward_to
| .markUsed anonymous_id => .markUsed anonymous_id

def pool (env : Env) :
    JobPool.Program PoolState PoolJob PoolRequest Unit where
  start := PoolRequest.job
  advance := fun _ => PoolJob.advance env
  done := PoolJob.done
  ended := .finished .none

abbrev PoolOp := JobPool.Op PoolRequest Unit

/- The pool that starts with some aliases, none of them handed out. -/
abbrev poolRun (env : Env) (aliases : Aliases) (ops : List PoolOp) :
    JobPool.State PoolState PoolJob :=
  JobPool.run (pool env) { aliases := aliases } ops

end IcloudHme
