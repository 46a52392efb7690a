import AutoGpt.Library.KeyedTable
import AutoGpt.PaymentLinks.Payload

/-
  The import of the long-link success history
  (`services/long_link_history_sync.py`): the source rows, the
  snapshot of a target database, the plan for it, and the
  transaction that applies the plan.
-/

open List

----
-- Source Rows
----

namespace PaymentLinks

/- A row of `long_link_success_history`. -/
structure SourceRow where
  job_id : Value
  completed_at : Value
  account_email : Value
  long_url : Value
  link_type : Value
  source : Value
  billing_country : Value
  currency : Value
  payment_method_type : Value
  cs_id : Value
  link_expires_at : Value

inductive RowSkip where
| missing_job_id
| missing_email
| invalid_url
| invalid_completed_at
deriving DecidableEq

/- The `OverflowError` of an infinite number. -/
inductive Overflow where
| overflow
deriving DecidableEq

variable (env : Env)

/- `float(value)`; `none` for what is no number. -/
def float (v : Value) : Option Time :=
  match v with
  | .null => none
  | .bool b => some (epochTime (if b then 1 else 0))
  | .num t _ => some t
  | .text s => env.float_text s
  | .other _ => none

/- `int(number)`; a NaN is no integer. -/
def truncated : Time → Except Overflow (Option Int)
| none => .error .overflow
| some none => .ok none
| some (some none) => .error .overflow
| some (some (some q)) => .ok (some (if 0 ≤ q then q.floor else q.ceil))

/- `int(float(value))`. -/
def int_float (v : Value) : Except Overflow (Option Int) :=
  match float env v with
  | none => .ok none
  | some t => truncated t

/- `value not in (None, "")`. -/
def Value.given (v : Value) : Bool := v ≠ .null ∧ v ≠ .text ""

def UPI_QR_VALIDITY_SECONDS : Int := 300

def UPI_QR_HISTORY_TOLERANCE_SECONDS : Int := 60

/- The link type of a row, corrected by its payload. -/
def source_link_type (row : SourceRow) (url : String) :
    String :=
  let link_type := normalized_link_type env row.link_type
  let method_type := normalized_payment_method_type env row.payment_method_type
  let classified := env.payment_link_type_from_payload (ofFields
      [("link_type", .text link_type), ("payment_method_type", .text method_type),
        ("url", .text url)])
  if classified = "pix" ∨ classified = "upi" then classified
  else link_type

def source_expiry (link_type : String) (completed : Int) (expiry : Option Int) : Option Int :=
  expiry.filter (fun t => ¬ (link_type = "upi" ∧
      completed + UPI_QR_VALIDITY_SECONDS + UPI_QR_HISTORY_TOLERANCE_SECONDS < t) ∧ 0 < t)

/- The link of a row that passed the checks. -/
def source_link (row : SourceRow) (url : String) (completed : Int)
    (expiry : Option Int) : SourceLink :=
  let link_type := source_link_type env row url
  { job_id := safe_text 96 row.job_id, completed_at := completed,
    account_email := normalized_email env row.account_email, url := url, link_type := link_type,
    source := PyText.orElse (safe_text 40 row.source) "unknown",
    billing_country := env.upper (safe_text 16 row.billing_country),
    currency := env.upper (safe_text 16 row.currency),
    payment_method_type := normalized_payment_method_type env row.payment_method_type,
    cs_id := safe_text 255 row.cs_id, link_expires_at := source_expiry link_type completed expiry }

/- One round of `_parse_source_rows`. -/
def parse_source_row (row : SourceRow) :
    Except Overflow (Except RowSkip SourceLink) :=
  let url := valid_http_url env row.long_url
  match int_float env row.completed_at with
  | .error e => .error e
  | .ok completed =>
    if safe_text 96 row.job_id = "" then .ok (.error .missing_job_id)
    else if normalized_email env row.account_email = "" then .ok (.error .missing_email)
    else if url = "" then .ok (.error .invalid_url)
    else
      match completed.filter (fun t => 0 < t ∧ env.iso_epoch t ≠ "") with
      | none => .ok (.error .invalid_completed_at)
      | some completed =>
        if row.link_expires_at.given then
          match int_float env row.link_expires_at with
          | .error e => .error e
          | .ok expiry => .ok (.ok (source_link env row url completed expiry))
        else .ok (.ok (source_link env row url completed none))

/- `_parse_source_rows`, on the rows in the query's order. -/
def parse_source_rows (rows : List SourceRow) :
    Except Overflow (List SourceLink) :=
  (rows.mapM (parse_source_row env)).map (filterMap Except.toOption)

----
-- Target Databases
----

/- A row of `accounts`. -/
structure Account where
  id : Nat
  platform : String
  email : String
  cashier_url : String
  extra : Extra
  created_at : String
  updated_at : String

abbrev Accounts := KeyedTable Account Nat Account.id

/- A row of `payment_link_generations`; `result_json` is decoded, `none` is no object. -/
structure Generation where
  id : Nat
  account_id : Nat
  account_email : String
  account_created_at : String
  task_id : String
  request_id : String
  remote_batch_id : String
  remote_job_id : String
  profile_hash : String
  link_type : String
  status : String
  url : String
  submitted_at : String
  started_at : String
  generated_at : String
  persisted_at : String
  sanitized_error : String
  result_json : Option (Dict Value)
  created_at : String
  updated_at : String

/- The generations of a database; a unique index holds their request ids apart. -/
structure Generations where
  table : KeyedTable Generation Nat Generation.id
  request_ids_nodup : (table.rows.map Generation.request_id).Nodup

/- What differs between the schemas of target databases: the columns that came later, and whether an
   insert may omit the columns the import does not name. -/
structure Schema where
  has_created_at : Bool
  has_account_email : Bool
  has_account_created_at : Bool
  insert_defaults : Bool

structure Target where
  database : String
  schema : Schema
  accounts : Accounts
  generations : Generations

/- `UPDATE payment_link_generations ... WHERE id = ?`; no statement writes the id or the request id.
   -/
def Generations.updateKey (g : Generations) (id : Nat) (f : Generation → Generation)
    (hId : ∀ r, (f r).id = r.id) (hRequest : ∀ r, (f r).request_id = r.request_id) :
    Generations where
  table := g.table.updateKey id f hId
  request_ids_nodup := by
    have hSame : (g.table.updateKey id f hId).rows.map
            Generation.request_id =
          g.table.rows.map Generation.request_id := by
      unfold KeyedTable.updateKey KeyedTable.updateWhere
      rw [map_map]
      apply map_congr_left
      intro r _
      by_cases hr : r.id = id <;> simp [hr, hRequest]
    rw [hSame]
    exact g.request_ids_nodup

/- `INSERT`, which the unique index can refuse. -/
def Generations.insert? (g : Generations) (row : Nat → Generation)
    (hId : ∀ id, (row id).id = id) : Option Generations :=
  let r := row g.table.nextId
  if hTaken : r.request_id ∈ g.table.rows.map Generation.request_id then none
  else
    some
      { table := g.table.insertNew r
        request_ids_nodup := by
          have hNew : g.table.find? r.id = none := by
            rw [hId]
            exact g.table.find?_nextId
          rw [KeyedTable.rows_insertNew _ hNew, map_append, nodup_append]
          refine ⟨g.request_ids_nodup, by simp, ?_⟩
          intro a ha b hb hEq
          simp only [map_cons, map_nil, mem_singleton] at hb
          exact hTaken (hb ▸ hEq ▸ ha) }

----
-- Snapshots
----

/- `AccountRow`: an account in a snapshot. -/
structure AccountRow where
  database : String
  account_id : Nat
  email : String
  extra : Extra
  created_at : String

/- `GenerationRow`: a generation in a snapshot. -/
structure GenerationRow where
  database : String
  generation_id : Nat
  account_id : Nat
  request_id : String
  remote_job_id : String
  status : String
  url : String
  link_type : String
  account_email : String
  account_created_at : String

/- The rows of a snapshot, in the order they were read. -/
structure Snapshot where
  database : String
  accounts : List AccountRow
  generations : List GenerationRow

variable (env : Env)

def account_row (t : Target) (r : Account) : AccountRow where
  database := t.database
  account_id := r.id
  email := normalized_email env (.text r.email)
  extra := r.extra
  created_at :=
    if t.schema.has_created_at then safe_text 128 (.text r.created_at)
    else ""

def generation_row (t : Target) (r : Generation) :
    GenerationRow where
  database := t.database
  generation_id := r.id
  account_id := r.account_id
  request_id := safe_text 128 (.text r.request_id)
  remote_job_id := safe_text 128 (.text r.remote_job_id)
  status := env.lower (safe_text 48 (.text r.status))
  url := valid_http_url env (.text r.url)
  link_type := normalized_link_type env (.text r.link_type)
  account_email :=
    if t.schema.has_account_email then normalized_email env (.text r.account_email)
    else ""
  account_created_at :=
    if t.schema.has_account_created_at then safe_text 128 (.text r.account_created_at)
    else ""

/- `_load_target_snapshot(path, platform=...)`. -/
def load_target_snapshot (platform : String) (t : Target) : Snapshot where
  database := t.database
  accounts :=
    (t.accounts.rows.filter (fun r => decide (r.platform = platform))).map (account_row env t)
  generations := t.generations.table.rows.map (generation_row env t)

/- `accounts.get(account_id)`. -/
def Snapshot.account (sn : Snapshot) (id : Nat) :
    Option AccountRow :=
  sn.accounts.find? (fun a => a.account_id = id)

theorem account_load (platform : String) (t : Target) (id : Nat) :
    (load_target_snapshot env platform t).account id = ((t.accounts.find? id).filter
        (fun r => decide (r.platform = platform))).map (account_row env t) := by
  have hFilter := t.accounts.find?_deleteWhere (fun r => !decide (r.platform = platform)) id
  simp only [KeyedTable.deleteWhere, KeyedTable.find?, Bool.not_not] at hFilter
  unfold Snapshot.account load_target_snapshot KeyedTable.find?
  rw [find?_map, ← hFilter]
  rfl

/- `email_index.get(email, [])`. -/
def Snapshot.email_index (sn : Snapshot) (email : String) :
    List AccountRow :=
  sn.accounts.filter (fun a => a.email ≠ "" ∧ a.email = email)

/- `generations_by_remote_job.get(job_id, [])`. -/
def Snapshot.generations_by_remote_job (sn : Snapshot) (job_id : String) : List GenerationRow :=
  sn.generations.filter (fun g => g.remote_job_id ≠ "" ∧ g.remote_job_id = job_id)

/- `generations_by_request_id.get(request_id)`; the last row with the id is the one in the index. -/
def Snapshot.generations_by_request_id (sn : Snapshot) (request_id : String) :
    Option GenerationRow :=
  (sn.generations.filter (fun g => g.request_id ≠ "" ∧ g.request_id = request_id)).getLast?

----
-- Plans
----

inductive GenerationAction where
| insert
| existing
| update
deriving DecidableEq

structure PlannedRecord where
  source : SourceLink
  account : AccountRow
  existing_generation : Option GenerationRow
  generation_action : GenerationAction

inductive PlanSkip where
| orphan_remote_job
| ambiguous_remote_job
| remote_job_email_mismatch
| unmatched_account
| ambiguous_email
| request_id_conflict
| generation_identity_conflict
| generation_account_conflict
deriving DecidableEq

/- `_generation_is_current(existing, source)`. -/
def generation_is_current (g : GenerationRow) (s : SourceLink) : Bool :=
  g.status = "succeeded" ∧ g.remote_job_id = s.job_id ∧ g.url = s.url ∧ g.link_type = s.link_type

/- `_generation_matches_account_identity`. -/
def generation_matches_account_identity (g : GenerationRow) (a : AccountRow) : Bool :=
  ¬ (g.account_email ≠ "" ∧ g.account_email ≠ a.email) ∧
    ¬ (g.account_created_at ≠ "" ∧ a.created_at ≠ "" ∧ g.account_created_at ≠ a.created_at)

/- The account of a generation in the snapshots. -/
def generation_account (targets : List Snapshot) (g : GenerationRow) : Option AccountRow :=
  (targets.find? (fun sn => sn.database = g.database)).bind (fun sn => sn.account g.account_id)

/- Adds an account that is not in the list yet. -/
def addAccount (accounts : List AccountRow) (a : AccountRow) : List AccountRow :=
  if accounts.any
      (fun b => b.database = a.database ∧ b.account_id = a.account_id) then
    accounts
  else accounts ++ [a]

/- `_unique_accounts(rows, targets)`. -/
def unique_accounts (targets : List Snapshot) (rows : List GenerationRow) : List AccountRow :=
  (rows.filterMap (generation_account targets)).foldl addAccount []

/- `global_remote_job_index.get(job_id, [])`. -/
def remote_job_index (targets : List Snapshot) (job_id : String) : List GenerationRow :=
  targets.flatMap (fun sn => sn.generations_by_remote_job job_id)

/- `global_email_index.get(email, [])`. -/
def global_email_index (targets : List Snapshot) (email : String) : List AccountRow :=
  targets.flatMap (fun sn => sn.email_index email)

/- The one account a source row belongs to. -/
def match_account (targets : List Snapshot) (s : SourceLink) : Except PlanSkip AccountRow :=
  let existing := remote_job_index targets s.job_id
  match unique_accounts targets existing with
  | _ :: _ :: _ => .error .ambiguous_remote_job
  | [a] =>
    if a.email ≠ s.account_email then .error .remote_job_email_mismatch
    else .ok a
  | [] =>
    if existing ≠ [] then .error .orphan_remote_job
    else
      match global_email_index targets s.account_email with
      | [] => .error .unmatched_account
      | [a] => .ok a
      | _ => .error .ambiguous_email

/- The generation of the source row that exists already. -/
def match_generation (targets : List Snapshot) (s : SourceLink) (a : AccountRow) :
    Except PlanSkip (Option GenerationRow) :=
  match remote_job_index targets s.job_id with
  | g :: _ => .ok (some g)
  | [] =>
    match (targets.find? (fun sn => sn.database = a.database)).bind
      (fun sn => sn.generations_by_request_id s.request_id) with
    | none => .ok none
    | some g =>
      if g.account_id ≠ a.account_id then .error .request_id_conflict
      else .ok (some g)

/- What happens to the generation of a matched source row. -/
def plan_generation (s : SourceLink) (a : AccountRow) (existing : Option GenerationRow) :
    Except PlanSkip PlannedRecord :=
  match existing with
  | none => .ok ⟨s, a, none, .insert⟩
  | some g =>
    if generation_matches_account_identity g a = false then .error .generation_identity_conflict
    else if g.account_id ≠ a.account_id then .error .generation_account_conflict
    else if generation_is_current g s then .ok ⟨s, a, some g, .existing⟩
    else .ok ⟨s, a, some g, .update⟩

/- One round of `_build_plans`. -/
def plan_source (targets : List Snapshot) (s : SourceLink) : Except PlanSkip PlannedRecord :=
  match match_account targets s with
  | .error e => .error e
  | .ok a =>
    match match_generation targets s a with
    | .error e => .error e
    | .ok existing => plan_generation s a existing

/- `plans[database].records`. -/
def plan_records (targets : List Snapshot) (sources : List SourceLink)
    (database : String) : List PlannedRecord :=
  sources.filterMap (fun s =>
    (plan_source targets s).toOption.filter (fun r => r.account.database = database))

/- `(a.completed_at, a.job_id) > (b.completed_at, b.job_id)`. -/
def SourceLink.laterThan (a b : SourceLink) : Bool :=
  b.completed_at < a.completed_at ∨ (b.completed_at = a.completed_at ∧ b.job_id < a.job_id)

def latestOf (latest : Option SourceLink) (r : PlannedRecord) : Option SourceLink :=
  match latest with
  | none => some r.source
  | some l => if r.source.laterThan l then some r.source else some l

/- `plan.latest_by_account[account_id]`. -/
def latest_by_account (records : List PlannedRecord) (account_id : Nat) : Option SourceLink :=
  (records.filter (fun r => r.account.account_id = account_id)).foldl latestOf none

/- The keys of `plan.latest_by_account`. -/
def planned_accounts (records : List PlannedRecord) :
    List Nat :=
  (records.map (fun r => r.account.account_id)).dedup

----
-- Applying A Plan
----

def withIdentity (schema : Schema) (a : AccountRow) (g : Generation) : Generation :=
  { g with
    account_email :=
      if schema.has_account_email then a.email
      else g.account_email
    account_created_at :=
      if schema.has_account_created_at then a.created_at
      else g.account_created_at }

theorem withIdentity_id (schema : Schema) (a : AccountRow) (g : Generation) :
    (withIdentity schema a g).id = g.id := rfl

theorem withIdentity_request_id (schema : Schema) (a : AccountRow) (g : Generation) :
    (withIdentity schema a g).request_id = g.request_id := rfl

/- The columns that an update of a generation sets. -/
def updated_generation (schema : Schema) (now_iso : String) (r : PlannedRecord)
    (g : Generation) : Generation :=
  withIdentity schema r.account
    { g with
      status := "succeeded", link_type := r.source.link_type, url := r.source.url,
      generated_at := r.source.generated_at env, persisted_at := now_iso, sanitized_error := "",
      result_json := some (record_payload env r.source), updated_at := now_iso }

theorem updated_generation_id (schema : Schema) (now_iso : String)
    (r : PlannedRecord) (g : Generation) :
    (updated_generation env schema now_iso r g).id = g.id := rfl

theorem updated_generation_request_id (schema : Schema) (now_iso : String)
    (r : PlannedRecord) (g : Generation) :
    (updated_generation env schema now_iso r g).request_id = g.request_id := rfl

/- The row that an insert of a generation makes. -/
def inserted_generation (schema : Schema) (now_iso : String) (r : PlannedRecord)
    (id : Nat) : Generation :=
  withIdentity schema r.account
    { id := id, account_id := r.account.account_id, account_email := "", account_created_at := "",
      task_id := "long_link_history_sync", request_id := r.source.request_id, remote_batch_id := "",
      remote_job_id := r.source.job_id, profile_hash := "", link_type := r.source.link_type,
      status := "succeeded", url := r.source.url, submitted_at := "", started_at := "",
      generated_at := r.source.generated_at env, persisted_at := now_iso, sanitized_error := "",
      result_json := some (record_payload env r.source), created_at := now_iso,
      updated_at := now_iso }

theorem inserted_generation_id (schema : Schema) (now_iso : String) (r : PlannedRecord) (id : Nat) :
    (inserted_generation env schema now_iso r id).id = id := rfl

/- `_upsert_generation`; `none` is an `IntegrityError`. -/
def upsert_generation (schema : Schema) (now_iso : String) (g : Generations)
    (r : PlannedRecord) : Option Generations :=
  match r.existing_generation, r.generation_action with
  | some row, .existing => some (g.updateKey row.generation_id (withIdentity schema r.account)
        (withIdentity_id schema r.account) (withIdentity_request_id schema r.account))
  | some row, _ => some (g.updateKey row.generation_id (updated_generation env schema now_iso r)
        (updated_generation_id env schema now_iso r)
        (updated_generation_request_id env schema now_iso r))
  | none, _ =>
    if schema.insert_defaults then g.insert? (inserted_generation env schema now_iso r)
        (inserted_generation_id env schema now_iso r)
    else none

/- The account columns that a new current link sets. -/
def linked_account (now_iso : String) (extra : Dict Entry) (s : SourceLink)
    (r : Account) : Account :=
  { r with
    cashier_url := s.url, extra := some (withCurrentLink env extra s),
    updated_at := now_iso }

theorem linked_account_id (now_iso : String) (extra : Dict Entry) (s : SourceLink) (r : Account) :
    (linked_account env now_iso extra s r).id = r.id := rfl

/- `_update_current_cache`, with the row of the snapshot. -/
def update_current_cache (now_iso : String) (accounts : Accounts) (a : AccountRow)
    (s : SourceLink) : Accounts :=
  match a.extra with
  | none => accounts
  | some extra =>
    if current_cache_should_be_replaced env extra s then accounts.updateWhere
        (fun r => decide (r.id = a.account_id ∧ r.platform = "chatgpt"))
        (linked_account env now_iso extra s) (linked_account_id env now_iso extra s)
    else accounts

/- The cache update of one planned account. -/
def update_planned_cache (now_iso : String) (sn : Snapshot) (records : List PlannedRecord)
    (accounts : Accounts) (id : Nat) : Accounts :=
  match sn.account id, latest_by_account records id with
  | some a, some s => update_current_cache env now_iso accounts a s
  | _, _ => accounts

/- `_apply_target_plan`: one transaction on the database as it is now, with the plan made from the
   snapshot. `none` is a transaction that was rolled back. -/
def apply_target_plan (now_iso : String) (sn : Snapshot) (records : List PlannedRecord)
    (t : Target) : Option Target :=
  if records.isEmpty then some t
  else
    (records.foldlM
      (upsert_generation env t.schema now_iso)
      t.generations).map
      (fun generations =>
        { t with
          generations := generations
          accounts := (planned_accounts records).foldl (update_planned_cache env now_iso sn records)
              t.accounts })

end PaymentLinks
