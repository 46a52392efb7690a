import AutoGpt.Library.KeyedTable
import AutoGpt.Library.Machine
import AutoGpt.Library.PyText
import Mathlib.Data.Finmap
import Mathlib.Data.Finset.Sort
import Mathlib.Data.String.Basic

/-
  The shared configuration store of all instances
  (`core/shared_config.py`): its items, its revision and its
  audit log, and the transaction that `write` runs on them.
-/

----
-- Shareable Keys
----

namespace SharedConfig

/- A Python `dict` from keys to values. -/
abbrev Config := Finmap (fun _ : String => String)

def CONTROL_KEYS : List String := ["_config_share_enabled", "_config_share_baseline_revision",
    "_config_share_detached_at",
    "_config_share_last_pull_at"]

def LOCAL_ONLY_KEYS : List String := ["auth_password_hash", "auth_jwt_secret", "auth_totp_secret",
    "cliproxyapi_base_url",
    "cliproxyapi_management_key",
    "external_subscription_api_enabled",
    "external_subscription_api_token",
    "external_subscription_verify_after_seconds",
    "external_access_token_api_enabled",
    "external_access_token_api_token",
    "external_access_token_allow_refresh",
    "external_access_token_default_lease_seconds",
    "external_access_token_max_limit",
    "external_access_token_precheck_cooldown_seconds",
    "chatgpt_account_filter_presets",
    "chatgpt_auto_pipeline_config",
    "chatgpt_web_session_hold_max_sessions"]

def LOCAL_ONLY_PREFIXES : List String :=
  ["auth_", "delivery_cards_", "chatgpt_gopay_", "chatgpt_runtime_"]

/- `is_shareable_key(key)`. -/
@[irreducible]
def is_shareable_key (key : String) : Bool :=
  let normalized := PyText.strip key
  normalized ≠ "" ∧ normalized ∉ CONTROL_KEYS ∧ normalized ∉ LOCAL_ONLY_KEYS ∧
    ¬ LOCAL_ONLY_PREFIXES.any (fun p => p.toList.isPrefixOf normalized.toList)

/- One round of the loop over `data.items()`; the value is
`None` or the text of it. -/
def addShareable (result : Config) (entry : String × Option String) : Config :=
  let normalized := PyText.strip entry.1
  if is_shareable_key normalized then result.insert normalized (entry.2.getD "")
  else result

/- `filter_shareable_config(data)`. -/
def filter_shareable_config (data : List (String × Option String)) : Config :=
  data.foldl addShareable ∅

----
-- Tables
----

/- What the store takes from elsewhere: the digest of a configuration as JSON with sorted keys, the
   redacted difference that an audit row shows, and its cleaning. -/
structure Env where
  sha256_json : List (String × String) → String
  redacted_diff_json : Config → Config → List String → String
  sanitize_audit_diff : String → String

/- A row of `shared_config_items`. -/
structure ItemRow where
  key : String
  value : String
  revision : Nat
  updated_at : String
  updated_by : String

/- A row of `shared_config_audit`, in the order of its id. -/
structure AuditRow where
  revision : Nat
  base_revision : Nat
  action : String
  updated_at : String
  updated_by : String
  changed_keys : List String
  before_hash : String
  after_hash : String
  diff_json : String
  note : String

/- The row of `shared_config_meta`. -/
structure Meta where
  revision : Nat
  updated_at : String
  updated_by : String
  note : String

structure Db where
  items : KeyedTable ItemRow String ItemRow.key
  config : Meta
  audit : List AuditRow

/- The tables as `_ensure_schema` creates them. -/
def Db.initial : Db := ⟨KeyedTable.empty, ⟨0, "", "", ""⟩, []⟩

/- `_read_all_in_tx()`. -/
def Db.readAll (db : Db) : Config := (db.items.rows.map
    (fun r => (⟨r.key, r.value⟩ : (_ : String) × String))
    ).toFinmap

----
-- Writes
----

/- A call of `write` by some instance. `aborts` says that a statement of the transaction raises,
   which rolls back. -/
structure WriteCall where
  data : List (String × Option String)
  replace : Bool
  base_revision : Option Int
  updated_by : String
  action : String
  note : String
  now : String
  aborts : Bool

inductive Answer where
| conflict (current : Nat)
| failed
| unchanged (revision : Nat)
| changed (revision : Nat) (changed_keys : List String)

local instance isTrans_le : IsTrans String fun a b => a ≤ b := inferInstance

local instance antisymm_le : Std.Antisymm fun a b : String => a ≤ b := inferInstance

/- The items of a configuration in the order of its keys. -/
def sortedItems (c : Config) : List (String × String) :=
  (c.keys.sort).filterMap (fun k => (c.lookup k).map (fun v => (k, v)))

/- `_hash_config(data)`. -/
def hash_config (env : Env) (c : Config) : String := env.sha256_json (sortedItems c)

def changedKeys (before after : Config) : List String :=
  ((before.keys ∪ after.keys).filter (fun k => before.lookup k ≠ after.lookup k)).sort

/- The call names a revision that is not the current one. -/
def WriteCall.stale (call : WriteCall) (current : Nat) : Bool :=
  call.base_revision.any (fun base => base ≠ (current : Int))

/- `safe` alone, or `before` overwritten by it. -/
def WriteCall.target (call : WriteCall) (before : Config) : Config :=
  let safe := filter_shareable_config call.data
  if call.replace then safe else safe ∪ before

/- The upserts of the keys of `safe`. -/
def upsertAll (call : WriteCall) (revision : Nat) (after : Config)
    (items : KeyedTable ItemRow String ItemRow.key) (keys : List String) :
    KeyedTable ItemRow String ItemRow.key :=
  keys.foldl (fun t k => t.put ⟨k, (after.lookup k).getD "", revision, call.now, call.updated_by⟩)
    items

/- The items after the deletions and the upserts. -/
def writtenItems (call : WriteCall) (revision : Nat) (before : Config)
    (items : KeyedTable ItemRow String ItemRow.key) : KeyedTable ItemRow String ItemRow.key :=
  let safe := filter_shareable_config call.data
  let after := call.target before
  let kept :=
    if call.replace then items.deleteWhere (fun r => r.key ∈ before.keys \ after.keys)
    else items
  upsertAll call revision after kept (safe.keys.sort)

/- `write(data, ...)`. -/
def write (env : Env) (call : WriteCall) (db : Db) : Db × Answer :=
  let current := db.config.revision
  if call.stale current then (db, .conflict current)
  else
    let before := db.readAll
    let after := call.target before
    let changed_keys := changedKeys before after
    if changed_keys = [] then (db, .unchanged current)
    else if call.aborts then (db, .failed)
    else
      let next := current + 1
      ({ items := writtenItems call next before db.items
         config := ⟨next, call.now, call.updated_by, call.note⟩
         audit := db.audit ++
             [{ revision := next, base_revision := current, action := call.action,
                updated_at := call.now, updated_by := call.updated_by, changed_keys := changed_keys,
                before_hash := hash_config env before, after_hash := hash_config env after,
                diff_json := env.redacted_diff_json before after changed_keys,
                note := call.note }] },
        .changed next changed_keys)

/- `redact_legacy_audit()`. -/
def redact_legacy_audit (env : Env) (db : Db) : Db :=
  { db with
    audit := db.audit.map (fun r => { r with diff_json := env.sanitize_audit_diff r.diff_json }) }

inductive Op where
| write (call : WriteCall)
| redact

def step (env : Env) (db : Db) : Op → Db × Option Answer
| .write call => ((write env call db).1, some (write env call db).2)
| .redact => (redact_legacy_audit env db, none)

/- The tables after the transactions of all instances. -/
def after (env : Env) (ops : List Op) : Db := Machine.run (step env) Db.initial ops

end SharedConfig
