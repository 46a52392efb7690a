import AutoGpt.Library.KeyedTable
import AutoGpt.Library.Machine
import AutoGpt.Library.PyText
import Mathlib.Data.List.Sort

/-
  Fixed groups of accounts
  (`services/account_fixed_groups.py`) and the check of a
  filter scope that names one
  (`services/account_filters.py`).
-/

open PyText (strip)
open KeyedTable (empty)

----
-- Tables
----

namespace AccountFixedGroups

/- `str.lower`, with a law that the identity check relies on. -/
structure Env where
  lower : String → String
  lower_again : ∀ value, lower (strip (lower (strip value))) = lower (strip value)

/- The columns of `AccountModel` that a group reads; the time is its UTC text with microseconds. -/
structure Account where
  id : Int
  platform : String := "chatgpt"
  email : String := ""
  created_at : String := ""

/- `AccountFixedGroupModel`; every group is created under an id without outer spaces. -/
structure Group where
  id : String
  id_stripped : strip id = id
  parent_preset_id : String
  name : String
  description : String := ""
  pinned : Bool := true
  revision : Int := 1
  created_at : String := ""
  updated_at : String := ""

/- `AccountFixedGroupMemberModel`; its key is the account. -/
structure Member where
  account_id : Int
  fixed_group_id : String
  account_email : String := ""
  account_created_at : String := ""
  assigned_at : String := ""

abbrev Accounts := KeyedTable Account Int Account.id

abbrev Groups := KeyedTable Group String Group.id

abbrev Members := KeyedTable Member Int Member.account_id

structure Db where
  accounts : Accounts := empty
  groups : Groups := empty
  members : Members := empty

/- `int(group.revision or 1)`. -/
def Group.shownRevision (group : Group) : Int := if group.revision = 0 then 1 else group.revision

----
-- Groups
----

/- `get_fixed_group(session, group_id)`. -/
def get_fixed_group (db : Db) (group_id : String) :
    Option Group :=
  let normalized_id := strip group_id
  if normalized_id = "" then none
  else db.groups.find? normalized_id

/- `uq_account_fixed_groups_parent_name_nocase`: another group under the parent has the name up to
   the case of its ASCII letters. -/
def nameTaken (db : Db) (id parent_preset_id name : String) :
    Bool :=
  db.groups.rows.any (fun group => group.id != id && group.parent_preset_id == parent_preset_id &&
      group.name.map Char.toLower == name.map Char.toLower)

/- `create_fixed_group`; `none` is the database's refusal. -/
def create_fixed_group (db : Db) (group_id parent_preset_id name description : String)
    (pinned : Bool) (now : String) : Option Db :=
  let group : Group :=
    { id := strip group_id, id_stripped := PyText.strip_strip group_id,
      parent_preset_id := strip parent_preset_id, name := strip name,
      description := strip description, pinned := pinned, revision := 1, created_at := now,
      updated_at := now }
  if (db.groups.find? group.id).isSome ∨
      nameTaken db group.id group.parent_preset_id group.name then
    none
  else some { db with groups := db.groups.insertNew group }

/- The columns that `update_fixed_group_meta` writes. -/
def Group.withMeta (name description : String) (pinned : Bool) (now : String)
    (group : Group) : Group :=
  { group with
    name := strip name, description := strip description, pinned := pinned,
    updated_at := now }

theorem Group.withMeta_id (name description : String) (pinned : Bool) (now : String)
    (group : Group) : (group.withMeta name description pinned now).id = group.id :=
  rfl

/- `update_fixed_group_meta`. -/
def update_fixed_group_meta (db : Db) (group : Group) (name description : String) (pinned : Bool)
    (now : String) : Option Db :=
  if nameTaken db group.id group.parent_preset_id
      (strip name) then
    none
  else
    some
      { db with
        groups := db.groups.updateKey group.id (Group.withMeta name description pinned now)
            (Group.withMeta_id name description pinned now) }

/- `delete_fixed_group`, with the ids that it releases. -/
def delete_fixed_group (db : Db) (group : Group) :
    Db × List Int :=
  let rows := db.members.rows.filter (fun row => row.fixed_group_id == group.id)
  ({ db with
      groups := db.groups.deleteWhere (fun row => row.id == group.id),
      members := db.members.deleteWhere (fun row => row.fixed_group_id == group.id) },
    rows.map (·.account_id))

----
-- Members
----

/- A value of the caller's list: a `bool`, or what
   `int(raw or 0)` gives for it (`none` if it raises). -/
inductive RawId where
| bool (value : Bool)
| other (parsed : Option Int)

/- The loop of `normalize_account_ids`; `seen` has the same ids as `result`. -/
def normalizeLoop (limit : Nat) :
    List RawId → List Int → List Int
| [], result => result
| .bool _ :: values, result => normalizeLoop limit values result
| .other none :: values, result => normalizeLoop limit values result
| .other (some account_id) :: values, result =>
    if account_id ≤ 0 ∨ account_id ∈ result then normalizeLoop limit values result
    else if limit ≤ result.length + 1 then result ++ [account_id]
    else normalizeLoop limit values (result ++ [account_id])

/- `normalize_account_ids(values, limit)`. -/
def normalize_account_ids (values : List RawId) (limit : Nat) : List Int :=
  normalizeLoop limit values []

/- `account_created_at_identity(value)`; a text of a time has no space to strip. -/
def account_created_at_identity (value : String) : String := strip value

def Db.accountById (db : Db) (account_id : Int) :
    Option Account :=
  (db.accounts.find? account_id).filter (fun account => account.platform == "chatgpt")

/- `identity_changed`. -/
def identityChanged (env : Env) (account : Account) (row : Member) : Bool :=
  env.lower (strip row.account_email) != env.lower (strip account.email) ||
    strip row.account_created_at != account_created_at_identity account.created_at

/- The columns that an assignment writes. -/
def Member.assign (env : Env) (group_id : String) (account : Account)
    (now : String) (row : Member) : Member :=
  { row with
    fixed_group_id := group_id, account_email := env.lower (strip account.email),
    account_created_at := account_created_at_identity account.created_at, assigned_at := now }

theorem Member.assign_id (env : Env) (group_id : String) (account : Account)
    (now : String) (row : Member) :
    (row.assign env group_id account now).account_id = row.account_id :=
  rfl

/- The table and the lists of the loop over `resolved_ids`. -/
structure Progress where
  members : Members
  added_ids : List Int := []
  moved_ids : List Int := []
  rebound_ids : List Int := []

/- One round of the loop; `existing_members` was read before it. -/
def assignOne (env : Env) (db : Db) (existing_members : Members)
    (group_id now : String) (progress : Progress) (account_id : Int) : Progress :=
  match db.accountById account_id with
  | none => progress
  | some account =>
    match existing_members.find? account_id with
    | none =>
      { progress with
        members := progress.members.insertNew (Member.assign env group_id account now
              { account_id := account_id, fixed_group_id := group_id })
        added_ids := progress.added_ids ++ [account_id] }
    | some row =>
      let changed := identityChanged env account row
      { members :=
          if row.fixed_group_id ≠ group_id ∨ changed then
            progress.members.updateKey account_id (Member.assign env group_id account now)
              (Member.assign_id env group_id account now)
          else progress.members
        added_ids := progress.added_ids
        moved_ids :=
          if row.fixed_group_id ≠ group_id then progress.moved_ids ++ [account_id]
          else progress.moved_ids
        rebound_ids :=
          if changed then progress.rebound_ids ++ [account_id]
          else progress.rebound_ids }

/- What `replace_fixed_group_members` answers. -/
structure Replaced where
  account_ids : List Int
  discarded_account_ids : List Int
  added_account_ids : List Int
  moved_account_ids : List Int
  removed_account_ids : List Int
  rebound_account_ids : List Int

/- An item of `FixedGroupConflictError.conflicts`. -/
structure Conflict where
  account_id : Int
  fixed_group_id : String
  fixed_group_name : String

inductive ReplaceError where
| no_valid_account
| accounts_gone
| conflict (conflicts : List Conflict)

def ReplaceError.message : ReplaceError → String
| .no_valid_account => "固定账号组合至少需要一个有效账号"
| .accounts_gone => "所选账号已不存在，无法保存固定账号组合"
| .conflict _ => "所选账号已属于其他固定账号组合"

/- `resolved_ids` of the request. -/
def resolvedIds (db : Db) (account_ids : List RawId) (max_members : Nat) :
    List Int :=
  (normalize_account_ids account_ids max_members).filter
    (fun account_id => (db.accountById account_id).isSome)

/- `conflicting_ids`: resolved accounts whose row names another group. -/
def conflictingIds (db : Db) (group_id : String) (resolved_ids : List Int) :
    List Int :=
  resolved_ids.filter (fun account_id =>
    (db.members.find? account_id).any (fun row => row.fixed_group_id != group_id))

def conflictOf (db : Db) (account_id : Int) : Option Conflict :=
  (db.members.find? account_id).map fun row =>
    { account_id := account_id, fixed_group_id := row.fixed_group_id,
      fixed_group_name := ((db.groups.find? row.fixed_group_id).map (·.name)).getD "" }

/- `max(1, int(group.revision or 1)) + 1`, at a time. -/
def Group.bump (now : String) (group : Group) : Group :=
  { group with revision := max 1 group.shownRevision + 1, updated_at := now }

theorem Group.bump_id (now : String) (group : Group) : (group.bump now).id = group.id := rfl

/- `replace_fixed_group_members`. -/
def replace_fixed_group_members (env : Env) (db : Db) (group : Group)
    (account_ids : List RawId) (move_conflicts : Bool) (max_members : Nat) (now : String) :
    Except ReplaceError (Db × Replaced) :=
  let requested_ids := normalize_account_ids account_ids max_members
  if requested_ids = [] then .error .no_valid_account
  else
    let resolved_ids := resolvedIds db account_ids max_members
    let discarded_ids := requested_ids.filter (fun account_id => (db.accountById account_id).isNone)
    if resolved_ids = [] then .error .accounts_gone
    else
      let conflicting_ids := conflictingIds db group.id resolved_ids
      if conflicting_ids ≠ [] ∧ move_conflicts = false then
        .error (.conflict (conflicting_ids.filterMap (conflictOf db)))
      else
        let removed : Member → Bool := fun row =>
          row.fixed_group_id == group.id && !decide (row.account_id ∈ resolved_ids)
        let removed_ids := (db.members.rows.filter removed).map (·.account_id)
        let progress := resolved_ids.foldl (assignOne env db db.members group.id now)
            { members := db.members.deleteWhere removed }
        let groups :=
          if progress.added_ids ≠ [] ∨ progress.moved_ids ≠ [] ∨ removed_ids ≠ [] ∨
              progress.rebound_ids ≠ [] then
            db.groups.updateKey group.id (Group.bump now) (Group.bump_id now)
          else db.groups
        .ok
          ({ db with groups := groups, members := progress.members },
            { account_ids := resolved_ids, discarded_account_ids := discarded_ids,
              added_account_ids := progress.added_ids, moved_account_ids := progress.moved_ids,
              removed_account_ids := removed_ids, rebound_account_ids := progress.rebound_ids })

/- The join of `fixed_group_members`: a member row with the account that it still identifies. -/
def memberAccount (env : Env) (db : Db) (member : Member) :
    Option (Member × Account) :=
  match db.accountById member.account_id with
  | none => none
  | some account =>
    if env.lower (strip account.email) = env.lower (strip member.account_email) ∧
        account_created_at_identity account.created_at = strip member.account_created_at then
      some (member, account)
    else none

/- `ORDER BY assigned_at ASC, id ASC`. -/
def assignedBefore (a b : Member × Account) : Bool :=
  decide (a.1.assigned_at < b.1.assigned_at ∨ a.1.assigned_at = b.1.assigned_at ∧ a.2.id ≤ b.2.id)

/- `fixed_group_members(session, group_id)`. -/
def fixed_group_members (env : Env) (db : Db) (group_id : String) :
    List (Member × Account) :=
  ((db.members.rows.filter (fun member => member.fixed_group_id == strip group_id)).filterMap
    (memberAccount env db)).mergeSort assignedBefore

/- `fixed_group_member_ids(session, group_id)`. -/
def fixed_group_member_ids (env : Env) (db : Db) (group_id : String) : List Int :=
  (fixed_group_members env db group_id).map (·.2.id)

----
-- Filter Scopes
----

/- The fields of a filter source that its scope check reads. -/
structure FilterSource where
  secondary_scope : String := ""
  fixed_group_id : String := ""
  primary_preset_id : String := ""
  fixed_group_revision : Option Int := none

/- `normalize_secondary_scope(value)`. -/
def normalize_secondary_scope (env : Env) (value : String) :
    String :=
  let normalized := (env.lower (strip value)).map (fun c => if c = '-' then '_' else c)
  if normalized ∈ ["unassigned", "unfixed", "available"] then "unassigned"
  else if normalized ∈ ["fixed", "group", "fixed_group"] then "fixed"
  else ""

/- The texts of `AccountFixedGroupScopeChangedError`. -/
inductive ScopeError where
| no_group_id
| group_gone
| parent_changed
| members_changed
deriving DecidableEq

def ScopeError.message : ScopeError → String
| .no_group_id => "固定账号组合范围缺少组合 ID"
| .group_gone => "固定账号组合已不存在，请刷新列表后重试"
| .parent_changed => "固定账号组合所属的条件组合已变化，请刷新列表后重试"
| .members_changed => "固定账号组合成员已变化，请刷新列表后重新确认范围"

/- `validate_account_filter_scope(session, filter_source)`. -/
def validate_account_filter_scope (env : Env) (db : Db) (filter_source : FilterSource) :
    Except ScopeError Unit :=
  if normalize_secondary_scope env
      filter_source.secondary_scope = "fixed" then
    let fixed_group_id := strip filter_source.fixed_group_id
    let primary_preset_id := strip filter_source.primary_preset_id
    if fixed_group_id = "" then .error .no_group_id
    else
      match db.groups.find? fixed_group_id with
      | none => .error .group_gone
      | some group =>
        if primary_preset_id ≠ "" ∧ group.parent_preset_id ≠ primary_preset_id then
          .error .parent_changed
        else
          match filter_source.fixed_group_revision with
          | none => .ok ()
          | some raw_revision =>
            if raw_revision ≠ group.shownRevision then .error .members_changed
            else .ok ()
  else .ok ()

----
-- Operations
----

/- A group operation, or a change of the accounts that comes between two of them. A request whose
   operation fails is rolled back, and so it is a run without its operations. -/
inductive GroupOp where
| create_fixed_group
    (group_id parent_preset_id name description : String) (pinned : Bool) (now : String)
| update_fixed_group_meta
    (group_id name description : String) (pinned : Bool) (now : String)
| replace_fixed_group_members
    (group_id : String) (account_ids : List RawId) (move_conflicts : Bool) (max_members : Nat)
    (now : String)
| delete_fixed_group (group_id : String)
| save_account (account : Account)
| delete_account (account_id : Int)

inductive GroupAnswer where
| done
| not_found
| integrity_error
| replaced (result : Replaced)
| refused (error : ReplaceError)
| released (account_ids : List Int)

/- An operation, as the requests call it. -/
def groupStep (env : Env) (db : Db) :
    GroupOp → Db × GroupAnswer
| .create_fixed_group group_id parent_preset_id name description
    pinned now =>
    match create_fixed_group db group_id parent_preset_id name description pinned now with
    | none => (db, .integrity_error)
    | some next => (next, .done)
| .update_fixed_group_meta group_id name description pinned
    now =>
    match get_fixed_group db group_id with
    | none => (db, .not_found)
    | some group =>
      match update_fixed_group_meta db group name description pinned now with
      | none => (db, .integrity_error)
      | some next => (next, .done)
| .replace_fixed_group_members group_id account_ids
    move_conflicts max_members now =>
    match get_fixed_group db group_id with
    | none => (db, .not_found)
    | some group =>
      match replace_fixed_group_members env db group account_ids move_conflicts max_members now with
      | .error error => (db, .refused error)
      | .ok (next, result) => (next, .replaced result)
| .delete_fixed_group group_id =>
    match get_fixed_group db group_id with
    | none => (db, .not_found)
    | some group => ((delete_fixed_group db group).1, .released (delete_fixed_group db group).2)
| .save_account account => ({ db with accounts := db.accounts.put account }, .done)
-- `trg_accounts_delete_fixed_group_member`
| .delete_account account_id => ({ db with
        accounts := db.accounts.deleteWhere (fun account => account.id == account_id)
        members := db.members.deleteWhere (fun member => member.account_id == account_id) },
      .done)

/- The operations of `account_fixed_groups.py`. -/
def GroupOp.onGroups : GroupOp → Bool
| .save_account _ => false
| .delete_account _ => false
| _ => true

end AccountFixedGroups
