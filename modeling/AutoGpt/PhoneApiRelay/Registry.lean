import AutoGpt.PhoneApiRelay.Urls
import AutoGpt.Library.KeyedTable
import AutoGpt.Library.Machine

/-
  The route registry of the phone API relay and the
  synchronisation of one instance's inventory with it
  (`services/phone_api_relay.py`,
  `RelayRegistry.sync_inventory`).
-/

----
-- Tables
----

namespace PhoneApiRelay

open PyUrl

/- A row of `relay_routes`. -/
structure RouteRow extends RelayRoute where
  created_at : String
  updated_at : String

/- A row of `relay_route_owners`. -/
structure OwnerRow where
  instance_id : Text
  pool_id : Text
  route_hash : String
  created_at : String
  updated_at : String

def RouteRow.key (r : RouteRow) : String := r.route_hash

def OwnerRow.key (o : OwnerRow) : Text × Text := (o.instance_id, o.pool_id)

structure Db where
  routes : KeyedTable RouteRow String RouteRow.key
  owners : KeyedTable OwnerRow (Text × Text) OwnerRow.key

def Db.initial : Db := ⟨KeyedTable.empty, KeyedTable.empty⟩

structure Item where
  pool_id : Text
  source_api_url : Text
deriving DecidableEq

/- A call of `sync_inventory`, with the relay's own hosts at its time and the message of
   `resolve_public_addresses` for a host and port that it refuses. -/
structure Call where
  instance_id : Text
  items : List Item
  relay_hosts : List Text
  refused : Text → Nat → Option String
  now : String

inductive SyncError where
| invalid (message : String)
| conflict (route_hash : String)
| integrity

structure InventoryStatus where
  instance_id : Text
  inventory_count : Nat
  route_count : Nat
  owner_count : Nat

----
-- Validation
----

variable (env : Env)

/- `_INSTANCE_ID_RE.fullmatch(instance)`. -/
def isInstanceId (instanceId : Text) : Bool := 1 ≤ instanceId.length ∧ instanceId.length ≤ 128 ∧
    instanceId.all (fun c => c.isAlphanum || c == '_' || c == '.' || c == ':' || c == '-')

def MAX_INVENTORY_ITEMS : Nat := 20000

/- The tables the validation fills while it reads items. -/
structure Prep where
  prepared : List (Text × RelayRoute)
  by_pool : List Text
  by_hash : List (String × RelayRoute)
  validated_origins : List Text

/- One round of the loop over the items. -/
local instance lawfulBEq_text : LawfulBEq (List Char) := inferInstance

def prepareItem (call : Call) (p : Prep) (item : Item) : Except SyncError Prep :=
  let pool_id := stripText item.pool_id
  if pool_id = [] ∨ 128 < pool_id.length ∨ pool_id ∈ p.by_pool then
    .error (.invalid "pool_id is empty or duplicated")
  else
    match parse_source_api_url env item.source_api_url with
    | .error message => .error (.invalid message)
    | .ok route =>
      if route.source_host ∈ call.relay_hosts then
        .error (.invalid "source API URL must not target a relay origin")
      else if (p.by_hash.lookup route.route_hash).any
              (fun previous => previous.raw_suffix ≠ route.raw_suffix ∨
                  previous.source_origin ≠ route.source_origin) then
        .error (.conflict route.route_hash)
      else
        match
          if route.source_origin ∈ p.validated_origins then none
          else call.refused route.source_host route.source_port
        with
        | some message => .error (.invalid message)
        | none => .ok
              { prepared := p.prepared ++ [(pool_id, route)], by_pool := pool_id :: p.by_pool,
                by_hash := (route.route_hash, route) :: p.by_hash,
                validated_origins := route.source_origin :: p.validated_origins }

def prepareItems (call : Call) :
    Prep → List Item → Except SyncError Prep
| p, [] => .ok p
| p, item :: items =>
    match prepareItem env call p item with
    | .ok p' => prepareItems call p' items
    | .error e => .error e

/- The checks of a call and the routes of its items. -/
def prepare (call : Call) :
    Except SyncError (List (Text × RelayRoute)) :=
  if isInstanceId (stripText call.instance_id) = false then
    .error (.invalid "instance_id is invalid")
  else if MAX_INVENTORY_ITEMS < call.items.length then .error (.invalid "inventory is too large")
  else
    match prepareItems env call ⟨[], [], [], []⟩ call.items with
    | .ok p => .ok p.prepared
    | .error e => .error e

----
-- The Transaction
----

def Db.owned (db : Db) (route_hash : String) : Bool :=
  db.owners.rows.any (fun o => o.route_hash == route_hash)

/- `DELETE FROM relay_routes WHERE NOT EXISTS (...)`. -/
def Db.prune (db : Db) : Db :=
  { db with routes := db.routes.deleteWhere (fun r => !db.owned r.route_hash) }

/- `DELETE FROM relay_route_owners WHERE instance_id = ?`. -/
def Db.release (db : Db) (instanceId : Text) : Db :=
  { db with owners := db.owners.deleteWhere (fun o => o.instance_id == instanceId) }

/- `INSERT INTO relay_route_owners`, under its key. -/
def insertOwner (instanceId : Text) (now : String) (db : Db) (pool_id : Text)
    (route_hash : String) : Except SyncError Db :=
  match db.owners.find? (instanceId, pool_id) with
  | some _ => .error .integrity
  | none => .ok
        { db with owners := db.owners.insertNew ⟨instanceId, pool_id, route_hash, now, now⟩ }

/- One round of the loop over the prepared items. Two routes cannot share a suffix, so an insertion
   beside an equal suffix breaks the table's constraint. -/
def insertItem (instanceId : Text) (now : String) (db : Db)
    (p : Text × RelayRoute) : Except SyncError Db :=
  match db.routes.find? p.2.route_hash with
  | some existing =>
    if existing.raw_suffix ≠ p.2.raw_suffix ∨ existing.source_origin ≠ p.2.source_origin then
      .error (.conflict p.2.route_hash)
    else insertOwner instanceId now db p.1 p.2.route_hash
  | none =>
    match db.routes.rows.find? (fun r => decide (r.raw_suffix = p.2.raw_suffix))
    with
    | some same_suffix =>
      if same_suffix.source_origin ≠ p.2.source_origin then
        .error (.conflict same_suffix.route_hash)
      else .error .integrity
    | none => insertOwner instanceId now { db with routes := db.routes.insertNew ⟨p.2, now, now⟩ }
          p.1 p.2.route_hash

def insertItems (instanceId : Text) (now : String) :
    Db → List (Text × RelayRoute) → Except SyncError Db
| db, [] => .ok db
| db, p :: ps =>
    match insertItem instanceId now db p with
    | .ok db' => insertItems instanceId now db' ps
    | .error e => .error e

/- The statements between `BEGIN IMMEDIATE` and the commit. -/
def transaction (instanceId : Text) (now : String) (prepared : List (Text × RelayRoute))
    (db : Db) : Except SyncError Db :=
  match insertItems instanceId now (db.release instanceId).prune prepared
  with
  | .ok db' => .ok db'.prune
  | .error e => .error e

/- `inventory_status(instance_id)`. -/
def inventory_status (db : Db) (instanceId : Text) :
    InventoryStatus where
  instance_id := instanceId
  inventory_count := (db.owners.rows.filter (fun o => o.instance_id == instanceId)).length
  route_count := db.routes.rows.length
  owner_count := db.owners.rows.length

/- `sync_inventory(instance_id, items)`: an exception before the transaction or in it leaves the
   tables as they were. -/
def step (env : Env) (db : Db) (call : Call) :
    Db × Except SyncError InventoryStatus :=
  let instanceId := stripText call.instance_id
  match prepare env call with
  | .error e => (db, .error e)
  | .ok prepared =>
    match transaction instanceId call.now prepared db with
    | .error e => (db, .error e)
    | .ok db' => (db', .ok (inventory_status db' instanceId))

def after (env : Env) (calls : List Call) : Db := Machine.run (step env) Db.initial calls

/- The row as a route, when its suffix is the asked one. -/
def Db.lookup (db : Db) (route_hash : String) (raw_suffix : Text) : Option RelayRoute :=
  match db.routes.find? route_hash with
  | some row =>
    if row.raw_suffix ≠ raw_suffix then none
    else some row.toRelayRoute
  | none => none

end PhoneApiRelay
