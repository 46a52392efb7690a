import AutoGpt.Library.KeyedTable
import AutoGpt.Library.Machine
import AutoGpt.Library.PyText

/-
  The shared PIX CDK usage registry of
  `core/pix_cdk_usage.py`: the current-lock table, the paid
  history and the operations of `PixCdkUsageStore`.

  Every operation of the source runs inside one
  `BEGIN IMMEDIATE` transaction that is rolled back when a
  statement or the commit raises. An operation is therefore
  a function from the stored database to the next one, and
  the argument `dbError` says that some statement raised.
-/

open PyText (orElse strip)

----
-- Tables
----

namespace PixCdkUsage

/- The `state` column of the current-lock table. -/
inductive State where
| reserved
| paid
| uncertain
| blocked
deriving DecidableEq

/- A row of `pix_cdk_usage`. -/
structure UsageRow where
  fingerprint : String
  state : State
  task_id : String
  account_id : Int
  order_id : String
  created_at : String
  updated_at : String
  paid_at : String
deriving DecidableEq

/- A row of `pix_cdk_usage_history`. -/
structure HistoryRow where
  fingerprint : String
  task_id : String
  account_id : Int
  order_id : String
  paid_at : String
  created_at : String

/- `fingerprint TEXT PRIMARY KEY`. -/
abbrev UsageTable := KeyedTable UsageRow String UsageRow.fingerprint

/- The shared database. The history lists its rows in the order of their autoincrement ids. -/
structure Db where
  usage : UsageTable
  history : List HistoryRow
  hmac_secret : String

/- The database that the first `_connect` creates. -/
def emptyDb : Db where
  usage := KeyedTable.empty
  history := []
  hmac_secret := ""

/- The dataclass `PixCdkUsage` that operations return. -/
structure Usage where
  fingerprint : String
  state : State
  task_id : String := ""
  account_id : Int := 0
  order_id : String := ""
  paid_at : String := ""
deriving DecidableEq

/- `_usage_from_row` on the columns the statements select. -/
def usageFromRow (row : UsageRow) : Usage where
  fingerprint := row.fingerprint
  state := row.state
  task_id := row.task_id
  account_id := row.account_id
  order_id := row.order_id

inductive Error where
| fingerprintRequired
| historyIncomplete
| reservationChanged
| paidCommitChanged
| database
deriving DecidableEq

def Error.message : Error → String
| .fingerprintRequired => "PIX CDK fingerprint is required"
| .historyIncomplete => "PIX paid history requires fingerprint, task_id and order_id"
| .reservationChanged => "PIX CDK 当前占用不存在或已变化，拒绝释放复用"
| .paidCommitChanged => "PIX CDK paid 记录提交时占用已变化"
| .database => "sqlite3.Error"

/- Commit the result of a transaction body, or roll back: a raised error leaves the stored database
   as it was. -/
def transaction {A : Type} (dbError : Bool) (db : Db) (body : Except Error (A × Db)) :
    Db × Except Error A :=
  match body with
  | .error e => (db, .error e)
  | .ok (a, next) =>
    if dbError then (db, .error .database)
    else (next, .ok a)

----
-- Locked Helpers
----

/- `WHERE fingerprint = ? AND state = 'reserved' AND task_id = ? AND account_id = ?`. -/
def isReservation (fingerprint task_id : String) (account_id : Int) (row : UsageRow) : Bool :=
  row.fingerprint = fingerprint && row.state = .reserved &&
    row.task_id = task_id && row.account_id = account_id

/- The stripped non-empty texts of a fingerprint list. -/
def selectedValues (fingerprints : List String) :
    List String :=
  (fingerprints.map strip).filter (fun v => v != "")

/- The rows `_migrate_legacy_paid_locked` selects. -/
def isLegacyPaid (values : List String) (row : UsageRow) : Bool :=
  row.state = .paid && (values.isEmpty || values.contains row.fingerprint)

/- The history row written for a migrated paid row. -/
def legacyHistoryRow (now : String) (row : UsageRow) : HistoryRow where
  fingerprint := row.fingerprint
  task_id := row.task_id
  account_id := row.account_id
  order_id := row.order_id
  paid_at := orElse row.paid_at now
  created_at := orElse row.created_at now

/- `_migrate_legacy_paid_locked`: insert one history row for each selected paid row, then delete
   these rows. -/
def migrateLegacyPaidLocked (now : String) (fingerprints : List String) (db : Db) : Db :=
  let rows := db.usage.rows.filter (isLegacyPaid (selectedValues fingerprints))
  { db with
    history := db.history ++ rows.map (legacyHistoryRow now)
    usage := db.usage.deleteWhere fun r => r.state = .paid &&
          (rows.map UsageRow.fingerprint).contains
            r.fingerprint }

/- `_paid_history_exists_locked`. -/
def paidHistoryExistsLocked (history : List HistoryRow) (fingerprint task_id : String)
    (account_id : Int) (order_id : String) : Bool :=
  history.any fun h => h.fingerprint = fingerprint && h.task_id = task_id &&
      h.account_id = account_id && h.order_id = order_id

/- `_insert_paid_history_locked`. -/
def insertPaidHistoryLocked (history : List HistoryRow) (fingerprint task_id : String)
    (account_id : Int) (order_id paid_at : String) : List HistoryRow :=
  if paidHistoryExistsLocked history fingerprint task_id account_id order_id then history
  else
    history ++
      [{ fingerprint := fingerprint, task_id := task_id, account_id := account_id,
         order_id := order_id, paid_at := paid_at, created_at := paid_at }]

----
-- Operations
----

/- The digest functions of the standard library that `fingerprint` calls. -/
structure Digest where
  upper : String → String
  hmacSha256 : String → String → String

/- ASCII upper case and an unkeyed digest, for evaluation. -/
def plainDigest : Digest where
  upper := fun v => String.ofList (v.toList.map Char.toUpper)
  hmacSha256 := fun secret v => secret ++ v

/- `normalize_pix_cdk`. -/
def normalizePixCdk (digest : Digest) (value : String) :
    String :=
  String.ofList
    ((digest.upper value).toList.filter fun c => ('A' ≤ c && c ≤ 'Z') || ('0' ≤ c && c ≤ '9'))

/- `fingerprint`; `fresh` is the drawn `token_urlsafe(48)`. -/
def fingerprint (digest : Digest) (value fresh : String) (dbError : Bool)
    (db : Db) : Db × Except Error String :=
  let normalized := normalizePixCdk digest value
  if normalized = "" then (db, .ok "")
  else
    let secret := if db.hmac_secret = "" then fresh else db.hmac_secret
    transaction dbError db
      (.ok (digest.hmacSha256 secret normalized, { db with hmac_secret := secret }))

/- `states_for`. -/
def statesFor (fingerprints : List String) (now : String) (dbError : Bool)
    (db : Db) : Db × Except Error (List Usage) :=
  let values := selectedValues fingerprints
  if values.isEmpty then (db, .ok [])
  else
    let migrated := migrateLegacyPaidLocked now values db
    transaction dbError db (.ok ((migrated.usage.rows.filter
            (fun r => values.contains r.fingerprint)).map usageFromRow, migrated))

/- `history_for`. -/
def historyFor (value : String) (db : Db) : List Usage :=
  if strip value = "" then []
  else
    (db.history.filter
        (fun h => h.fingerprint = strip value)).map
      fun h =>
        { fingerprint := h.fingerprint, state := .paid, task_id := h.task_id,
          account_id := h.account_id, order_id := h.order_id, paid_at := h.paid_at }

/- `reserve`. -/
def reserve (fingerprint task_id : String) (account_id : Int) (now : String) (dbError : Bool)
    (db : Db) : Db × Except Error Usage :=
  let value := strip fingerprint
  if value = "" then (db, .error .fingerprintRequired)
  else
    let migrated := migrateLegacyPaidLocked now [value] db
    transaction dbError db <|
      match migrated.usage.find? value with
      | some row => .ok (usageFromRow row, migrated)
      | none => .ok
            ({ fingerprint := value, state := .reserved, task_id := task_id,
               account_id := account_id },
              { migrated with
                usage := migrated.usage.insertNew
                    { fingerprint := value, state := .reserved, task_id := task_id,
                      account_id := account_id, order_id := "", created_at := now,
                      updated_at := now, paid_at := "" } })

/- `release`. -/
def release (fingerprint task_id : String) (account_id : Int) (dbError : Bool)
    (db : Db) : Db × Except Error Bool :=
  let owned := isReservation fingerprint task_id account_id
  transaction dbError db
    (.ok (db.usage.rows.any owned, { db with usage := db.usage.deleteWhere owned }))

/- `record_paid_history`. -/
def recordPaidHistory (fingerprint task_id : String) (account_id : Int)
    (order_id paid_at now : String) (dbError : Bool) (db : Db) : Db × Except Error Usage :=
  let paidAt := orElse (strip paid_at) now
  let value := strip fingerprint
  if value = "" ∨ task_id = "" ∨ order_id = "" then (db, .error .historyIncomplete)
  else
    transaction dbError db
      (.ok
        ({ fingerprint := value, state := .paid, task_id := task_id, account_id := account_id,
           order_id := order_id, paid_at := paidAt },
          { db with
            history := insertPaidHistoryLocked db.history value task_id
                account_id order_id paidAt }))

/- `mark_paid`; `reservationAccountId` is the account that holds the reservation when it is not the
   paid account. -/
def markPaid (fingerprint task_id : String) (account_id : Int) (order_id : String)
    (retain_block : Bool) (reservation_account_id : Option Int) (now : String) (dbError : Bool)
    (db : Db) : Db × Except Error Usage :=
  let reservationAccount := reservation_account_id.getD account_id
  let owned := isReservation fingerprint task_id reservationAccount
  transaction dbError db <|
    match db.usage.find? fingerprint with
    | none => .error .reservationChanged
    | some usage =>
      if usage.state ≠ .reserved ∨ usage.task_id ≠ task_id ∨
          usage.account_id ≠ reservationAccount then
        .error .reservationChanged
      else if db.usage.rows.countP owned ≠ 1 then
        -- `updated.rowcount != 1`
        .error .paidCommitChanged
      else
        .ok
          ({ fingerprint := fingerprint, state := if retain_block then .blocked else .paid,
             task_id := task_id, account_id := account_id, order_id := order_id, paid_at := now },
            { db with
              history :=
                insertPaidHistoryLocked db.history fingerprint task_id account_id order_id now
              usage :=
                if retain_block then db.usage.updateWhere owned
                    (fun r =>
                      { r with
                        state := .blocked, order_id := order_id, updated_at := now,
                        paid_at := now })
                    (fun _ => rfl)
                else db.usage.deleteWhere owned })

/- `mark_uncertain`. -/
def markUncertain (fingerprint task_id : String) (account_id : Int) (order_id now : String)
    (dbError : Bool) (db : Db) : Db × Except Error Usage :=
  let owned := isReservation fingerprint task_id account_id
  let updated := db.usage.updateWhere owned (fun r =>
        { r with state := .uncertain, order_id := order_id, updated_at := now }) (fun _ => rfl)
  -- Without a row of this owner a review lock is created,
  -- but never over another row of the fingerprint.
  let usage :=
    if db.usage.rows.countP owned ≠ 1 then
      match updated.find? fingerprint with
      | some _ => updated
      | none => updated.insertNew
            { fingerprint := fingerprint, state := .uncertain, task_id := task_id,
              account_id := account_id, order_id := order_id, created_at := now, updated_at := now,
              paid_at := "" }
    else updated
  transaction dbError db (.ok (((usage.find? fingerprint).map usageFromRow).getD
        { fingerprint := fingerprint, state := .uncertain }, { db with usage := usage }))

/- `mark_blocked`. -/
def markBlocked (fingerprint task_id : String) (account_id : Int) (now : String) (dbError : Bool)
    (db : Db) : Db × Except Error Usage :=
  let usage := db.usage.updateWhere (isReservation fingerprint task_id account_id) (fun r =>
        { r with state := .blocked, updated_at := now }) (fun _ => rfl)
  transaction dbError db (.ok (((usage.find? fingerprint).map usageFromRow).getD
        { fingerprint := fingerprint, state := .blocked }, { db with usage := usage }))

----
-- The Store As A Machine
----

/- One committed or rolled back operation of some store instance. Instances keep no state besides
   the path of the database, so opening one again changes no table. -/
inductive Op where
| openStore
| fingerprint (value fresh : String) (dbError : Bool)
| statesFor (fingerprints : List String) (now : String)
    (dbError : Bool)
| historyFor (fingerprint : String)
| reserve (fingerprint task_id : String) (account_id : Int)
    (now : String) (dbError : Bool)
| release (fingerprint task_id : String) (account_id : Int)
    (dbError : Bool)
| recordPaidHistory (fingerprint task_id : String)
    (account_id : Int) (order_id paid_at now : String) (dbError : Bool)
| markPaid (fingerprint task_id : String) (account_id : Int)
    (order_id : String) (retain_block : Bool) (reservation_account_id : Option Int) (now : String)
    (dbError : Bool)
| markUncertain (fingerprint task_id : String)
    (account_id : Int) (order_id now : String) (dbError : Bool)
| markBlocked (fingerprint task_id : String)
    (account_id : Int) (now : String) (dbError : Bool)

inductive Answer where
| opened
| text (result : Except Error String)
| flag (result : Except Error Bool)
| usage (result : Except Error Usage)
| usages (result : Except Error (List Usage))

def Answer.failed : Answer → Bool
| .opened => false
| .text (.error _) => true
| .flag (.error _) => true
| .usage (.error _) => true
| .usages (.error _) => true
| _ => false

/- Run one operation on the shared database. -/
def step (digest : Digest) (db : Db) : Op → Db × Answer
| .openStore => (db, .opened)
| .fingerprint value fresh dbError =>
    let r := fingerprint digest value fresh dbError db
    (r.1, .text r.2)
| .statesFor fingerprints now dbError =>
    let r := statesFor fingerprints now dbError db
    (r.1, .usages r.2)
| .historyFor value => (db, .usages (.ok (historyFor value db)))
| .reserve fp task account now dbError =>
    let r := reserve fp task account now dbError db
    (r.1, .usage r.2)
| .release fp task account dbError =>
    let r := release fp task account dbError db
    (r.1, .flag r.2)
| .recordPaidHistory fp task account order paidAt now
      dbError =>
    let r := recordPaidHistory fp task account order paidAt now dbError db
    (r.1, .usage r.2)
| .markPaid fp task account order retain holder now
      dbError =>
    let r := markPaid fp task account order retain holder now dbError db
    (r.1, .usage r.2)
| .markUncertain fp task account order now dbError =>
    let r := markUncertain fp task account order now dbError db
    (r.1, .usage r.2)
| .markBlocked fp task account now dbError =>
    let r := markBlocked fp task account now dbError db
    (r.1, .usage r.2)

/- The database after a sequence of operations. -/
abbrev run (digest : Digest) (db : Db) (ops : List Op) : Db := Machine.run (step digest) db ops

end PixCdkUsage
