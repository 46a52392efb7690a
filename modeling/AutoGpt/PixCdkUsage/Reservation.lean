import AutoGpt.Library.OwnedLock
import AutoGpt.PixCdkUsage.Store

/-
  The current-lock table as a family of owned locks, one for
  each fingerprint: a reservation is held by its task and
  reservation account, a row under review or blocked is
  sealed.

  Main declarations:
    * `PixCdkUsage.lockOf`
    * `PixCdkUsage.namedOwner`
    * `PixCdkUsage.migratedRows`
-/

open PyText (strip strip_strip)
open OwnedLock (Allows held_run)
open KeyedTable (find?_deleteWhere find?_of_mem)
open List
open KeyedTable

----
-- Locks Of Fingerprints
----

namespace PixCdkUsage

/- What a current row means for everyone else. -/
def lockOf :
    Option UsageRow → OwnedLock (String × Int) UsageRow
| none => .free
| some row =>
    match row.state with
    | .reserved => .held (row.task_id, row.account_id) row
    | .paid => .free
    | .uncertain => .sealed row
    | .blocked => .sealed row

/- The task and reservation account that an operation names for a fingerprint. -/
def namedOwner (fp : String) : Op → Option (String × Int)
| .release f task account _ => if f = fp then some (task, account) else none
| .markPaid f task account _ _ holder _ _ =>
    if f = fp then some (task, holder.getD account) else none
| .markUncertain f task account _ _ _ => if f = fp then some (task, account) else none
| .markBlocked f task account _ _ => if f = fp then some (task, account) else none
| _ => none

/- The legacy rows that a committing operation migrates. -/
def migratedRows (db : Db) : Op → List UsageRow
| .statesFor fingerprints _ false =>
    if (selectedValues fingerprints).isEmpty then []
    else db.usage.rows.filter (isLegacyPaid (selectedValues fingerprints))
| .reserve fp _ _ _ false =>
    if strip fp = "" then []
    else db.usage.rows.filter (isLegacyPaid [strip fp])
| _ => []

/- The rows that an operation may take out or rewrite: the legacy rows it migrates and the
   reservation it names. -/
def Touches (db : Db) (op : Op) (row : UsageRow) : Prop := row ∈ migratedRows db op ∨
    (row.state = .reserved ∧ namedOwner row.fingerprint op = some (row.task_id, row.account_id))

theorem isReservation_iff {row : UsageRow} :
    isReservation fp task account row ↔ row.fingerprint = fp ∧ row.state = .reserved ∧
        row.task_id = task ∧ row.account_id = account := by
  simp [isReservation, and_assoc]

theorem transaction_rule {A : Type} {Q : Db → Prop} {dbError : Bool} {db : Db}
    {body : Except Error (A × Db)} (hRollback : Q db)
    (hCommit : ∀ a next, dbError = false → body = .ok (a, next) → Q next) :
    Q (transaction dbError db body).1 := by
  cases body with
  | error e => exact hRollback
  | ok result =>
    cases dbError with
    | true => exact hRollback
    | false => exact hCommit result.1 result.2 rfl rfl

theorem transaction_error {A : Type} {db : Db} {body : Except Error (A × Db)}
    (hError : (transaction dbError db body).2 = .error e) :
    (transaction dbError db body).1 = db := by
  cases body with
  | error e => rfl
  | ok result =>
    cases dbError with
    | true => rfl
    | false => simp [transaction] at hError

theorem selectedValues_selectedValues (fingerprints : List String) :
    selectedValues (selectedValues fingerprints) = selectedValues fingerprints := by
  unfold selectedValues
  have hStripped : ((fingerprints.map strip).filter
          (fun v => v != "")).map strip =
        (fingerprints.map strip).filter (fun v => v != "") := by
    conv_rhs => rw [← map_id ((fingerprints.map strip).filter (fun v => v != ""))]
    apply map_congr_left
    intro v hv
    rcases mem_map.mp (mem_of_mem_filter hv) with ⟨u, _, hu⟩
    rw [← hu, strip_strip, id]
  rw [hStripped, filter_filter]
  simp

theorem selectedValues_singleton {value : String} (hValue : strip value ≠ "") :
    selectedValues [strip value] = [strip value] := by
  simp [selectedValues, strip_strip, hValue]

----
-- What Each Statement Leaves Alone
----

variable {row : UsageRow}

theorem find?_migrate_of_not_mem {db : Db} (now : String) (fingerprints : List String)
    (hRow : row ∈ db.usage.rows)
    (hNot : row ∉ db.usage.rows.filter (isLegacyPaid (selectedValues fingerprints))) :
    (migrateLegacyPaidLocked now fingerprints db).usage.find? row.fingerprint = some row := by
  simp only [migrateLegacyPaidLocked]
  rw [find?_deleteWhere, find?_of_mem hRow, Option.filter_some, if_pos]
  rw [Bool.not_eq_true', Bool.and_eq_false_iff]
  right
  rw [← Bool.not_eq_true, contains_iff_mem]
  intro hContains
  rcases mem_map.mp hContains with ⟨r, hr, hKey⟩
  have hSame := eq_of_mem_of_key_eq (mem_of_mem_filter hr) hRow hKey
  exact hNot (hSame ▸ hr)

theorem find?_deleteOwned_of_not_owned {usage : UsageTable} {f task : String}
    (hRow : row ∈ usage.rows) (hOther : isReservation f task account row = false) :
    (usage.deleteWhere (isReservation f task account)).find? row.fingerprint = some row := by
  rw [find?_deleteWhere, find?_of_mem hRow, Option.filter_some, if_pos]
  simp [hOther]

theorem find?_updateOwned_of_not_owned {usage : UsageTable} {f task : String}
    (hRow : row ∈ usage.rows) (hOther : isReservation f task account row = false)
    (set : UsageRow → UsageRow) (hKey : ∀ r, (set r).fingerprint = r.fingerprint) :
    (usage.updateWhere (isReservation f task account)
      set hKey).find? row.fingerprint = some row := by
  rw [find?_updateWhere, find?_of_mem hRow]
  simp [hOther]

theorem find?_insertNew_of_some {usage : UsageTable} {fp : String}
    (hAbsent : usage.find? fresh.fingerprint = none) (hFind : usage.find? fp = some row) :
    (usage.insertNew fresh).find? fp = some row := by
  rw [find?_insertNew usage hAbsent, if_neg, hFind]
  intro hKey
  rw [← hKey, hAbsent] at hFind
  cases hFind

/- A row that is not the named reservation of an owner guarded operation is not owned in its
   statements. -/
theorem not_isReservation_of_not_named
    (hOther : ¬ (row.state = .reserved ∧ (if f = row.fingerprint then some (task, account)
          else none) = some (row.task_id, row.account_id))) :
    isReservation f task account row = false := by
  rw [← Bool.not_eq_true, isReservation_iff]
  rintro ⟨hFp, hState, hTask, hAccount⟩
  apply hOther
  refine ⟨hState, ?_⟩
  rw [if_pos hFp.symm, hTask, hAccount]

----
-- What Each Operation Leaves Alone
----

variable {db : Db}

theorem find?_transaction {A : Type} {dbError : Bool} {body : Except Error (A × Db)}
    (hRow : row ∈ db.usage.rows) (hCommit : ∀ a next, dbError = false → body = .ok (a, next) →
        next.usage.find? row.fingerprint = some row) :
    (transaction dbError db body).1.usage.find? row.fingerprint = some row :=
  transaction_rule (Q := fun d => d.usage.find? row.fingerprint = some row)
    (find?_of_mem hRow) hCommit

theorem find?_statesFor (fingerprints : List String) (now : String) (dbError : Bool)
    (hRow : row ∈ db.usage.rows)
    (hNot : row ∉ migratedRows db (.statesFor fingerprints now dbError)) :
    (statesFor fingerprints now dbError db).1.usage.find? row.fingerprint = some row := by
  have hFind := find?_of_mem hRow
  unfold statesFor
  dsimp only
  split
  · exact hFind
  next hSome =>
    apply find?_transaction hRow
    intro a next hCommits hOk
    cases hOk
    subst hCommits
    apply find?_migrate_of_not_mem now _ hRow
    rw [selectedValues_selectedValues]
    simpa only [migratedRows, hSome, if_false, Bool.false_eq_true] using hNot

theorem find?_reserve (fp task : String) (account : Int) (now : String) (dbError : Bool)
    (hRow : row ∈ db.usage.rows)
    (hNot : row ∉ migratedRows db (.reserve fp task account now dbError)) :
    (reserve fp task account now dbError db).1.usage.find? row.fingerprint = some row := by
  have hFind := find?_of_mem hRow
  unfold reserve
  dsimp only
  split
  · exact hFind
  next hValue =>
    apply find?_transaction hRow
    intro a next hCommits hOk
    subst hCommits
    have hMigrated : (migrateLegacyPaidLocked now [strip fp]
          db).usage.find? row.fingerprint = some row := by
      apply find?_migrate_of_not_mem now _ hRow
      rw [selectedValues_singleton hValue]
      simpa only [migratedRows, hValue, if_false] using hNot
    split at hOk
    · cases hOk
      exact hMigrated
    next hAbsent =>
      cases hOk
      exact find?_insertNew_of_some hAbsent hMigrated

theorem find?_release (fp task : String) (account : Int) (dbError : Bool)
    (hRow : row ∈ db.usage.rows) (hOther : isReservation fp task account row = false) :
    (release fp task account dbError db).1.usage.find? row.fingerprint = some row := by
  apply find?_transaction hRow
  intro a next _ hOk
  cases hOk
  exact find?_deleteOwned_of_not_owned hRow hOther

theorem recordPaidHistory_usage (f task : String) (account : Int)
    (order paidAt now : String) (dbError : Bool) :
    (recordPaidHistory f task account order paidAt now dbError db).1.usage = db.usage := by
  unfold recordPaidHistory
  dsimp only
  split
  · rfl
  · cases dbError <;> rfl

theorem fingerprint_usage (digest : Digest) (value fresh : String) (dbError : Bool) :
    (fingerprint digest value fresh dbError db).1.usage = db.usage := by
  unfold fingerprint
  dsimp only
  split
  · rfl
  · cases dbError <;> rfl

theorem find?_markPaid (fp task : String) (account : Int) (order : String)
    (retain : Bool) (holder : Option Int) (now : String) (dbError : Bool)
    (hRow : row ∈ db.usage.rows)
    (hOther : isReservation fp task (holder.getD account) row = false) :
    (markPaid fp task account order retain holder now
      dbError db).1.usage.find? row.fingerprint = some row := by
  apply find?_transaction hRow
  intro a next _ hOk
  split at hOk
  · cases hOk
  · split_ifs at hOk with hChanged hCount hRetain
    · cases hOk
      exact find?_updateOwned_of_not_owned hRow hOther (fun r =>
          { r with state := .blocked, order_id := order, updated_at := now, paid_at := now })
        (fun _ => rfl)
    · cases hOk
      exact find?_deleteOwned_of_not_owned hRow hOther

theorem find?_markUncertain (fp task : String) (account : Int) (order now : String) (dbError : Bool)
    (hRow : row ∈ db.usage.rows) (hOther : isReservation fp task account row = false) :
    (markUncertain fp task account order now dbError
      db).1.usage.find? row.fingerprint = some row := by
  apply find?_transaction hRow
  intro a next _ hOk
  have hUpdated := find?_updateOwned_of_not_owned hRow hOther (fun r =>
        { r with state := .uncertain, order_id := order, updated_at := now }) (fun _ => rfl)
  cases hOk
  simp only
  split
  · split
    · exact hUpdated
    next hAbsent =>
      exact find?_insertNew_of_some hAbsent hUpdated
  · exact hUpdated

theorem find?_markBlocked (fp task : String) (account : Int) (now : String) (dbError : Bool)
    (hRow : row ∈ db.usage.rows) (hOther : isReservation fp task account row = false) :
    (markBlocked fp task account now dbError db).1.usage.find? row.fingerprint = some row := by
  apply find?_transaction hRow
  intro a next _ hOk
  cases hOk
  exact find?_updateOwned_of_not_owned hRow hOther
    (fun r => { r with state := .blocked, updated_at := now }) (fun _ => rfl)

/- A step keeps every row except the legacy rows it migrates and the reservation it names. -/
theorem find?_step_of_not_touched (digest : Digest) (op : Op) (hRow : row ∈ db.usage.rows)
    (hNot : ¬ Touches db op row) :
    (step digest db op).1.usage.find? row.fingerprint = some row := by
  rcases not_or.mp hNot with ⟨hKept, hOther⟩
  cases op with
  | openStore => exact find?_of_mem hRow
  | historyFor value => exact find?_of_mem hRow
  | fingerprint value fresh dbError =>
    simp only [step, fingerprint_usage]
    exact find?_of_mem hRow
  | statesFor fingerprints now dbError => exact find?_statesFor fingerprints now dbError hRow hKept
  | reserve fp task account now dbError =>
    exact find?_reserve fp task account now dbError hRow hKept
  | release fp task account dbError =>
    exact find?_release fp task account dbError hRow (not_isReservation_of_not_named hOther)
  | recordPaidHistory fp task account order paidAt now
      dbError =>
      simp only [step, recordPaidHistory_usage]
      exact find?_of_mem hRow
  | markPaid fp task account order retain holder now
      dbError =>
      exact find?_markPaid fp task account order retain holder now dbError hRow
        (not_isReservation_of_not_named hOther)
  | markUncertain fp task account order now dbError =>
    exact find?_markUncertain fp task account order now
      dbError hRow (not_isReservation_of_not_named hOther)
  | markBlocked fp task account now dbError =>
    exact find?_markBlocked fp task account now dbError hRow (not_isReservation_of_not_named hOther)

----
-- Operations Respect The Locks
----

theorem paid_of_mem_migratedRows
    (hMem : row ∈ migratedRows db op) : row.state = .paid := by
  have hFilter :
      ∀ values, row ∈ db.usage.rows.filter (isLegacyPaid values) → row.state = .paid := by
    intro values hRow
    have hPaid := (mem_filter.mp hRow).2
    simp only [isLegacyPaid, Bool.and_eq_true, decide_eq_true_eq] at hPaid
    exact hPaid.1
  unfold migratedRows at hMem
  split at hMem
  · split at hMem
    · simp at hMem
    · exact hFilter _ hMem
  · split at hMem
    · simp at hMem
    · exact hFilter _ hMem
  · simp at hMem

theorem step_allows (digest : Digest) (fp : String) (db : Db) (op : Op) :
    (lockOf (db.usage.find? fp)).Allows (namedOwner fp op)
      (lockOf ((step digest db op).1.usage.find? fp)) := by
  cases hFind : db.usage.find? fp with
  | none => trivial
  | some row =>
    rcases mem_of_find? hFind with ⟨hRow, hKey⟩
    subst hKey
    by_cases hTouched : Touches db op row
    · rcases hTouched with hMigrated | ⟨hState, hNamed⟩
      · simp [lockOf, paid_of_mem_migratedRows hMigrated, Allows]
      · simp only [lockOf, hState, Allows]
        exact .inr hNamed
    · rw [find?_step_of_not_touched digest op hRow hTouched]
      exact Allows.refl _ _

----
-- Guarded Rows Over Whole Runs
----

theorem find?_of_lockOf_sealed
    (hLock : lockOf found = .sealed row) : found = some row := by
  cases found with
  | none => simp [lockOf] at hLock
  | some r => cases hState : r.state <;> simp_all [lockOf]

theorem find?_of_lockOf_held
    (hLock : lockOf found = .held owner row) : found = some row := by
  cases found with
  | none => simp [lockOf] at hLock
  | some r => cases hState : r.state <;> simp_all [lockOf]

theorem markPaid_failed (digest : Digest) (db : Db)
    (f task : String) (account : Int) (order : String)
    (retain : Bool) (holder : Option Int) (now : String) (dbError : Bool) (hFailed :
      (step digest db (.markPaid f task account order retain holder now dbError)).2.failed) :
    (step digest db (.markPaid f task account order retain holder now dbError)).1 = db := by
  simp only [step] at hFailed ⊢
  cases hAnswer : (markPaid f task account order retain holder now dbError db).2 with
  | error e => exact transaction_error hAnswer
  | ok usage => simp [hAnswer, Answer.failed] at hFailed

/- In every state a run reaches: a reservation stays as it is through any further operations that do
   not name its task and reservation account, a row under review or blocked stays as it is through
   any further operations, and a failed `mark_paid` changes neither table. -/
theorem usage_rows_guarded (digest : Digest) (db : Db) (ops : List Op) :
    (∀ (fp : String) (row : UsageRow) (later : List Op),
      (run digest db ops).usage.find? fp = some row → row.state = .reserved →
      (∀ op ∈ later, namedOwner fp op ≠ some (row.task_id, row.account_id)) →
      (run digest db (ops ++ later)).usage.find? fp = some row) ∧
    (∀ (fp : String) (row : UsageRow) (later : List Op),
      (run digest db ops).usage.find? fp = some row →
      (row.state = .uncertain ∨ row.state = .blocked) →
      (run digest db (ops ++ later)).usage.find? fp = some row) ∧
    (∀ f task account order retain holder now dbError, (step digest (run digest db ops)
        (.markPaid f task account order retain holder now dbError)).2.failed →
      (step digest (run digest db ops)
        (.markPaid f task account order retain holder now dbError)).1 = run digest db ops) := by
  refine ⟨?_, ?_, ?_⟩
  · intro fp row later hFind hState hOthers
    rw [run, Machine.run_append]
    apply find?_of_lockOf_held
    apply held_run (fun s : Db => lockOf (s.usage.find? fp))
      (namedOwner fp) (step_allows digest fp) (o := (row.task_id, row.account_id)) ?_ hOthers
    simp [hFind, lockOf, hState]
  · intro fp row later hFind hState
    rw [run, Machine.run_append]
    apply find?_of_lockOf_sealed
    apply OwnedLock.sealed_run (fun s : Db => lockOf (s.usage.find? fp))
      (namedOwner fp) (step_allows digest fp)
    rcases hState with hState | hState <;>
      simp [hFind, lockOf, hState]
  · intro f task account order retain holder now dbError
      hFailed
    exact markPaid_failed digest _ f task account order retain holder now dbError hFailed

/- One reservation of task A and one blocked row of task B. -/
def twoTaskOps : List Op := [.reserve "fp1" "A" 7 "t0" false, .reserve "fp2" "B" 9 "t0" false,
    .markBlocked "fp2" "B" 9 "t1" false]

def fp1Row : UsageRow where
  fingerprint := "fp1"
  state := .reserved
  task_id := "A"
  account_id := 7
  order_id := ""
  created_at := "t0"
  updated_at := "t0"
  paid_at := ""

def fp2Row : UsageRow where
  fingerprint := "fp2"
  state := .blocked
  task_id := "B"
  account_id := 9
  order_id := ""
  created_at := "t0"
  updated_at := "t1"
  paid_at := ""

/- The reservation of A survives the release of B, the blocked row survives its own release, and the
   paid mark of B on the reservation of A stores nothing. -/
theorem usage_rows_guarded_two_tasks :
    (run plainDigest emptyDb (twoTaskOps ++ [.release "fp1" "B" 7 false])).usage.find? "fp1" =
      some fp1Row ∧
    (run plainDigest emptyDb (twoTaskOps ++ [.release "fp2" "B" 9 false])).usage.find? "fp2" =
      some fp2Row ∧
    (step plainDigest (run plainDigest emptyDb twoTaskOps)
      (.markPaid "fp1" "B" 7 "o" false none "t2" false)).1 =
      run plainDigest emptyDb twoTaskOps := by
  have hGuarded := usage_rows_guarded plainDigest emptyDb twoTaskOps
  rcases hGuarded with ⟨hReserved, hSealed, hFailed⟩
  refine ⟨?_, ?_, ?_⟩
  · exact hReserved "fp1" fp1Row _ (by decide) rfl (by decide)
  · exact hSealed "fp2" fp2Row _ (by decide) (.inr rfl)
  · exact hFailed "fp1" "B" 7 "o" false none "t2" false (by decide)
end PixCdkUsage
