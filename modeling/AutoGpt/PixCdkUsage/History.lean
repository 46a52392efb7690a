import AutoGpt.PixCdkUsage.Reservation

/-
  The paid history: it only grows, every payment that leaves
  the current table is on record, and it holds one row for
  each payment exactly when every migration meets a history
  that does not know its rows yet. The migration inserts
  without the existence check that the other writers make.

  Main declarations:
    * `PixCdkUsage.historyKey`
    * `PixCdkUsage.MigrationFresh`
    * `PixCdkUsage.history_step`
-/

open List
open Machine

----
-- Payments And Migrations
----

namespace PixCdkUsage

/- What identifies a payment in the history. -/
def historyKey (h : HistoryRow) :
    String × String × Int × String :=
  (h.fingerprint, h.task_id, h.account_id, h.order_id)

/- The payment that a legacy paid row stands for. -/
def paidKey (row : UsageRow) :
    String × String × Int × String :=
  (row.fingerprint, row.task_id, row.account_id, row.order_id)

def HistoryNodup (db : Db) : Prop := (db.history.map historyKey).Nodup

instance (db : Db) : Decidable (HistoryNodup db) := inferInstanceAs (Decidable (List.Nodup _))

/- No legacy row that the operation migrates is a payment the history already holds. -/
def MigrationFresh (db : Db) (op : Op) : Prop :=
  ∀ row ∈ migratedRows db op, ∀ h ∈ db.history, historyKey h ≠ paidKey row

instance (db : Db) (op : Op) :
    Decidable (MigrationFresh db op) :=
  inferInstanceAs (Decidable (∀ row ∈ _, ∀ h ∈ _, _))

@[simp] theorem historyKey_legacyHistoryRow (now : String) (row : UsageRow) :
    historyKey (legacyHistoryRow now row) = paidKey row :=
  rfl

----
-- What A Step Writes To The History
----

theorem insertPaidHistoryLocked_cases (history : List HistoryRow) (fp task : String) (account : Int)
    (order paidAt : String) :
    (insertPaidHistoryLocked history fp task account order paidAt = history ∧
      ∃ h ∈ history, historyKey h = (fp, task, account, order)) ∨
    (∃ h, insertPaidHistoryLocked history fp task account order paidAt = history ++ [h] ∧
      historyKey h = (fp, task, account, order) ∧
      ∀ h' ∈ history, historyKey h' ≠ (fp, task, account, order)) := by
  have hExists : paidHistoryExistsLocked history fp task account
          order ↔
        ∃ h ∈ history, historyKey h = (fp, task, account, order) := by
    simp [paidHistoryExistsLocked, historyKey, and_assoc]
  by_cases hKnown : paidHistoryExistsLocked history fp task account order
  · left
    exact ⟨by simp [insertPaidHistoryLocked, hKnown], hExists.mp hKnown⟩
  · right
    refine ⟨_, by
      simp only [insertPaidHistoryLocked, hKnown]
      rfl, rfl, ?_⟩
    intro h' hMem hKey
    exact hKnown (hExists.mpr ⟨h', hMem, hKey⟩)

/- `mark_paid` stores nothing, or it found the reservation it names and recorded the payment. -/
theorem markPaid_cases (fp task : String) (account : Int) (order : String)
    (retain : Bool) (holder : Option Int) (now : String) (dbError : Bool) (db : Db) :
    (markPaid fp task account order retain holder now dbError db).1 = db ∨
    (∃ row, db.usage.find? fp = some row ∧ isReservation fp task (holder.getD account) row ∧
      (markPaid fp task account order retain holder now
        dbError db).1.history = insertPaidHistoryLocked db.history fp task account order now) := by
  apply transaction_rule (Q := fun d => d = db ∨ ∃ row, db.usage.find? fp = some row ∧
        isReservation fp task (holder.getD account) row ∧
        d.history = insertPaidHistoryLocked db.history fp task account order now)
  · exact .inl rfl
  · intro a next _ hOk
    right
    split at hOk
    · cases hOk
    next row hFind =>
      have hKey := (KeyedTable.mem_of_find? hFind).2
      split_ifs at hOk with hChanged hCount <;>
        cases hOk
      all_goals
        rw [not_or, not_or, not_not, not_not, not_not] at hChanged
        exact ⟨row, hFind, isReservation_iff.mpr ⟨hKey, hChanged⟩, rfl⟩

/- A step appends the rows it migrates, or it migrates nothing and makes at most one idempotent
   insertion. -/
theorem history_step (digest : Digest) (db : Db) (op : Op) :
    (∃ now, (step digest db op).1.history =
      db.history ++ (migratedRows db op).map (legacyHistoryRow now)) ∨
    (migratedRows db op = [] ∧ ∃ fp task account order paidAt, (step digest db op).1.history =
          insertPaidHistoryLocked db.history fp task account order paidAt) := by
  cases op with
  | openStore => exact .inl ⟨"", by simp [step, migratedRows]⟩
  | historyFor value => exact .inl ⟨"", by simp [step, migratedRows]⟩
  | fingerprint value fresh dbError =>
    left
    refine ⟨"", ?_⟩
    simp only [step, fingerprint, migratedRows, map_nil, append_nil]
    split
    · rfl
    · cases dbError <;> rfl
  | statesFor fingerprints now dbError =>
    left
    refine ⟨now, ?_⟩
    cases dbError with
    | true =>
      simp only [step, statesFor, migratedRows, map_nil, append_nil]
      split <;> rfl
    | false =>
      simp only [step, statesFor, migratedRows]
      split
      · simp
      · simp [transaction, migrateLegacyPaidLocked, selectedValues_selectedValues]
  | reserve fp task account now dbError =>
    left
    refine ⟨now, ?_⟩
    cases dbError with
    | true =>
      simp only [step, reserve, migratedRows, map_nil, append_nil]
      split
      · rfl
      · split <;> rfl
    | false =>
      simp only [step, reserve, migratedRows]
      split
      · simp
      next hValue =>
        split <;>
          simp [transaction, migrateLegacyPaidLocked, selectedValues_singleton hValue]
  | release fp task account dbError =>
    left
    refine ⟨"", ?_⟩
    cases dbError <;>
      simp [step, release, transaction, migratedRows]
  | recordPaidHistory fp task account order paidAt now
      dbError =>
      simp only [step, recordPaidHistory, migratedRows, map_nil, append_nil]
      split
      · exact .inl ⟨"", rfl⟩
      · cases dbError with
        | true => exact .inl ⟨"", rfl⟩
        | false => exact .inr ⟨trivial, _, _, _, _, _, rfl⟩
  | markPaid fp task account order retain holder now
      dbError =>
      rcases markPaid_cases fp task account order retain
          holder now dbError db with
        hSame | ⟨row, hFind, hOwned, hHistory⟩
      · exact .inl ⟨"", by simp [step, hSame, migratedRows]⟩
      · exact .inr ⟨rfl, _, _, _, _, _, hHistory⟩
  | markUncertain fp task account order now dbError =>
    left
    refine ⟨"", ?_⟩
    cases dbError <;>
      simp [step, markUncertain, transaction, migratedRows]
  | markBlocked fp task account now dbError =>
    left
    refine ⟨"", ?_⟩
    cases dbError <;>
      simp [step, markBlocked, transaction, migratedRows]

theorem history_prefix_step (digest : Digest) (db : Db) (op : Op) :
    db.history <+: (step digest db op).1.history := by
  rcases history_step digest db op with
    ⟨now, hMigrated⟩ | ⟨_, fp, task, account, order, paidAt, hInserted⟩
  · rw [hMigrated]
    exact prefix_append _ _
  · rw [hInserted]
    rcases insertPaidHistoryLocked_cases db.history fp task
        account order paidAt with
      ⟨hSame, _⟩ | ⟨h, hNew, _⟩
    · rw [hSame]
    · rw [hNew]
      exact prefix_append _ _

theorem migratedRows_keys_nodup (db : Db) (op : Op) : ((migratedRows db op).map paidKey).Nodup := by
  have hFilter : ∀ p : UsageRow → Bool, ((db.usage.rows.filter p).map paidKey).Nodup := by
    intro p
    have hKeys : ((db.usage.rows.filter p).map UsageRow.fingerprint).Nodup :=
      db.usage.keys_nodup.sublist (List.Sublist.map _ filter_sublist)
    apply List.Nodup.of_map Prod.fst
    rw [map_map]
    exact hKeys
  unfold migratedRows
  split
  · split
    · exact nodup_nil
    · exact hFilter _
  · split
    · exact nodup_nil
    · exact hFilter _
  · exact nodup_nil

/- A step keeps the payments distinct exactly when the rows it migrates are new to the history. -/
theorem historyNodup_step_iff (digest : Digest) (op : Op) (hNodup : HistoryNodup db) :
    HistoryNodup (step digest db op).1 ↔ MigrationFresh db op := by
  rcases history_step digest db op with
    ⟨now, hMigrated⟩ | ⟨hNone, fp, task, account, order, paidAt, hInserted⟩
  · have hKeys : (step digest db op).1.history.map historyKey =
          db.history.map historyKey ++ (migratedRows db op).map paidKey := by
      rw [hMigrated, map_append, map_map]
      rfl
    unfold HistoryNodup
    rw [hKeys, nodup_append]
    constructor
    · rintro ⟨_, _, hDisjoint⟩ row hRow h hMem hKey
      exact hDisjoint _ (mem_map_of_mem hMem) _ (mem_map_of_mem hRow) hKey
    · intro hFresh
      refine ⟨hNodup, migratedRows_keys_nodup db op, ?_⟩
      intro a ha b hb hEq
      rcases mem_map.mp ha with ⟨h, hMem, rfl⟩
      rcases mem_map.mp hb with ⟨row, hRow, rfl⟩
      exact hFresh row hRow h hMem hEq
  · have hFresh : MigrationFresh db op := by
      simp [MigrationFresh, hNone]
    refine iff_of_true ?_ hFresh
    unfold HistoryNodup
    rw [hInserted]
    rcases insertPaidHistoryLocked_cases db.history fp task
        account order paidAt with
      ⟨hSame, _⟩ | ⟨h, hNew, hKey, hAbsent⟩
    · rw [hSame]
      exact hNodup
    · rw [hNew, map_append, nodup_append]
      refine ⟨hNodup, by simp, ?_⟩
      intro a ha b hb hEq
      rcases mem_map.mp ha with ⟨h', hMem, rfl⟩
      simp only [map_cons, map_nil, mem_singleton] at hb
      exact hAbsent h' hMem (hEq.trans (hb.trans hKey))

----
-- Evidence Of Removed Rows
----

/- A legacy paid row that the step takes out of the current table is appended to the history by the
   same step, and a reservation that `mark_paid` takes out leaves a history row of the payment it
   was used for. -/
def RemovedOnRecord (db : Db) (op : Op) (next : Db) : Prop := ∀ row ∈ db.usage.rows,
    next.usage.find? row.fingerprint ≠ some row →
    (row.state = .paid → ∃ h ∈ next.history.drop db.history.length, historyKey h = paidKey row) ∧
    (∀ fp task account order retain holder now dbError,
      op = .markPaid fp task account order retain holder now dbError → row.state = .reserved →
      ∃ h ∈ next.history, historyKey h = (row.fingerprint, row.task_id, account, order))

theorem mem_insertPaidHistoryLocked (history : List HistoryRow) (fp task : String) (account : Int)
    (order paidAt : String) :
    ∃ h ∈ insertPaidHistoryLocked history fp task account order paidAt,
      historyKey h = (fp, task, account, order) := by
  rcases insertPaidHistoryLocked_cases history fp task
      account order paidAt with
    ⟨hSame, hKnown⟩ | ⟨h, hNew, hKey, _⟩
  · rw [hSame]
    exact hKnown
  · rw [hNew]
    exact ⟨h, by simp, hKey⟩

theorem removedOnRecord_step (digest : Digest) (db : Db) (op : Op) :
    RemovedOnRecord db op (step digest db op).1 := by
  intro row hRow hGone
  have hTouched : Touches db op row := by
    by_contra hNot
    exact hGone (find?_step_of_not_touched digest op hRow hNot)
  rcases hTouched with hMigrated | ⟨hState, hNamed⟩
  · constructor
    · intro _
      rcases history_step digest db op with ⟨now, hAppended⟩ | ⟨hNone, _⟩
      · rw [hAppended, drop_left]
        exact ⟨_, mem_map_of_mem hMigrated, historyKey_legacyHistoryRow now row⟩
      · rw [hNone] at hMigrated
        simp at hMigrated
    · rintro fp task account order retain holder now
        dbError rfl
      simp [migratedRows] at hMigrated
  · constructor
    · intro hPaid
      rw [hState] at hPaid
      cases hPaid
    · rintro fp task account order retain holder now
        dbError rfl _
      rcases markPaid_cases fp task account order retain
          holder now dbError db with
        hSame | ⟨r, _, _, hHistory⟩
      · apply absurd _ hGone
        simp only [step, hSame]
        exact KeyedTable.find?_of_mem hRow
      · simp only [namedOwner] at hNamed
        split_ifs at hNamed with hFp
        rw [Option.some.injEq, Prod.mk.injEq] at hNamed
        simp only [step, hHistory, ← hFp, ← hNamed.1]
        exact mem_insertPaidHistoryLocked db.history _ _ _ _ _

----
-- The History Over Whole Runs
----

/- What a run owes to payments: in every state it passes, no recorded row was lost and no payment is
   recorded twice, and every operation leaves the rows it removes on record. -/
structure HistorySound (digest : Digest) (db : Db) (ops : List Op) : Prop where
  grows : ∀ before after, ops = before ++ after →
      (run digest db before).history <+: (run digest db ops).history
  nodup : ∀ before after, ops = before ++ after → HistoryNodup (run digest db before)
  onRecord : ∀ before op after, ops = before ++ op :: after →
      RemovedOnRecord (run digest db before) op (run digest db (before ++ [op]))

theorem history_prefix_run (digest : Digest) (db : Db) (ops : List Op) :
    db.history <+: (run digest db ops).history := by
  apply run_rel (P := fun _ => True) (R := fun d d' : Db => d.history <+: d'.history)
  · exact fun d => prefix_rfl
  · exact fun _ _ _ => List.IsPrefix.trans
  · exact fun _ _ _ => trivial
  · exact fun d op _ => history_prefix_step digest d op
  · trivial

/- The history stays sound exactly in the runs whose migrations are all new to it. -/
theorem historySound_iff_fresh_migrations (digest : Digest) (db : Db) (ops : List Op)
    (hInit : HistoryNodup db) :
    HistorySound digest db ops ↔ Machine.Steps (step digest) MigrationFresh db ops := by
  constructor
  · intro hSound
    rw [steps_iff_forall_split]
    intro before op after hSplit
    have hBefore := hSound.nodup before (op :: after) hSplit
    have hAfter := hSound.nodup (before ++ [op]) after (by simp [hSplit])
    rw [run, run_append] at hAfter
    exact (historyNodup_step_iff digest op hBefore).mp hAfter
  · intro hFresh
    constructor
    · rintro before after rfl
      rw [run, run, run_append]
      exact history_prefix_run digest _ after
    · rintro before after rfl
      rw [steps_append] at hFresh
      exact run_induction_of_steps (C := MigrationFresh)
          (fun d op hNodup hNew => (historyNodup_step_iff digest op hNodup).mpr hNew) hInit hFresh.1
    · intro before op after _
      rw [run, run, run_append]
      exact removedOnRecord_step digest _ op

/- A legacy paid row next to the history row it stands for. -/
def legacyDb : Db where
  usage := KeyedTable.empty.insertNew
      { fingerprint := "fp1", state := .paid, task_id := "A", account_id := 7, order_id := "o1",
        created_at := "t0", updated_at := "t1", paid_at := "t1" }
  history :=
    [{ fingerprint := "fp1", task_id := "A", account_id := 7, order_id := "o1", paid_at := "t1",
       created_at := "t1" }]
  hmac_secret := ""

/- The migration writes the known payment a second time. -/
theorem legacy_payment_recorded_twice :
    HistoryNodup legacyDb ∧
      ¬ HistorySound plainDigest legacyDb [.statesFor ["fp1"] "t2" false] := by
  constructor
  · decide
  · intro hSound
    have hNodup := hSound.nodup [.statesFor ["fp1"] "t2" false] [] rfl
    revert hNodup
    decide

/- With an empty history the migration of the same row is sound. -/
theorem historySound_of_first_migration :
    HistorySound plainDigest { legacyDb with history := [] } [.statesFor ["fp1"] "t2" false] := by
  rw [historySound_iff_fresh_migrations plainDigest _ _ (by decide)]
  constructor
  · decide
  · trivial

end PixCdkUsage
