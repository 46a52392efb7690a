import AutoGpt.SharedConfig.Model

/-
  The chain of revisions of the shared configuration: what
  one write does to items, revision and audit log, and what
  holds of the three after any transactions.

  Main theorems: `readAll_write`, `write_cases`, `shared_config_chain`
-/

open List
open KeyedTable

----
-- Filtered Input
----

namespace SharedConfig

variable {result : Config} {k : String}

theorem mem_addShareable (hMem : k ∈ addShareable result entry) :
    is_shareable_key k ∨ k ∈ result := by
  unfold addShareable at hMem
  dsimp only at hMem
  split at hMem
  next hShare =>
    rcases Finmap.mem_insert.mp hMem with hSame | hOld
    · left
      rw [hSame]
      exact hShare
    · exact .inr hOld
  · exact .inr hMem

theorem mem_foldl_addShareable (data : List (String × Option String))
    (hMem : k ∈ data.foldl addShareable result) : is_shareable_key k ∨ k ∈ result := by
  induction data generalizing result with
  | nil =>
    rw [foldl_nil] at hMem
    exact .inr hMem
  | cons entry data ih =>
    rw [foldl_cons] at hMem
    rcases ih hMem with hShare | hOld
    · exact .inl hShare
    · exact mem_addShareable hOld

theorem shareable_of_mem_filter
    (hMem : k ∈ filter_shareable_config data) : is_shareable_key k := by
  rcases mem_foldl_addShareable data hMem with hShare | hEmpty
  · exact hShare
  · exact absurd hEmpty Finmap.notMem_empty

----
-- The Written Items
----

theorem lookup_readAll (db : Db) (k : String) :
    db.readAll.lookup k = (db.items.find? k).map ItemRow.value := by
  unfold Db.readAll KeyedTable.find?
  rw [Finmap.dlookup_list_toFinmap]
  induction db.items.rows with
  | nil => rfl
  | cons r rows ih =>
    by_cases hKey : r.key = k
    · subst hKey
      simp
    · rw [map_cons, dlookup_cons_ne _ _ (fun hSame => hKey hSame.symm), ih,
        find?_cons_of_neg (by simpa using hKey)]

theorem find?_upsertAll (call : WriteCall) (revision : Nat) (after : Config)
    (items : KeyedTable ItemRow String ItemRow.key) (keys : List String) (k : String) :
    (upsertAll call revision after items keys).find? k =
      if k ∈ keys then some ⟨k, (after.lookup k).getD "", revision, call.now, call.updated_by⟩
      else items.find? k := by
  unfold upsertAll
  induction keys generalizing items with
  | nil => simp
  | cons k' keys ih =>
    rw [foldl_cons, ih]
    by_cases hTail : k ∈ keys
    · rw [if_pos hTail, if_pos (mem_cons_of_mem _ hTail)]
    · rw [if_neg hTail, find?_put]
      by_cases hHead : k' = k
      · subst hHead
        rw [if_pos rfl, if_pos mem_cons_self]
      · rw [if_neg hHead, if_neg]
        intro hMem
        rcases mem_cons.mp hMem with hSame | hIn
        · exact hHead hSame.symm
        · exact hTail hIn

/- What a write makes of the items, read back as a whole. -/
theorem lookup_writtenItems (call : WriteCall) (revision : Nat) (db : Db) (k : String) :
    ((writtenItems call revision db.readAll db.items).find? k).map ItemRow.value =
      (call.target db.readAll).lookup k := by
  unfold writtenItems
  rw [find?_upsertAll]
  simp only [Finset.mem_sort, Finmap.mem_keys]
  by_cases hSafe : k ∈ filter_shareable_config call.data
  · rw [if_pos hSafe]
    have hTarget : k ∈ call.target db.readAll := by
      unfold WriteCall.target
      split
      · exact hSafe
      · exact Finmap.mem_union.mpr (.inl hSafe)
    rcases Finmap.mem_iff.mp hTarget with ⟨v, hv⟩
    rw [hv]
    rfl
  · rw [if_neg hSafe]
    by_cases hReplace : call.replace
    · have hTarget : call.target db.readAll = filter_shareable_config call.data := by
        unfold WriteCall.target
        rw [if_pos hReplace]
      rw [if_pos hReplace, hTarget, Finmap.lookup_eq_none.mpr hSafe, find?_deleteWhere]
      cases hFind : db.items.find? k with
      | none => rfl
      | some r =>
        have hKey := (mem_of_find? hFind).2
        have hOld : k ∈ db.readAll := by
          rw [Finmap.mem_iff]
          refine ⟨r.value, ?_⟩
          rw [lookup_readAll, hFind]
          rfl
        rw [Option.filter_some, if_neg]
        · rfl
        · simp [hKey, Finmap.mem_keys, hOld, hSafe]
    · have hTarget : call.target db.readAll = filter_shareable_config call.data ∪
              db.readAll := by
        unfold WriteCall.target
        rw [if_neg hReplace]
      rw [if_neg hReplace, hTarget, Finmap.lookup_union_right hSafe, lookup_readAll]

----
-- One Write
----

theorem readAll_eq {db : Db}
    (hSame : ∀ k, (db.items.find? k).map ItemRow.value = c.lookup k) : db.readAll = c := by
  apply Finmap.ext_lookup
  intro k
  rw [lookup_readAll, hSame]

theorem changedKeys_eq_nil_iff (before after : Config) :
    changedKeys before after = [] ↔ after = before := by
  constructor
  · intro hNil
    apply Finmap.ext_lookup
    intro k
    by_contra hDiffer
    have hMem : k ∈ changedKeys before after := by
      unfold changedKeys
      rw [Finset.mem_sort, Finset.mem_filter, Finset.mem_union]
      refine ⟨?_, fun hSame => hDiffer hSame.symm⟩
      by_contra hNeither
      rw [not_or, Finmap.mem_keys, Finmap.mem_keys, ← Finmap.lookup_eq_none,
        ← Finmap.lookup_eq_none] at hNeither
      exact hDiffer (hNeither.2.trans hNeither.1.symm)
    rw [hNil] at hMem
    cases hMem
  · intro hSame
    unfold changedKeys
    rw [hSame]
    simp

theorem mem_changedKeys (before after : Config) (k : String) :
    k ∈ changedKeys before after ↔ before.lookup k ≠ after.lookup k := by
  unfold changedKeys
  rw [Finset.mem_sort, Finset.mem_filter, Finset.mem_union]
  constructor
  · exact fun hMem => hMem.2
  · intro hDiffer
    refine ⟨?_, hDiffer⟩
    by_contra hNeither
    rw [not_or, Finmap.mem_keys, Finmap.mem_keys, ← Finmap.lookup_eq_none,
      ← Finmap.lookup_eq_none] at hNeither
    exact hDiffer (hNeither.1.trans hNeither.2.symm)

/- A write that took effect: one revision more, the target data, and one audit row of this revision
   with both digests and exactly the keys that differ. -/
structure Effective (env : Env) (call : WriteCall) (db db' : Db) : Prop where
  revision : db'.config.revision = db.config.revision + 1
  data : db'.readAll = call.target db.readAll
  audit : ∃ row, db'.audit = db.audit ++ [row] ∧ row.revision = db'.config.revision ∧
      row.base_revision = db.config.revision ∧ row.before_hash = hash_config env db.readAll ∧
      row.after_hash = hash_config env db'.readAll ∧
      ∀ k, k ∈ row.changed_keys ↔ db.readAll.lookup k ≠ db'.readAll.lookup k
  keys : ∀ r ∈ db'.items.rows, is_shareable_key r.key ∨ r.key ∈ db.readAll

theorem mem_readAll_of_mem_rows {db : Db} (hRow : r ∈ db.items.rows) : r.key ∈ db.readAll := by
  rw [Finmap.mem_iff]
  refine ⟨r.value, ?_⟩
  rw [lookup_readAll, find?_of_mem hRow]
  rfl

/- A write leaves everything as it was, being stale, without effect or rolled back; or it takes
   effect. -/
theorem write_cases (env : Env) (call : WriteCall) (db : Db) :
    (write env call db).1 = db ∧ (call.stale db.config.revision ∨
          call.target db.readAll = db.readAll ∨ call.aborts) ∨
      Effective env call db (write env call db).1 := by
  unfold write
  dsimp only
  split
  next hStale =>
    exact .inl ⟨rfl, .inl hStale⟩
  · split
    next hNil =>
      rw [changedKeys_eq_nil_iff] at hNil
      exact .inl ⟨rfl, .inr (.inl hNil)⟩
    · split
      next hAborts =>
        exact .inl ⟨rfl, .inr (.inr hAborts)⟩
      · right
        have hData : ∀ config audit, (⟨writtenItems call (db.config.revision + 1)
                  db.readAll db.items, config, audit⟩ :
                  Db).readAll =
                call.target db.readAll := by
          intro config audit
          exact readAll_eq (lookup_writtenItems call _ db)
        refine ⟨rfl, hData _ _, ⟨_, rfl, rfl, rfl, rfl, ?_, ?_⟩, ?_⟩
        · rw [hData]
        · intro k
          rw [hData]
          exact mem_changedKeys _ _ k
        · intro r hr
          have hMem := mem_readAll_of_mem_rows hr
          rw [hData] at hMem
          unfold WriteCall.target at hMem
          dsimp only at hMem
          split at hMem
          · exact .inl (shareable_of_mem_filter hMem)
          · rcases Finmap.mem_union.mp hMem with hNew | hOld
            · exact .inl (shareable_of_mem_filter hNew)
            · exact .inr hOld

----
-- All Transactions
----

/- The log has one row for each revision, based on the one before, its digests form a chain that
   ends at the data, and every stored key is shareable. -/
structure Chained (env : Env) (db : Db) : Prop where
  revisions : db.audit.map (fun r => (r.revision, r.base_revision)) =
      (List.range db.config.revision).map (fun n => (n + 1, n))
  hashes : List.IsChain (fun a b : AuditRow => b.before_hash = a.after_hash) db.audit
  last : ∀ row ∈ db.audit.getLast?, row.after_hash = hash_config env db.readAll
  shareable : ∀ r ∈ db.items.rows, is_shareable_key r.key

variable {env : Env} {db : Db}

theorem chained_initial (env : Env) :
    Chained env Db.initial where
  revisions := rfl
  hashes := List.IsChain.nil
  last := by
    intro row hRow
    cases hRow
  shareable := by
    intro r hr
    cases hr

theorem Chained.shareable_data (hChained : Chained env db) (hMem : k ∈ db.readAll) :
    is_shareable_key k := by
  rcases Finmap.mem_iff.mp hMem with ⟨v, hv⟩
  rw [lookup_readAll] at hv
  rcases Option.map_eq_some_iff.mp hv with ⟨r, hFind, _⟩
  have hRow := mem_of_find? hFind
  rw [← hRow.2]
  exact hChained.shareable r hRow.1

theorem Chained.effective (hChained : Chained env db)
    (hEffective : Effective env call db db') : Chained env db' := by
  rcases hEffective.audit with ⟨row, hAudit, hRevision, hBase, hBefore, hAfter, _⟩
  constructor
  · rw [hAudit, map_append, hChained.revisions,
      hEffective.revision, range_succ, map_append]
    simp only [map_cons, map_nil, hRevision, hBase, hEffective.revision]
  · rw [hAudit, isChain_append]
    refine ⟨hChained.hashes, isChain_singleton row, ?_⟩
    intro a ha b hb
    rw [head?_cons, Option.mem_some_iff] at hb
    rw [← hb, hBefore, hChained.last a ha]
  · intro last hLast
    rw [hAudit, getLast?_concat, Option.mem_some_iff] at hLast
    rw [← hLast, hAfter]
  · intro r hr
    rcases hEffective.keys r hr with hShare | hOld
    · exact hShare
    · exact hChained.shareable_data hOld

theorem Chained.redact (hChained : Chained env db) : Chained env (redact_legacy_audit env db) := by
  constructor
  · simp only [redact_legacy_audit, map_map]
    exact hChained.revisions
  · simp only [redact_legacy_audit, isChain_map]
    exact hChained.hashes
  · intro row hRow
    simp only [redact_legacy_audit, getLast?_map,
      Option.mem_def, Option.map_eq_some_iff] at hRow
    rcases hRow with ⟨old, hOld, rfl⟩
    exact hChained.last old hOld
  · exact hChained.shareable

theorem chained_step (hChained : Chained env db) (op : Op) : Chained env (step env db op).1 := by
  cases op with
  | write call =>
    rcases write_cases env call db with ⟨hSame, _⟩ | hEffective
    · simp only [step, hSame]
      exact hChained
    · exact hChained.effective hEffective
  | redact => exact hChained.redact

theorem chained_after (env : Env) (ops : List Op) : Chained env (after env ops) :=
  Machine.run_induction (P := Chained env) (fun _ op hChained => chained_step hChained op)
    (chained_initial env) ops

/- After any transactions of any instances the log is a chain with one row for each revision and
   only shareable keys are stored. A further write is without any effect when it is stale, changes
   nothing or is rolled back, and effective otherwise; with `replace` it leaves exactly its filtered
   input. -/
theorem shared_config_chain (env : Env) (ops : List Op) :
    Chained env (after env ops) ∧ ∀ call, ((call.stale (after env ops).config.revision ∨
            call.target (after env ops).readAll = (after env ops).readAll ∨ call.aborts) →
          (write env call (after env ops)).1 = after env ops) ∧
        (¬ (call.stale (after env ops).config.revision ∨
            call.target (after env ops).readAll = (after env ops).readAll ∨ call.aborts) →
          Effective env call (after env ops) (write env call (after env ops)).1) ∧
        (call.stale (after env ops).config.revision = false →
          call.aborts = false → call.replace →
            (write env call (after env ops)).1.readAll = filter_shareable_config call.data) := by
  refine ⟨chained_after env ops, ?_⟩
  intro call
  generalize after env ops = db
  have hNone : (call.stale db.config.revision ∨ call.target db.readAll = db.readAll ∨
          call.aborts) →
        (write env call db).1 = db := by
    rintro (hStale | hSame | hAborts)
    · unfold write
      simp only [hStale, if_true]
    · have hNil := (changedKeys_eq_nil_iff db.readAll (call.target db.readAll)).mpr hSame
      unfold write
      simp only [hNil, if_true]
      split <;> rfl
    · unfold write
      simp only [hAborts, if_true]
      split
      · rfl
      · split <;> rfl
  have hSome : ¬ (call.stale db.config.revision ∨ call.target db.readAll = db.readAll ∨
          call.aborts) →
        Effective env call db (write env call db).1 := by
    intro hOpen
    rcases write_cases env call db with ⟨_, hClosed⟩ | hEffective
    · exact absurd hClosed hOpen
    · exact hEffective
  refine ⟨hNone, hSome, ?_⟩
  intro hFresh hRuns hReplace
  have hTarget : call.target db.readAll = filter_shareable_config call.data := by
    unfold WriteCall.target
    rw [if_pos hReplace]
  by_cases hSame : call.target db.readAll = db.readAll
  · rw [hNone (.inr (.inl hSame)), ← hTarget, hSame]
  · have hOpen : ¬ (call.stale db.config.revision ∨ call.target db.readAll = db.readAll ∨
            call.aborts) := by
      simp [hFresh, hRuns, hSame]
    rw [(hSome hOpen).data, hTarget]

end SharedConfig
