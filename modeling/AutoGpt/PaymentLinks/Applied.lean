import AutoGpt.PaymentLinks.Import

/-
  What one applied plan of the history import does to the
  accounts and to the generations of its target.

  Main theorems: `find?_apply_target_plan`, `upserts_succeed`, `upserts_rows`
-/

open KeyedTable (find?_updateWhere mem_of_find? rows_insertNew updateKey updateWhere)
open List

----
-- Accounts After The Cache Updates
----

namespace PaymentLinks

variable (env : Env)

/- The row of a planned account after the transaction. -/
def cachedRow (now_iso : String) (sn : Snapshot) (records : List PlannedRecord) (id : Nat)
    (row : Account) : Account :=
  match sn.account id, latest_by_account records id with
  | some a, some s =>
    match a.extra with
    | none => row
    | some extra =>
      if current_cache_should_be_replaced env extra s ∧ row.platform = "chatgpt" then
        linked_account env now_iso extra s row
      else row
  | _, _ => row

variable {sn : Snapshot} {id : Nat}
theorem Snapshot.account_id_of_account (hFind : sn.account id = some a) : a.account_id = id := by
  simpa using find?_some hFind

/- A lookup after the cache update of one account. -/
theorem find?_update_planned_cache (now_iso : String) (sn : Snapshot) (records : List PlannedRecord)
    (accounts : Accounts) (id k : Nat) :
    (update_planned_cache env now_iso sn records accounts
        id).find? k =
      if k = id then (accounts.find? k).map (cachedRow env now_iso sn records k)
      else accounts.find? k := by
  by_cases hId : k = id
  · subst hId
    rw [if_pos rfl]
    unfold update_planned_cache cachedRow
    cases hAccount : sn.account k with
    | none => simp
    | some a =>
      have hA := Snapshot.account_id_of_account hAccount
      cases latest_by_account records k with
      | none => simp
      | some s =>
        unfold update_current_cache
        cases hExtra : a.extra with
        | none => simp [hExtra]
        | some extra =>
          dsimp only
          rw [hExtra]
          dsimp only
          by_cases hReplace : current_cache_should_be_replaced env extra s
          · rw [if_pos hReplace, find?_updateWhere]
            cases hFind : accounts.find? k with
            | none => rfl
            | some row =>
              have hRow := (mem_of_find? hFind).2
              simp [hReplace, hRow, hA]
          · rw [if_neg hReplace]
            simp [hReplace]
  · rw [if_neg hId]
    unfold update_planned_cache
    cases hAccount : sn.account id with
    | none => rfl
    | some a =>
      have hA := Snapshot.account_id_of_account hAccount
      cases latest_by_account records id with
      | none => rfl
      | some s =>
        unfold update_current_cache
        dsimp only
        split
        · rfl
        · split
          · rw [find?_updateWhere]
            cases hFind : accounts.find? k with
            | none => rfl
            | some row =>
              have hRow := (mem_of_find? hFind).2
              simp [hRow, hA, hId]
          · rfl

theorem find?_update_planned_caches (now_iso : String) (sn : Snapshot)
    (records : List PlannedRecord) {ids : List Nat} (hNodup : ids.Nodup) (accounts : Accounts)
    (k : Nat) :
    (ids.foldl (update_planned_cache env now_iso sn records)
        accounts).find? k =
      if k ∈ ids then (accounts.find? k).map (cachedRow env now_iso sn records k)
      else accounts.find? k := by
  induction ids generalizing accounts with
  | nil => simp
  | cons id ids ih =>
    rw [nodup_cons] at hNodup
    rw [foldl_cons, ih hNodup.2, find?_update_planned_cache]
    by_cases hId : k = id
    · subst hId
      rw [if_neg hNodup.1, if_pos rfl, if_pos (by simp)]
    · by_cases hMem : k ∈ ids
      · rw [if_pos hMem, if_neg hId, if_pos (by simp [hMem])]
      · rw [if_neg hMem, if_neg hId, if_neg (by simp [hMem, hId])]

theorem latest_eq_none (hNot : id ∉ planned_accounts records) :
    latest_by_account records id = none := by
  have hNil : records.filter (fun r => decide (r.account.account_id = id)) = [] := by
    rw [filter_eq_nil_iff]
    intro r hr hId
    apply hNot
    unfold planned_accounts
    rw [mem_dedup]
    exact mem_map.mpr ⟨r, hr, by simpa using hId⟩
  unfold latest_by_account
  rw [hNil]
  rfl

/- The accounts after an applied plan: each row is the cached one. -/
theorem find?_apply_target_plan {now_iso : String} {t t' : Target}
    (hApply : apply_target_plan env now_iso sn records t = some t') (k : Nat) :
    t'.accounts.find? k = (t.accounts.find? k).map (cachedRow env now_iso sn records k) := by
  have hSame : latest_by_account records k = none →
        (t.accounts.find? k).map (cachedRow env now_iso sn records k) = t.accounts.find? k := by
    intro hNone
    have hId : cachedRow env now_iso sn records k = id := by
      funext row
      unfold cachedRow
      rw [hNone]
      split
      next hBad =>
        cases hBad
      · rfl
    rw [hId, Option.map_id]
    rfl
  unfold apply_target_plan at hApply
  split at hApply
  next hEmpty =>
    cases hApply
    rw [hSame]
    rw [isEmpty_iff.mp hEmpty]
    rfl
  · rcases Option.map_eq_some_iff.mp hApply with
      ⟨generations, _, hEq⟩
    subst hEq
    have hNodup : (planned_accounts records).Nodup := nodup_dedup _
    rw [find?_update_planned_caches env now_iso sn records hNodup]
    by_cases hMem : k ∈ planned_accounts records
    · exact if_pos hMem
    · rw [if_neg hMem, hSame (latest_eq_none hMem)]

----
-- Rows After The Upserts
----

variable (schema : Schema) (now_iso : String)

/- What a record writes into the row it was matched with. -/
def writtenRow (r : PlannedRecord) (row : Generation) :
    Generation :=
  match r.generation_action with
  | .existing => withIdentity schema r.account row
  | _ => updated_generation env schema now_iso r row

/- What the upsert of a record makes of a row. -/
def touchRow (row : Generation) (r : PlannedRecord) :
    Generation :=
  match r.existing_generation with
  | some g =>
    if row.id = g.generation_id then writtenRow env schema now_iso r row
    else row
  | none => row

/- What all upserts together make of a row. -/
def finalRow (rs : List PlannedRecord) (row : Generation) :
    Generation :=
  rs.foldl (touchRow env schema now_iso) row

/- The columns of a generation that no upsert writes. -/
def Generation.core (g : Generation) :
    Nat × Nat × String × String :=
  (g.id, g.account_id, g.request_id, g.remote_job_id)

@[simp] theorem core_touchRow (row : Generation) (r : PlannedRecord) :
    (touchRow env schema now_iso row r).core = row.core := by
  unfold touchRow
  split
  · split
    · unfold writtenRow
      split <;> rfl
    · rfl
  · rfl

@[simp] theorem core_finalRow (rs : List PlannedRecord) (row : Generation) :
    (finalRow env schema now_iso rs row).core = row.core := by
  unfold finalRow
  induction rs generalizing row with
  | nil => rfl
  | cons r rs ih => rw [foldl_cons, ih, core_touchRow]

theorem writtenRow_id (r : PlannedRecord) (row : Generation) :
    (writtenRow env schema now_iso r row).id = row.id := by
  unfold writtenRow
  split <;> rfl

theorem writtenRow_request_id (r : PlannedRecord) (row : Generation) :
    (writtenRow env schema now_iso r row).request_id = row.request_id := by
  unfold writtenRow
  split <;> rfl

variable {rs : List PlannedRecord}

theorem upsert_matched (g : Generations) (hExisting : r.existing_generation = some x) :
    upsert_generation env schema now_iso g r = some (g.updateKey x.generation_id
        (writtenRow env schema now_iso r) (writtenRow_id env schema now_iso r)
        (writtenRow_request_id env schema now_iso r)) := by
  unfold upsert_generation
  rw [hExisting]
  cases hAction : r.generation_action with
  | existing =>
    have hSame : writtenRow env schema now_iso r = withIdentity schema r.account := by
      funext row
      unfold writtenRow
      rw [hAction]
    dsimp only
    congr 1
    unfold Generations.updateKey
    simp only [hSame]
  | insert =>
    have hSame : writtenRow env schema now_iso r = updated_generation env schema now_iso r := by
      funext row
      unfold writtenRow
      rw [hAction]
    dsimp only
    congr 1
    unfold Generations.updateKey
    simp only [hSame]
  | update =>
    have hSame : writtenRow env schema now_iso r = updated_generation env schema now_iso r := by
      funext row
      unfold writtenRow
      rw [hAction]
    dsimp only
    congr 1
    unfold Generations.updateKey
    simp only [hSame]

theorem upsert_unmatched (g : Generations) (hNone : r.existing_generation = none)
    (hSchema : schema.insert_defaults) :
    upsert_generation env schema now_iso g r = g.insert? (inserted_generation env schema now_iso r)
        (inserted_generation_id env schema now_iso r) := by
  unfold upsert_generation
  rw [hNone]
  cases r.generation_action <;> simp [hSchema]

theorem request_ids_updateKey (g : Generations) (id : Nat) (f : Generation → Generation)
    (hId : ∀ r, (f r).id = r.id) (hRequest : ∀ r, (f r).request_id = r.request_id) :
    (g.updateKey id f hId hRequest).table.rows.map Generation.request_id =
      g.table.rows.map Generation.request_id := by
  unfold Generations.updateKey updateKey updateWhere
  rw [map_map]
  apply map_congr_left
  intro r _
  by_cases hr : r.id = id <;> simp [hr, hRequest]

theorem insert?_of_fresh (g : Generations) (row : Nat → Generation) (hId : ∀ id, (row id).id = id)
    (hFresh : (row g.table.nextId).request_id ∉ g.table.rows.map Generation.request_id) :
    ∃ g', g.insert? row hId = some g' ∧ g'.table.rows = g.table.rows ++ [row g.table.nextId] := by
  unfold Generations.insert?
  rw [dif_neg hFresh]
  refine ⟨_, rfl, ?_⟩
  apply rows_insertNew
  rw [hId]
  exact g.table.find?_nextId

/- Upserts whose inserts are admitted, have distinct request ids, and meet none of the table, all
   succeed. -/
theorem upserts_succeed
    (hSchema : ∀ r ∈ rs, r.existing_generation = none → schema.insert_defaults)
    (hNodup : ((rs.filter
        (fun r => r.existing_generation.isNone)).map (fun r => r.source.request_id)).Nodup)
    (g : Generations) (hFresh : ∀ r ∈ rs, r.existing_generation = none →
        r.source.request_id ∉ g.table.rows.map Generation.request_id) :
    ∃ g', rs.foldlM (upsert_generation env schema now_iso) g = some g' := by
  induction rs generalizing g with
  | nil => exact ⟨g, rfl⟩
  | cons r rs ih =>
    have hSchema' : ∀ r ∈ rs, r.existing_generation = none → schema.insert_defaults :=
      fun x hx => hSchema x (mem_cons_of_mem _ hx)
    rw [foldlM_cons]
    cases hExisting : r.existing_generation with
    | some x =>
      rw [upsert_matched env schema now_iso g hExisting]
      apply ih hSchema'
      · rw [filter_cons_of_neg (by simp [hExisting])]
          at hNodup
        exact hNodup
      · intro r' hr' hNone
        rw [request_ids_updateKey]
        exact hFresh r' (mem_cons_of_mem _ hr') hNone
    | none =>
      rw [filter_cons_of_pos (by simp [hExisting]), map_cons, nodup_cons] at hNodup
      rcases insert?_of_fresh g
          (inserted_generation env schema now_iso r)
          (inserted_generation_id env schema now_iso r)
          (hFresh r mem_cons_self hExisting) with
        ⟨g', hInsert, hRows⟩
      rw [upsert_unmatched env schema now_iso g hExisting
        (hSchema r mem_cons_self hExisting), hInsert]
      apply ih hSchema' hNodup.2
      intro r' hr' hNone
      rw [hRows, map_append, mem_append, not_or]
      refine ⟨hFresh r' (mem_cons_of_mem _ hr') hNone, ?_⟩
      intro hMem
      apply hNodup.1
      simp only [map_cons, map_nil, mem_singleton] at hMem
      refine mem_map.mpr ⟨r', mem_filter.mpr ⟨hr', by simp [hNone]⟩, ?_⟩
      exact hMem

/- The rows after the upserts: every old row as the records matched with it leave it, and one new
   row for each record without a generation. -/
theorem upserts_rows (hRun : rs.foldlM (upsert_generation env schema now_iso) g = some g')
    (hRows : g.table.rows = old ++ new) (hMatched :
      ∀ r ∈ rs, ∀ x, r.existing_generation = some x → ∃ row ∈ old, row.id = x.generation_id) :
    ∃ added, g'.table.rows = old.map (finalRow env schema now_iso rs) ++ (new ++ added) ∧
        List.Forall₂
          (fun r n => ∃ id, n = inserted_generation env schema now_iso r id)
          (rs.filter (fun r => r.existing_generation.isNone))
          added := by
  induction rs generalizing g old new with
  | nil =>
    cases hRun
    refine ⟨[], ?_, .nil⟩
    rw [hRows, append_nil]
    congr 1
    exact (map_id old).symm
  | cons r rs ih =>
    rw [foldlM_cons] at hRun
    have hMatched' :
        ∀ r ∈ rs, ∀ x, r.existing_generation = some x → ∃ row ∈ old, row.id = x.generation_id :=
      fun x hx => hMatched x (mem_cons_of_mem _ hx)
    cases hExisting : r.existing_generation with
    | some x =>
      rw [upsert_matched env schema now_iso g hExisting] at hRun
      have hTouch : ∀ row : Generation, touchRow env schema now_iso row r =
              if row.id = x.generation_id then writtenRow env schema now_iso r row
              else row := by
        intro row
        unfold touchRow
        rw [hExisting]
      have hNew : ∀ row ∈ new, row.id ≠ x.generation_id := by
        intro row hRow hId
        rcases hMatched r mem_cons_self x hExisting with ⟨row', hRow', hId'⟩
        have hNodup := g.table.keys_nodup
        rw [hRows, map_append, nodup_append] at hNodup
        exact hNodup.2.2 _ (mem_map_of_mem hRow') _ (mem_map_of_mem hRow)
            (hId'.trans hId.symm)
      have hNext : (g.updateKey x.generation_id
            (writtenRow env schema now_iso r)
            (writtenRow_id env schema now_iso r)
            (writtenRow_request_id env schema now_iso r)).table.rows =
            old.map (fun row => touchRow env schema now_iso row r) ++ new := by
        unfold Generations.updateKey updateKey updateWhere
        dsimp only
        rw [hRows, map_append]
        congr 1
        · apply map_congr_left
          intro row _
          rw [hTouch]
          simp
        · conv_rhs => rw [← map_id new]
          apply map_congr_left
          intro row hRow
          rw [if_neg (by simp [hNew row hRow])]
          rfl
      have hMatched'' : ∀ r' ∈ rs, ∀ x, r'.existing_generation = some x → ∃ row ∈ old.map
                (fun row => touchRow env schema now_iso row r),
              row.id = x.generation_id := by
        intro r' hr' y hy
        rcases hMatched' r' hr' y hy with ⟨row, hRow, hId⟩
        refine ⟨_, mem_map_of_mem hRow, ?_⟩
        have hCore := congrArg Prod.fst (core_touchRow env schema now_iso row r)
        exact hCore.trans hId
      rcases ih hRun hNext hMatched'' with ⟨added, hAdded, hAll⟩
      refine ⟨added, ?_, ?_⟩
      · rw [hAdded, map_map]
        rfl
      · rw [filter_cons_of_neg (by simp [hExisting])]
        exact hAll
    | none =>
      cases hUpsert : upsert_generation env schema now_iso g r with
      | none =>
        rw [hUpsert] at hRun
        cases hRun
      | some g₁ =>
        rw [hUpsert] at hRun
        have hInsert : g₁.table.rows = g.table.rows ++
              [inserted_generation env schema now_iso r g.table.nextId] := by
          by_cases hSchema : schema.insert_defaults
          · rw [upsert_unmatched env schema now_iso g
              hExisting hSchema] at hUpsert
            unfold Generations.insert? at hUpsert
            dsimp only at hUpsert
            split at hUpsert
            · cases hUpsert
            · cases hUpsert
              apply rows_insertNew
              exact g.table.find?_nextId
          · unfold upsert_generation at hUpsert
            rw [hExisting] at hUpsert
            simp [hSchema] at hUpsert
        have hNext : g₁.table.rows = old ++ (new ++
              [inserted_generation env schema now_iso r g.table.nextId]) := by
          rw [hInsert, hRows, append_assoc]
        rcases ih hRun hNext hMatched' with ⟨added, hAdded, hAll⟩
        refine ⟨inserted_generation env schema now_iso r g.table.nextId :: added, ?_, ?_⟩
        · have hSame : finalRow env schema now_iso (r :: rs) = finalRow env schema now_iso rs := by
            funext row
            unfold finalRow
            rw [foldl_cons]
            congr 1
            unfold touchRow
            rw [hExisting]
          rw [hAdded, hSame, append_assoc]
          rfl
        · rw [filter_cons_of_pos
            (by simp [hExisting])]
          exact .cons ⟨_, rfl⟩ hAll

end PaymentLinks
