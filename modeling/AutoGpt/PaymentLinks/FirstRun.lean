import AutoGpt.PaymentLinks.Decisions
import AutoGpt.PaymentLinks.Rerun

/-
  What a run of the history import that planned consistently
  leaves in the targets: the accounts and generations that a
  second run reads.

  Main theorems: `Pass.sameAccounts`, `Pass.remote_job_index_core`, `Pass.current`
-/

open KeyedTable (Related)
open List

----
-- Runs Over All Targets
----

namespace PaymentLinks

theorem forall₂_of_mapM {α β : Type} {f : α → Option β} {l : List α} {l' : List β}
    (hMap : l.mapM f = some l') : List.Forall₂ (fun a b => f a = some b) l l' := by
  induction l generalizing l' with
  | nil =>
    cases hMap
    exact .nil
  | cons a l ih =>
    rw [mapM_cons] at hMap
    cases hOne : f a with
    | none =>
      rw [hOne] at hMap
      cases hMap
    | some b =>
      cases hRest : l.mapM f with
      | none =>
        rw [hOne, hRest] at hMap
        cases hMap
      | some bs =>
        rw [hOne, hRest] at hMap
        cases hMap
        exact .cons hOne (ih hRest)

theorem mapM_of_forall {α β : Type} {f : α → Option β} {R : α → β → Prop} {l : List α}
    (hAll : ∀ a ∈ l, ∃ b, f a = some b ∧ R a b) :
    ∃ l', l.mapM f = some l' ∧ List.Forall₂ R l l' := by
  induction l with
  | nil => exact ⟨[], rfl, .nil⟩
  | cons a l ih =>
    rcases hAll a mem_cons_self with ⟨b, hb, hR⟩
    rcases ih (fun x hx => hAll x (mem_cons_of_mem _ hx)) with ⟨bs, hbs, hRs⟩
    refine ⟨b :: bs, ?_, .cons hR hRs⟩
    rw [mapM_cons, hb, hbs]
    rfl

variable (env : Env)

/- The plan of a run was applied to a target. -/
def Applied (platform now_iso : String) (sources : List SourceLink) (targets : List Target)
    (t t' : Target) : Prop :=
  apply_target_plan env now_iso (load_target_snapshot env platform t)
      (planned env platform sources targets t) t = some t'

/- A run of the import that was planned consistently. -/
structure Pass (platform now_iso : String) (sources : List SourceLink)
    (targets targets' : List Target) : Prop where
  lawful : env.Lawful
  databases_nodup : (targets.map Target.database).Nodup
  parsed : ∀ s ∈ sources, s.Parsed env
  importable : Importable env platform sources targets
  applied : List.Forall₂ (Applied env platform now_iso sources targets) targets targets'

end PaymentLinks

----
-- Records Of A Plan
----

namespace PaymentLinks

/- The snapshots that a plan is made from. -/
def snapshots (env : Env) (platform : String) (targets : List Target) : List Snapshot :=
  targets.map (load_target_snapshot env platform)

variable {s : SourceLink}

theorem mem_planned :
    r ∈ planned env platform sources targets t ↔ ∃ s ∈ sources,
        plan_source (snapshots env platform targets) s = .ok r ∧ r.account.database = t.database :=
  mem_plan_records

theorem find_snapshot (hNodup : (targets.map Target.database).Nodup) (ht : t ∈ targets) :
    (snapshots env platform targets).find? (fun sn => decide (sn.database = t.database)) =
      some (load_target_snapshot env platform t) := by
  unfold snapshots
  rw [find?_map]
  have hFind : targets.find?
          ((fun sn : Snapshot => decide (sn.database = t.database)) ∘
            load_target_snapshot env platform) = some t := by
    cases hSome : targets.find? ((fun sn : Snapshot => decide (sn.database = t.database)) ∘
            load_target_snapshot env platform) with
    | none =>
      rw [find?_eq_none] at hSome
      exact absurd (decide_eq_true rfl) (hSome t ht)
    | some u =>
      have hu := mem_of_find?_eq_some hSome
      have hName := find?_some hSome
      have hSame : u.database = t.database := of_decide_eq_true hName
      rw [inj_on_of_nodup_map hNodup hu ht hSame]
  rw [hFind]
  rfl

theorem database_of_mem_accounts (ha : a ∈ (load_target_snapshot env platform t).accounts) :
    a.database = t.database := by
  unfold load_target_snapshot at ha
  rcases mem_map.mp ha with ⟨row, _, hEq⟩
  rw [← hEq]
  rfl

theorem database_of_mem_generations (hg : g ∈ (load_target_snapshot env platform t).generations) :
    g.database = t.database := by
  unfold load_target_snapshot at hg
  rcases mem_map.mp hg with ⟨row, _, hEq⟩
  rw [← hEq]
  rfl

theorem account_of_mem (ha : a ∈ (load_target_snapshot env platform t).accounts) :
    (load_target_snapshot env platform t).account a.account_id = some a := by
  unfold load_target_snapshot at ha
  rcases mem_map.mp ha with ⟨row, hRow, hEq⟩
  have hMem := mem_filter.mp hRow
  rw [account_load]
  have hFind : t.accounts.find? a.account_id = some row := by
    rw [← hEq]
    exact KeyedTable.find?_of_mem hMem.1
  rw [hFind, Option.filter_some, if_pos hMem.2, ← hEq]
  rfl

/- A matched account is an account of a target. -/
theorem match_account_mem (hMatch : match_account (snapshots env platform targets) s = .ok a) :
    ∃ t ∈ targets, a ∈ (load_target_snapshot env platform t).accounts := by
  have hUnique : ∀ b ∈ unique_accounts (snapshots env platform targets)
          (remote_job_index (snapshots env platform targets) s.job_id),
        ∃ t ∈ targets, b ∈ (load_target_snapshot env platform t).accounts := by
    intro b hb
    rcases mem_foldl_addAccount hb with hNil | hMem
    · cases hNil
    · rcases mem_filterMap.mp hMem with ⟨g, _, hg⟩
      unfold generation_account at hg
      rcases Option.bind_eq_some_iff.mp hg with ⟨sn, hsn, hFound⟩
      have hMemSn := mem_of_find?_eq_some hsn
      rcases mem_map.mp hMemSn with ⟨t, ht, hLoad⟩
      refine ⟨t, ht, ?_⟩
      rw [hLoad]
      exact mem_of_find?_eq_some hFound
  unfold match_account at hMatch
  dsimp only at hMatch
  split at hMatch
  · cases hMatch
  next b hOne =>
    split at hMatch
    · cases hMatch
    · rw [← Except.ok.inj hMatch]
      apply hUnique b
      rw [hOne]
      exact mem_singleton_self b
  · split at hMatch
    · cases hMatch
    · split at hMatch
      · cases hMatch
      next b hOne =>
        rw [← Except.ok.inj hMatch]
        have hb : b ∈ global_email_index
              (snapshots env platform targets)
              s.account_email := by
          rw [hOne]
          exact mem_singleton_self b
        unfold global_email_index at hb
        rcases mem_flatMap.mp hb with ⟨sn, hsn, hMem⟩
        rcases mem_map.mp hsn with ⟨t, ht, hLoad⟩
        refine ⟨t, ht, ?_⟩
        rw [hLoad]
        exact (mem_filter.mp hMem).1
      · cases hMatch

theorem planned_of_plan_source (hs : s ∈ sources)
    (hPlan : plan_source (snapshots env platform targets) s = .ok r) :
    ∃ t ∈ targets, r ∈ planned env platform sources targets t ∧
        r.account ∈ (load_target_snapshot env platform t).accounts := by
  rcases match_account_mem (plan_source_ok hPlan).1 with ⟨t, ht, ha⟩
  exact ⟨t, ht, mem_planned.mpr ⟨s, hs, hPlan, database_of_mem_accounts ha⟩, ha⟩

theorem match_generation_mem
    (hMatch : match_generation (snapshots env platform targets) s a = .ok (some g)) :
    ∃ t ∈ targets, g ∈ (load_target_snapshot env platform t).generations := by
  unfold match_generation at hMatch
  split at hMatch
  next x rest hRows =>
    cases hMatch
    have hg : g ∈ remote_job_index (snapshots env platform targets) s.job_id := by
      rw [hRows]
      exact mem_cons_self
    unfold remote_job_index at hg
    rcases mem_flatMap.mp hg with ⟨sn, hsn, hMem⟩
    rcases mem_map.mp hsn with ⟨t, ht, hLoad⟩
    refine ⟨t, ht, ?_⟩
    rw [hLoad]
    exact (mem_filter.mp hMem).1
  · split at hMatch
    · cases hMatch
    next x hFound =>
      split at hMatch
      · cases hMatch
      · cases hMatch
        rcases Option.bind_eq_some_iff.mp hFound with ⟨sn, hsn, hLast⟩
        have hMemSn := mem_of_find?_eq_some hsn
        rcases mem_map.mp hMemSn with ⟨t, ht, hLoad⟩
        refine ⟨t, ht, ?_⟩
        rw [hLoad]
        unfold Snapshot.generations_by_request_id at hLast
        have hMem := mem_of_getLast? hLast
        exact (mem_filter.mp hMem).1

theorem generation_eq_of_id {g' : GenerationRow}
    (hg : g ∈ (load_target_snapshot env platform t).generations)
    (hg' : g' ∈ (load_target_snapshot env platform t).generations)
    (hId : g.generation_id = g'.generation_id) : g = g' := by
  unfold load_target_snapshot at hg hg'
  rcases mem_map.mp hg with ⟨row, hRow, hEq⟩
  rcases mem_map.mp hg' with ⟨row', hRow', hEq'⟩
  have hSame : row = row' := by
    apply KeyedTable.eq_of_mem_of_key_eq hRow hRow'
    have hLeft : row.id = g.generation_id := congrArg GenerationRow.generation_id hEq
    have hRight : row'.id = g'.generation_id := congrArg GenerationRow.generation_id hEq'
    rw [hLeft, hRight, hId]
  rw [← hEq, ← hEq', hSame]

theorem mem_remote_job_index {J : String} :
    g ∈ remote_job_index (snapshots env platform targets) J ↔ ∃ t ∈ targets,
        g ∈ (load_target_snapshot env platform t).generations ∧
          g.remote_job_id ≠ "" ∧ g.remote_job_id = J := by
  unfold remote_job_index snapshots
  rw [mem_flatMap]
  constructor
  · rintro ⟨sn, hsn, hMem⟩
    rcases mem_map.mp hsn with ⟨t, ht, hLoad⟩
    have hFilter := mem_filter.mp hMem
    rw [← hLoad] at hFilter
    exact ⟨t, ht, hFilter.1, of_decide_eq_true hFilter.2⟩
  · rintro ⟨t, ht, hg, hBoth⟩
    exact ⟨_, mem_map_of_mem ht, mem_filter.mpr ⟨hg, decide_eq_true hBoth⟩⟩

----
-- Tables After The First Run
----

variable (hPass : Pass env platform now_iso sources targets targets')
variable (hApplied : Applied env platform now_iso sources targets t t')

include hApplied in
theorem Applied.same : t'.database = t.database ∧ t'.schema = t.schema := by
  unfold Applied apply_target_plan at hApplied
  split at hApplied
  · cases hApplied
    exact ⟨rfl, rfl⟩
  · rcases Option.map_eq_some_iff.mp hApplied with ⟨g, _, hEq⟩
    rw [← hEq]
    exact ⟨rfl, rfl⟩

/- The columns of an account that no import writes. -/
def Account.identity (r : Account) : Account :=
  { r with extra := none, cashier_url := "", updated_at := "" }

def SameIdentity (r r' : Account) : Prop := r'.identity = r.identity

theorem SameIdentity.refl (r : Account) :
    SameIdentity r r := rfl

theorem update_planned_cache_identity (sn : Snapshot) (records : List PlannedRecord)
    (accounts : Accounts) (id : Nat) :
    Related SameIdentity accounts (update_planned_cache env now_iso sn records accounts id) := by
  have hRefl : Related SameIdentity accounts accounts := Related.refl SameIdentity.refl accounts
  unfold update_planned_cache
  split
  · unfold update_current_cache
    split
    · exact hRefl
    · split
      · apply KeyedTable.related_updateWhere
        intro r _
        split <;> rfl
      · exact hRefl
  · exact hRefl

include hApplied in
theorem Applied.accounts_identity :
    t'.accounts.rows.map Account.identity = t.accounts.rows.map Account.identity := by
  have hFold : ∀ (ids : List Nat) (sn : Snapshot)
        (records : List PlannedRecord) (accounts : Accounts),
        Related SameIdentity accounts (ids.foldl
            (update_planned_cache env now_iso sn records) accounts) := by
    intro ids sn records accounts
    induction ids generalizing accounts with
    | nil => exact Related.refl SameIdentity.refl _
    | cons id ids ih =>
      exact Related.trans (fun _ _ _ h h' => h'.trans h)
          (update_planned_cache_identity sn records accounts id) (ih _)
  unfold Applied apply_target_plan at hApplied
  split at hApplied
  · cases hApplied
    rfl
  · rcases Option.map_eq_some_iff.mp hApplied with ⟨g, _, hEq⟩
    rw [← hEq]
    exact Related.map_eq (fun _ _ h => h) (hFold _ _ _ _)

theorem load_accounts_plain (t : Target) :
    (load_target_snapshot env platform t).accounts.map AccountRow.plain =
      ((t.accounts.rows.map Account.identity).filter
        (fun r => decide (r.platform = platform))).map (account_row env t) := by
  unfold load_target_snapshot
  rw [map_map, filter_map, map_map]
  rfl

/- The first run leaves every account what it was, up to its `extra_json`. -/
include hApplied in
theorem Applied.accounts_plain :
    (load_target_snapshot env platform t').accounts.map
        AccountRow.plain =
      (load_target_snapshot env platform t).accounts.map
        AccountRow.plain := by
  have hRow : account_row env t' = account_row env t := by
    funext r
    unfold account_row
    rw [hApplied.same.1, hApplied.same.2]
  rw [load_accounts_plain, load_accounts_plain, hApplied.accounts_identity, hRow]

include hPass in
theorem Pass.sameAccounts :
    SameAccounts (snapshots env platform targets) (snapshots env platform targets') := by
  unfold SameAccounts snapshots
  rw [forall₂_map_left_iff, forall₂_map_right_iff]
  apply hPass.applied.imp
  intro t t' hApplied
  exact ⟨hApplied.same.1, hApplied.accounts_plain⟩

include hPass in
theorem Pass.generation_mem
    (ht : t ∈ targets) {x : GenerationRow} (hr : r ∈ planned env platform sources targets t)
    (hx : r.existing_generation = some x) :
    x ∈ (load_target_snapshot env platform t).generations := by
  rcases mem_planned.mp hr with ⟨s, _, hPlan, _⟩
  have hMatch := (plan_source_ok hPlan).2.1
  rw [hx] at hMatch
  rcases match_generation_mem hMatch with ⟨u, hu, hMem⟩
  have hDatabase := (hPass.importable.found t ht r hr x hx).2
  have hSame : u = t := by
    apply inj_on_of_nodup_map hPass.databases_nodup hu ht
    rw [← database_of_mem_generations hMem, hDatabase]
  rw [← hSame]
  exact hMem

/- The generations of a target after the first run. -/
include hPass in
theorem Pass.rows (ht : t ∈ targets)
    (hApplied : Applied env platform now_iso sources targets t t') :
    ∃ added, t'.generations.table.rows = t.generations.table.rows.map
            (finalRow env t.schema now_iso (planned env platform sources targets t)) ++
            added ∧
        List.Forall₂
          (fun r n => ∃ id, n = inserted_generation env t.schema now_iso r id)
          ((planned env platform sources targets t).filter (fun r => r.existing_generation.isNone))
          added := by
  unfold Applied apply_target_plan at hApplied
  split at hApplied
  next hEmpty =>
    cases hApplied
    rw [isEmpty_iff.mp hEmpty]
    refine ⟨[], ?_, .nil⟩
    rw [append_nil]
    exact (map_id _).symm
  · rcases Option.map_eq_some_iff.mp hApplied with
      ⟨g, hRun, hEq⟩
    have hMatched : ∀ r ∈ planned env platform sources targets t, ∀ x,
          r.existing_generation = some x →
            ∃ row ∈ t.generations.table.rows, row.id = x.generation_id := by
      intro r hr x hx
      have hMem := hPass.generation_mem ht hr hx
      unfold load_target_snapshot at hMem
      rcases mem_map.mp hMem with ⟨row, hRow, hEq⟩
      exact ⟨row, hRow, congrArg GenerationRow.generation_id hEq⟩
    rcases upserts_rows env t.schema now_iso hRun
        (append_nil _).symm hMatched with
      ⟨added, hRows, hAll⟩
    refine ⟨added, ?_, hAll⟩
    rw [← hEq]
    exact hRows

def coreOf (database : String) (c : Nat × Nat × String × String) :
    String × Nat × Nat × String × String :=
  (database, c.1, c.2.1, safe_text 128 (.text c.2.2.1), safe_text 128 (.text c.2.2.2))

theorem core_generation_row (t : Target) (row : Generation) :
    (generation_row env t row).core = coreOf t.database row.core := rfl

theorem stable_of_planned (hParsed : ∀ s ∈ sources, s.Parsed env)
    (hImportable : Importable env platform sources targets) (ht : t ∈ targets)
    (hr : r ∈ planned env platform sources targets t) : r.source.Parsed env ∧ r.source.Stable := by
  rcases mem_planned.mp hr with ⟨s, hs, hPlan, _⟩
  refine ⟨?_, hImportable.stable t ht r hr⟩
  rw [(plan_source_ok hPlan).2.2.1]
  exact hParsed s hs

include hPass in
theorem Pass.stable (ht : t ∈ targets) (hr : r ∈ planned env platform sources targets t) :
    r.source.Parsed env ∧ r.source.Stable :=
  stable_of_planned hPass.parsed hPass.importable ht hr

theorem safe_text_request_id (hParsed : s.Parsed env) (hStable : s.Stable) :
    safe_text 128 (.text s.request_id) = s.request_id := by
  apply safe_text_of_strip
  · have hWhole :=
      strip_append 'l' "ong-link-history:".toList (by decide) hStable.job hParsed.job_given
    have hPrefix : String.ofList ('l' :: "ong-link-history:".toList) = "long-link-history:" := by
      decide +kernel
    rw [hPrefix] at hWhole
    exact hWhole
  · have hShort := hParsed.job_short
    have hPrefix : "long-link-history:".toList.length = 18 := rfl
    unfold SourceLink.request_id
    rw [String.toList_append, length_append]
    omega

include hPass in
theorem Pass.core_inserted
    (ht : t ∈ targets) (hr : r ∈ planned env platform sources targets t) (database : String)
    (schema : Schema) (id : Nat) :
    coreOf database (inserted_generation env schema now_iso r id).core =
      (database, id, r.account.account_id, r.source.request_id, r.source.job_id) := by
  have hSource := hPass.stable ht hr
  have hJob : safe_text 128 (.text r.source.job_id) = r.source.job_id := by
    apply safe_text_of_strip hSource.2.job
    have hShort := hSource.1.job_short
    omega
  have hRequest := safe_text_request_id hSource.1 hSource.2
  unfold coreOf Generation.core inserted_generation withIdentity
  rw [hJob, hRequest]

/- A part of the generations that no insert joins has the same cores after the first run. -/
include hPass in
theorem Pass.filter_core
    (ht : t ∈ targets) (hApplied : Applied env platform now_iso sources targets t t')
    (p : String × Nat × Nat × String × String → Bool)
    (hQuiet : ∀ r ∈ planned env platform sources targets t, r.existing_generation = none → ∀ id,
          p (t.database, id, r.account.account_id, r.source.request_id, r.source.job_id) = false) :
    ((load_target_snapshot env platform t').generations.map GenerationRow.core).filter p =
      ((load_target_snapshot env platform t).generations.map GenerationRow.core).filter p := by
  rcases hPass.rows ht hApplied with ⟨added, hRows, hAdded⟩
  have hCores : ∀ u : Target, (load_target_snapshot env platform u).generations.map
            GenerationRow.core =
          u.generations.table.rows.map (fun row => coreOf u.database row.core) := by
    intro u
    unfold load_target_snapshot
    rw [map_map]
    rfl
  have hNone : (added.map (fun row => coreOf t.database row.core)).filter p = [] := by
    rw [filter_eq_nil_iff]
    intro c hc
    rcases mem_map.mp hc with ⟨n, hn, hEq⟩
    rcases mem_iff_getElem.mp hn with ⟨i, hi, hGet⟩
    have hOne := (forall₂_iff_get.mp hAdded).2 i (by rw [hAdded.length_eq]; exact hi) hi
    simp only [get_eq_getElem] at hOne
    rcases hOne with ⟨id, hInserted⟩
    have hMem := mem_filter.mp (getElem_mem
          (l := (planned env platform sources targets t).filter
            (fun r => r.existing_generation.isNone)) (n := i) (by rw [hAdded.length_eq]; exact hi))
    rw [← hEq, ← hGet, hInserted, hPass.core_inserted ht hMem.1,
      hQuiet _ hMem.1 (by simpa using hMem.2)]
    simp
  have hSame : (fun row : Generation => coreOf t.database
            (finalRow env t.schema now_iso (planned env platform sources targets t) row).core) =
        fun row => coreOf t.database row.core := by
    funext row
    rw [core_finalRow]
  rw [hCores, hCores, hApplied.same.1, hRows, map_append,
    filter_append, hNone, append_nil, map_map]
  exact congrArg (fun f => (t.generations.table.rows.map f).filter p) hSame

----
-- Jobs Without An Insert
----

/- The first run inserts no generation of the job. -/
def QuietJob (env : Env) (platform : String) (sources : List SourceLink) (targets : List Target)
    (J : String) : Prop :=
  ∀ t ∈ targets,
    ∀ r ∈ planned env platform sources targets t, r.existing_generation = none → r.source.job_id ≠ J

include hPass in
theorem Pass.applied_mem :
    List.Forall₂ (fun t t' => t ∈ targets ∧ Applied env platform now_iso sources targets t t')
      targets targets' :=
  (forall₂_and_left _ _).mpr ⟨fun _ h => h, hPass.applied⟩

theorem by_remote_job_core (sn : Snapshot) (J : String) :
    (sn.generations_by_remote_job J).map GenerationRow.core =
      (sn.generations.map GenerationRow.core).filter
        (fun c => decide (c.2.2.2.2 ≠ "" ∧ c.2.2.2.2 = J)) := by
  rw [filter_map]
  rfl

theorem by_request_id_core (sn : Snapshot) (id : String) :
    (sn.generations_by_request_id id).map GenerationRow.core =
      ((sn.generations.map GenerationRow.core).filter
        (fun c => decide (c.2.2.2.1 ≠ "" ∧ c.2.2.2.1 = id))).getLast? := by
  rw [filter_map, getLast?_map]
  rfl

include hPass in
theorem Pass.remote_job_index_core {J : String} (hQuiet : QuietJob env platform sources targets J) :
    (remote_job_index (snapshots env platform targets') J).map
        GenerationRow.core =
      (remote_job_index (snapshots env platform targets) J).map
        GenerationRow.core := by
  have hFlat : ∀ l l' : List Target, List.Forall₂
          (fun t t' => t ∈ targets ∧ Applied env platform now_iso sources targets t t')
          l l' →
        (remote_job_index (snapshots env platform l') J).map
            GenerationRow.core =
          (remote_job_index (snapshots env platform l) J).map
            GenerationRow.core := by
    intro l l' hForall
    unfold remote_job_index snapshots
    induction hForall with
    | nil => rfl
    | cons hOne _ ih =>
      rw [map_cons, map_cons, flatMap_cons,
        flatMap_cons, map_append, map_append,
        ih, by_remote_job_core, by_remote_job_core]
      congr 1
      apply hPass.filter_core hOne.1 hOne.2
      intro r hr hNone id
      apply decide_eq_false
      intro hBoth
      exact hQuiet _ hOne.1 r hr hNone hBoth.2
  exact hFlat _ _ hPass.applied_mem

theorem quietJob_of_index {J : String}
    (hRows : remote_job_index (snapshots env platform targets) J ≠ []) :
    QuietJob env platform sources targets J := by
  intro t _ r hr hNone hJob
  rcases mem_planned.mp hr with ⟨s, _, hPlan, _⟩
  have hOk := plan_source_ok hPlan
  have hMatch := hOk.2.1
  rw [← hOk.2.2.1, hNone] at hMatch
  unfold match_generation at hMatch
  cases hIndex : remote_job_index (snapshots env platform targets) J with
  | nil => exact hRows hIndex
  | cons g rest =>
    rw [hJob, hIndex] at hMatch
    cases hMatch

/- The generation of the source row's request. -/
def requestGeneration (sns : List Snapshot) (database request_id : String) : Option GenerationRow :=
  (sns.find? (fun sn => sn.database = database)).bind
    (fun sn => sn.generations_by_request_id request_id)

/- The generation of a quiet job's request is the same row. -/
include hPass in
theorem Pass.request_generation_core (hQuiet : QuietJob env platform sources targets s.job_id)
    (database : String) :
    (requestGeneration (snapshots env platform targets')
        database s.request_id).map GenerationRow.core =
      (requestGeneration (snapshots env platform targets)
        database s.request_id).map GenerationRow.core := by
  have hFind : ∀ l l' : List Target, List.Forall₂
          (fun t t' => t ∈ targets ∧ Applied env platform now_iso sources targets t t')
          l l' →
        (requestGeneration (snapshots env platform l')
            database s.request_id).map GenerationRow.core =
          (requestGeneration (snapshots env platform l)
            database s.request_id).map GenerationRow.core := by
    intro l l' hForall
    unfold requestGeneration snapshots
    induction hForall with
    | nil => rfl
    | @cons t t' _ _ hOne _ ih =>
      rw [map_cons, map_cons, find?_cons, find?_cons]
      have hName : (load_target_snapshot env platform t').database = t.database := hOne.2.same.1
      have hName' : (load_target_snapshot env platform t).database = t.database := rfl
      rw [hName, hName']
      by_cases hDatabase : t.database = database
      · simp only [hDatabase, decide_true, Option.bind_some]
        rw [by_request_id_core, by_request_id_core]
        congr 1
        apply hPass.filter_core hOne.1 hOne.2
        intro r hr hNone id
        apply decide_eq_false
        intro hBoth
        apply hQuiet _ hOne.1 r hr hNone
        have hRequest := hBoth.2
        unfold SourceLink.request_id at hRequest
        have hLists := congrArg String.toList hRequest
        rw [String.toList_append, String.toList_append] at hLists
        have hTail := append_cancel_left hLists
        rw [← String.ofList_toList (s := r.source.job_id), hTail, String.ofList_toList]
      · simp only [hDatabase, decide_false]
        exact ih
  exact hFind _ _ hPass.applied_mem

----
-- Current Generations
----

theorem status_succeeded (hEnv : env.Lawful) :
    env.lower (safe_text 48 (.text "succeeded")) = "succeeded" := by
  have hText : TypeText "succeeded" := by decide +kernel
  have hStrip : PyText.strip "succeeded" = "succeeded" := PyText.strip_of_plain fun c hc =>
      isSpace_of_isTypeChar (hText.plain c hc)
  rw [safe_text_of_strip hStrip (by decide +kernel), lower_of_typeText hEnv hText]

theorem current_of_columns (hEnv : env.Lawful) (hParsed : s.Parsed env) (hStable : s.Stable)
    (hStatus : row.status = "succeeded") (hJob : safe_text 128 (.text row.remote_job_id) = s.job_id)
    (hUrl : row.url = s.url) (hType : row.link_type = s.link_type) :
    generation_is_current (generation_row env t row) s := by
  have hUrl' : valid_http_url env (.text row.url) = s.url := by
    rw [hUrl, valid_http_url_of_parsed hParsed hStable]
  have hType' : normalized_link_type env (.text row.link_type) = s.link_type := by
    rw [hType, normalized_link_type_of_typeText hEnv hParsed.typed]
  have hStatus' : env.lower (safe_text 48 (.text row.status)) = "succeeded" := by
    rw [hStatus, status_succeeded hEnv]
  unfold generation_is_current
  exact decide_eq_true ⟨hStatus', hJob, hUrl', hType'⟩

theorem current_withIdentity :
    generation_is_current (generation_row env t (withIdentity schema a row)) s =
      generation_is_current (generation_row env t row) s := by
  unfold generation_is_current generation_row withIdentity
  rfl

/- The upsert of a record makes its row current or leaves it so. -/
theorem current_writtenRow (hEnv : env.Lawful) (hParsed : s.Parsed env)
    (hStable : s.Stable) (hJob : safe_text 128 (.text row.remote_job_id) = s.job_id)
    (hAgree : r.source.url = s.url ∧ r.source.link_type = s.link_type) (hStart :
      generation_is_current (generation_row env t row) s ∨ r.generation_action ≠ .existing) :
    generation_is_current
        (generation_row env t (writtenRow env schema now_iso r row)) s := by
  have hUpdated : generation_is_current
        (generation_row env t (updated_generation env schema now_iso r row)) s =
        true :=
    current_of_columns hEnv hParsed hStable rfl hJob hAgree.1 hAgree.2
  unfold writtenRow
  cases hAction : r.generation_action with
  | existing =>
    rcases hStart with hCurrent | hNot
    · rw [current_withIdentity]
      exact hCurrent
    · exact absurd hAction hNot
  | insert => exact hUpdated
  | update => exact hUpdated

/- The row of a record is current after all upserts. -/
theorem current_finalRow (hEnv : env.Lawful) {rs : List PlannedRecord} (hParsed : s.Parsed env)
    (hStable : s.Stable) (hJob : safe_text 128 (.text row.remote_job_id) = s.job_id)
    (hAgree : ∀ r ∈ rs, ∀ g, r.existing_generation = some g →
        row.id = g.generation_id → r.source.url = s.url ∧ r.source.link_type = s.link_type)
    (hStart : generation_is_current (generation_row env t row) s ∨
        ∃ r ∈ rs, r.generation_action ≠ .existing ∧
          ∃ g, r.existing_generation = some g ∧ row.id = g.generation_id) :
    generation_is_current (generation_row env t (finalRow env schema now_iso rs row)) s := by
  unfold finalRow
  induction rs generalizing row with
  | nil =>
    rcases hStart with hCurrent | ⟨r, hr, _⟩
    · exact hCurrent
    · cases hr
  | cons r rs ih =>
    have hCore := core_touchRow env schema now_iso row r
    have hId : (touchRow env schema now_iso row r).id = row.id := congrArg Prod.fst hCore
    have hRemote : (touchRow env schema now_iso row r).remote_job_id = row.remote_job_id :=
      congrArg (fun c => c.2.2.2) hCore
    rw [foldl_cons]
    apply ih
    · rw [hRemote]
      exact hJob
    · intro r' hr' g hg hMatch
      rw [hId] at hMatch
      exact hAgree r' (mem_cons_of_mem _ hr') g hg hMatch
    · rw [hId]
      unfold touchRow
      cases hExisting : r.existing_generation with
      | none =>
        rcases hStart with hCurrent | ⟨r', hr', hAct, g, hg, hMatch⟩
        · exact .inl hCurrent
        · rcases mem_cons.mp hr' with hHead | hTail
          · rw [hHead, hExisting] at hg
            cases hg
          · exact .inr ⟨r', hTail, hAct, g, hg, hMatch⟩
      | some g =>
        dsimp only
        by_cases hMatch : row.id = g.generation_id
        · rw [if_pos hMatch]
          have hOne := hAgree r mem_cons_self g hExisting hMatch
          rcases hStart with hCurrent | ⟨r', hr', hAct, g', hg', hMatch'⟩
          · left
            exact current_writtenRow hEnv hParsed hStable hJob hOne (.inl hCurrent)
          · rcases mem_cons.mp hr' with hHead | hTail
            · left
              rw [hHead] at hAct
              exact current_writtenRow hEnv hParsed hStable hJob hOne (.inr hAct)
            · exact .inr ⟨r', hTail, hAct, g', hg', hMatch'⟩
        · rw [if_neg hMatch]
          rcases hStart with hCurrent | ⟨r', hr', hAct, g', hg', hMatch'⟩
          · exact .inl hCurrent
          · rcases mem_cons.mp hr' with hHead | hTail
            · rw [hHead, hExisting] at hg'
              cases hg'
              exact absurd hMatch' hMatch
            · exact .inr ⟨r', hTail, hAct, g', hg', hMatch'⟩

----
-- Generations Found Again
----

include hApplied in
theorem Applied.generation_row_eq : generation_row env t' = generation_row env t := by
  funext row
  unfold generation_row
  rw [hApplied.same.1, hApplied.same.2]

theorem finalRow_of_unmatched {rs : List PlannedRecord}
    (hNot : ∀ r ∈ rs, ∀ x, r.existing_generation = some x → row.id ≠ x.generation_id) :
    finalRow env schema now_iso rs row = row := by
  unfold finalRow
  induction rs with
  | nil => rfl
  | cons r rs ih =>
    have hTouch : touchRow env schema now_iso row r = row := by
      unfold touchRow
      cases hExisting : r.existing_generation with
      | none => rfl
      | some x => exact if_neg (hNot r mem_cons_self x hExisting)
    rw [foldl_cons, hTouch]
    exact ih fun r' hr' => hNot r' (mem_cons_of_mem _ hr')

include hPass in
theorem Pass.generation_after
    (ht : t ∈ targets) (hApplied : Applied env platform now_iso sources targets t t')
    (hRow : row ∈ t.generations.table.rows) :
    generation_row env t
        (finalRow env t.schema now_iso (planned env platform sources targets t) row) ∈
      (load_target_snapshot env platform t').generations := by
  rcases hPass.rows ht hApplied with ⟨added, hRows, _⟩
  unfold load_target_snapshot
  rw [hRows, hApplied.generation_row_eq]
  apply mem_map_of_mem
  exact mem_append_left _ (mem_map_of_mem hRow)

/- The generation of a record is current after the run. -/
include hPass in
theorem Pass.current (ht : t ∈ targets)
    (hApplied : Applied env platform now_iso sources targets t t')
    (hr : r ∈ planned env platform sources targets t) (hg : r.existing_generation = some g) :
    ∃ g' ∈ (load_target_snapshot env platform t').generations,
      g'.core = g.core ∧ generation_is_current g' r.source := by
  have hMem := hPass.generation_mem ht hr hg
  have hCopy := hMem
  unfold load_target_snapshot at hCopy
  rcases mem_map.mp hCopy with ⟨row, hRow, hEq⟩
  have hFound := hPass.importable.found t ht r hr g hg
  have hId : row.id = g.generation_id := congrArg GenerationRow.generation_id hEq
  have hRemote : safe_text 128 (.text row.remote_job_id) = g.remote_job_id :=
    congrArg GenerationRow.remote_job_id hEq
  have hSource := hPass.stable ht hr
  refine ⟨_, hPass.generation_after ht hApplied hRow, ?_, ?_⟩
  · rw [core_generation_row, core_finalRow, ← core_generation_row t row, hEq]
  · apply current_finalRow hPass.lawful hSource.1 hSource.2
    · rw [hRemote, hFound.1]
    · intro r₂ hr₂ g₂ hg₂ hMatch
      have hMem₂ := hPass.generation_mem ht hr₂ hg₂
      have hSame : g₂ = g := generation_eq_of_id hMem₂ hMem (hMatch.symm.trans hId)
      have hFound₂ := hPass.importable.found t ht r₂ hr₂ g₂ hg₂
      apply hPass.importable.agree t ht r₂ hr₂ r hr
      rw [← hFound₂.1, hSame, hFound.1]
    · rcases mem_planned.mp hr with ⟨s, _, hPlan, _⟩
      have hOk := plan_source_ok hPlan
      have hAct := (hOk.2.2.2.of_some hg).2.2
      rw [← hOk.2.2.1] at hAct
      by_cases hCurrent : generation_is_current g r.source
      · left
        rw [hEq]
        exact hCurrent
      · right
        refine ⟨r, hr, ?_, g, hg, hId⟩
        rw [hAct, if_neg hCurrent]
        simp

theorem matches_plain {b : AccountRow} (hPlain : a.plain = b.plain) :
    generation_matches_account_identity g a = generation_matches_account_identity g b := by
  have hLeft :
      generation_matches_account_identity g a = generation_matches_account_identity g a.plain := rfl
  have hRight :
      generation_matches_account_identity g b = generation_matches_account_identity g b.plain := rfl
  rw [hLeft, hRight, hPlain]

/- A generation that fits an account after the run fitted it before, when only records of that
   account were matched with the generation. -/
include hPass in
theorem Pass.identity_before
    (ht : t ∈ targets) (hApplied : Applied env platform now_iso sources targets t t')
    {g' : GenerationRow} (hg : g ∈ (load_target_snapshot env platform t).generations)
    (hg' : g' ∈ (load_target_snapshot env platform t').generations) (hCore : g'.core = g.core)
    (hIdentity : generation_matches_account_identity g' a)
    (hOwner : ∀ r ∈ planned env platform sources targets t,
        r.existing_generation = some g → r.account.plain = a.plain) :
    generation_matches_account_identity g a := by
  have hCopy := hg
  unfold load_target_snapshot at hCopy
  rcases mem_map.mp hCopy with ⟨row, hRow, hEq⟩
  have hId : row.id = g.generation_id := congrArg GenerationRow.generation_id hEq
  by_cases hMatched : ∃ r ∈ planned env platform sources targets t, ∃ x,
        r.existing_generation = some x ∧ row.id = x.generation_id
  · rcases hMatched with ⟨r, hr, x, hx, hxId⟩
    have hSame : x = g :=
      generation_eq_of_id (hPass.generation_mem ht hr hx) hg (hxId.symm.trans hId)
    rw [hSame] at hx
    rcases mem_planned.mp hr with ⟨s, _, hPlan, _⟩
    rw [← matches_plain (hOwner r hr hx)]
    exact ((plan_source_ok hPlan).2.2.2.of_some hx).1
  · have hSame : finalRow env t.schema now_iso
          (planned env platform sources targets t) row = row := by
      apply finalRow_of_unmatched
      intro r hr x hx hxId
      exact hMatched ⟨r, hr, x, hx, hxId⟩
    have hAfter := hPass.generation_after ht hApplied hRow
    rw [hSame, hEq] at hAfter
    have hIds : g'.generation_id = g.generation_id := congrArg (fun c => c.2.1) hCore
    rw [← generation_eq_of_id hg' hAfter hIds]
    exact hIdentity

/- The account of a row whose job is in the index is the one account of that index. -/
theorem match_account_unique (hMatch : match_account sns s = .ok a)
    (hRows : remote_job_index sns s.job_id ≠ []) :
    unique_accounts sns (remote_job_index sns s.job_id) = [a] ∧ a.email = s.account_email := by
  unfold match_account at hMatch
  dsimp only at hMatch
  split at hMatch
  · cases hMatch
  next b hOne =>
    split at hMatch
    · cases hMatch
    next hEmail =>
      rw [← Except.ok.inj hMatch]
      exact ⟨hOne, not_not.mp hEmail⟩
  · rw [if_pos hRows] at hMatch
    cases hMatch

/- The account of a row whose job is not in the index has the row's e-mail. -/
theorem match_account_email (hMatch : match_account sns s = .ok a)
    (hRows : remote_job_index sns s.job_id = []) : a.email = s.account_email := by
  have hNil : unique_accounts sns (remote_job_index sns s.job_id) = [] := by
    rw [hRows]
    rfl
  unfold match_account at hMatch
  dsimp only at hMatch
  rw [hNil] at hMatch
  dsimp only at hMatch
  rw [if_neg (fun hBad => hBad hRows)] at hMatch
  split at hMatch
  · cases hMatch
  next b hOne =>
    rw [← Except.ok.inj hMatch]
    have hb : b ∈ global_email_index sns s.account_email := by
      rw [hOne]
      exact mem_singleton_self b
    unfold global_email_index at hb
    rcases mem_flatMap.mp hb with ⟨sn, _, hMem⟩
    have hBoth := of_decide_eq_true (mem_filter.mp hMem).2
    exact hBoth.2
  · cases hMatch

/- Every item of the first list is related to an item of the second one. -/
theorem exists_of_forall₂ {α β : Type} {R : α → β → Prop} {l : List α} {l' : List β}
    (hForall : List.Forall₂ R l l') {a : α} (ha : a ∈ l) : ∃ b ∈ l', R a b := by
  induction hForall with
  | nil => cases ha
  | cons hOne _ ih =>
    rcases mem_cons.mp ha with hHead | hTail
    · exact ⟨_, mem_cons_self, hHead ▸ hOne⟩
    · rcases ih hTail with ⟨b, hb, hR⟩
      exact ⟨b, mem_cons_of_mem _ hb, hR⟩

section

include hPass

theorem Pass.after (ht : t ∈ targets) :
    ∃ t' ∈ targets', Applied env platform now_iso sources targets t t' :=
  exists_of_forall₂ hPass.applied ht

theorem Pass.before (ht' : t' ∈ targets') :
    ∃ t ∈ targets, Applied env platform now_iso sources targets t t' :=
  exists_of_forall₂ hPass.applied.flip ht'

theorem Pass.databases_nodup_after : (targets'.map Target.database).Nodup := by
  have hNames : ∀ l l' : List Target, List.Forall₂
          (Applied env platform now_iso sources targets)
          l l' →
        l'.map Target.database = l.map Target.database := by
    intro l l' h
    induction h with
    | nil => rfl
    | cons hOne _ ih => rw [map_cons, map_cons, ih, hOne.same.1]
  rw [hNames _ _ hPass.applied]
  exact hPass.databases_nodup

theorem Pass.target_eq {u u' : Target}
    (hu : u ∈ targets') (hu' : u' ∈ targets') (hName : u.database = u'.database) : u = u' :=
  inj_on_of_nodup_map hPass.databases_nodup_after hu hu' hName

theorem Pass.inserted_of_new
    (ht : t ∈ targets) (hApplied : Applied env platform now_iso sources targets t t')
    (hg : g ∈ (load_target_snapshot env platform t').generations)
    (hNew : ∀ x ∈ (load_target_snapshot env platform t).generations, x.core ≠ g.core) :
    ∃ r ∈ planned env platform sources targets t, r.existing_generation = none ∧
        ∃ id, g = generation_row env t (inserted_generation env t.schema now_iso r id) := by
  rcases hPass.rows ht hApplied with ⟨added, hRows, hAll⟩
  unfold load_target_snapshot at hg
  dsimp only at hg
  rw [hRows, hApplied.generation_row_eq] at hg
  rcases mem_map.mp hg with ⟨row, hRow, hEq⟩
  rcases mem_append.mp hRow with hOld | hAdded
  · rcases mem_map.mp hOld with ⟨old, hMem, hFinal⟩
    exfalso
    have hLoaded : generation_row env t old ∈ (load_target_snapshot env platform t).generations :=
      mem_map_of_mem hMem
    apply hNew _ hLoaded
    rw [← hEq, ← hFinal, core_generation_row, core_generation_row, core_finalRow]
  · rcases exists_of_forall₂ hAll.flip hAdded with
      ⟨r, hr, id, hInserted⟩
    have hMem := mem_filter.mp hr
    refine ⟨r, hMem.1, by simpa using hMem.2, id, ?_⟩
    rw [← hEq, hInserted]

theorem Pass.inserted_mem
    (ht : t ∈ targets) (hApplied : Applied env platform now_iso sources targets t t')
    (hr : r ∈ planned env platform sources targets t) (hNone : r.existing_generation = none) :
    ∃ id, generation_row env t (inserted_generation env t.schema now_iso r id) ∈
        (load_target_snapshot env platform t').generations := by
  rcases hPass.rows ht hApplied with ⟨added, hRows, hAll⟩
  have hMem :
      r ∈ (planned env platform sources targets t).filter (fun r => r.existing_generation.isNone) :=
    mem_filter.mpr ⟨hr, by simp [hNone]⟩
  rcases exists_of_forall₂ hAll hMem with ⟨n, hn, id, hEq⟩
  refine ⟨id, ?_⟩
  rw [← hEq]
  unfold load_target_snapshot
  rw [hRows, hApplied.generation_row_eq]
  exact mem_map_of_mem (mem_append_right _ hn)

end

end PaymentLinks
