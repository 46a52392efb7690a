import AutoGpt.PaymentLinks.FirstRun
import AutoGpt.PaymentLinks.RaceKept

/-
  The second run of the history import: after a first run
  that planned consistently, everything is done.

  Main theorems: `Pass.replan`, `Pass.settled`, `imports_idempotent`
-/

open List

----
-- Decisions Of The Second Run
----

namespace PaymentLinks

/- What the second run decides about a source row: the first run planned it for the same account,
   and its generation is there. -/
def Replanned (env : Env) (platform : String) (sources : List SourceLink) (targets : List Target)
    (s : SourceLink) (r' : PlannedRecord) : Prop :=
  ∃ t ∈ targets, ∃ r ∈ planned env platform sources targets t,
      r.source = s ∧ r.account.plain = r'.account.plain ∧ r'.generation_action = .existing

/- The account of a quiet job is the account of the first run. -/
theorem Pass.match_account_before (hPass : Pass env platform now_iso sources targets targets')
    (hQuiet : QuietJob env platform sources targets s.job_id) {a' : AccountRow}
    (hMatch : match_account (snapshots env platform targets') s = .ok a') :
    ∃ a, match_account (snapshots env platform targets) s = .ok a ∧ a.plain = a'.plain := by
  have hCongr := match_account_congr hPass.sameAccounts (hPass.remote_job_index_core hQuiet)
  rw [hMatch] at hCongr
  cases hFirst : match_account (snapshots env platform targets) s with
  | error e =>
    rw [hFirst] at hCongr
    cases hCongr
  | ok a =>
    rw [hFirst] at hCongr
    exact ⟨a, rfl, (Except.ok.inj hCongr).symm⟩

variable {a b : AccountRow}

theorem account_id_of_plain (hPlain : a.plain = b.plain) : a.account_id = b.account_id := by
  have hCopy : a.plain.account_id = b.plain.account_id := by rw [hPlain]
  exact hCopy

theorem database_of_plain (hPlain : a.plain = b.plain) : a.database = b.database := by
  have hCopy : a.plain.database = b.plain.database := by rw [hPlain]
  exact hCopy

theorem Pass.index_target (hPass : Pass env platform now_iso sources targets targets')
    (hg : g ∈ remote_job_index (snapshots env platform targets) J)
    (hg' : g' ∈ remote_job_index (snapshots env platform targets') J) (hCore : g'.core = g.core) :
    ∃ t ∈ targets, ∃ t' ∈ targets', Applied env platform now_iso sources targets t t' ∧
        g ∈ (load_target_snapshot env platform t).generations ∧
        g' ∈ (load_target_snapshot env platform t').generations ∧ g.remote_job_id = J := by
  rcases mem_remote_job_index.mp hg with ⟨t, ht, hMem, _, hJob⟩
  rcases mem_remote_job_index.mp hg' with ⟨u, hu, hMem', _, _⟩
  rcases hPass.after ht with ⟨t', ht', hApplied⟩
  have hName : u = t' := by
    apply hPass.target_eq hu ht'
    have hDatabases : g'.database = g.database := congrArg Prod.fst hCore
    rw [hApplied.same.1, ← database_of_mem_generations hMem,
      ← hDatabases, database_of_mem_generations hMem']
  rw [hName] at hMem'
  exact ⟨t, ht, t', ht', hApplied, hMem, hMem', hJob⟩

/- A job that was in the index before the run: the row's generation is the same one, and current. -/
theorem Pass.replan_indexed (hPass : Pass env platform now_iso sources targets targets')
    (hs : s ∈ sources) (hRows : remote_job_index (snapshots env platform targets) s.job_id ≠ [])
    (hPlan : plan_source (snapshots env platform targets') s = .ok r') :
    Replanned env platform sources targets s r' := by
  have hQuiet := @quietJob_of_index _ _ sources _ _ hRows
  have hCores := hPass.remote_job_index_core hQuiet
  have hOk := plan_source_ok hPlan
  rcases hPass.match_account_before hQuiet hOk.1 with ⟨a, hMatch, hPlain⟩
  cases hFirst : remote_job_index (snapshots env platform targets) s.job_id with
  | nil => exact absurd hFirst hRows
  | cons g rest =>
    cases hSecond : remote_job_index (snapshots env platform targets') s.job_id with
    | nil =>
      rw [hFirst, hSecond] at hCores
      cases hCores
    | cons g' rest' =>
      have hCore : g'.core = g.core := by
        rw [hFirst, hSecond, map_cons, map_cons] at hCores
        exact (cons.inj hCores).1
      rcases hPass.index_target
          (hFirst ▸ mem_cons_self)
          (hSecond ▸ mem_cons_self) hCore with
        ⟨t, ht, t', ht', hApplied, hg, hg', hJob⟩
      have hExisting' : r'.existing_generation = some g' := by
        have hGeneration := hOk.2.1
        unfold match_generation at hGeneration
        rw [hSecond] at hGeneration
        exact (Except.ok.inj hGeneration).symm
      rcases hOk.2.2.2.of_some hExisting' with ⟨hIdentity, hAccount, hAct⟩
      have hOwner : ∀ r ∈ planned env platform sources targets t,
            r.existing_generation = some g → r.account.plain = r'.account.plain := by
        intro r hr hgr
        have hFound := hPass.importable.found t ht r hr g hgr
        rcases mem_planned.mp hr with ⟨s₂, _, hPlan₂, _⟩
        have hOk₂ := plan_source_ok hPlan₂
        have hSameJob : s₂.job_id = s.job_id := by rw [← hOk₂.2.2.1, ← hFound.1, hJob]
        have hOne := match_account_unique hMatch hRows
        have hTwo := match_account_unique hOk₂.1 (by rw [hSameJob]; exact hRows)
        rw [hSameJob, hOne.1] at hTwo
        have hSame : a = r.account := (cons.inj hTwo.1).1
        rw [← hSame, hPlain]
      have hFits : generation_matches_account_identity g a := by
        rw [matches_plain hPlain]
        exact hPass.identity_before ht hApplied hg hg' hCore hIdentity hOwner
      have hIds : g.account_id = a.account_id := by
        have hLeft : g'.account_id = g.account_id := congrArg (fun c => c.2.2.1) hCore
        rw [← hLeft, hAccount, ← account_id_of_plain hPlain]
      have hGeneration : match_generation (snapshots env platform targets) s a = .ok (some g) := by
        unfold match_generation
        rw [hFirst]
      rcases plan_generation_some (s := s) hFits hIds with ⟨r, hr⟩
      have hRecord := plan_generation_ok hr
      have hPlanned := (plan_source_of_matches hMatch hGeneration).trans hr
      rcases planned_of_plan_source hs hPlanned with ⟨t₁, ht₁, hMem₁, _⟩
      have hFound := hPass.importable.found t₁ ht₁ r hMem₁ g hRecord.2.2.1
      have hTarget : t₁ = t := by
        apply inj_on_of_nodup_map hPass.databases_nodup ht₁ ht
        rw [← hFound.2, database_of_mem_generations hg]
      rw [hTarget] at hMem₁
      rcases hPass.current ht hApplied hMem₁
          hRecord.2.2.1 with
        ⟨g'', hg'', hCore'', hCurrent⟩
      have hSame : g'' = g' := by
        apply generation_eq_of_id hg'' hg'
        exact congrArg (fun c => c.2.1) (hCore''.trans hCore.symm)
      rw [hSame, hRecord.1] at hCurrent
      refine ⟨t, ht, r, hMem₁, hRecord.1, ?_, ?_⟩
      · rw [hRecord.2.1, hPlain]
      · rw [hAct, if_pos hCurrent]

/- The generation of a job outside the index is the one of its request. -/
theorem match_generation_eq {sns : List Snapshot} (hRows : remote_job_index sns s.job_id = []) :
    match_generation sns s a =
      match requestGeneration sns a.database s.request_id with
      | none => Except.ok none
      | some g =>
        if g.account_id ≠ a.account_id then Except.error .request_id_conflict
        else Except.ok (some g) := by
  unfold match_generation
  rw [hRows]
  rfl

/- A generation found by its request belongs to the account's target. -/
theorem requestGeneration_mem {id : String}
    (ha : a ∈ (load_target_snapshot env platform t).accounts) (ht : t ∈ targets)
    (hNodup : (targets.map Target.database).Nodup)
    (hFound : requestGeneration (snapshots env platform targets) a.database id = some q) :
    q ∈ (load_target_snapshot env platform t).generations := by
  unfold requestGeneration at hFound
  rw [database_of_mem_accounts ha, find_snapshot hNodup ht] at hFound
  exact (mem_filter.mp (mem_of_getLast? hFound)).1

section

variable (hPass : Pass env platform now_iso sources targets targets')
include hPass

/- A job that is in no index, before or after the run, is in no plan of the second run. -/
theorem Pass.not_replanned
    (hs : s ∈ sources) (hQuiet : QuietJob env platform sources targets s.job_id)
    (hRows : remote_job_index (snapshots env platform targets) s.job_id = []) :
    plan_source (snapshots env platform targets') s ≠ .ok r' := by
  intro hPlan
  have hCores := hPass.remote_job_index_core hQuiet
  have hRows' : remote_job_index (snapshots env platform targets') s.job_id = [] := by
    rw [hRows] at hCores
    exact map_eq_nil_iff.mp hCores
  have hOk := plan_source_ok hPlan
  rcases hPass.match_account_before hQuiet hOk.1 with ⟨a, hMatch, hPlain⟩
  have hRequest := hPass.request_generation_core hQuiet a.database
  have hGeneration' := hOk.2.1
  rw [match_generation_eq hRows', ← database_of_plain hPlain] at hGeneration'
  -- In both cases the first run would have planned the row.
  cases hSecond : requestGeneration (snapshots env platform targets') a.database s.request_id with
  | none =>
    rw [hSecond, Option.map_none, eq_comm, Option.map_eq_none_iff] at hRequest
    have hGeneration : match_generation (snapshots env platform targets) s a = .ok none := by
      rw [match_generation_eq hRows, hRequest]
    have hPlanned := plan_source_of_matches hMatch hGeneration
    rcases planned_of_plan_source hs hPlanned with ⟨t, ht, hMem, _⟩
    exact hQuiet t ht _ hMem rfl rfl
  | some q' =>
    rw [hSecond] at hGeneration'
    dsimp only at hGeneration'
    split at hGeneration'
    · cases hGeneration'
    rename_i hAccount
    rw [not_not] at hAccount
    have hExisting' := (Except.ok.inj hGeneration').symm
    rw [hSecond, Option.map_some, eq_comm, Option.map_eq_some_iff] at hRequest
    rcases hRequest with ⟨q, hFirst, hCore⟩
    have hIds : q.account_id = a.account_id := by
      have hLeft : q.account_id = q'.account_id := congrArg (fun c => c.2.2.1) hCore
      rw [hLeft, hAccount, account_id_of_plain hPlain]
    have hGeneration : match_generation (snapshots env platform targets) s a = .ok (some q) := by
      rw [match_generation_eq hRows, hFirst]
      exact if_neg (fun hBad => hBad hIds)
    rcases match_account_mem hMatch with ⟨t, ht, ha⟩
    rcases hPass.after ht with ⟨t', ht', hApplied⟩
    have hq := requestGeneration_mem ha ht hPass.databases_nodup hFirst
    rcases match_account_mem hOk.1 with ⟨u, hu, ha'⟩
    have hTarget : u = t' := by
      apply hPass.target_eq hu ht'
      rw [hApplied.same.1, ← database_of_mem_accounts ha', ← database_of_plain hPlain,
        database_of_mem_accounts ha]
    rw [hTarget] at ha'
    have hq' : q' ∈ (load_target_snapshot env platform t').generations := by
      apply requestGeneration_mem ha' ht' hPass.databases_nodup_after
      rw [← database_of_plain hPlain]
      exact hSecond
    have hIdentity := (hOk.2.2.2.of_some hExisting').1
    have hOwner : ∀ r ∈ planned env platform sources targets t,
          r.existing_generation = some q → r.account.plain = r'.account.plain := by
      intro r hr hqr
      rcases mem_planned.mp hr with ⟨s₂, _, hPlan₂, hName⟩
      have hOk₂ := plan_source_ok hPlan₂
      rcases match_account_mem hOk₂.1 with ⟨u₂, hu₂, ha₂⟩
      have hSame : u₂ = t := by
        apply inj_on_of_nodup_map hPass.databases_nodup hu₂ ht
        rw [← database_of_mem_accounts ha₂, hName]
      rw [hSame] at ha₂
      have hOwner := (hOk₂.2.2.2.of_some hqr).2.1
      have hLeft := account_of_mem ha₂
      have hRight := account_of_mem ha
      rw [← hOwner, hIds, hRight] at hLeft
      rw [← Option.some.inj hLeft, hPlain]
    have hFits : generation_matches_account_identity q a := by
      rw [matches_plain hPlain]
      exact hPass.identity_before ht hApplied hq hq' hCore.symm hIdentity hOwner
    rcases plan_generation_some (s := s) hFits hIds with ⟨r, hr⟩
    have hRecord := plan_generation_ok hr
    have hPlanned := (plan_source_of_matches hMatch hGeneration).trans hr
    rcases planned_of_plan_source hs hPlanned with ⟨t₁, ht₁, hMem₁, _⟩
    have hFound := hPass.importable.found t₁ ht₁ r hMem₁ q hRecord.2.2.1
    have hIndexed : q ∈ remote_job_index (snapshots env platform targets) s.job_id := by
      rw [mem_remote_job_index]
      rw [hRecord.1] at hFound
      refine ⟨t, ht, hq, ?_, hFound.1⟩
      rw [hFound.1]
      exact (hPass.parsed s hs).job_given
    rw [hRows] at hIndexed
    cases hIndexed

/- A job that the run inserted: the second run finds the inserted generation. -/
theorem Pass.replan_inserted
    (hs : s ∈ sources) (hNot : ¬ QuietJob env platform sources targets s.job_id)
    (hPlan : plan_source (snapshots env platform targets') s = .ok r') :
    Replanned env platform sources targets s r' := by
  have hRows : remote_job_index (snapshots env platform targets) s.job_id = [] := by
    by_contra hSome
    exact hNot (quietJob_of_index hSome)
  have hOk := plan_source_ok hPlan
  have hNew : ∀ x ∈ remote_job_index (snapshots env platform targets')
          s.job_id,
        ∃ t ∈ targets, ∃ t' ∈ targets', Applied env platform now_iso sources targets t t' ∧
          ∃ r ∈ planned env platform sources targets t, r.existing_generation = none ∧
              r.source.job_id = s.job_id ∧
              ∃ id, x = generation_row env t (inserted_generation env t.schema now_iso r id) := by
    intro x hx
    rcases mem_remote_job_index.mp hx with ⟨t', ht', hMem, hGiven, hJob⟩
    rcases hPass.before ht' with ⟨t, ht, hApplied⟩
    have hOther : ∀ y ∈ (load_target_snapshot env platform t).generations, y.core ≠ x.core := by
      intro y hy hCore
      have hRemote : y.remote_job_id = x.remote_job_id := congrArg (fun c => c.2.2.2.2) hCore
      have hIndexed : y ∈ remote_job_index (snapshots env platform targets) s.job_id := by
        rw [mem_remote_job_index]
        refine ⟨t, ht, hy, ?_, ?_⟩
        · rw [hRemote]
          exact hGiven
        · rw [hRemote, hJob]
      rw [hRows] at hIndexed
      cases hIndexed
    rcases hPass.inserted_of_new ht hApplied hMem hOther with ⟨r, hr, hNone, id, hEq⟩
    refine ⟨t, ht, t', ht', hApplied, r, hr, hNone, ?_, id, hEq⟩
    have hCore := hPass.core_inserted ht hr t.database t.schema id
    rw [← core_generation_row, ← hEq] at hCore
    have hRemote : x.remote_job_id = r.source.job_id := congrArg (fun c => c.2.2.2.2) hCore
    rw [← hRemote, hJob]
  have hSome : remote_job_index (snapshots env platform targets') s.job_id ≠ [] := by
    intro hNil
    apply hNot
    intro t ht r hr hNone hJob
    rcases hPass.after ht with ⟨t', ht', hApplied⟩
    rcases hPass.inserted_mem ht hApplied hr hNone with ⟨id, hMem⟩
    have hCore := hPass.core_inserted ht hr t.database t.schema id
    have hRemote : (generation_row env t
          (inserted_generation env t.schema now_iso r id)).remote_job_id = r.source.job_id :=
      congrArg (fun c => c.2.2.2.2) hCore
    have hIndexed : generation_row env t
            (inserted_generation env t.schema now_iso r id) ∈
          remote_job_index (snapshots env platform targets')
            s.job_id := by
      rw [mem_remote_job_index]
      refine ⟨t', ht', hMem, ?_, ?_⟩
      · rw [hRemote]
        exact (hPass.stable ht hr).1.job_given
      · rw [hRemote, hJob]
    rw [hNil] at hIndexed
    cases hIndexed
  cases hIndex : remote_job_index (snapshots env platform targets') s.job_id with
  | nil => exact absurd hIndex hSome
  | cons x rest =>
    rcases hNew x (hIndex ▸ mem_cons_self) with
      ⟨t, ht, t', ht', hApplied, r, hr, hNone, hJob, id, hx⟩
    rcases mem_planned.mp hr with ⟨s₁, hs₁, hPlan₁, hName⟩
    have hOk₁ := plan_source_ok hPlan₁
    have hSource : s₁ = r.source := hOk₁.2.2.1.symm
    rw [hSource] at hPlan₁ hOk₁ hs₁
    have hRows₁ : remote_job_index (snapshots env platform targets) r.source.job_id = [] := by
      rw [hJob]
      exact hRows
    rcases match_account_mem hOk₁.1 with ⟨u, hu, ha⟩
    have hTarget : u = t := by
      apply inj_on_of_nodup_map hPass.databases_nodup hu ht
      rw [← database_of_mem_accounts ha, hName]
    rw [hTarget] at ha
    -- The account of the inserted row is the matched one.
    have hUnique := match_account_unique hOk.1 hSome
    have hAccount : r'.account.plain = r.account.plain := by
      have hAt : accountAt (snapshots env platform targets)
              t.database r.account.account_id =
            some r.account := by
        unfold accountAt
        rw [find_snapshot hPass.databases_nodup ht]
        exact account_of_mem ha
      have hAt' := accountAt_plain hPass.sameAccounts t.database r.account.account_id
      rw [hAt, Option.map_some, Option.map_eq_some_iff] at hAt'
      rcases hAt' with ⟨b, hb, hPlain⟩
      have hFirst : generation_account (snapshots env platform targets') x = some b := by
        rw [hx]
        exact hb
      have hList := hUnique.1
      unfold unique_accounts at hList
      rw [hIndex, filterMap_cons_some hFirst, foldl_cons] at hList
      rcases foldl_addAccount_prefix
          (rest.filterMap (generation_account (snapshots env platform targets')))
          (addAccount [] b) with ⟨tail, hTail⟩
      rw [hTail] at hList
      have hSame : b = r'.account := by
        have hOne : addAccount [] b = [b] := rfl
        rw [hOne] at hList
        exact (cons.inj hList).1
      rw [← hSame, hPlain]
    have hEmail : s.account_email = r.source.account_email := by
      have hPlainEmail : r'.account.plain.email = r.account.plain.email := by rw [hAccount]
      rw [← match_account_email hOk₁.1 hRows₁, ← hUnique.2]
      exact hPlainEmail
    have hMatch : match_account (snapshots env platform targets) s = .ok r.account := by
      rw [← hOk₁.1]
      unfold match_account
      rw [hJob, hEmail]
    have hGeneration :
        match_generation (snapshots env platform targets) s r.account = .ok none := by
      have hOther := hOk₁.2.1
      rw [hNone, match_generation_eq hRows₁] at hOther
      rw [match_generation_eq hRows]
      unfold SourceLink.request_id at hOther ⊢
      rw [← hJob]
      exact hOther
    have hPlanned :
        plan_source (snapshots env platform targets) s = .ok ⟨s, r.account, none, .insert⟩ :=
      plan_source_of_matches hMatch hGeneration
    have hMem : (⟨s, r.account, none, .insert⟩ : PlannedRecord) ∈
          planned env platform sources targets t :=
      mem_planned.mpr ⟨s, hs, hPlanned, hName⟩
    have hInsert : r.generation_action = .insert := hOk₁.2.2.2.insert_iff.mpr hNone
    have hSame : (⟨s, r.account, none, .insert⟩ : PlannedRecord) = r := by
      apply inj_on_of_nodup_map (hPass.importable.inserts_nodup t ht)
      · exact mem_filter.mpr ⟨hMem, by simp⟩
      · exact mem_filter.mpr ⟨hr, by simp [hInsert]⟩
      · exact hJob.symm
    have hOwn : r.source = s := congrArg PlannedRecord.source hSame.symm
    have hCurrent : generation_is_current x s := by
      have hSourceFacts := hPass.stable ht hr
      rw [hOwn] at hSourceFacts
      have hCore := hPass.core_inserted ht hr t.database t.schema id
      rw [hx]
      apply current_of_columns hPass.lawful hSourceFacts.1 hSourceFacts.2 rfl
      · rw [← hOwn]
        exact congrArg (fun c => c.2.2.2.2) hCore
      · exact congrArg SourceLink.url hOwn
      · exact congrArg SourceLink.link_type hOwn
    have hExisting' : r'.existing_generation = some x := by
      have hGeneration' := hOk.2.1
      unfold match_generation at hGeneration'
      rw [hIndex] at hGeneration'
      exact (Except.ok.inj hGeneration').symm
    rcases hOk.2.2.2 with ⟨hBad, _⟩ | ⟨y, hy, _, _, hAct⟩
    · rw [hExisting'] at hBad
      cases hBad
    rw [hExisting'] at hy
    cases hy
    refine ⟨t, ht, r, hr, hOwn, hAccount.symm, ?_⟩
    rw [hAct, if_pos hCurrent]

theorem Pass.replan (hs : s ∈ sources)
    (hPlan : plan_source (snapshots env platform targets') s = .ok r') :
    Replanned env platform sources targets s r' := by
  by_cases hRows : remote_job_index (snapshots env platform targets) s.job_id = []
  · by_cases hQuiet : QuietJob env platform sources targets s.job_id
    · exact absurd hPlan (hPass.not_replanned hs hQuiet hRows)
    · exact hPass.replan_inserted hs hQuiet hPlan
  · exact hPass.replan_indexed hs hRows hPlan

end

----
-- Effects Of The Second Run
----

/- The current link of a planned account is up to date. -/
theorem Pass.retained (hPass : Pass env platform now_iso sources targets targets')
    (ht' : t' ∈ targets') {id : Nat}
    (hAccount : (load_target_snapshot env platform t').account id = some a')
    (hLatest : latest_by_account (planned env platform sources targets' t') id = some s') :
    current_cache_action env a'.extra s' ≠ .updated := by
  rcases latest_mem hLatest with ⟨r', hr', hId', hSource'⟩
  rcases mem_planned.mp hr' with ⟨s, hs, hPlan, hName'⟩
  rw [(plan_source_ok hPlan).2.2.1] at hSource'
  subst hSource'
  rcases hPass.replan hs hPlan with ⟨t₀, ht₀, r, hr, hSource, hPlain, _⟩
  rcases hPass.before ht' with ⟨t, ht, hApplied⟩
  have hTarget : t₀ = t := by
    apply inj_on_of_nodup_map hPass.databases_nodup ht₀ ht
    rcases mem_planned.mp hr with ⟨_, _, _, hName⟩
    rw [← hName, database_of_plain hPlain, hName', hApplied.same.1]
  rw [hTarget] at hr
  rcases latest_max hr with ⟨l, hl, hLe⟩
  rw [hSource] at hLe
  rw [account_id_of_plain hPlain, hId'] at hl
  rcases latest_mem hl with ⟨rl, hrl, _, hSourcel⟩
  have hStable := hPass.stable ht hrl
  rw [hSourcel] at hStable
  -- The row that the second run reads is the cached one.
  rw [account_load, find?_apply_target_plan env hApplied, Option.map_eq_some_iff] at hAccount
  rcases hAccount with ⟨row', hRow', hEq⟩
  rw [Option.filter_eq_some_iff, Option.map_eq_some_iff] at hRow'
  rcases hRow' with ⟨⟨row, hRow, hCached⟩, hPlatform'⟩
  have hExtra : a'.extra = row'.extra := by
    rw [← hEq]
    rfl
  have hPlatform : row.platform = platform := by
    rw [decide_eq_true_eq, ← hCached] at hPlatform'
    rw [← hPlatform']
    unfold cachedRow
    split
    · split
      · rfl
      · split <;> rfl
    · rfl
  have hLoaded :
      (load_target_snapshot env platform t).account id = some (account_row env t row) := by
    rw [account_load, hRow, Option.filter_some, if_pos (decide_eq_true hPlatform)]
    rfl
  unfold cachedRow at hCached
  rw [hLoaded, hl] at hCached
  dsimp only at hCached
  have hSame : (account_row env t row).extra = row.extra := rfl
  rw [hSame] at hCached
  rw [hExtra]
  cases hOld : row.extra with
  | none =>
    rw [hOld] at hCached
    dsimp only at hCached
    rw [← hCached, hOld]
    unfold current_cache_action
    simp
  | some extra =>
    rw [hOld] at hCached
    dsimp only at hCached
    split at hCached
    · rw [← hCached]
      unfold linked_account current_cache_action
      dsimp only
      rw [replaced_withCurrentLink hPass.lawful hStable.1 hStable.2, if_neg (by simp; omega)]
      simp
    next hNot =>
      have hKept : ¬ current_cache_should_be_replaced env extra s := by
        intro hReplaced
        apply hNot
        exact ⟨replaced_mono hLe hReplaced, hPlatform.trans hPass.importable.chatgpt⟩
      rw [← hCached, hOld]
      unfold current_cache_action
      dsimp only
      rw [if_neg hKept]
      simp

/- Upserts of existing generations write identity columns only. -/
theorem upserts_existing (schema : Schema) {rs : List PlannedRecord}
    (hExisting : ∀ r ∈ rs, r.generation_action = .existing ∧ r.existing_generation ≠ none)
    (g : Generations) :
    ∃ g', rs.foldlM (upsert_generation env schema now_iso) g = some g' ∧
        g'.table.rows.map clearIdentity = g.table.rows.map clearIdentity := by
  induction rs generalizing g with
  | nil => exact ⟨g, rfl, rfl⟩
  | cons r rs ih =>
    have hr := hExisting r mem_cons_self
    rcases Option.ne_none_iff_exists'.mp hr.2 with ⟨x, hx⟩
    rw [foldlM_cons, upsert_matched env schema now_iso g hx]
    rcases ih (fun r' hr' => hExisting r' (mem_cons_of_mem _ hr'))
        (g.updateKey x.generation_id (writtenRow env schema now_iso r)
          (writtenRow_id env schema now_iso r) (writtenRow_request_id env schema now_iso r))
      with ⟨g', hRun, hRows⟩
    refine ⟨g', hRun, ?_⟩
    rw [hRows]
    unfold Generations.updateKey KeyedTable.updateKey KeyedTable.updateWhere
    rw [map_map]
    apply map_congr_left
    intro row _
    rw [Function.comp_apply]
    split
    · unfold writtenRow
      rw [hr.1]
      rfl
    · rfl

theorem caches_retained
    (hRetained : ∀ id a s, sn.account id = some a →
        latest_by_account records id = some s → current_cache_action env a.extra s ≠ .updated)
    (ids : List Nat) (accounts : Accounts) :
    ids.foldl (update_planned_cache env now_iso sn records)
        accounts =
      accounts := by
  have hOne : ∀ id, update_planned_cache env now_iso sn records accounts
            id =
          accounts := by
    intro id
    unfold update_planned_cache
    cases hAccount : sn.account id with
    | none => rfl
    | some a =>
      cases hLatest : latest_by_account records id with
      | none => rfl
      | some s =>
        have hAction := hRetained id a s hAccount hLatest
        unfold update_current_cache
        dsimp only
        cases hExtra : a.extra with
        | none => rfl
        | some extra =>
          rw [hExtra] at hAction
          unfold current_cache_action at hAction
          dsimp only at hAction ⊢
          by_cases hReplaced : current_cache_should_be_replaced env extra s
          · rw [if_pos hReplaced] at hAction
            exact absurd rfl hAction
          · rw [if_neg hReplaced]
  induction ids with
  | nil => rfl
  | cons id ids ih =>
    rw [foldl_cons, hOne]
    exact ih

theorem Pass.settled (hPass : Pass env platform now_iso sources targets targets') :
    Settled env platform sources targets' := by
  have hExisting : ∀ t ∈ targets',
        ∀ r ∈ planned env platform sources targets' t, r.generation_action = .existing := by
    intro t _ r hr
    rcases mem_planned.mp hr with ⟨s, hs, hPlan, _⟩
    rcases hPass.replan hs hPlan with ⟨_, _, _, _, _, _, hAct⟩
    exact hAct
  refine ⟨hExisting, fun t ht id a s => hPass.retained ht, ?_⟩
  intro now₂
  apply mapM_of_forall
  intro t ht
  unfold apply_target_plan
  split
  · exact ⟨t, rfl, rfl, rfl⟩
  · have hMatched : ∀ r ∈ planned env platform sources targets' t,
          r.generation_action = .existing ∧ r.existing_generation ≠ none := by
      intro r hr
      have hAct := hExisting t ht r hr
      refine ⟨hAct, ?_⟩
      intro hNone
      rcases mem_planned.mp hr with ⟨s, _, hPlan, _⟩
      have hInsert := (plan_source_ok hPlan).2.2.2.insert_iff.mpr hNone
      rw [hAct] at hInsert
      cases hInsert
    rcases upserts_existing t.schema hMatched t.generations with ⟨g, hRun, hRows⟩
    refine ⟨_, by rw [hRun]; rfl, ?_, hRows⟩
    exact caches_retained (fun id a s hAccount hLatest => hPass.retained ht hAccount hLatest) _ _

/- Every transaction of a consistently planned run succeeds. -/
theorem apply_succeeds (hNodup : (targets.map Target.database).Nodup)
    (hParsed : ∀ s ∈ sources, s.Parsed env) (hImportable : Importable env platform sources targets)
    (ht : t ∈ targets) : ∃ t', Applied env platform now_iso sources targets t t' := by
  unfold Applied apply_target_plan
  split
  · exact ⟨t, rfl⟩
  · have hInsert : ∀ r ∈ planned env platform sources targets t,
          (decide (r.generation_action = .insert) = r.existing_generation.isNone) := by
      intro r hr
      rcases mem_planned.mp hr with ⟨s, _, hPlan, _⟩
      have hIff := (plan_source_ok hPlan).2.2.2.insert_iff
      rw [← Option.isNone_iff_eq_none] at hIff
      rw [Bool.eq_iff_iff, decide_eq_true_eq]
      exact hIff
    have hRequests : (((planned env platform sources targets t).filter
            (fun r => r.existing_generation.isNone)).map
          (fun r => r.source.request_id)).Nodup := by
      have hJobs := hImportable.inserts_nodup t ht
      rw [filter_congr hInsert] at hJobs
      have hPrefixed := hJobs.map
          (f := fun J : String => "long-link-history:" ++ J)
          (by
            intro J J' hSame
            have hLists := congrArg String.toList hSame
            simp only [String.toList_append] at hLists
            have hTail := append_cancel_left hLists
            rw [← String.ofList_toList (s := J), hTail, String.ofList_toList])
      rw [map_map] at hPrefixed
      exact hPrefixed
    have hFresh : ∀ r ∈ planned env platform sources targets t, r.existing_generation = none →
            r.source.request_id ∉ t.generations.table.rows.map
                Generation.request_id := by
      intro r hr hNone hMem
      rcases mem_map.mp hMem with ⟨row, hRow, hRequest⟩
      rcases mem_planned.mp hr with ⟨s, _, hPlan, hName⟩
      have hOk := plan_source_ok hPlan
      have hSource := stable_of_planned hParsed hImportable ht hr
      have hGeneration := hOk.2.1
      rw [hNone, ← hOk.2.2.1] at hGeneration
      have hRows : remote_job_index (snapshots env platform targets) r.source.job_id = [] := by
        cases hIndex : remote_job_index (snapshots env platform targets) r.source.job_id with
        | nil => rfl
        | cons g rest =>
          unfold match_generation at hGeneration
          rw [hIndex] at hGeneration
          cases hGeneration
      rw [match_generation_eq hRows] at hGeneration
      have hEmpty : requestGeneration (snapshots env platform targets)
            r.account.database r.source.request_id = none := by
        cases hFound : requestGeneration (snapshots env platform targets)
              r.account.database r.source.request_id with
        | none => rfl
        | some g =>
          rw [hFound] at hGeneration
          dsimp only at hGeneration
          split at hGeneration
          · cases hGeneration
          · cases hGeneration
      unfold requestGeneration at hEmpty
      rw [hName, find_snapshot hNodup ht, Option.bind_some] at hEmpty
      unfold Snapshot.generations_by_request_id at hEmpty
      rw [getLast?_eq_none_iff, filter_eq_nil_iff] at hEmpty
      have hLoaded : generation_row env t row ∈ (load_target_snapshot env platform t).generations :=
        mem_map_of_mem hRow
      apply hEmpty _ hLoaded
      have hRead : (generation_row env t row).request_id = r.source.request_id := by
        have hText := safe_text_request_id hSource.1 hSource.2
        rw [← hRequest] at hText ⊢
        exact hText
      rw [hRead, decide_eq_true_eq]
      refine ⟨?_, rfl⟩
      intro hBad
      have hLength := congrArg (fun x => x.toList.length) hBad
      unfold SourceLink.request_id at hLength
      simp at hLength
    have hSchema : ∀ r ∈ planned env platform sources targets t,
          r.existing_generation = none → t.schema.insert_defaults := by
      intro r hr hNone
      apply hImportable.insertable t ht r hr
      have hIff := hInsert r hr
      rw [hNone] at hIff
      exact of_decide_eq_true hIff
    rcases upserts_succeed env t.schema now_iso hSchema
        hRequests t.generations hFresh with ⟨g, hRun⟩
    exact ⟨_, by rw [hRun]; rfl⟩

/- A run of the import that plans consistently succeeds, and a second run finds everything done. -/
theorem imports_idempotent (env : Env) (hEnv : env.Lawful) (platform now_iso : String)
    (rows : List SourceRow) (targets : List Target)
    (hDatabases : (targets.map Target.database).Nodup) (hImportable : ∀ sources,
        parse_source_rows env rows = .ok sources → Importable env platform sources targets) :
    Idempotent env platform now_iso rows targets := by
  intro sources hRows
  have hParsed : ∀ s ∈ sources, s.Parsed env := fun s hs => parsed_of_mem hEnv hRows hs
  have hPlan := hImportable sources hRows
  have hSome : ∃ targets', synchronize env platform now_iso sources targets = some targets' ∧
          List.Forall₂ (Applied env platform now_iso sources targets) targets targets' := by
    apply mapM_of_forall
    intro t ht
    have hOne : ∃ t', Applied env platform now_iso sources targets t t' :=
      apply_succeeds hDatabases hParsed hPlan ht
    rcases hOne with ⟨t', hApplied⟩
    exact ⟨t', hApplied, hApplied⟩
  rcases hSome with ⟨targets', hRun, hApplied⟩
  have hPass : Pass env platform now_iso sources targets targets' :=
    ⟨hEnv, hDatabases, hParsed, hPlan, hApplied⟩
  refine ⟨targets', hRun, hPass.settled, ?_⟩
  intro t _
  exact t.generations.request_ids_nodup

----
-- One Job And Two Jobs
----

theorem isUpper_toLower (c : Char) : c.toLower.isUpper = false := by
  unfold Char.toLower Char.isUpper
  split <;> grind [UInt32.toNat_add, Char.toNat_val]

theorem raceEnv_lawful : raceEnv.Lawful where
  lower_ascii := fun _ _ => rfl
  lower_not_upper := by
    intro s c hc
    unfold raceEnv at hc
    dsimp only at hc
    rw [String.toList_ofList] at hc
    rcases mem_map.mp hc with ⟨d, _, hEq⟩
    rw [← hEq]
    exact isUpper_toLower d
  lower_length := by
    intro s _
    unfold raceEnv
    rw [String.toList_ofList, length_map]
  iso_plain := by
    intro t
    unfold raceEnv
    dsimp only
    split
    · exact ⟨by decide +kernel, by decide +kernel⟩
    · exact ⟨by decide +kernel, by decide +kernel⟩
  iso_reads := by
    intro t ht
    unfold raceEnv at ht ⊢
    dsimp only at ht ⊢
    split
    next hTime =>
      rw [hTime]
      exact ⟨rfl, rfl⟩
    next hTime =>
      rw [if_neg hTime] at ht
      exact absurd rfl ht

/- A row of the source table with a job id. -/
def sourceRow (job_id : String) : SourceRow where
  job_id := .text job_id
  completed_at := .num (epochTime 1700000000) "1700000000"
  account_email := .text "one@example.test"
  long_url := .text "https://pay.example.test/one"
  link_type := .text "pix"
  source := .text "admin"
  billing_country := .text "BR"
  currency := .text "BRL"
  payment_method_type := .text "pix"
  cs_id := .text "cs-job-one"
  link_expires_at := .num (epochTime 1700003600) "1700003600"

/- One row is parsed, and its plan is an insert. Two rows whose job ids differ in an outer blank are
   parsed alike, and the run on them fails. -/
theorem raceRows_computed :
    ((parse_source_rows raceEnv [sourceRow "job-one"]).toOption = some [raceSource] ∧
        (planned raceEnv "chatgpt" [raceSource] [raceTarget] raceTarget).all
          (fun r => r.source = raceSource ∧ r.existing_generation.isNone)) ∧
      (parse_source_rows raceEnv [sourceRow "job-one", sourceRow "job-one "]).toOption =
        some [raceSource, raceSource] ∧ (synchronize raceEnv "chatgpt"
          "2026-07-02T00:00:00+00:00" [raceSource, raceSource] [raceTarget]).isNone := by
  decide +kernel

theorem nodup_of_length_le_one {α : Type} {l : List α} (hLength : l.length ≤ 1) : l.Nodup := by
  cases l with
  | nil => exact nodup_nil
  | cons a l =>
    have hNil : l = [] := by
      rw [length_cons] at hLength
      exact eq_nil_of_length_eq_zero (by omega)
    rw [hNil]
    exact nodup_singleton a

/- A row of a new job is imported once. -/
theorem imports_idempotent_one_row :
    Idempotent raceEnv "chatgpt" "2026-07-02T00:00:00+00:00"
      [sourceRow "job-one"] [raceTarget] := by
  apply imports_idempotent raceEnv raceEnv_lawful
  · decide
  · intro sources hRows
    have hParsed := raceRows_computed.1.1
    rw [hRows] at hParsed
    have hSources : sources = [raceSource] := Option.some.inj hParsed
    subst hSources
    have hAll : ∀ t ∈ [raceTarget], ∀ r ∈ planned raceEnv "chatgpt" [raceSource]
              [raceTarget] t,
            r.source = raceSource ∧ r.existing_generation = none := by
      intro t ht r hr
      rw [mem_singleton.mp ht] at hr
      have hOne := all_eq_true.mp raceRows_computed.1.2 r hr
      rw [decide_eq_true_eq, Option.isNone_iff_eq_none] at hOne
      exact hOne
    constructor
    · rfl
    · intro t ht r hr
      rw [(hAll t ht r hr).1]
      exact ⟨by decide +kernel, by decide +kernel⟩
    · intro t ht r hr g hg
      rw [(hAll t ht r hr).2] at hg
      cases hg
    · intro t ht r hr r' hr' _
      rw [(hAll t ht r hr).1, (hAll t ht r' hr').1]
      exact ⟨rfl, rfl⟩
    · intro t _
      apply nodup_of_length_le_one
      rw [length_map]
      apply le_trans (length_filter_le _ _)
      exact length_filterMap_le _ _
    · intro t ht r _ _
      rw [mem_singleton.mp ht]
      rfl

/- The run on two rows whose job ids are the same after their normalisation fails on its own second
   insert. -/
theorem same_jobs_collide :
    ¬ ∀ (env : Env), env.Lawful → ∀ (now_iso : String) (rows : List SourceRow)
          (targets : List Target),
          (targets.map Target.database).Nodup → Idempotent env "chatgpt" now_iso rows targets := by
  intro hAll
  have hRun := hAll raceEnv raceEnv_lawful "2026-07-02T00:00:00+00:00"
      [sourceRow "job-one", sourceRow "job-one "] [raceTarget] (by decide)
  have hNone := raceRows_computed.2.2
  have hParsed := raceRows_computed.2.1
  cases hRows : parse_source_rows raceEnv [sourceRow "job-one", sourceRow "job-one "] with
  | error e =>
    rw [hRows] at hParsed
    cases hParsed
  | ok sources =>
    rw [hRows] at hParsed
    have hSources : sources = [raceSource, raceSource] := Option.some.inj hParsed
    rcases hRun sources hRows with ⟨targets', hOk, _⟩
    rw [hSources] at hOk
    rw [hOk] at hNone
    cases hNone

end PaymentLinks
