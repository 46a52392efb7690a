import AutoGpt.PaymentLinks.Settled
import Mathlib.Data.Prod.Lex

/-
  The loop of `_build_plans` with its counters: every source
  row goes into one counter, the rows of a plan belong to
  exactly one account, and each account is given the latest of
  its rows.

  Main theorems: `plan_row_counted`, `match_account_belongs`, `plans_exact`
-/

open List

----
-- Plans And Counters
----

namespace PaymentLinks

/- The reasons to leave out a source row. -/
def PlanSkip.all : List PlanSkip := [.orphan_remote_job, .ambiguous_remote_job,
    .remote_job_email_mismatch, .unmatched_account,
    .ambiguous_email, .request_id_conflict,
    .generation_identity_conflict,
    .generation_account_conflict]

/- `TargetPlan`; the counters of the actions are functions of the action. -/
structure TargetPlan where
  target : Snapshot
  records : List PlannedRecord := []
  latest_by_account : Nat → Option SourceLink := fun _ => none
  matched_records : Nat := 0
  generation_actions : GenerationAction → Nat := fun _ => 0

def TargetPlan.database (plan : TargetPlan) : String := plan.target.database

/- What `_build_plans` builds. -/
structure Plans where
  plans : KeyedTable TargetPlan String TargetPlan.database
  counters : PlanSkip → Nat := fun _ => 0

def bump {K : Type} [DecidableEq K] (counters : K → Nat) (k : K) : K → Nat :=
  fun j => if j = k then counters j + 1 else counters j

/- `plan.latest_by_account` after one more record. -/
def withLatest (latest : Nat → Option SourceLink) (r : PlannedRecord) : Nat → Option SourceLink :=
  fun id =>
    if id = r.account.account_id then latestOf (latest id) r
    else latest id

/- A record is added to the plan of its database. -/
def TargetPlan.add (r : PlannedRecord) (plan : TargetPlan) : TargetPlan :=
  { plan with
    records := plan.records ++ [r],
    latest_by_account := withLatest plan.latest_by_account r,
    matched_records := plan.matched_records + 1,
    generation_actions := bump plan.generation_actions r.generation_action }

theorem TargetPlan.add_database (r : PlannedRecord) (plan : TargetPlan) :
    (plan.add r).database = plan.database := rfl

/- One round of the loop of `_build_plans`. -/
def plan_row (targets : List Snapshot) (st : Plans) (s : SourceLink) : Plans :=
  match plan_source targets s with
  | .error skip => { st with counters := bump st.counters skip }
  | .ok r =>
    { st with
      plans :=
        st.plans.updateKey r.account.database (TargetPlan.add r) (TargetPlan.add_database r) }

def empty_plans (targets : List Snapshot) : Plans where
  plans := targets.foldl (fun plans sn => plans.put { target := sn }) .empty

/- `_build_plans`, up to the counters of the cache actions. -/
def build_plans (targets : List Snapshot) (sources : List SourceLink) : Plans :=
  sources.foldl (plan_row targets) (empty_plans targets)

/- `matched_records` over all plans. -/
def Plans.matched (st : Plans) : Nat := (st.plans.rows.map TargetPlan.matched_records).sum

/- All counters of rows that are left out. -/
def Plans.skipped (st : Plans) : Nat := (PlanSkip.all.map st.counters).sum

/- The actions that a plan counts, one for each account. -/
def TargetPlan.cache_actions (env : Env) (plan : TargetPlan) : List CacheAction :=
  (planned_accounts plan.records).filterMap fun id =>
    match plan.target.account id, plan.latest_by_account id with
    | some a, some s => some (current_cache_action env a.extra s)
    | _, _ => none

end PaymentLinks

----
-- Counting
----

namespace KeyedTable

variable {Row Key : Type}
variable [DecidableEq Key]

/- A sum over the rows grows by one with the row of a key. -/
theorem sum_updateKey {t : KeyedTable Row Key key}
    (hKey : ∀ r, key (f r) = key r) (hGrows : ∀ r, g (f r) = g r + 1) (hFind : t.find? k = some r) :
    ((t.updateKey k f hKey).rows.map g).sum = (t.rows.map g).sum + 1 := by
  have hRows : ∀ rows : List Row, (rows.map key).Nodup → k ∈ rows.map key → ((rows.map fun r =>
            if decide (key r = k) then f r else r).map
          g).sum = (rows.map g).sum + 1 := by
    intro rows hNodup hMem
    induction rows with
    | nil => cases hMem
    | cons row rows ih =>
      rw [map_cons, nodup_cons] at hNodup
      simp only [map_cons, sum_cons]
      by_cases hHead : key row = k
      · have hRest : (rows.map fun r =>
              if decide (key r = k) then f r else r) =
              rows := by
          conv_rhs => rw [← map_id rows]
          apply map_congr_left
          intro other hOther
          rw [decide_eq_false, if_neg Bool.false_ne_true]
          · rfl
          · intro hSame
            apply hNodup.1
            rw [hHead, ← hSame]
            exact mem_map_of_mem hOther
        rw [hRest, if_pos (decide_eq_true hHead), hGrows]
        omega
      · have hTail : k ∈ rows.map key := by
          rcases mem_cons.mp hMem with hIs | hIn
          · exact absurd hIs.symm hHead
          · exact hIn
        rw [ih hNodup.2 hTail, decide_eq_false hHead, if_neg Bool.false_ne_true]
        omega
  have hFound := mem_of_find? hFind
  apply hRows t.rows t.keys_nodup
  rw [← hFound.2]
  exact mem_map_of_mem hFound.1

end KeyedTable

namespace PaymentLinks

variable {targets : List Snapshot}

/- One more source row is in exactly one counter: the records of a plan, or one reason to leave it
   out. -/
def CountedOnce (st st' : Plans) : Prop := (st'.matched = st.matched + 1 ∧
      st'.counters = st.counters) ∨
    ∃ skip, st'.matched = st.matched ∧ st'.counters = bump st.counters skip

theorem sum_bump (counters : PlanSkip → Nat) (k : PlanSkip) :
    (PlanSkip.all.map (bump counters k)).sum = (PlanSkip.all.map counters).sum + 1 := by
  unfold PlanSkip.all bump
  cases k <;>
    simp only [map_cons, map_nil, sum_cons,
      sum_nil, reduceCtorEq, if_true, if_false] <;>
    omega

theorem CountedOnce.total {st st' : Plans} (hCounted : CountedOnce st st') :
    st'.matched + st'.skipped = st.matched + st.skipped + 1 := by
  unfold Plans.skipped
  rcases hCounted with ⟨hMatched, hSame⟩ | ⟨k, hSame, hBump⟩
  · rw [hMatched, hSame]
    omega
  · rw [hSame, hBump, sum_bump]
    omega

theorem plan_row_counted {st : Plans} {s : SourceLink}
    (hPlan :
      ∀ r, plan_source targets s = .ok r → ∃ plan, st.plans.find? r.account.database = some plan) :
    CountedOnce st (plan_row targets st s) := by
  unfold plan_row
  cases hSource : plan_source targets s with
  | error skip => exact .inr ⟨skip, rfl, rfl⟩
  | ok r =>
    rcases hPlan r hSource with ⟨plan, hFind⟩
    left
    refine ⟨?_, rfl⟩
    exact KeyedTable.sum_updateKey (TargetPlan.add_database r) (fun _ => rfl) hFind

----
-- The Plan Of A Database
----

/- The loop has put into a plan what belongs to its database. -/
structure TargetPlan.Holds (targets : List Snapshot) (sources : List SourceLink)
    (sn : Snapshot) (plan : TargetPlan) : Prop where
  target : plan.target = sn
  records : plan.records = plan_records targets sources sn.database
  latest : ∀ id, plan.latest_by_account id = PaymentLinks.latest_by_account plan.records id
  matched : plan.matched_records = plan.records.length

theorem find?_empty_plans_of_not_mem (sns : List Snapshot)
    (plans : KeyedTable TargetPlan String TargetPlan.database)
    (hNot : database ∉ sns.map Snapshot.database) :
    (sns.foldl (fun plans sn => plans.put ({ target := sn } : TargetPlan))
        plans).find? database = plans.find? database := by
  induction sns generalizing plans with
  | nil => rfl
  | cons sn sns ih =>
    rw [map_cons, mem_cons, not_or] at hNot
    rw [foldl_cons, ih _ hNot.2, KeyedTable.find?_put, if_neg]
    exact fun hSame => hNot.1 hSame.symm

theorem find?_empty_plans (sns : List Snapshot)
    (plans : KeyedTable TargetPlan String TargetPlan.database)
    (hDistinct : (sns.map Snapshot.database).Nodup) (hMem : sn ∈ sns) :
    (sns.foldl (fun plans sn => plans.put ({ target := sn } : TargetPlan))
        plans).find? sn.database = some { target := sn } := by
  induction sns generalizing plans with
  | nil => cases hMem
  | cons first sns ih =>
    rw [map_cons, nodup_cons] at hDistinct
    rw [foldl_cons]
    rcases mem_cons.mp hMem with hHead | hTail
    · rw [← hHead] at hDistinct
      rw [← hHead, find?_empty_plans_of_not_mem sns _ hDistinct.1, KeyedTable.find?_put, if_pos]
      rfl
    · exact ih _ hDistinct.2 hTail

theorem target_of_mem_empty_plans (sns : List Snapshot)
    (plans : KeyedTable TargetPlan String TargetPlan.database)
    (hPlan : plan ∈ (sns.foldl (fun plans sn => plans.put ({ target := sn } : TargetPlan))
          plans).rows) :
    plan ∈ plans.rows ∨ plan.target ∈ sns := by
  induction sns generalizing plans with
  | nil => exact .inl hPlan
  | cons sn sns ih =>
    rcases ih _ hPlan with hOld | hLater
    · rcases KeyedTable.mem_rows_put hOld with
        hNew | ⟨-, hBefore⟩
      · right
        rw [hNew]
        exact mem_cons_self
      · exact .inl hBefore
    · exact .inr (mem_cons_of_mem _ hLater)

theorem latest_by_account_snoc (records : List PlannedRecord) (r : PlannedRecord) (id : Nat) :
    latest_by_account (records ++ [r]) id = withLatest (latest_by_account records) r id := by
  unfold latest_by_account withLatest
  rw [filter_append, foldl_append]
  by_cases hSame : id = r.account.account_id
  · rw [if_pos hSame, filter_cons_of_pos]
    · rfl
    · exact decide_eq_true hSame.symm
  · rw [if_neg hSame, filter_cons_of_neg]
    · rfl
    · simpa using fun h : r.account.account_id = id => hSame h.symm

theorem plan_records_snoc (targets : List Snapshot) (sources : List SourceLink) (s : SourceLink)
    (database : String) :
    plan_records targets (sources ++ [s]) database = plan_records targets sources database ++
        ((plan_source targets s).toOption.filter
          (fun r => r.account.database = database)).toList := by
  unfold plan_records
  have hOne : [s].filterMap
          (fun s =>
            (plan_source targets s).toOption.filter (fun r => r.account.database = database)) =
        ((plan_source targets s).toOption.filter
          (fun r => r.account.database = database)).toList := by
    cases hRecord :
        (plan_source targets s).toOption.filter (fun r => r.account.database = database) with
    | none => exact filterMap_cons_none hRecord
    | some r => exact filterMap_cons_some hRecord
  rw [filterMap_append, hOne]

/- A round of the loop adds a record to the plan of its
   database and leaves the other plans alone. -/
theorem plan_row_find?
    {sources : List SourceLink} (s : SourceLink) (hFind : st.plans.find? sn.database = some plan)
    (hHolds : plan.Holds targets sources sn) :
    ∃ next, (plan_row targets st s).plans.find? sn.database = some next ∧
        next.Holds targets (sources ++ [s]) sn := by
  have hRecords := plan_records_snoc targets sources s sn.database
  have hKept :
      (plan_source targets s).toOption.filter (fun r => r.account.database = sn.database) = none →
      plan.Holds targets (sources ++ [s]) sn := by
    intro hNone
    rw [hNone, Option.toList_none, append_nil] at hRecords
    exact ⟨hHolds.target, hHolds.records.trans hRecords.symm, hHolds.latest, hHolds.matched⟩
  unfold plan_row
  cases hSource : plan_source targets s with
  | error skip =>
    refine ⟨plan, hFind, hKept ?_⟩
    rw [hSource]
    rfl
  | ok r =>
    rw [hSource] at hRecords hKept
    by_cases hDatabase : r.account.database = sn.database
    · refine ⟨plan.add r, ?_, ?_⟩
      · dsimp only
        rw [hDatabase, KeyedTable.find?_updateKey_self, hFind]
        rfl
      · have hSome : (Except.ok r : Except PlanSkip PlannedRecord).toOption.filter
                (fun r => r.account.database = sn.database) =
              some r := by
          simp [Except.toOption, hDatabase]
        rw [hSome] at hRecords
        refine ⟨hHolds.target, ?_, ?_, ?_⟩
        · rw [hRecords, ← hHolds.records]
          rfl
        · intro id
          have hSnoc := latest_by_account_snoc plan.records r id
          unfold TargetPlan.add
          dsimp only
          rw [hSnoc]
          unfold withLatest
          rw [hHolds.latest id]
        · unfold TargetPlan.add
          rw [hHolds.matched, length_append]
          rfl
    · refine ⟨plan, ?_, hKept ?_⟩
      · dsimp only
        rw [KeyedTable.find?_updateKey_of_ne _ _ _ (Ne.symm hDatabase), hFind]
      · simp [Except.toOption, hDatabase]

theorem target_of_mem_plan_row (s : SourceLink)
    (hTargets : ∀ plan ∈ st.plans.rows, plan.target ∈ targets)
    (hPlan : plan ∈ (plan_row targets st s).plans.rows) : plan.target ∈ targets := by
  unfold plan_row at hPlan
  cases hSource : plan_source targets s with
  | error skip =>
    rw [hSource] at hPlan
    exact hTargets plan hPlan
  | ok r =>
    rw [hSource] at hPlan
    dsimp only at hPlan
    rcases KeyedTable.mem_rows_updateKey hPlan with ⟨old, hOld, hIs⟩ | ⟨-, hOld⟩
    · rw [hIs]
      exact hTargets old (KeyedTable.mem_of_find? hOld).1
    · exact hTargets plan hOld

/- The loop, by induction on the source rows from the last one: every target has its plan, with the
   records of its database, and there are no other plans. -/
theorem build_plans_find? (hDistinct : (targets.map Snapshot.database).Nodup)
    (sources : List SourceLink) :
    (∀ sn ∈ targets, ∃ plan, (build_plans targets sources).plans.find? sn.database = some plan ∧
        plan.Holds targets sources sn) ∧
      ∀ plan ∈ (build_plans targets sources).plans.rows, plan.target ∈ targets := by
  induction sources using reverseRecOn with
  | nil =>
    constructor
    · intro sn hMem
      refine ⟨{ target := sn }, find?_empty_plans targets .empty hDistinct hMem,
          rfl, rfl, fun _ => rfl, rfl⟩
    · intro plan hPlan
      rcases target_of_mem_empty_plans targets .empty hPlan with hNone | hMem
      · cases hNone
      · exact hMem
  | append_singleton sources s ih =>
    have hStep : build_plans targets (sources ++ [s]) =
          plan_row targets (build_plans targets sources)
            s := by
      unfold build_plans
      rw [foldl_append]
      rfl
    rw [hStep]
    constructor
    · intro sn hMem
      rcases ih.1 sn hMem with ⟨plan, hFind, hHolds⟩
      exact plan_row_find? s hFind hHolds
    · intro plan hPlan
      exact target_of_mem_plan_row s ih.2 hPlan

----
-- Accounts Of Source Rows
----

structure Snapshot.Sound (sn : Snapshot) : Prop where
  accounts : ∀ a ∈ sn.accounts, a.database = sn.database
  generations : ∀ g ∈ sn.generations, g.database = sn.database

theorem load_target_snapshot_sound (env : Env) (platform : String) (t : Target) :
    (load_target_snapshot env platform t).Sound := by
  constructor
  · intro a hMem
    rcases mem_map.mp hMem with ⟨r, -, hIs⟩
    rw [← hIs]
    rfl
  · intro g hMem
    rcases mem_map.mp hMem with ⟨r, -, hIs⟩
    rw [← hIs]
    rfl

/- The account that a source row belongs to: it has the row's e-mail, and either every generation of
   the row's job that still has an account points to it, or the job has no generation and no other
   account has the e-mail. -/
def BelongsTo (targets : List Snapshot) (s : SourceLink) (a : AccountRow) : Prop :=
  a.email = s.account_email ∧ (∃ sn ∈ targets, a ∈ sn.accounts) ∧
    (((∃ sn ∈ targets, ∃ g ∈ sn.generations,
          g.remote_job_id = s.job_id ∧ sn.account g.account_id = some a) ∧
        ∀ sn ∈ targets, ∀ g ∈ sn.generations, g.remote_job_id = s.job_id →
          ∀ b, sn.account g.account_id = some b → b = a) ∨
      ((∀ sn ∈ targets, ∀ g ∈ sn.generations, g.remote_job_id ≠ s.job_id) ∧
        ∀ sn ∈ targets, ∀ b ∈ sn.accounts, b.email = s.account_email → b = a))

theorem find?_target (hDistinct : (targets.map Snapshot.database).Nodup) (hMem : sn ∈ targets) :
    targets.find? (fun t => t.database = sn.database) = some sn := by
  cases hFind : targets.find? (fun t => t.database = sn.database) with
  | none =>
    have hNone := find?_eq_none.mp hFind sn hMem
    simp at hNone
  | some found =>
    have hSame : found.database = sn.database := by simpa using find?_some hFind
    have hFound := mem_of_find?_eq_some hFind
    rw [inj_on_of_nodup_map hDistinct hFound hMem hSame]

theorem generation_account_eq (hDistinct : (targets.map Snapshot.database).Nodup)
    (hSound : ∀ sn ∈ targets, sn.Sound) (hMem : sn ∈ targets) (hg : g ∈ sn.generations) :
    generation_account targets g = sn.account g.account_id := by
  unfold generation_account
  rw [(hSound sn hMem).generations g hg, find?_target hDistinct hMem]
  rfl

theorem mem_job_rows (hJob : job_id ≠ "") :
    g ∈ remote_job_index targets job_id ↔
      ∃ sn ∈ targets, g ∈ sn.generations ∧ g.remote_job_id = job_id := by
  unfold remote_job_index Snapshot.generations_by_remote_job
  rw [mem_flatMap]
  constructor
  · rintro ⟨sn, hMem, hg⟩
    rw [mem_filter, decide_eq_true_eq] at hg
    exact ⟨sn, hMem, hg.1, hg.2.2⟩
  · rintro ⟨sn, hMem, hg, hIs⟩
    refine ⟨sn, hMem, ?_⟩
    rw [mem_filter, decide_eq_true_eq, hIs]
    exact ⟨hg, hJob, rfl⟩

theorem mem_global_email_index {email : String} (hEmail : email ≠ "") :
    a ∈ global_email_index targets email ↔ ∃ sn ∈ targets, a ∈ sn.accounts ∧ a.email = email := by
  unfold global_email_index Snapshot.email_index
  rw [mem_flatMap]
  constructor
  · rintro ⟨sn, hMem, ha⟩
    rw [mem_filter, decide_eq_true_eq] at ha
    exact ⟨sn, hMem, ha.1, ha.2.2⟩
  · rintro ⟨sn, hMem, ha, hIs⟩
    refine ⟨sn, hMem, ?_⟩
    rw [mem_filter, decide_eq_true_eq, hIs]
    exact ⟨ha, hEmail, rfl⟩

theorem exists_foldl_addAccount {l acc : List AccountRow} (hMem : a ∈ acc ∨ a ∈ l) :
    ∃ b ∈ l.foldl addAccount acc, b.database = a.database ∧ b.account_id = a.account_id := by
  induction l generalizing acc a with
  | nil =>
    rcases hMem with hAcc | hNil
    · exact ⟨a, hAcc, rfl, rfl⟩
    · cases hNil
  | cons first l ih =>
    rw [foldl_cons]
    have hAdded : ∃ b ∈ addAccount acc first,
          b.database = first.database ∧ b.account_id = first.account_id := by
      unfold addAccount
      split
      next hAny =>
        rcases any_eq_true.mp hAny with ⟨b, hb, hKey⟩
        rw [decide_eq_true_eq] at hKey
        exact ⟨b, hb, hKey⟩
      · exact ⟨first, mem_append_right _ (mem_singleton.mpr rfl), rfl, rfl⟩
    have hKept : ∀ b ∈ acc, b ∈ addAccount acc first := by
      intro b hb
      unfold addAccount
      split
      · exact hb
      · exact mem_append_left _ hb
    rcases hMem with hAcc | hCons
    · exact ih (.inl (hKept a hAcc))
    · rcases mem_cons.mp hCons with hHead | hTail
      · rcases hAdded with ⟨b, hb, hDatabase, hId⟩
        rcases ih (.inl hb) with ⟨c, hc, hSame⟩
        refine ⟨c, hc, ?_, ?_⟩
        · rw [hSame.1, hDatabase, hHead]
        · rw [hSame.2, hId, hHead]
      · exact ih (.inr hTail)

theorem Snapshot.mem_of_account {sn : Snapshot} {id : Nat} (hAccount : sn.account id = some a) :
    a ∈ sn.accounts ∧ a.account_id = id := by
  refine ⟨mem_of_find?_eq_some hAccount, ?_⟩
  simpa using find?_some hAccount

/- The one account that the generations of a job have: it is the account of one of them, and of
   every one of them that has any. -/
theorem unique_accounts_one (hDistinct : (targets.map Snapshot.database).Nodup)
    (hSound : ∀ sn ∈ targets, sn.Sound) {job_id : String} (hJob : job_id ≠ "")
    (hOne : unique_accounts targets (remote_job_index targets job_id) = [a]) :
    (∃ sn ∈ targets, ∃ g ∈ sn.generations,
        g.remote_job_id = job_id ∧ sn.account g.account_id = some a) ∧
      ∀ sn ∈ targets, ∀ g ∈ sn.generations, g.remote_job_id = job_id →
        ∀ b, sn.account g.account_id = some b → b = a := by
  have hOf : a ∈ unique_accounts targets (remote_job_index targets job_id) := by
    rw [hOne]
    exact mem_singleton.mpr rfl
  have hSource : a ∈ (remote_job_index targets job_id).filterMap (generation_account targets) := by
    rcases mem_foldl_addAccount hOf with hNil | hMem
    · cases hNil
    · exact hMem
  rcases mem_filterMap.mp hSource with ⟨g, hg, hAccount⟩
  rcases (mem_job_rows hJob).mp hg with ⟨sn, hMem, hIn, hIs⟩
  rw [generation_account_eq hDistinct hSound hMem hIn] at hAccount
  refine ⟨⟨sn, hMem, g, hIn, hIs, hAccount⟩, ?_⟩
  intro sn' hMem' g' hIn' hIs' b hAccount'
  have hCollected :
      b ∈ (remote_job_index targets job_id).filterMap (generation_account targets) := by
    refine mem_filterMap.mpr ⟨g', (mem_job_rows hJob).mpr ⟨sn', hMem', hIn', hIs'⟩, ?_⟩
    rw [generation_account_eq hDistinct hSound hMem' hIn']
    exact hAccount'
  have hEqual : ∃ c ∈ unique_accounts targets (remote_job_index targets job_id),
        c.database = b.database ∧ c.account_id = b.account_id :=
    exists_foldl_addAccount (.inr hCollected)
  rcases hEqual with ⟨c, hc, hDatabase, hId⟩
  rw [hOne, mem_singleton] at hc
  rw [hc] at hDatabase hId
  -- Both are the account of one id in one target.
  have hA := Snapshot.mem_of_account hAccount
  have hB := Snapshot.mem_of_account hAccount'
  have hPath : sn.database = sn'.database := by
    rw [← (hSound sn hMem).accounts a hA.1, ← (hSound sn' hMem').accounts b hB.1]
    exact hDatabase
  have hSame : sn = sn' := inj_on_of_nodup_map hDistinct hMem hMem' hPath
  rw [← hSame, ← hB.2, ← hId, hA.2, hAccount] at hAccount'
  exact (Option.some.inj hAccount').symm

/- A matched source row belongs to its account. -/
theorem match_account_belongs (hDistinct : (targets.map Snapshot.database).Nodup)
    (hSound : ∀ sn ∈ targets, sn.Sound) (hJob : s.job_id ≠ "") (hEmail : s.account_email ≠ "")
    (hMatch : match_account targets s = .ok a) : BelongsTo targets s a := by
  unfold match_account at hMatch
  dsimp only at hMatch
  split at hMatch
  · cases hMatch
  next b hOne =>
    split at hMatch
    · cases hMatch
    next hSame =>
      cases hMatch
      rw [ne_eq, not_not] at hSame
      have hUnique := unique_accounts_one hDistinct hSound hJob hOne
      refine ⟨hSame, ?_, .inl hUnique⟩
      rcases hUnique.1 with ⟨sn, hMem, g, -, -, hAccount⟩
      exact ⟨sn, hMem, (Snapshot.mem_of_account hAccount).1⟩
  · split at hMatch
    · cases hMatch
    next hNone =>
      rw [ne_eq, not_not] at hNone
      split at hMatch
      · cases hMatch
      next b hOne =>
        cases hMatch
        have hOnly : ∀ b, b ∈ global_email_index targets s.account_email ↔ b = a := by
          intro b
          rw [hOne, mem_singleton]
        have hSelf := (mem_global_email_index hEmail).mp ((hOnly a).mpr rfl)
        rcases hSelf with ⟨sn, hMem, hIn, hIs⟩
        refine ⟨hIs, ⟨sn, hMem, hIn⟩, .inr ⟨?_, ?_⟩⟩
        · intro sn' hMem' g hg hIs'
          have hIndexed := (mem_job_rows hJob).mpr ⟨sn', hMem', hg, hIs'⟩
          rw [hNone] at hIndexed
          cases hIndexed
        · intro sn' hMem' b hb hIs'
          exact (hOnly b).mp ((mem_global_email_index hEmail).mpr ⟨sn', hMem', hb, hIs'⟩)
      · cases hMatch

----
-- The Latest Row Of An Account
----

/- `(source.completed_at, source.job_id)`, in the order of tuples. -/
def SourceLink.rank (s : SourceLink) : Lex (Int × String) := toLex (s.completed_at, s.job_id)

theorem laterThan_iff (a b : SourceLink) : a.laterThan b ↔ b.rank < a.rank := by
  unfold SourceLink.laterThan SourceLink.rank
  rw [decide_eq_true_eq, Prod.Lex.toLex_lt_toLex]

/- The latest of some records is at least as late as each of them, and as the one before. -/
theorem foldl_latestOf_greatest (rs : List PlannedRecord) (init : Option SourceLink)
    {latest : SourceLink} (hLatest : rs.foldl latestOf init = some latest) :
    (∀ l ∈ init, l.rank ≤ latest.rank) ∧ ∀ r ∈ rs, r.source.rank ≤ latest.rank := by
  induction rs generalizing init with
  | nil =>
    rw [foldl_nil] at hLatest
    constructor
    · intro l hl
      rw [hLatest] at hl
      rw [Option.some.inj hl]
    · intro r hr
      cases hr
  | cons r rs ih =>
    rcases ih (latestOf init r) hLatest with ⟨hInit, hRest⟩
    have hBoth : r.source.rank ≤ latest.rank ∧ ∀ l ∈ init, l.rank ≤ latest.rank := by
      unfold latestOf at hInit
      cases init with
      | none =>
        refine ⟨hInit r.source rfl, ?_⟩
        intro l hl
        cases hl
      | some l =>
        dsimp only at hInit
        by_cases hLater : r.source.laterThan l
        · rw [if_pos hLater] at hInit
          have hFirst := hInit r.source rfl
          refine ⟨hFirst, ?_⟩
          intro l' hl'
          cases hl'
          exact le_trans (le_of_lt ((laterThan_iff _ _).mp hLater)) hFirst
        · rw [if_neg hLater] at hInit
          have hOld := hInit l rfl
          rw [laterThan_iff, not_lt] at hLater
          refine ⟨le_trans hLater hOld, ?_⟩
          intro l' hl'
          cases hl'
          exact hOld
    refine ⟨hBoth.2, ?_⟩
    intro other hOther
    rcases mem_cons.mp hOther with hHead | hTail
    · rw [hHead]
      exact hBoth.1
    · exact hRest other hTail

/- The link planned for an account is the greatest of its records. -/
structure IsLatest (records : List PlannedRecord) (id : Nat) (latest : SourceLink) : Prop where
  mem : ∃ r ∈ records, r.account.account_id = id ∧ r.source = latest
  greatest : ∀ r ∈ records, r.account.account_id = id → r.source.rank ≤ latest.rank

theorem isLatest_of_latest_by_account {id : Nat} {latest : SourceLink}
    (hLatest : latest_by_account records id = some latest) :
    IsLatest records id latest := by
  refine ⟨latest_mem hLatest, ?_⟩
  intro r hr hId
  have hGreatest := foldl_latestOf_greatest _ none hLatest
  apply hGreatest.2
  exact mem_filter.mpr ⟨hr, by simpa using hId⟩

----
-- Plans Are Exact
----

theorem given_of_parse_source_row
    (hRow : parse_source_row env row = .ok (.ok s)) : s.job_id ≠ "" ∧ s.account_email ≠ "" := by
  unfold parse_source_row at hRow
  dsimp only at hRow
  split at hRow
  · cases hRow
  next completed _ =>
    split_ifs at hRow with hJob hEmail hUrl hExpiry
    · cases hRow
    · cases hRow
    · cases hRow
    · split at hRow
      · cases hRow
      · split at hRow
        · cases hRow
        · cases hRow
          exact ⟨hJob, hEmail⟩
    · split at hRow
      · cases hRow
      · cases hRow
        exact ⟨hJob, hEmail⟩

/- What the source rows and the snapshots of a run are like. -/
structure WellFormed (sns : List Snapshot) (sources : List SourceLink) :
    Prop where
  paths : (sns.map Snapshot.database).Nodup
  sound : ∀ sn ∈ sns, sn.Sound
  given : ∀ s ∈ sources, s.job_id ≠ "" ∧ s.account_email ≠ ""

theorem wellFormed_of_parse (platform : String) {targets : List Target}
    (hDistinct : (targets.map Target.database).Nodup)
    (hParsed : parse_source_rows env rows = .ok sources) :
    WellFormed (snapshots env platform targets) sources := by
  constructor
  · unfold snapshots
    rw [map_map]
    exact hDistinct
  · intro sn hMem
    rcases mem_map.mp hMem with ⟨t, -, hIs⟩
    rw [← hIs]
    exact load_target_snapshot_sound env platform t
  · intro s hMem
    rcases mem_parse_source_rows hParsed hMem with ⟨row, -, hRow⟩
    exact given_of_parse_source_row hRow

theorem WellFormed.belongs (hRun : WellFormed sns sources) (hMem : s ∈ sources)
    {r : PlannedRecord} (hPlan : plan_source sns s = .ok r) : BelongsTo sns s r.account :=
  match_account_belongs hRun.paths hRun.sound (hRun.given s hMem).1 (hRun.given s hMem).2
    (plan_source_ok hPlan).1

theorem build_plans_snoc (before : List SourceLink) (s : SourceLink) :
    build_plans sns (before ++ [s]) = plan_row sns (build_plans sns before) s := by
  unfold build_plans
  rw [foldl_append]
  rfl

theorem WellFormed.counted (hRun : WellFormed sns sources) (before : List SourceLink)
    (hMem : s ∈ sources) :
    CountedOnce (build_plans sns before) (build_plans sns (before ++ [s])) := by
  rw [build_plans_snoc]
  apply plan_row_counted
  intro r hPlan
  rcases (hRun.belongs hMem hPlan).2.1 with ⟨sn, hSn, hAccount⟩
  rcases (build_plans_find? hRun.paths before).1 sn hSn with ⟨plan, hFind, -⟩
  have hDatabase := (hRun.sound sn hSn).accounts r.account hAccount
  rw [← hDatabase] at hFind
  exact ⟨plan, hFind⟩

theorem WellFormed.holds (hRun : WellFormed sns sources) (before : List SourceLink)
    {plan : TargetPlan} (hPlan : plan ∈ (build_plans sns before).plans.rows) :
    plan.Holds sns before plan.target := by
  have hTarget := (build_plans_find? hRun.paths before).2 plan hPlan
  rcases (build_plans_find? hRun.paths before).1 _ hTarget with ⟨found, hFind, hHolds⟩
  have hSelf := KeyedTable.find?_of_mem hPlan
  have hSame : found = plan := Option.some.inj (hFind.symm.trans hSelf)
  rw [hSame] at hHolds
  exact hHolds

/- The counters sum up to the number of rows, by induction on the rows from the last one. -/
theorem WellFormed.total (hRun : WellFormed sns sources) (before : List SourceLink)
    (hSub : ∀ s ∈ before, s ∈ sources) :
    (build_plans sns before).matched + (build_plans sns before).skipped = before.length := by
  induction before using reverseRecOn with
  | nil =>
    have hNone : (build_plans sns []).matched = 0 := by
      apply sum_eq_zero
      intro n hn
      rcases mem_map.mp hn with ⟨plan, hPlan, hIs⟩
      have hHolds := hRun.holds [] hPlan
      rw [← hIs, hHolds.matched, hHolds.records]
      rfl
    rw [hNone]
    rfl
  | append_singleton before s ih =>
    have hStep := (hRun.counted before (hSub s (by simp))).total
    rw [hStep, ih (fun t ht => hSub t (by simp [ht])), length_append]
    rfl

/- For the valid rows of a source and the snapshots of target databases, the loop of `_build_plans`
   counts every row exactly once; a row in a plan belongs to its account; and each account is
   planned the greatest of its rows. -/
theorem plans_exact (env : Env) (platform : String) (targets : List Target) (rows : List SourceRow)
    {sources : List SourceLink} (hDistinct : (targets.map Target.database).Nodup)
    (hParsed : parse_source_rows env rows = .ok sources) :
    ((build_plans (snapshots env platform targets) sources).matched +
          (build_plans (snapshots env platform targets) sources).skipped = sources.length ∧
      ∀ before s after, sources = before ++ s :: after → CountedOnce
          (build_plans (snapshots env platform targets) before)
          (build_plans (snapshots env platform targets) (before ++ [s]))) ∧
      ∀ plan ∈ (build_plans (snapshots env platform targets) sources).plans.rows,
        plan.matched_records = plan.records.length ∧ (∀ r ∈ plan.records, r.source ∈ sources ∧
              r.account.database = plan.database ∧
              BelongsTo (snapshots env platform targets) r.source r.account) ∧
          (∀ id latest, plan.latest_by_account id = some latest → IsLatest plan.records id latest) ∧
          ∀ r ∈ plan.records,
            ∃ latest, plan.latest_by_account r.account.account_id = some latest := by
  have hRun := wellFormed_of_parse platform hDistinct hParsed
  refine ⟨⟨?_, ?_⟩, ?_⟩
  · exact hRun.total sources (fun s hs => hs)
  · intro before s after hSplit
    apply hRun.counted
    rw [hSplit]
    simp
  · intro plan hPlan
    have hHolds := hRun.holds sources hPlan
    refine ⟨hHolds.matched, ?_, ?_, ?_⟩
    · intro r hr
      rw [hHolds.records] at hr
      rcases mem_plan_records.mp hr with ⟨s, hs, hPlanned, hDatabase⟩
      have hSource := (plan_source_ok hPlanned).2.2.1
      rw [hSource]
      exact ⟨hs, hDatabase, hRun.belongs hs hPlanned⟩
    · intro id latest hLatest
      rw [hHolds.latest id] at hLatest
      exact isLatest_of_latest_by_account hLatest
    · intro r hr
      rcases latest_max hr with ⟨latest, hLatest, -⟩
      exact ⟨latest, (hHolds.latest _).trans hLatest⟩

/- A row of a new job and the one account with its e-mail. -/
theorem plans_exact_one_row :
    (build_plans (snapshots raceEnv "chatgpt" [raceTarget]) [raceSource]).matched + (build_plans
          (snapshots raceEnv "chatgpt" [raceTarget]) [raceSource]).skipped = 1 ∧
      ∀ plan ∈ (build_plans (snapshots raceEnv "chatgpt" [raceTarget]) [raceSource]).plans.rows,
        ∀ r ∈ plan.records, BelongsTo (snapshots raceEnv "chatgpt" [raceTarget])
            r.source r.account := by
  have hParsed : parse_source_rows raceEnv [sourceRow "job-one"] = .ok [raceSource] := by
    have hOption := raceRows_computed.1.1
    cases hRows : parse_source_rows raceEnv [sourceRow "job-one"] with
    | error e =>
      rw [hRows] at hOption
      cases hOption
    | ok sources =>
      rw [hRows] at hOption
      rw [Option.some.inj hOption]
  have hExact :=
    plans_exact raceEnv "chatgpt" [raceTarget] [sourceRow "job-one"] (by decide) hParsed
  refine ⟨hExact.1.1, ?_⟩
  intro plan hPlan r hr
  exact ((hExact.2 plan hPlan).2.1 r hr).2.2

end PaymentLinks
