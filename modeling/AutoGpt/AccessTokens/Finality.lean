import AutoGpt.AccessTokens.Responses

/-
  Payments: a claim row that is paid stays paid, and its
  account is in no later response of a claim request. The
  block on the account is the copy of its last claim in
  `extra`, which every later write to any claim of the
  account replaces.

  The main theorems are:
    * `AccessTokens.paid_is_final`
    * `AccessTokens.payment_forgotten`
-/

open JobPool (Holds OnJob State step)
open Machine (Steps)
open List
open Option
open KeyedTable

----
-- Guarantees And Conditions
----

namespace AccessTokens

/- A paid claim of an account is recorded. -/
def Paid (s : Shared) (account_id : Nat) : Prop :=
  ∃ row ∈ s.claims.rows, row.account_id = account_id ∧ row.status = .paid

instance (s : Shared) (account_id : Nat) :
    Decidable (Paid s account_id) :=
  inferInstanceAs
    (Decidable (∃ row ∈ s.claims.rows, row.account_id = account_id ∧ row.status = .paid))

/- The claim in the `extra` of the account is a paid one. -/
def Account.ShowsPaid (account : Account) : Prop :=
  account.extra.claim.map Claim.status = some .paid

instance (account : Account) : Decidable account.ShowsPaid :=
  inferInstanceAs (Decidable (account.extra.claim.map Claim.status = some .paid))

/- The accounts whose tokens a claim request will send. -/
def Round.ids (r : Round) : List Nat := r.claimed.map Item.account_id

/- The accounts that a claim request has checked or claimed. -/
def Job.holds : Job → List Nat
| .scan r => r.ids
| .visit r _ => r.ids
| .reserve r account _ => account.id :: r.ids
| .insert r account _ => account.id :: r.ids
| .preflight r claim _ => claim.account_id :: r.ids
| .probe r claim _ _ _ => claim.account_id :: r.ids
| .reread r claim _ _ => claim.account_id :: r.ids
| .record r claim _ _ _ => claim.account_id :: r.ids
| _ => []

/- A claim request checks no copy of an account that is older than the payment of the account. No
   claim of an account with a paid claim is released or fails. A payment is recorded while no claim
   request in progress has checked or claimed the account. -/
def KeepsPayments (st : State Shared Job) (_ : Draw) :
    Job → Prop
| .visit _ (.loaded (account :: _)) => Paid st.shared account.id → account.ShowsPaid
| .release _ account _ => ¬ Paid st.shared account.id
| .result _ account _ _ status =>
    if status = .paid then ∀ other ∈ st.jobs, account.id ∉ other.holds
    else ¬ Paid st.shared account.id
| _ => True

instance
    (st : State Shared Job) (draw : Draw) (job : Job) : Decidable (KeepsPayments st draw job) := by
  unfold KeepsPayments
  split <;> infer_instance

/- A row that is paid stays paid, and no later response contains its account. -/
def PaidIsFinal (env : Env) (st : State Shared Job) (more : List Op) (op : Op) : Prop :=
  ∀ claim_id row, st.shared.claims.find? claim_id = some row → row.status = .paid → (∃ row',
      (Machine.run (step (program env)) st more).shared.claims.find? claim_id = some row' ∧
        row'.status = .paid ∧ row'.account_id = row.account_id) ∧
      ∀ items, (step (program env) (Machine.run (step (program env)) st more)
          op).2 = some (.finished (.items items)) → ∀ item ∈ items, item.account_id ≠ row.account_id

----
-- Payments Per Step
----

theorem paid_of_find? (hFound : s.claims.find? k = some row) (hPaid : row.status = .paid) :
    Paid s row.account_id :=
  ⟨row, (mem_of_find? hFound).1, rfl, hPaid⟩

theorem Owned.account_eq (hOwned : Owned s claim)
    (hFound : s.claims.find? k = some row) (hRow : row.claim_id = claim.claim_id) :
    row.account_id = claim.account_id := by
  rcases hOwned with ⟨own, hOwn, hAccount⟩
  have hKey := (mem_of_find? hFound).2
  rw [← hRow, hKey, hFound] at hOwn
  rw [some.inj hOwn]
  exact hAccount

theorem Effect.paid_back (hEffect : Effect env draw s job s') (hLinked : job.Linked env s)
    {account_id : Nat} (hPaid : Paid s' account_id) :
    Paid s account_id ∨ ∃ row account claim_id request,
        job = .result row account claim_id request .paid ∧ account.id = account_id := by
  rcases hPaid with ⟨row', hMem, hAccount, hStatus⟩
  have hFound' := find?_of_mem hMem
  rcases hEffect.row_back hFound' with ⟨row, hFound, hMove⟩ | ⟨r, account, ids, _, hNew, _⟩
  · have hSame := hMove.kept.2
    have hOld : row.status = .paid → Paid s account_id := by
      intro hPaid
      rw [← hAccount, hSame]
      exact paid_of_find? hFound hPaid
    cases hMove with
    | same _ => exact .inl (hOld hStatus)
    | expired request config hStale => cases hStatus
    | recorded r claim account access_token ids hRow => exact absurd hStatus hLinked.2.2.1
    | released loaded account reason hRow => cases hStatus
    | resulted loaded account claim_id request status hRow =>
      right
      have hNew : status = .paid := hStatus
      rw [hNew]
      refine ⟨loaded, account, claim_id, request, rfl, ?_⟩
      rw [hLinked.2.1, ← hAccount, hSame]
      exact (hLinked.1.account_eq hFound hRow).symm
  · rw [hNew] at hStatus
    cases hStatus

theorem Effect.paid_kept {st : State Shared Job} (hEffect : Effect env draw s job s')
    (hLinked : job.Linked env s) (hHeld : ∀ account_id ∈ job.holds, ¬ Paid s account_id)
    (hKeeps : KeepsPayments st draw job) (hShared : st.shared = s)
    (hFound : s.claims.find? k = some row) (hPaid : row.status = .paid) :
    ∃ row', s'.claims.find? k = some row' ∧ row'.status = .paid ∧
      row'.account_id = row.account_id := by
  have hOwnPaid : Paid s row.account_id := paid_of_find? hFound hPaid
  rcases hEffect.row_kept hFound with ⟨row', hFound', hMove⟩
  refine ⟨row', hFound', ?_, hMove.kept.2⟩
  cases hMove with
  | same _ => exact hPaid
  | expired request config hStale =>
    unfold Claim.stale at hStale
    rw [hPaid] at hStale
    cases hStale
  | recorded r claim account access_token ids hRow =>
    rw [hLinked.1.account_eq hFound hRow] at hOwnPaid
    exact absurd hOwnPaid (hHeld claim.account_id (by
        simp [Job.holds]))
  | released loaded account reason hRow =>
    rw [hLinked.1.account_eq hFound hRow, ← hLinked.2, ← hShared] at hOwnPaid
    exact absurd hOwnPaid hKeeps
  | resulted loaded account claim_id request status hRow =>
    rcases hLinked.2.2 with hNew | hNew
    · exact hNew
    · rw [hLinked.1.account_eq hFound hRow, ← hLinked.2.1, ← hShared] at hOwnPaid
      cases hNew
      exact absurd hOwnPaid hKeeps

----
-- The Copy On The Account
----

/- Every stored account with a payment shows it. -/
def Shown (s : Shared) : Prop := ∀ account_id account, s.accounts.find? account_id = some account →
    Paid s account_id →
    account.ShowsPaid

theorem Shown.persist (hShown : Shown s)
    (hOthers : ∀ account_id, account_id ≠ stored.id → Paid { s with claims := claims } account_id →
        Paid s account_id)
    (hStored : Paid { s with claims := claims } stored.id → stored.ShowsPaid) :
    Shown { s with claims := claims, accounts := persistAccount stored loaded s.accounts } := by
  intro account_id account hFound hPaid
  rw [find?_persistAccount] at hFound
  split at hFound
  next hSame =>
    rcases map_eq_some_iff.mp hFound with ⟨old, _, hIs⟩
    rw [← hIs]
    rw [hSame] at hPaid
    exact hStored hPaid
  next hOther => exact hShown account_id account hFound (hOthers account_id hOther hPaid)

/- Every step keeps the copies of the payments. -/
theorem Effect.shown {st : State Shared Job} (hEffect : Effect env draw s job s')
    (hLinked : job.Linked env s) (hHeld : ∀ account_id ∈ job.holds, ¬ Paid s account_id)
    (hKeeps : KeepsPayments st draw job) (hShared : st.shared = s) (hShown : Shown s) :
    Shown s' := by
  have hBack : ∀ account_id, Paid s' account_id → Paid s account_id ∨
          ∃ row account claim_id request,
            job = .result row account claim_id request .paid ∧ account.id = account_id :=
    fun _ hPaid => hEffect.paid_back hLinked hPaid
  cases hEffect with
  | quiet _ => exact hShown
  | expired request config =>
    intro account_id account hFound hPaid
    rcases hBack account_id hPaid with hOld | ⟨_, _, _, _, hJob, _⟩
    · exact hShown account_id account hFound hOld
    · cases hJob
  | inserted r account ids claims hInsert =>
    intro account_id account hFound hPaid
    rcases hBack account_id hPaid with hOld | ⟨_, _, _, _, hJob, _⟩
    · exact hShown account_id account hFound hOld
    · cases hJob
  | probed r claim account now ids checked result hCheck =>
    refine Shown.persist hShown (fun _ _ => id) ?_
    intro hPaid
    have hKept := (preflightAccessToken_sound hCheck).1
    rw [hKept.1, hLinked.2] at hPaid
    exact absurd hPaid (hHeld claim.account_id (by
        simp [Job.holds]))
  | recorded r claim account access_token ids claims hUpdate =>
    have hOld : ∀ account_id, Paid { s with claims := claims } account_id → Paid s account_id := by
      intro account_id hPaid
      rcases hBack account_id hPaid with hOld | ⟨_, _, _, _, hJob, _⟩
      · exact hOld
      · cases hJob
    refine Shown.persist hShown (fun id _ => hOld id) ?_
    intro hPaid
    have hWas := hOld _ hPaid
    rw [show (account.withClaim claim).id = account.id from rfl, hLinked.2.1] at hWas
    exact absurd hWas (hHeld claim.account_id (by
        simp [Job.holds]))
  | released row account reason claims hUpdate =>
    have hOld : ∀ account_id, Paid { s with claims := claims } account_id → Paid s account_id := by
      intro account_id hPaid
      rcases hBack account_id hPaid with hOld | ⟨_, _, _, _, hJob, _⟩
      · exact hOld
      · cases hJob
    refine Shown.persist hShown (fun id _ => hOld id) ?_
    intro hPaid
    have hWas := hOld _ hPaid
    rw [← hShared] at hWas
    exact absurd hWas hKeeps
  | resulted row account stored claim_id request status claims
      hUpdate hId hClaim =>
      refine Shown.persist hShown ?_ ?_
      · intro account_id hOther hPaid
        rcases hBack account_id hPaid with hOld | ⟨_, _, _, _, hJob, hSame⟩
        · exact hOld
        · cases hJob
          exact absurd (hId.trans hSame).symm hOther
      · intro hPaid
        rcases hLinked.2.2 with hStatus | hStatus
        · unfold Account.ShowsPaid
          rw [hClaim, hStatus]
          rfl
        · cases hStatus
          rcases hBack stored.id hPaid with hOld | ⟨_, _, _, _, hJob, _⟩
          · rw [hId, ← hShared] at hOld
            exact absurd hOld hKeeps
          · cases hJob

----
-- Accounts In Progress
----

theorem locallySendable_not_paid (hSendable : locallySendable env account now) :
    ¬ account.ShowsPaid := by
  intro hShows
  unfold Account.ShowsPaid at hShows
  rcases map_eq_some_iff.mp hShows with ⟨claim, hClaim, hStatus⟩
  have hBlocks : claimIsBlocking account.extra.claim now := by
    rw [hClaim]
    simp only [claimIsBlocking, hStatus, if_true]
  unfold locallySendable at hSendable
  rw [hBlocks] at hSendable
  split at hSendable
  · cases hSendable
  · cases hSendable

theorem visitAccount_holds (hHeld : account_id ∈ (visitAccount env r account rest s).2.holds) :
    account_id ∈ r.ids ∨ (account_id = account.id ∧ locallySendable env account r.now) := by
  unfold visitAccount at hHeld
  dsimp only at hHeld
  by_cases hLimit : r.limit ≤ r.claimed.length
  · rw [if_pos hLimit] at hHeld
    exact .inl hHeld
  · rw [if_neg hLimit] at hHeld
    by_cases hSendable : locallySendable env account r.now
    · rw [if_pos hSendable] at hHeld
      rcases mem_cons.mp hHeld with hOwn | hOld
      · exact .inr ⟨hOwn, hSendable⟩
      · exact .inl hOld
    · rw [if_neg hSendable] at hHeld
      exact .inl hHeld

/- No account is held after a step that did not hold it before, unless the step has checked it. -/
theorem visit_holds {st : State Shared Job} (hShown : Shown s)
    (hHeld : ∀ account_id ∈ r.ids, ¬ Paid s account_id)
    (hKeeps : KeepsPayments st draw (.visit r batch)) (hShared : st.shared = s)
    (hNext : account_id ∈ (visit env r batch s).2.holds) : ¬ Paid s account_id := by
  cases batch with
  | loaded accounts =>
    cases accounts with
    | nil => exact hHeld account_id hNext
    | cons account rest =>
      rcases visitAccount_holds hNext with hOld | ⟨hSame, hSendable⟩
      · exact hHeld account_id hOld
      · rw [hSame]
        intro hPaid
        rw [← hShared] at hPaid
        exact locallySendable_not_paid hSendable (hKeeps hPaid)
  | expired ids =>
    cases ids with
    | nil => exact hHeld account_id hNext
    | cons id rest =>
      cases hFound : s.accounts.find? id with
      | none =>
        simp only [visit, hFound] at hNext
        cases hNext
      | some account =>
        simp only [visit, hFound] at hNext
        rcases visitAccount_holds hNext with hOld | ⟨hSame, hSendable⟩
        · exact hHeld account_id hOld
        · have hId := (mem_of_find? hFound).2
          rw [hSame, hId]
          intro hPaid
          exact locallySendable_not_paid hSendable (hShown id account hFound hPaid)

/- Any other step goes on with the accounts that it holds. -/
theorem stepJob_holds (hLinked : job.Linked env s) (hOther : ∀ r batch, job ≠ .visit r batch)
    (hNext : account_id ∈ (stepJob env draw s job).2.holds) : account_id ∈ job.holds := by
  cases job with
  | visit r batch => exact absurd rfl (hOther r batch)
  | expire request config => exact hNext
  | scan r =>
    simp only [stepJob, scan] at hNext
    split at hNext
    · cases hNext
    · split at hNext
      · cases hNext
      · exact hNext
  | reserve r account batch =>
    simp only [stepJob, reserve] at hNext
    split at hNext
    · exact mem_cons_of_mem _ hNext
    · exact hNext
  | insert r account ids =>
    simp only [stepJob, insert] at hNext
    split at hNext
    · exact mem_cons_of_mem _ hNext
    · exact hNext
  | preflight r claim ids =>
    simp only [stepJob, preflight] at hNext
    split at hNext
    · cases hNext
    · exact hNext
  | probe r claim account now ids =>
    simp only [stepJob, probe] at hNext
    split at hNext
    · cases hNext
    · exact hNext
  | reread r claim result ids =>
    simp only [stepJob, reread] at hNext
    split at hNext
    · cases hNext
    · split at hNext
      · exact hNext
      · split at hNext
        · exact hNext
        · exact hNext
  | record r claim account access_token ids =>
    simp only [stepJob, record] at hNext
    split at hNext
    · cases hNext
    · cases access_token with
      | none => exact mem_cons_of_mem _ hNext
      | some access_token =>
        simp only [Job.holds, Round.ids, map_append,
          mem_append, map_cons, map_nil,
          mem_singleton, claimedItem, hLinked.2.1] at hNext
        simp only [Job.holds, mem_cons]
        exact hNext.symm
  | find claim_id purpose =>
    simp only [stepJob, find] at hNext
    split at hNext <;> cases hNext
  | findAccount row purpose =>
    simp only [stepJob, findAccount] at hNext
    repeat' split at hNext
    all_goals cases hNext
  | release row account reason =>
    simp only [stepJob, release, commitClaim] at hNext
    split at hNext <;> cases hNext
  | result row account claim_id request status =>
    simp only [stepJob, result, commitClaim] at hNext
    split at hNext <;> cases hNext
  | finished answer => cases hNext

/- The items of a response are those of its request. -/
theorem items_held (hDone : job.done = false)
    (hAnswer : (stepJob env draw s job).2 = .finished (.items items))
    (hItem : item ∈ items) : item.account_id ∈ job.holds := by
  cases job with
  | scan r =>
    simp only [stepJob, scan] at hAnswer
    have hItems : items = r.claimed := by
      split at hAnswer
      · cases hAnswer
        rfl
      · split at hAnswer
        · cases hAnswer
          rfl
        · cases hAnswer
    rw [hItems] at hItem
    exact mem_map_of_mem hItem
  | finished answer => cases hDone
  | expire request config => cases hAnswer
  | visit r batch =>
    have hNever :
        ∀ account rest, (visitAccount env r account rest s).2 ≠ .finished (.items items) := by
      intro account rest
      unfold visitAccount
      dsimp only
      generalize locallySendable env account r.now = sendable
      split
      · rintro ⟨⟩
      · split <;> rintro ⟨⟩
    simp only [stepJob, visit] at hAnswer
    split at hAnswer
    · cases hAnswer
    · exact absurd hAnswer (hNever _ _)
    · cases hAnswer
    · split at hAnswer
      · cases hAnswer
      · exact absurd hAnswer (hNever _ _)
  | reserve r account batch =>
    simp only [stepJob, reserve] at hAnswer
    split at hAnswer <;> cases hAnswer
  | insert r account ids =>
    simp only [stepJob, insert] at hAnswer
    split at hAnswer <;> cases hAnswer
  | preflight r claim ids =>
    simp only [stepJob, preflight] at hAnswer
    split at hAnswer <;> cases hAnswer
  | probe r claim account now ids =>
    simp only [stepJob, probe] at hAnswer
    split at hAnswer <;> cases hAnswer
  | reread r claim result ids =>
    simp only [stepJob, reread] at hAnswer
    repeat' split at hAnswer
    all_goals cases hAnswer
  | record r claim account access_token ids =>
    simp only [stepJob, record] at hAnswer
    split at hAnswer <;> cases hAnswer
  | find claim_id purpose =>
    simp only [stepJob, find] at hAnswer
    split at hAnswer <;> cases hAnswer
  | findAccount row purpose =>
    simp only [stepJob, findAccount] at hAnswer
    repeat' split at hAnswer
    all_goals cases hAnswer
  | release row account reason =>
    simp only [stepJob, release, commitClaim] at hAnswer
    split at hAnswer <;> cases hAnswer
  | result row account claim_id request status =>
    simp only [stepJob, result, commitClaim] at hAnswer
    split at hAnswer <;> cases hAnswer

----
-- Paid Is Final
----

/- A request whose accounts have no recorded payments. -/
def Job.Unpaid (env : Env) (s : Shared) (job : Job) : Prop :=
  job.Linked env s ∧ ∀ account_id ∈ job.holds, ¬ Paid s account_id

/- The step of one request keeps this of all requests. -/
theorem unpaid_step (draw : Draw) (st : State Shared Job) (job : Job)
    (hHolds : Holds Shown (Job.Unpaid env) st) (hMem : job ∈ st.jobs)
    (hKeeps : KeepsPayments st draw job) :
    Shown (advance env draw st.shared job).1 ∧
      Job.Unpaid env (advance env draw st.shared job).1 (advance env draw st.shared job).2 ∧
      ∀ other ∈ st.jobs, Job.Unpaid env (advance env draw st.shared job).1
          other := by
  let s := st.shared.wait draw.seconds
  have hJobs : ∀ other ∈ st.jobs, Job.Unpaid env s other := by
    intro other hOther
    have hUnpaid := hHolds.jobs other hOther
    refine ⟨?_, hUnpaid.2⟩
    cases other <;> exact hUnpaid.1
  have hShown : Shown s := hHolds.shared
  have hKeeps' : KeepsPayments { st with shared := s } draw job := by cases job <;> exact hKeeps
  have hLinked := (hJobs job hMem).1
  have hHeld := (hJobs job hMem).2
  have hEffect : Effect env draw s job (stepJob env draw s job).1 := stepJob_effect job
  refine ⟨hEffect.shown hLinked hHeld hKeeps' rfl hShown, ⟨linked_step draw hLinked, ?_⟩, ?_⟩
  · intro account_id hNext hPaid
    rcases hEffect.paid_back hLinked hPaid with
      hOld | ⟨row, account, claim_id, request, hJob, hSame⟩
    · by_cases hVisit : ∃ r batch, job = .visit r batch
      · rcases hVisit with ⟨r, batch, hVisit⟩
        rw [hVisit] at hNext hHeld hKeeps'
        exact visit_holds hShown hHeld hKeeps' rfl hNext hOld
      · have hOther : ∀ r batch, job ≠ .visit r batch :=
          fun r batch hSame => hVisit ⟨r, batch, hSame⟩
        exact hHeld account_id (stepJob_holds hLinked hOther hNext) hOld
    · have hOther : ∀ r batch, job ≠ .visit r batch := by
        rw [hJob]
        nofun
      have hOwn := stepJob_holds hLinked hOther hNext
      rw [hJob] at hOwn
      cases hOwn
  · intro other hOther
    have hUnpaid := hJobs other hOther
    refine ⟨hEffect.linked hUnpaid.1, ?_⟩
    intro account_id hId hPaid
    rcases hEffect.paid_back hLinked hPaid with
      hOld | ⟨row, account, claim_id, request, hJob, hSame⟩
    · exact hUnpaid.2 account_id hId hOld
    · rw [hJob] at hKeeps
      simp only [KeepsPayments, if_true] at hKeeps
      rw [hSame] at hKeeps
      exact hKeeps other hOther hId

section

variable (hHolds : Holds Shown (Job.Unpaid env) st)
include hHolds

theorem unpaid_run (hSteps : Steps (step (program env))
        (OnJob (program env) KeepsPayments) st ops) :
    Holds Shown (Job.Unpaid env) (Machine.run (step (program env)) st ops) := by
  refine JobPool.run_holds_of_steps ?_ ?_ ?_ hHolds hSteps
  · intro s request hShown
    cases request <;> exact ⟨trivial, nofun⟩
  · exact fun s hShown => ⟨trivial, nofun⟩
  · exact fun draw st job hHolds hMem _ hKeeps => unpaid_step draw st job hHolds hMem hKeeps

theorem paid_row_step (hStep : OnJob (program env) KeepsPayments st op)
    (hFound : st.shared.claims.find? claim_id = some row) (hPaid : row.status = .paid) :
    ∃ row', (step (program env) st op).1.shared.claims.find? claim_id = some row' ∧
        row'.status = .paid ∧ row'.account_id = row.account_id := by
  rcases JobPool.step_advance_cases (program env) st op with
    hSame | ⟨i, draw, job, hOp, hJob, hNext⟩
  · rw [hSame]
    exact ⟨row, hFound, hPaid, rfl⟩
  · rw [hNext]
    rw [hOp] at hStep
    simp only [OnJob, hJob] at hStep
    have hUnpaid := hHolds.jobs job (JobPool.mem_of_pending? hJob).1
    let s := st.shared.wait draw.seconds
    have hLinked : job.Linked env s := by cases job <;> exact hUnpaid.1
    have hKeeps : KeepsPayments { st with shared := s } draw job := by cases job <;> exact hStep
    exact (stepJob_effect job).paid_kept hLinked hUnpaid.2 hKeeps
        rfl hFound hPaid

theorem paid_row_run (hSteps :
      Steps (step (program env)) (OnJob (program env) KeepsPayments) st ops)
    (hFound : st.shared.claims.find? claim_id = some row) (hPaid : row.status = .paid) :
    ∃ row', (Machine.run (step (program env)) st
        ops).shared.claims.find? claim_id = some row' ∧ row'.status = .paid ∧
        row'.account_id = row.account_id := by
  induction ops generalizing st row with
  | nil => exact ⟨row, hFound, hPaid, rfl⟩
  | cons op ops ih =>
    rcases paid_row_step hHolds hSteps.1 hFound hPaid with ⟨row', hFound', hPaid', hAccount⟩
    have hOne : Steps (step (program env))
          (OnJob (program env) KeepsPayments) st [op] := ⟨hSteps.1, trivial⟩
    rcases ih (unpaid_run hHolds hOne) hSteps.2 hFound' hPaid' with ⟨last, hLast, hStatus, hSame⟩
    exact ⟨last, hLast, hStatus, hSame.trans hAccount⟩

theorem items_unpaid (hAnswer : (step (program env) st op).2 = some (.finished (.items items)))
    (hItem : item ∈ items) : ¬ Paid st.shared item.account_id := by
  cases op with
  | arrive request => cases hAnswer
  | drop i => cases hAnswer
  | restart => cases hAnswer
  | advance i draw =>
    cases hJob : JobPool.pending? (program env) st i with
    | none =>
      simp only [step, hJob] at hAnswer
      cases hAnswer
    | some job =>
      rw [JobPool.step_advance hJob] at hAnswer
      have hPending := JobPool.mem_of_pending? hJob
      exact (hHolds.jobs job hPending.1).2 item.account_id
          (items_held hPending.2 (some.inj hAnswer) hItem)

end

/- Paid is final in every run whose steps keep the payments. -/
theorem paid_is_final (env : Env) (accounts : Accounts) (ops more : List Op) (op : Op)
    (hSteps : Steps (step (program env)) (OnJob (program env) KeepsPayments)
        { shared := { clock := 0, accounts := accounts } } (ops ++ more)) :
    PaidIsFinal env (run env accounts ops) more op := by
  intro claim_id row hFound hPaid
  have hStart :
      Holds Shown (Job.Unpaid env) { shared := { clock := 0, accounts := accounts } } := by
    constructor
    · intro account_id account _ hPaid
      rcases hPaid with ⟨row, hMem, _⟩
      cases hMem
    · intro job hMem
      cases hMem
  have hParts := (Machine.steps_append _ ops more).mp hSteps
  have hMiddle := unpaid_run hStart hParts.1
  have hEnd := unpaid_run hMiddle hParts.2
  rcases paid_row_run hMiddle hParts.2 hFound hPaid with ⟨row', hFound', hPaid', hAccount⟩
  refine ⟨⟨row', hFound', hPaid', hAccount⟩, ?_⟩
  intro items hAnswer item hItem hSame
  apply items_unpaid hEnd hAnswer hItem
  rw [hSame, ← hAccount]
  exact paid_of_find? hFound' hPaid'

/- One account, with a token that the live check accepts. -/
def plainEnv : Env where
  lower := id
  digest := id

def freeAccount : Account where
  id := 1
  email := "free@example.com"
  token := "at-free"

def oneAccount : Accounts := insertNew .empty freeAccount

def freeProbe : Probe where
  auth_state := "access_token_valid"
  plan := "free"
  has_paid_subscription := false
  account_status := "registered"

/- A request makes some steps, the first one after a wait. -/
def goesOn (i : Nat) (claim_id : String) (seconds count : Nat) :
    List Op :=
  let draw : Draw := { claim_id := claim_id, outside := { probe := some freeProbe } }
  .advance i { draw with seconds := seconds } :: List.replicate (count - 1) (.advance i draw)

def claimRequest : Op := .arrive (.claim { lease_seconds := 60 } {})

/- A token is handed out, and its payment is recorded. -/
def handedOutAndPaid : List Op := [claimRequest] ++ goesOn 0 "atclaim-1" 0 11 ++
    [.arrive (.result "atclaim-1" { status := "paid", external_payment_id := "pay-1" })] ++
    goesOn 1 "" 0 3

/- A release of the paid claim, and another claim request. -/
def releaseAndClaim : List Op := [.arrive (.release "atclaim-1" "")] ++ goesOn 2 "" 0 2 ++
    [claimRequest] ++ goesOn 3 "atclaim-2" 90 4

theorem releaseAndClaim_final :
    PaidIsFinal plainEnv (run plainEnv oneAccount handedOutAndPaid) releaseAndClaim
      (.advance 3 {}) :=
  paid_is_final plainEnv oneAccount handedOutAndPaid
    releaseAndClaim (.advance 3 {}) (by decide +kernel)

def failedLate : List Op := [.arrive
    (.result "atclaim-1" { status := "failed", external_payment_id := "pay-2" })] ++
    goesOn 2 "" 0 3

/- The lease of the first claim ends, and the second claim of the account is paid. -/
def secondPaid : List Op := [claimRequest] ++ goesOn 0 "atclaim-1" 0 11 ++
    [claimRequest] ++ goesOn 1 "atclaim-2" 90 11 ++
    [.arrive (.result "atclaim-2" { status := "paid", external_payment_id := "pay-1" })] ++
    goesOn 2 "" 0 3

/- The first claim is released, and the next claim request hands the paid account out again. -/
def releasedLate : List Op := [.arrive (.release "atclaim-1" "")] ++ goesOn 3 "" 0 3 ++
    [claimRequest] ++ goesOn 4 "atclaim-3" 0 10

def sentIds : Option Job → List Nat
| some (.finished (.items items)) => items.map Item.account_id
| _ => []

theorem exists_of_mem_sentIds (hSent : account_id ∈ sentIds answer) :
    ∃ items, answer = some (.finished (.items items)) ∧
      ∃ item ∈ items, item.account_id = account_id := by
  unfold sentIds at hSent
  split at hSent
  · exact ⟨_, rfl, mem_map.mp hSent⟩
  · cases hSent

/- A later failure replaces the payment; and a release of an
   older claim lets the account be handed out again. -/
theorem payment_forgotten :
    ¬ PaidIsFinal plainEnv (run plainEnv oneAccount handedOutAndPaid) failedLate .restart ∧
      ¬ PaidIsFinal plainEnv (run plainEnv oneAccount secondPaid) releasedLate (.advance 4 {}) := by
  constructor
  · have hEnd : ((run plainEnv oneAccount
            handedOutAndPaid).shared.claims.find?
            "atclaim-1").map Claim.status = some .paid ∧
          ((Machine.run (step (program plainEnv)) (run plainEnv oneAccount handedOutAndPaid)
            failedLate).shared.claims.find? "atclaim-1").map Claim.status = some .failed := by
      decide +kernel
    rcases hEnd with ⟨hPaid, hFailed⟩
    rcases map_eq_some_iff.mp hPaid with ⟨row, hFound, hStatus⟩
    intro hFinal
    rcases (hFinal "atclaim-1" row hFound hStatus).1 with ⟨row', hFound', hStatus', _⟩
    rw [hFound', map_some, hStatus'] at hFailed
    cases hFailed
  · have hEnd : ((run plainEnv oneAccount
            secondPaid).shared.claims.find?
            "atclaim-2").map
            (fun row => (row.status, row.account_id)) = some (.paid, 1) ∧
          1 ∈ sentIds (step (program plainEnv)
              (Machine.run (step (program plainEnv)) (run plainEnv oneAccount secondPaid)
                releasedLate) (.advance 4 {})).2 := by
      decide +kernel
    rcases hEnd with ⟨hPaid, hSent⟩
    rcases map_eq_some_iff.mp hPaid with ⟨row, hFound, hRow⟩
    rcases Prod.mk.inj hRow with ⟨hStatus, hAccount⟩
    rcases exists_of_mem_sentIds hSent with ⟨items, hAnswer, item, hItem, hId⟩
    intro hFinal
    exact
      (hFinal "atclaim-2" row hFound hStatus).2 items hAnswer item hItem (hId.trans hAccount.symm)

end AccessTokens
