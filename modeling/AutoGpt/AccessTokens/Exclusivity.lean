import AutoGpt.AccessTokens.Finality

/-
  Exclusive claims: an account has at most one active claim, a
  response holds nothing twice, and an account can be claimed
  again when its leases are over. A row that is being checked
  belongs to a claim request in progress, unless an exception
  has ended that request.

  The main theorems are:
    * `AccessTokens.claims_exclusive`
    * `AccessTokens.prechecking_left`
-/

open KeyedTable (find?_of_mem mem_of_find?)
open JobPool (Holds State mem_set_of_mem pending? step)
open List

----
-- Guarantees And Conditions
----

namespace AccessTokens

/- The claim that a claim request checks. -/
def Job.claim? : Job → Option Claim
| .preflight _ claim _ => some claim
| .probe _ claim _ _ _ => some claim
| .reread _ claim _ _ => some claim
| .record _ claim _ _ _ => some claim
| _ => none

/- The lease of a claim is over at this time, if it has one. -/
def Claim.LeaseOver (claim : Claim) (now : Nat) : Prop :=
  ∀ deadline, claim.lease_expires_at = some deadline → deadline ≤ now

/- All leases of an account are over at this time: those of
   its rows, and that of the copy in its `extra`. -/
structure LeasesOver (s : Shared) (account : Account) (now : Nat) : Prop where
  rows : ∀ row ∈ s.claims.rows, row.account_id = account.id → row.LeaseOver now
  copy : ∀ claim, account.extra.claim = some claim → claim.LeaseOver now

/- A claim request at this time can reserve the account, as far as its claims are concerned. -/
structure Claimable (s : Shared) (account : Account) (now : Nat) : Prop where
  sendable : claimIsBlocking account.extra.claim now = false
  idle : activeClaimForAccount (expireStaleClaims now s.claims) account.id = false
  inserted : ∀ r claim_id, s.claims.find? claim_id = none →
      ((expireStaleClaims now s.claims).insert? (reservation r account claim_id)).isSome

/- An account has at most one active claim. A response holds no account and no token twice. A claim
   that is being checked belongs to a claim request in progress. An account that no request is
   checking can be claimed when its leases are over, unless it is paid. -/
structure Exclusive (st : State Shared Job) : Prop where
  one_active : ∀ row ∈ st.shared.claims.rows, ∀ row' ∈ st.shared.claims.rows,
        row.status.active → row'.status.active →
        row.account_id = row'.account_id → row = row'
  response : ∀ items, Job.finished (.items items) ∈ st.jobs →
      (items.map Item.account_id).Nodup ∧ (items.map Item.access_token).Nodup
  checked : ∀ row ∈ st.shared.claims.rows, row.status = .prechecking →
      ∃ job ∈ st.jobs, job.claim?.map Claim.claim_id = some row.claim_id
  claimable : ∀ account ∈ st.shared.accounts.rows, ∀ now,
      (∀ job ∈ st.jobs, ∀ claim, job.claim? = some claim → claim.account_id ≠ account.id) →
      LeasesOver st.shared account now → ¬ account.ShowsPaid → Claimable st.shared account now

/- The refresh is asked for a new token. -/
def Refreshes (allow_refresh : Bool) (account : Account) : Prop :=
  allow_refresh ∧ PyText.strip account.extra.refresh_token ≠ ""

/- The live check of an account ends with an exception, of the
   refresh or of the probe of the token to be sent. -/
def CheckRaises (allow_refresh : Bool) (outside : Outside) (account : Account) : Prop :=
  (Refreshes allow_refresh account ∧ outside.refresh = .raised) ∨ (outside.probe = none ∧
      (account.accessToken ≠ "" ∨
        (Refreshes allow_refresh account ∧ (refreshedToken outside.refresh).isSome)))

instance (allow_refresh : Bool) (account : Account) :
    Decidable (Refreshes allow_refresh account) :=
  inferInstanceAs (Decidable (_ ∧ _))

instance
    (allow_refresh : Bool) (outside : Outside) (account : Account) :
    Decidable (CheckRaises allow_refresh outside account) :=
  inferInstanceAs (Decidable (_ ∨ _))

def Prechecking (s : Shared) (claim : Claim) : Prop :=
  (s.claims.find? claim.claim_id).map Claim.status = some .prechecking

instance (s : Shared) (claim : Claim) :
    Decidable (Prechecking s claim) :=
  inferInstanceAs (Decidable (_ = _))

/- No claim request ends while its row is being checked: not
   with an exception of the live check, and not otherwise. -/
def Concludes (st : State Shared Job) : Op → Prop
| .arrive _ => True
| .advance i draw =>
    match st.jobs[i]? with
    | some (.probe r claim account _ _) =>
      Prechecking st.shared claim →
      ¬ CheckRaises r.allow_refresh draw.outside account
    | _ => True
| .drop i => ∀ job ∈ st.jobs[i]?, ∀ claim ∈ job.claim?, ¬ Prechecking st.shared claim
| .restart => ∀ job ∈ st.jobs, ∀ claim ∈ job.claim?, ¬ Prechecking st.shared claim

instance (st : State Shared Job) (op : Op) :
    Decidable (Concludes st op) := by
  unfold Concludes
  split
  · infer_instance
  · split <;> infer_instance
  · infer_instance
  · infer_instance

----
-- Exceptions Of The Live Check
----

theorem probeToken_eq_none_iff {probe : Option Probe} :
    probeToken env now cooldown account access_token token_source probe = none ↔
      probe = none ∧ access_token ≠ "" := by
  unfold probeToken
  split
  next hEmpty => simp [hEmpty]
  next hToken => simp [hToken]

theorem refreshedToken_ne_empty
    (hTokens : refreshedToken answer = some tokens) : tokens.1 ≠ "" := by
  unfold refreshedToken at hTokens
  split at hTokens
  · split at hTokens
    next hNew =>
      rw [← Option.some.inj hTokens]
      exact hNew.2
    next _ => cases hTokens
  · cases hTokens

/- The live check stores and returns nothing exactly when it ends with an exception. -/
theorem preflightAccessToken_eq_none_iff {account : Account} :
    preflightAccessToken env allow_refresh now cooldown outside
        account = none ↔
      CheckRaises allow_refresh outside account := by
  unfold preflightAccessToken CheckRaises Refreshes
  dsimp only
  split
  next hRefresh =>
    split
    next hRaised => simp [hRefresh, hRaised]
    next hAnswer =>
      have hOther : outside.refresh ≠ .raised := hAnswer
      split
      next access_token refresh_token hTokens =>
        have hToken := refreshedToken_ne_empty hTokens
        rw [probeToken_eq_none_iff]
        simp [hTokens, hToken, hRefresh, hOther]
      next hTokens =>
        split
        next hEmpty => simp [hTokens, hEmpty, hOther]
        next hToken =>
          rw [probeToken_eq_none_iff]
          simp [hTokens, hToken, hOther]
  next hRefresh =>
    rw [probeToken_eq_none_iff]
    simp [hRefresh]

----
-- Leases
----

/- An active claim in `extra` is claimed with a lease. -/
def SlotLeased (account : Account) : Prop := ∀ claim, account.extra.claim = some claim →
    claim.status.active →
    claim.status = .claimed ∧ claim.lease_expires_at.isSome

/- An active row is being checked, or claimed with a lease;
   and the copies in the accounts are claimed with a lease. -/
structure Leased (s : Shared) : Prop where
  rows : ∀ row ∈ s.claims.rows, row.status.active →
      row.status = .prechecking ∨ (row.status = .claimed ∧ row.lease_expires_at.isSome)
  slots : ∀ account ∈ s.accounts.rows, SlotLeased account

/- The copy that a live check writes back. -/
def Job.Copied : Job → Prop
| .probe _ _ account _ _ => SlotLeased account
| _ => True

variable {job : Job}

/- A step that leaves a row active has left it as it was, or
   has concluded its claim with a lease. -/
theorem RowMove.active {row row' : Claim} (hMove : RowMove now row job row')
    (hLinked : job.Linked env s) (hActive : row'.status.active) :
    row' = row ∨ (row'.status = .claimed ∧ row'.lease_expires_at.isSome) := by
  cases hMove with
  | same _ => exact .inl rfl
  | expired request config hStale => cases hActive
  | recorded r claim account access_token ids hRow => exact .inr (hLinked.2.2.2 hActive)
  | released loaded account reason hRow => cases hActive
  | resulted loaded account claim_id request status hRow =>
    have hStatus : status.active := hActive
    rcases hLinked.2.2 with hPaid | hFailed
    · rw [hPaid] at hStatus
      cases hStatus
    · rw [hFailed] at hStatus
      cases hStatus

theorem slots_persist
    (hOld : ∀ account ∈ accounts.rows, SlotLeased account) (hStored : SlotLeased stored) :
    ∀ account ∈ (persistAccount stored loaded accounts).rows, SlotLeased account := by
  intro account hMem
  have hFound := find?_of_mem hMem
  rw [find?_persistAccount] at hFound
  split at hFound
  next _ =>
    rcases Option.map_eq_some_iff.mp hFound with ⟨old, _, hIs⟩
    intro claim hClaim hActive
    rw [← hIs] at hClaim
    exact hStored claim hClaim hActive
  next _ => exact hOld account (mem_of_find? hFound).1

/- Every step keeps the leases. -/
theorem Effect.leased (hEffect : Effect env draw s job s') (hLinked : job.Linked env s)
    (hCopied : job.Copied) (hLeased : Leased s) : Leased s' := by
  constructor
  · intro row' hMem' hActive
    have hFound' := find?_of_mem hMem'
    rcases hEffect.row_back hFound' with ⟨row, hFound, hMove⟩ | ⟨r, account, ids, _, hNew, _⟩
    · rcases hMove.active hLinked hActive with
        hSame | hClaimed
      · rw [hSame] at hActive ⊢
        exact hLeased.rows row (mem_of_find? hFound).1 hActive
      · exact .inr hClaimed
    · left
      rw [hNew]
      rfl
  · have hOld := hLeased.slots
    cases hEffect with
    | quiet _ => exact hOld
    | expired request config => exact hOld
    | inserted r account ids claims hInsert => exact hOld
    | probed r claim account now ids checked result hCheck =>
      have hSame := (preflightAccessToken_sound hCheck).1
      refine slots_persist hOld ?_
      intro slot hSlot hActive
      rw [hSame.2] at hSlot
      exact hCopied slot hSlot hActive
    | recorded r claim account access_token ids claims hUpdate =>
      refine slots_persist hOld ?_
      intro slot hSlot hActive
      rw [← Option.some.inj hSlot] at hActive ⊢
      exact hLinked.2.2.2 hActive
    | released row account reason claims hUpdate =>
      refine slots_persist hOld ?_
      intro slot hSlot hActive
      rw [← Option.some.inj hSlot] at hActive
      cases hActive
    | resulted row account stored claim_id request status claims
        hUpdate hId hClaim =>
        refine slots_persist hOld ?_
        intro slot hSlot hActive
        rw [hClaim] at hSlot
        rw [← Option.some.inj hSlot] at hActive
        have hStatus : status.active := hActive
        rcases hLinked.2.2 with hPaid | hFailed
        · rw [hPaid] at hStatus
          cases hStatus
        · rw [hFailed] at hStatus
          cases hStatus

----
-- Exclusive Runs
----

structure Job.Sound (env : Env) (s : Shared) (job : Job) :
    Prop where
  linked : job.Linked env s
  known : job.Known s
  distinct : job.Distinct env
  copied : job.Copied

abbrev Orderly (env : Env) (st : State Shared Job) :
    Prop :=
  Holds Leased (Job.Sound env) st

theorem copied_step (hLeased : Leased s) : (stepJob env draw s job).2.Copied := by
  cases job with
  | preflight r claim ids =>
    simp only [stepJob, preflight]
    split
    next _ => exact trivial
    next account hFound => exact hLeased.slots account (mem_of_find? hFound).1
  | visit r batch =>
    have hOther : ∀ account rest, (visitAccount env r account rest s).2.Copied := by
      intro account rest
      unfold visitAccount
      dsimp only
      generalize locallySendable env account r.now = sendable
      split
      · exact trivial
      · split <;> exact trivial
    simp only [stepJob, visit]
    repeat' split
    all_goals
      first
        | exact trivial
        | exact hOther _ _
  | scan r =>
    simp only [stepJob, scan]
    repeat' split
    all_goals exact trivial
  | findAccount row purpose =>
    simp only [stepJob, findAccount]
    repeat' split
    all_goals exact trivial
  | reread r claim answer ids =>
    simp only [stepJob, reread]
    repeat' split
    all_goals exact trivial
  | insert r account ids =>
    simp only [stepJob, insert]
    split <;> exact trivial
  | probe r claim account now ids =>
    simp only [stepJob, probe]
    split <;> exact trivial
  | record r claim account access_token ids =>
    simp only [stepJob, record]
    split <;> exact trivial
  | reserve r account batch =>
    simp only [stepJob, reserve]
    split <;> exact trivial
  | find claim_id purpose =>
    simp only [stepJob, find]
    split <;> exact trivial
  | release row account reason =>
    simp only [stepJob, release, commitClaim]
    split <;> exact trivial
  | result row account claim_id request status =>
    simp only [stepJob, result, commitClaim]
    split <;> exact trivial
  | expire request config => exact trivial
  | finished answer => exact trivial

theorem sound_step (draw : Draw) (st : State Shared Job) (job : Job)
    (hOrderly : Orderly env st) (hMem : job ∈ st.jobs) :
    Leased (advance env draw st.shared job).1 ∧
      Job.Sound env (advance env draw st.shared job).1 (advance env draw st.shared job).2 ∧
      ∀ other ∈ st.jobs, Job.Sound env (advance env draw st.shared job).1
          other := by
  let s := st.shared.wait draw.seconds
  have hLeased : Leased s := ⟨hOrderly.shared.rows, hOrderly.shared.slots⟩
  have hJobs : ∀ other ∈ st.jobs, Job.Sound env s other := by
    intro other hOther
    have hSound := hOrderly.jobs other hOther
    refine ⟨?_, hSound.known, hSound.distinct, hSound.copied⟩
    have hLinked := hSound.linked
    cases other <;> exact hLinked
  have hJob := hJobs job hMem
  have hEffect : Effect env draw s job (stepJob env draw s job).1 := stepJob_effect job
  refine ⟨hEffect.leased hJob.linked hJob.copied hLeased,
      ⟨linked_step draw hJob.linked, known_step draw hJob.known,
        distinct_step draw hJob.linked hJob.distinct, copied_step hLeased⟩, ?_⟩
  intro other hOther
  have hSound := hJobs other hOther
  refine ⟨hEffect.linked hSound.linked, ?_, hSound.distinct, hSound.copied⟩
  intro account_id hAhead
  exact (hEffect.account_isSome account_id).trans (hSound.known account_id hAhead)

theorem orderly_step (st : State Shared Job) (op : Op) (hOrderly : Orderly env st) :
    Orderly env (step (program env) st op).1 := by
  refine JobPool.step_holds (C := fun _ _ _ => True) ?_ ?_ ?_ st op hOrderly ?_
  · intro s request _
    cases request <;> exact ⟨trivial, nofun, trivial, trivial⟩
  · exact fun s _ => ⟨trivial, nofun, trivial, trivial⟩
  · exact fun draw st job hHolds hMem _ _ => sound_step draw st job hHolds hMem
  · exact JobPool.onJob_of_forall (fun _ _ => trivial) op

----
-- Rows That Are Being Checked
----

/- A row that is being checked belongs to a request in progress. -/
def Checked (st : State Shared Job) : Prop :=
  ∀ row ∈ st.shared.claims.rows, row.status = .prechecking →
    ∃ job ∈ st.jobs, job.claim?.map Claim.claim_id = some row.claim_id

/- The claim whose outcome is committed next. -/
def Job.recorded? : Job → Option String
| .record _ claim _ _ _ => some claim.claim_id
| _ => none

theorem owned_of_claim? (hLinked : job.Linked env s) (hClaim : job.claim? = some claim) :
    Owned s claim := by
  cases job with
  | preflight r own ids =>
    cases Option.some.inj hClaim
    exact hLinked
  | probe r own account now ids =>
    cases Option.some.inj hClaim
    exact hLinked.1
  | reread r own answer ids =>
    cases Option.some.inj hClaim
    exact hLinked.1
  | record r own account access_token ids =>
    cases Option.some.inj hClaim
    exact hLinked.1
  | _ => cases hClaim

theorem prechecking_of_mem (hMem : row ∈ s.claims.rows) (hStatus : row.status = .prechecking)
    (hSame : claim.claim_id = row.claim_id) : Prechecking s claim := by
  unfold Prechecking
  rw [hSame, find?_of_mem hMem, Option.map_some, hStatus]

/- The commit of a claim that is still being checked does not fail, and ends the check. -/
theorem record_concludes (r : Round) (account : Account)
    (access_token : Option String) (ids : List Nat) (hConcluded : claim.Concluded)
    (hFound : s.claims.find? claim.claim_id = some row) (hStatus : row.status = .prechecking) :
    ∃ row', (record r claim account access_token ids s).1.claims.find? claim.claim_id = some row' ∧
        row'.status ≠ .prechecking := by
  have hUpdates :
      (s.claims.update? claim.claim_id claim.writtenTo (fun _ => rfl)).isSome := by
    apply ActiveTable.update?_isSome
    · exact fun _ => rfl
    · intro old hOld _
      rw [← Option.some.inj (hFound.symm.trans hOld), hStatus]
      rfl
  rcases Option.isSome_iff_exists.mp hUpdates with ⟨claims, hUpdate⟩
  refine ⟨claim.writtenTo row, ?_, ?_⟩
  · unfold record
    rw [hUpdate]
    rw [ActiveTable.find?_update? hUpdate, if_pos rfl, hFound]
    rfl
  · intro hStatus'
    have hSame : claim.status = .prechecking := hStatus'
    have hActive : claim.status.active := by
      rw [hSame]
      rfl
    rw [(hConcluded.2 hActive).1] at hSame
    cases hSame

/- A request goes on with a claim that is still being checked,
   unless its live check ends with an exception. -/
theorem claim?_kept (hLinked : job.Linked env s) (hKnown : job.Known s)
    (hClaim : job.claim? = some claim) (hQuiet : job.recorded? = none)
    (hAnswered : ∀ r own account now ids, job = .probe r own account now ids →
        ¬ CheckRaises r.allow_refresh draw.outside account) :
    (stepJob env draw s job).2.claim?.map Claim.claim_id = some claim.claim_id := by
  have hStored : ∀ own : Claim, own.account_id ∈ job.ahead →
        ∃ account, s.accounts.find? own.account_id = some account :=
    fun own hAhead => Option.isSome_iff_exists.mp (hKnown own.account_id hAhead)
  cases job with
  | preflight r own ids =>
    rcases hStored own mem_cons_self with ⟨account, hFound⟩
    rw [← Option.some.inj hClaim]
    simp only [stepJob, preflight, hFound]
    rfl
  | probe r own account now ids =>
    rw [← Option.some.inj hClaim]
    have hAnswer := hAnswered r own account now ids rfl
    cases hCheck : preflightAccessToken env r.allow_refresh now r.cooldown draw.outside account with
    | none => exact absurd (preflightAccessToken_eq_none_iff.mp hCheck) hAnswer
    | some answer =>
      simp only [stepJob, probe, hCheck]
      rfl
  | reread r own answer ids =>
    rcases hStored own mem_cons_self with ⟨account, hFound⟩
    rw [← Option.some.inj hClaim]
    simp only [stepJob, reread, hFound]
    split
    · rfl
    · split <;> rfl
  | record r own account access_token ids => cases hQuiet
  | _ => cases hClaim

theorem insert_claim? (hNone : s.claims.find? row.claim_id = none)
    (hFound : (insert draw r account ids s).1.claims.find? row.claim_id = some row) :
    (insert draw r account ids s).2.claim?.map Claim.claim_id = some row.claim_id := by
  unfold insert at hFound ⊢
  cases hInsert : s.claims.insert? (reservation r account draw.claim_id) with
  | none =>
    simp only [hInsert] at hFound
    rw [hNone] at hFound
    cases hFound
  | some claims =>
    simp only [hInsert] at hFound ⊢
    have hFind := (ActiveTable.find?_insert? hInsert).2 row.claim_id
    rw [hFound] at hFind
    split at hFind
    next hSame => exact congrArg some hSame
    next _ =>
      rw [hNone] at hFind
      cases hFind

theorem checked_advance (hOrderly : Orderly env st)
    (hChecked : Checked st) (hJob : pending? (program env) st i = some job)
    (hConcludes : Concludes st (.advance i draw)) :
    Checked (step (program env) st (.advance i draw)).1 := by
  rw [JobPool.step_advance hJob]
  have hPlace := JobPool.getElem?_of_pending? hJob
  have hSound := hOrderly.jobs job (mem_of_getElem? hPlace)
  let s := st.shared.wait draw.seconds
  have hLinked : job.Linked env s := by
    have hOwn := hSound.linked
    cases job <;> exact hOwn
  have hKnown : job.Known s := hSound.known
  have hEffect : Effect env draw s job (stepJob env draw s job).1 := stepJob_effect job
  have hNextMem : (stepJob env draw s job).2 ∈ st.jobs.set i (stepJob env draw s job).2 := by
    have hLength := (List.getElem?_eq_some_iff.mp hPlace).1
    exact mem_set hLength _
  intro row' hMem' hStatus'
  have hFound' := find?_of_mem hMem'
  rcases hEffect.row_back hFound' with ⟨row, hFound, hMove⟩ | ⟨r, account, ids, hIs, _, hNone⟩
  · have hActive : row'.status.active := by
      rw [hStatus']
      rfl
    have hStatus : row.status = .prechecking := by
      rcases hMove.active hLinked hActive with hSame | ⟨hClaimed, _⟩
      · rw [← hSame]
        exact hStatus'
      · rw [hStatus'] at hClaimed
        cases hClaimed
    have hRow := mem_of_find? hFound
    rcases hChecked row hRow.1 hStatus with ⟨owner, hOwner, hClaim⟩
    rw [hRow.2] at hClaim
    rcases mem_set_of_mem (stepJob env draw s job).2
        hPlace hOwner with
      hKept | hSelf
    · exact ⟨owner, hKept, hClaim⟩
    · rw [hSelf] at hClaim
      rcases Option.map_eq_some_iff.mp hClaim with ⟨claim, hOwn, hId⟩
      refine ⟨_, hNextMem, ?_⟩
      rw [← hId]
      by_cases hRecords : job.recorded? = none
      · apply claim?_kept hLinked hKnown hOwn hRecords
        intro r own account now ids hProbe
        simp only [Concludes, hPlace, hProbe] at hConcludes
        rw [hProbe] at hOwn
        rw [Option.some.inj hOwn] at hConcludes
        apply hConcludes
        apply prechecking_of_mem hRow.1 hStatus
        rw [hId, hRow.2]
      · cases job with
        | record r own account access_token ids =>
          rw [Option.some.inj hOwn] at hLinked hFound'
          rw [← hId] at hFound hFound'
          rcases record_concludes r account access_token ids
              hLinked.2.2 hFound hStatus with
            ⟨last, hLast, hEnded⟩
          have hSame := Option.some.inj (hFound'.symm.trans hLast)
          rw [hSame] at hStatus'
          exact absurd hStatus' hEnded
        | _ => exact absurd rfl hRecords
  · refine ⟨_, hNextMem, ?_⟩
    rw [hIs] at hFound' ⊢
    exact insert_claim? hNone hFound'

----
-- Claims Are Exclusive
----

/- Every operation that lets the requests conclude keeps the
   rows that are being checked with their requests. -/
theorem checked_step (st : State Shared Job) (op : Op) (hOrderly : Orderly env st)
    (hChecked : Checked st) (hConcludes : Concludes st op) :
    Checked (step (program env) st op).1 := by
  have hOwner : ∀ (row : Claim) (job : Job), row ∈ st.shared.claims.rows →
        row.status = .prechecking →
        job.claim?.map Claim.claim_id = some row.claim_id →
        ∃ claim, job.claim? = some claim ∧ Prechecking st.shared claim := by
    intro row job hMem hStatus hClaim
    rcases Option.map_eq_some_iff.mp hClaim with ⟨claim, hOwn, hSame⟩
    exact ⟨claim, hOwn, prechecking_of_mem hMem hStatus hSame⟩
  cases op with
  | arrive request =>
    intro row hMem hStatus
    rcases hChecked row hMem hStatus with ⟨job, hJob, hClaim⟩
    exact ⟨job, mem_append_left _ hJob, hClaim⟩
  | drop i =>
    intro row hMem hStatus
    rcases hChecked row hMem hStatus with ⟨job, hJob, hClaim⟩
    cases hPlace : st.jobs[i]? with
    | none =>
      have hLength := getElem?_eq_none_iff.mp hPlace
      refine ⟨job, ?_, hClaim⟩
      simp only [step]
      rw [set_eq_of_length_le hLength]
      exact hJob
    | some dropped =>
      rcases mem_set_of_mem (program env).ended
          hPlace hJob with
        hKept | hSelf
      · exact ⟨job, hKept, hClaim⟩
      · rcases hOwner row job hMem hStatus hClaim with
          ⟨claim, hOwn, hIs⟩
        rw [hSelf] at hOwn
        exact absurd hIs (hConcludes dropped hPlace claim hOwn)
  | restart =>
    intro row hMem hStatus
    rcases hChecked row hMem hStatus with ⟨job, hJob, hClaim⟩
    rcases hOwner row job hMem hStatus hClaim with ⟨claim, hOwn, hIs⟩
    exact absurd hIs (hConcludes job hJob claim hOwn)
  | advance i draw =>
    cases hJob : pending? (program env) st i with
    | none =>
      simp only [step, hJob]
      exact hChecked
    | some job => exact checked_advance hOrderly hChecked hJob hConcludes

/- An account that no request is checking can be claimed when its leases are over. -/
theorem Orderly.claimable (hOrderly : Orderly env st) (hChecked : Checked st)
    (hMem : account ∈ st.shared.accounts.rows)
    (hFree : ∀ job ∈ st.jobs, ∀ claim, job.claim? = some claim → claim.account_id ≠ account.id)
    (hOver : LeasesOver st.shared account now) (hUnpaid : ¬ account.ShowsPaid) :
    Claimable st.shared account now := by
  have hLeased := hOrderly.shared
  have hStale : ∀ claim : Claim, ∀ deadline, claim.status = .claimed →
        claim.lease_expires_at = some deadline →
        deadline ≤ now → claim.stale now := by
    intro claim deadline hStatus hLease hEnded
    unfold Claim.stale
    rw [hStatus, hLease]
    simp [hEnded]
  have hIdle : ∀ row ∈ (expireStaleClaims now st.shared.claims).rows, row.status.active →
        row.account_id ≠ account.id := by
    intro row' hRow' hActive hAccount
    have hFound' := find?_of_mem hRow'
    rw [find?_expireStaleClaims] at hFound'
    rcases Option.map_eq_some_iff.mp hFound' with ⟨row, hFound, hIs⟩
    have hRow := (mem_of_find? hFound).1
    by_cases hEnded : row.stale now
    · rw [if_pos hEnded] at hIs
      rw [← hIs] at hActive
      cases hActive
    · rw [if_neg hEnded] at hIs
      rw [← hIs] at hActive hAccount
      rcases hLeased.rows row hRow hActive with hBeing | ⟨hStatus, hLease⟩
      · rcases hChecked row hRow hBeing with
          ⟨job, hJob, hClaim⟩
        rcases Option.map_eq_some_iff.mp hClaim with ⟨claim, hOwn, hSame⟩
        have hOwned := owned_of_claim? (hOrderly.jobs job hJob).linked hOwn
        have hBelongs := hOwned.account_eq (find?_of_mem hRow) hSame.symm
        exact hFree job hJob claim hOwn (hBelongs.symm.trans hAccount)
      · rcases Option.isSome_iff_exists.mp hLease with
          ⟨deadline, hDeadline⟩
        exact hEnded (hStale row deadline hStatus hDeadline
              (hOver.rows row hRow hAccount deadline hDeadline))
  constructor
  · unfold claimIsBlocking
    cases hSlot : account.extra.claim with
    | none => rfl
    | some claim =>
      dsimp only
      split
      next hPaid =>
        unfold Account.ShowsPaid at hUnpaid
        rw [hSlot, Option.map_some, hPaid] at hUnpaid
        exact absurd rfl hUnpaid
      next _ =>
        split
        next _ => rfl
        next hActive =>
          rcases hLeased.slots account hMem claim hSlot
              (by simpa using hActive) with
            ⟨hStatus, hLease⟩
          rcases Option.isSome_iff_exists.mp hLease with ⟨deadline, hDeadline⟩
          rw [hStale claim deadline hStatus hDeadline (hOver.copy claim hSlot deadline hDeadline)]
          rfl
  · unfold activeClaimForAccount
    rw [any_eq_false]
    intro row hRow
    simp only [Bool.and_eq_true, decide_eq_true_eq, not_and]
    intro hAccount hActive
    exact hIdle row hRow hActive hAccount
  · intro r claim_id hNew
    apply ActiveTable.insert?_isSome
    · rw [find?_expireStaleClaims,
        show (reservation r account claim_id).claim_id = claim_id from rfl, hNew]
      rfl
    · exact hIdle

/- Claims are exclusive in every run whose claim requests conclude their checks. -/
theorem claims_exclusive (env : Env) (accounts : Accounts)
    (hFresh : ∀ account ∈ accounts.rows, account.extra.claim = none) (ops : List Op)
    (hSteps : Machine.Steps (step (program env)) Concludes
        { shared := { clock := 0, accounts := accounts } } ops) :
    Exclusive (run env accounts ops) := by
  have hRun : Orderly env (run env accounts ops) ∧ Checked (run env accounts ops) := by
    refine Machine.run_induction_of_steps (C := Concludes)
        (P := fun st => Orderly env st ∧ Checked st) ?_ ?_ hSteps
    · intro st op hHolds hConcludes
      exact ⟨orderly_step st op hHolds.1, checked_step st op hHolds.1 hHolds.2 hConcludes⟩
    · refine ⟨⟨⟨?_, ?_⟩, ?_⟩, ?_⟩
      · intro row hMem
        cases hMem
      · intro account hMem claim hClaim
        rw [hFresh account hMem] at hClaim
        cases hClaim
      · intro job hMem
        cases hMem
      · intro row hMem
        cases hMem
  constructor
  · exact (run env accounts ops).shared.claims.active_unique
  · intro items hMem
    exact (hRun.1.jobs _ hMem).distinct
  · exact hRun.2
  · intro account hMem now hFree hOver hUnpaid
    exact hRun.1.claimable hRun.2 hMem hFree hOver hUnpaid

/- The second step of a claim request after the lease of the
   first one, whose account it reserves. -/
theorem claims_exclusive_two_requests :
    Exclusive (run plainEnv oneAccount ([claimRequest] ++ goesOn 0 "atclaim-1" 0 11 ++
          [claimRequest] ++ goesOn 1 "atclaim-2" 90 6)) :=
  claims_exclusive plainEnv oneAccount (by decide +kernel) _ (by decide +kernel)

def probeRaises : List Op := [claimRequest] ++ goesOn 0 "atclaim-1" 0 6 ++ [.advance 0 {}]

/- Its row is being checked for ever, and its account cannot be claimed at any time. -/
theorem prechecking_left :
    ¬ Exclusive (run plainEnv oneAccount probeRaises) ∧
      ∀ now, ¬ Claimable (run plainEnv oneAccount probeRaises).shared freeAccount now := by
  have hEnd :
      let st := run plainEnv oneAccount probeRaises
      (∀ job ∈ st.jobs, job.claim? = none) ∧ (st.shared.claims.find? "atclaim-1").map
          (fun row => (row.status, row.account_id)) = some (.prechecking, freeAccount.id) := by
    decide +kernel
  rcases hEnd with ⟨hIdle, hRow⟩
  rcases Option.map_eq_some_iff.mp hRow with ⟨row, hFound, hIs⟩
  rcases Prod.mk.inj hIs with ⟨hStatus, hAccount⟩
  constructor
  · intro hExclusive
    rcases hExclusive.checked row
        (mem_of_find? hFound).1 hStatus with
      ⟨job, hJob, hClaim⟩
    rw [hIdle job hJob] at hClaim
    cases hClaim
  · intro now hClaimable
    have hKept := find?_expireStaleClaims now (run plainEnv oneAccount probeRaises).shared.claims
      "atclaim-1"
    have hNotStale : row.stale now = false := by
      unfold Claim.stale
      rw [hStatus]
      rfl
    rw [hFound, Option.map_some, hNotStale] at hKept
    have hNone := hClaimable.idle
    unfold activeClaimForAccount at hNone
    rw [any_eq_false] at hNone
    apply hNone row (mem_of_find? hKept).1
    rw [hStatus, hAccount]
    decide

end AccessTokens
