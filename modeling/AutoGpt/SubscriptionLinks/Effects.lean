import AutoGpt.SubscriptionLinks.Requests

/-
  What one step of a request can do to the claim rows, and
  with which status a request ends a claim.

  The main theorems are:
    * `SubscriptionLinks.stepJob_effect`
    * `SubscriptionLinks.Effect.row_kept`
    * `SubscriptionLinks.expected_step`
-/

open Option

----
-- Effects
----

namespace SubscriptionLinks

inductive Effect (draw : Draw) (s : Shared) :
    Job → Claims → Prop where
| quiet (job : Job) : Effect draw s job s.claims
| expired (request : ClaimRequest) :
    Effect draw s (.expire request) (expireStaleClaims s.clock s.claims)
| inserted
    (r : Round) (account : Account) (link : Link) (ids : List Nat) (claims : Claims)
    (hInsert : s.claims.insert? (reservation r account link draw.claim_id) = some claims) :
    Effect draw s (.insert r account link ids) claims
| recorded
    (r : Round) (claim : Claim) (stored loaded : Account)
    (sent : Bool) (ids : List Nat) (claims : Claims)
    (hRow : (s.claims.find? claim.claim_id).isSome)
    (hUpdate : s.claims.update? claim.claim_id claim.writtenTo (fun _ => rfl) = some claims) :
    Effect draw s (.record r claim stored loaded sent ids) claims
| committed
    (about : String) (ending : Ending) (claim : Claim) (stored loaded : Account) (answer : Answer)
    (claims : Claims) (hRow : (s.claims.find? claim.claim_id).isSome)
    (hUpdate : s.claims.update? claim.claim_id claim.writtenTo (fun _ => rfl) = some claims) :
    Effect draw s (.commit about ending claim stored loaded answer) claims

theorem writeBack_claims (hWrite : writeBack claim stored loaded s = some s') :
    s'.claims = s.claims ∨ ((s.claims.find? claim.claim_id).isSome ∧
        s.claims.update? claim.claim_id claim.writtenTo (fun _ => rfl) = some s'.claims) := by
  unfold writeBack at hWrite
  dsimp only at hWrite
  split at hWrite
  next _ =>
    left
    rw [← some.inj hWrite]
  next row hRow =>
    right
    rcases map_eq_some_iff.mp hWrite with ⟨claims, hUpdate, hSame⟩
    refine ⟨by rw [hRow]; rfl, ?_⟩
    rw [← hSame]
    exact hUpdate

theorem visitAccount_fst (r : Round) (account : Account) (rest : Batch) :
    (visitAccount env r account rest s).1 = s := by
  unfold visitAccount
  dsimp only
  split
  · rfl
  · split <;> rfl

theorem insert_effect (r : Round) (account : Account) (link : Link) (ids : List Nat) :
    Effect draw s (.insert r account link ids) (insert draw r account link ids s).1.claims := by
  unfold insert
  dsimp only
  split
  next _ => exact .quiet _
  next claims hInsert => exact .inserted r account link ids claims hInsert

theorem record_effect (r : Round) (claim : Claim) (stored loaded : Account)
    (sent : Bool) (ids : List Nat) :
    Effect draw s (.record r claim stored loaded sent ids)
      (record r claim stored loaded sent ids s).1.claims := by
  unfold record
  split
  next _ => exact .quiet _
  next s' hWrite =>
    rcases writeBack_claims hWrite with hSame | ⟨hRow, hUpdate⟩
    · dsimp only
      rw [hSame]
      exact .quiet _
    · exact .recorded r claim stored loaded sent ids _ hRow hUpdate

theorem commit_effect (about : String) (ending : Ending) (claim : Claim)
    (stored loaded : Account) (answer : Answer) :
    Effect draw s (.commit about ending claim stored loaded answer)
      (commit claim stored loaded answer s).1.claims := by
  unfold commit
  split
  next _ => exact .quiet _
  next s' hWrite =>
    rcases writeBack_claims hWrite with hSame | ⟨hRow, hUpdate⟩
    · dsimp only
      rw [hSame]
      exact .quiet _
    · exact .committed about ending claim stored loaded answer _ hRow hUpdate

/- Every step has one of the effects. -/
theorem stepJob_effect (job : Job) : Effect draw s job (stepJob env draw s job).1.claims := by
  cases job with
  | expire request => exact .expired request
  | insert r account link ids => exact insert_effect r account link ids
  | record r claim stored loaded sent ids => exact record_effect r claim stored loaded sent ids
  | commit about ending claim stored loaded answer =>
    exact commit_effect about ending claim stored loaded answer
  | scan r =>
    simp only [stepJob, scan]
    repeat' split
    all_goals exact .quiet _
  | visit r batch =>
    simp only [stepJob, visit]
    repeat' split
    all_goals
      first
        | exact .quiet _
        | (rw [visitAccount_fst]
           exact .quiet _)
  | reserve r account link batch =>
    simp only [stepJob, reserve]
    split <;> exact .quiet _
  | preflight r claim account_id extra link ids =>
    simp only [stepJob, preflight]
    repeat' split
    all_goals exact .quiet _
  | sync r claim account extra ids =>
    simp only [stepJob, sync]
    split <;> exact .quiet _
  | synced r claim account_id ids =>
    simp only [stepJob, synced]
    split <;> exact .quiet _
  | find claim_id purpose =>
    simp only [stepJob, find]
    repeat' split
    all_goals exact .quiet _
  | findAccount row purpose =>
    simp only [stepJob, findAccount]
    repeat' split
    all_goals exact .quiet _
  | refresh call account claim =>
    simp only [stepJob, refresh]
    split <;> exact .quiet _
  | reread call account_id claim probe =>
    simp only [stepJob, reread]
    split <;> exact .quiet _
  | checkout call account claim probe_failed => exact .quiet _
  | finished answer => exact .quiet _

----
-- Rows
----

inductive RowMove (row : Claim) : Job → Claim → Prop where
| same (job : Job) : RowMove row job row
| expired
    (request : ClaimRequest) (row' : Claim) (hActive : row.status.active)
    (hEnded : row'.status.active = false) (hPaid : row'.status ≠ .paid) :
    RowMove row (.expire request) row'
| recorded
    (r : Round) (claim : Claim) (stored loaded : Account) (sent : Bool) (ids : List Nat)
    (hRow : row.claim_id = claim.claim_id) :
    RowMove row (.record r claim stored loaded sent ids) (claim.writtenTo row)
| committed
    (about : String) (ending : Ending) (claim : Claim) (stored loaded : Account) (answer : Answer)
    (hRow : row.claim_id = claim.claim_id) :
    RowMove row (.commit about ending claim stored loaded answer) (claim.writtenTo row)

variable {s : Shared}
theorem find?_expireStaleClaims (now : Nat) (claims : Claims) (k : String) :
    (expireStaleClaims now claims).find? k = ((claims.find? k).map fun row =>
          if stale .prechecking Claim.precheck_expires_at now row then row.precheckExpired
          else row).map fun row =>
        if stale .claimed Claim.lease_expires_at now row then row.leaseExpired
        else row :=
  (ActiveTable.find?_deactivateWhere
    (stale .claimed Claim.lease_expires_at now)
    Claim.leaseExpired (fun _ => rfl) (fun _ => rfl) k).trans
    (congrArg
      (Option.map fun row =>
        if stale .claimed Claim.lease_expires_at now row then row.leaseExpired
        else row)
      (ActiveTable.find?_deactivateWhere (stale .prechecking Claim.precheck_expires_at now)
        Claim.precheckExpired (fun _ => rfl) (fun _ => rfl) k))

theorem stale_status
    (hStale : stale status deadline now row) : row.status = status := by
  unfold stale at hStale
  simp only [Bool.and_eq_true, decide_eq_true_eq] at hStale
  exact hStale.1

/- A row after the expiry is as it was, or was active and is not any more. -/
theorem expired_row (request : ClaimRequest) (now : Nat) (row : Claim) :
    RowMove row (.expire request)
      (let row :=
        if stale .prechecking Claim.precheck_expires_at now row
          then row.precheckExpired
        else row
      if stale .claimed Claim.lease_expires_at now row then row.leaseExpired
      else row) := by
  by_cases hPrecheck : stale .prechecking Claim.precheck_expires_at now row
  · have hStatus := stale_status hPrecheck
    rw [if_pos hPrecheck]
    have hNot : ¬ stale .claimed Claim.lease_expires_at now row.precheckExpired := by
      intro hLease
      cases stale_status hLease
    rw [if_neg hNot]
    exact .expired request _ (by rw [hStatus]; rfl) rfl nofun
  · rw [if_neg hPrecheck]
    by_cases hLease : stale .claimed Claim.lease_expires_at now row
    · have hStatus := stale_status hLease
      rw [if_pos hLease]
      exact .expired request _ (by rw [hStatus]; rfl) rfl nofun
    · rw [if_neg hLease]
      exact .same _

theorem row_of_update? {claim : Claim}
    (hUpdate : s.claims.update? claim.claim_id claim.writtenTo (fun _ => rfl) = some claims)
    (hFound : s.claims.find? k = some row) :
    claims.find? k = some row ∨
      (row.claim_id = claim.claim_id ∧ claims.find? k = some (claim.writtenTo row)) := by
  rw [ActiveTable.find?_update? hUpdate]
  by_cases hSame : k = claim.claim_id
  · right
    have hKey := (KeyedTable.mem_of_find? hFound).2
    rw [if_pos hSame, ← hSame, hFound]
    exact ⟨hKey, rfl⟩
  · left
    rw [if_neg hSame]
    exact hFound

theorem Effect.row_kept (hEffect : Effect draw s job claims) {k : String}
    (hFound : s.claims.find? k = some row) :
    ∃ row', claims.find? k = some row' ∧ RowMove row job row' := by
  cases hEffect with
  | quiet _ => exact ⟨row, hFound, .same _⟩
  | expired request =>
    refine ⟨_, ?_, expired_row request s.clock row⟩
    rw [find?_expireStaleClaims, hFound]
    rfl
  | inserted r account link ids claims hInsert =>
    have hFind := ActiveTable.find?_insert? hInsert
    refine ⟨row, ?_, .same _⟩
    rw [hFind.2]
    split
    next hSame =>
      rw [hSame] at hFind
      rw [hFound] at hFind
      cases hFind.1
    next _ => exact hFound
  | recorded r claim stored loaded sent ids claims hRow hUpdate =>
    rcases row_of_update? hUpdate hFound with hSame | ⟨hIs, hNew⟩
    · exact ⟨row, hSame, .same _⟩
    · exact ⟨_, hNew, .recorded r claim stored loaded sent ids hIs⟩
  | committed about ending claim stored loaded answer claims hRow
      hUpdate =>
      rcases row_of_update? hUpdate hFound with hSame | ⟨hIs, hNew⟩
      · exact ⟨row, hSame, .same _⟩
      · exact ⟨_, hNew, .committed about ending claim stored loaded answer hIs⟩

----
-- Endings
----

/- A result of `failed` is reported as failed. -/
def Call.Reports (call : Call) (claim : Claim) : Prop :=
  ∀ claim_id request, call.cause = .failed claim_id request → claim.status = .failed

/- The status that a request writes: handed out or rejected by
   a claim request, or that of the ending of a call. -/
def Job.Expected : Job → Prop
| .refresh call _ claim => call.Reports claim
| .record _ claim _ _ sent _ =>
    if sent then claim.status = .claimed
    else claim.status.active = false ∧ claim.status ≠ .paid
| .commit _ ending claim _ _ _ => claim.status = ending.status
| _ => True

theorem rejection_ended (rejection : Rejection) :
    rejection.status.active = false ∧ rejection.status ≠ .paid := by
  cases rejection with
  | _ => exact ⟨rfl, nofun⟩

theorem recordRejected_expected (r : Round) (rejection : Rejection) (reason : String)
    (claim : Claim) (extra : Extra) (account : Account) (ids : List Nat) :
    (recordRejected r rejection reason claim extra account ids).Expected :=
  rejection_ended rejection

theorem resultStatus_cases (hStatus : resultStatus env text = some status) :
    status = .paid ∨ status = .failed ∨ status = .processing := by
  unfold resultStatus at hStatus
  dsimp only at hStatus
  split at hStatus
  · exact .inl (some.inj hStatus).symm
  · split at hStatus
    · exact .inr (.inl (some.inj hStatus).symm)
    · split at hStatus
      · exact .inr (.inr (some.inj hStatus).symm)
      · cases hStatus

theorem begin_expected (account : Account) (claim : Claim) (purpose : Purpose) (now : Nat) :
    (begin env account claim purpose now).Expected := by
  cases purpose with
  | release reason =>
    simp only [begin]
    split
    · exact trivial
    · exact rfl
  | verify =>
    simp only [begin]
    split
    · intro claim_id request hCause
      cases hCause
    · exact trivial
  | result claim_id request =>
    simp only [begin]
    split
    next _ => exact trivial
    next status hStatus =>
      split
      next _ => exact trivial
      next _ =>
        split
        next _ => exact rfl
        next hOther =>
          intro claim_id' request' hCause
          rcases resultStatus_cases hStatus with hPaid | hFailed | hProcessing
          · rw [hPaid] at hCause
            cases hCause
          · exact hFailed
          · exact absurd hProcessing hOther

theorem afterProbe_expected (account : Account) (probe : Option Probe)
    (hReports : call.Reports claim) : (afterProbe env call account claim probe).Expected := by
  unfold afterProbe
  dsimp only
  split
  next _ => split <;> exact rfl
  next claim_id request hCause =>
    split
    · exact rfl
    · exact hReports claim_id request hCause
  next _ =>
    split
    · exact rfl
    · exact trivial

theorem checkout_expected (call : Call) (account : Account) (claim : Claim) (probe_failed : Bool) :
    (checkout env draw call account claim probe_failed).Expected := by
  unfold checkout
  repeat' split
  all_goals exact rfl

/- Every request writes the status that is expected of it. -/
theorem expected_step (hExpected : job.Expected) : (stepJob env draw s job).2.Expected := by
  cases job with
  | expire request =>
    simp only [stepJob, expire]
    split <;> exact trivial
  | scan r =>
    simp only [stepJob, scan]
    repeat' split
    all_goals exact trivial
  | visit r batch =>
    have hOther : ∀ account rest, (visitAccount env r account rest s).2.Expected := by
      intro account rest
      unfold visitAccount
      dsimp only
      split
      · exact trivial
      · split <;> exact trivial
    simp only [stepJob, visit]
    repeat' split
    all_goals
      first
        | exact hOther _ _
        | exact trivial
  | reserve r account link batch =>
    simp only [stepJob, reserve]
    split <;> exact trivial
  | insert r account link ids =>
    simp only [stepJob, insert]
    split <;> exact trivial
  | preflight r claim account_id extra link ids =>
    simp only [stepJob, preflight]
    split
    · exact trivial
    · split
      · exact rfl
      · split
        · exact trivial
        · exact recordRejected_expected _ _ _ _ _ _ _
  | sync r claim account extra ids =>
    simp only [stepJob, sync]
    split
    · exact recordRejected_expected _ _ _ _ _ _ _
    · exact trivial
  | synced r claim account_id ids =>
    simp only [stepJob, synced]
    split
    · exact trivial
    · exact recordRejected_expected _ _ _ _ _ _ _
  | record r claim stored loaded sent ids =>
    simp only [stepJob, record]
    split <;> exact trivial
  | find claim_id purpose =>
    simp only [stepJob, find]
    split
    · exact trivial
    · split
      · exact trivial
      · split
        · exact trivial
        · split
          · exact trivial
          · exact begin_expected _ _ _ _
  | findAccount row purpose =>
    simp only [stepJob, findAccount]
    split
    · exact trivial
    · split
      · exact begin_expected _ _ _ _
      · exact trivial
  | refresh call account claim =>
    simp only [stepJob, refresh]
    split
    · exact afterProbe_expected account none hExpected
    · exact trivial
  | reread call account_id claim probe =>
    simp only [stepJob, reread]
    split
    next _ => exact trivial
    next account _ =>
      apply afterProbe_expected
      intro claim_id request hCause
      rw [hCause]
      rfl
  | checkout call account claim probe_failed =>
    simp only [stepJob]
    exact checkout_expected call account claim probe_failed
  | commit about ending claim stored loaded answer =>
    simp only [stepJob, commit]
    split <;> exact trivial
  | finished answer => exact trivial

end SubscriptionLinks
