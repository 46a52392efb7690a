import AutoGpt.SubscriptionLinks.Effects

/-
  Claims are independent: a result, a release or a
  verification of one claim changes the row of no other claim.
  After its status probe, a call goes on with the claim that it
  finds in the `extra` of the account, which may be another
  one.

  The main theorems are:
    * `SubscriptionLinks.other_claims_kept`
    * `SubscriptionLinks.newer_claim_failed`
-/

open JobPool (Holds OnJob State pending? step)

----
-- Guarantees And Conditions
----

namespace SubscriptionLinks

/- The claim that a result, a release or a verification is called for. -/
def Job.about : Job → Option String
| .find claim_id _ => some (PyText.strip claim_id)
| .findAccount row _ => some row.claim_id
| .refresh call _ _ => some call.about
| .reread call _ _ _ => some call.about
| .checkout call _ _ _ => some call.about
| .commit about _ _ _ _ _ => some about
| _ => none

/- A step of such a call changes the row of its claim only. -/
def OthersKept (env : Env) (st : State Shared Job) (op : Op) :
    Prop :=
  ∀ i draw job claim_id, op = .advance i draw → pending? (program env) st i = some job →
    job.about = some claim_id → ∀ k, k ≠ claim_id →
      (step (program env) st op).1.shared.claims.find? k = st.shared.claims.find? k

/- The claim that a call is about to end. -/
def Job.ends : Job → Option String
| .checkout _ _ claim _ => some claim.claim_id
| .commit _ _ claim _ _ _ => some claim.claim_id
| _ => none

/- After the status probe of a call, the `extra` of the account holds the claim of the call, or
   none, or one without a row. The id of a new claim is not that of a claim which some call is about
   to end. -/
def KeepsToClaim (st : State Shared Job) (draw : Draw) :
    Job → Prop
| .reread call account_id _ _ => ∀ account ∈ st.shared.accounts.find? account_id,
      ∀ slot ∈ account.extra.claim,
        slot.claim_id = call.about ∨ st.shared.claims.find? slot.claim_id = none
| .insert _ _ _ _ => ∀ other ∈ st.jobs, other.ends ≠ some draw.claim_id
| _ => True

instance
    (st : State Shared Job) (draw : Draw) (job : Job) : Decidable (KeepsToClaim st draw job) := by
  unfold KeepsToClaim
  split <;> infer_instance

----
-- Claims That Are Written
----

/- A claim that is the one of the call, or has no row. -/
def Own (s : Shared) (about : String) (claim : Claim) : Prop :=
  claim.claim_id = about ∨ s.claims.find? claim.claim_id = none

/- The claim with which a call goes on is its own. -/
def Job.Keeps (s : Shared) : Job → Prop
| .refresh call _ claim => claim.claim_id = call.about
| .reread call _ claim _ => claim.claim_id = call.about
| .checkout call _ claim _ => Own s call.about claim
| .commit about _ claim _ _ _ => Own s about claim
| _ => True

theorem begin_keeps (account : Account) (claim : Claim) (purpose : Purpose) (now : Nat) :
    (begin env account claim purpose now).Keeps s := by
  cases purpose with
  | release reason =>
    simp only [begin]
    split
    · exact trivial
    · exact .inl rfl
  | verify =>
    simp only [begin]
    split
    · exact rfl
    · exact trivial
  | result claim_id request =>
    simp only [begin]
    split
    · exact trivial
    · split
      · exact trivial
      · split
        · exact .inl rfl
        · exact rfl

theorem afterProbe_keeps (account : Account) (probe : Option Probe)
    (hOwn : Own s call.about claim) : (afterProbe env call account claim probe).Keeps s := by
  unfold Own at hOwn
  unfold afterProbe
  dsimp only
  split
  · split <;> exact hOwn
  · split <;> exact hOwn
  · split <;> exact hOwn

theorem checkout_keeps (account : Account) (probe_failed : Bool) (hOwn : Own s call.about claim) :
    (checkout env draw call account claim probe_failed).Keeps
      s := by
  unfold Own at hOwn
  unfold checkout
  repeat' split
  all_goals exact hOwn

theorem report_claim_id (cause : Cause) (claim : Claim) :
    (cause.report claim).claim_id = claim.claim_id := by
  cases cause with
  | _ => rfl

theorem reread_keeps (hOwn : claim.claim_id = call.about)
    (hKeeps : KeepsToClaim st draw (.reread call account_id claim probe))
    (hShared : st.shared = s) : (reread env call account_id claim probe s).2.Keeps s := by
  unfold reread
  split
  next _ => exact trivial
  next account hFound =>
    apply afterProbe_keeps
    unfold Own
    rw [report_claim_id]
    cases hSlot : account.extra.claim with
    | none => exact .inl hOwn
    | some slot =>
      rw [← hShared] at hFound ⊢
      exact hKeeps account hFound slot hSlot

/- The next step of a call keeps to its claim. -/
theorem keeps_step (hJob : job.Keeps s) (hKeeps : KeepsToClaim st draw job)
    (hShared : st.shared = s) : (stepJob env draw s job).2.Keeps s := by
  cases job with
  | find own purpose =>
    simp only [stepJob, find]
    split
    · exact trivial
    · split
      · exact trivial
      · split
        · exact trivial
        · split
          · exact trivial
          · exact begin_keeps _ _ _ _
  | findAccount row purpose =>
    simp only [stepJob, findAccount]
    split
    · exact trivial
    · split
      · exact begin_keeps _ _ _ _
      · exact trivial
  | refresh call account claim =>
    simp only [stepJob, refresh]
    split
    · exact afterProbe_keeps account none (.inl hJob)
    · exact hJob
  | reread call account_id claim probe => exact reread_keeps hJob hKeeps hShared
  | checkout call account claim probe_failed =>
    simp only [stepJob]
    exact checkout_keeps account probe_failed hJob
  | commit about ending claim stored loaded answer =>
    simp only [stepJob, commit]
    split <;> exact trivial
  | expire request =>
    simp only [stepJob, expire]
    split <;> exact trivial
  | scan r =>
    simp only [stepJob, scan]
    repeat' split
    all_goals exact trivial
  | visit r batch =>
    have hOther : ∀ account rest, (visitAccount env r account rest s).2.Keeps s := by
      intro account rest
      unfold visitAccount
      dsimp only
      split
      · exact trivial
      · split <;> exact trivial
    simp only [stepJob, visit]
    repeat' split
    all_goals
      first
        | exact hOther _ _
        | exact trivial
  | reserve r account link batch =>
    simp only [stepJob, reserve]
    split <;> exact trivial
  | insert r account link ids =>
    simp only [stepJob, insert]
    split <;> exact trivial
  | preflight r claim account_id extra link ids =>
    simp only [stepJob, preflight]
    repeat' split
    all_goals exact trivial
  | sync r claim account extra ids =>
    simp only [stepJob, sync]
    split <;> exact trivial
  | synced r claim account_id ids =>
    simp only [stepJob, synced]
    split <;> exact trivial
  | record r claim stored loaded sent ids =>
    simp only [stepJob, record]
    split <;> exact trivial
  | finished answer => exact trivial

/- A claim without a row stays without one, unless it is inserted. -/
theorem Effect.absent (hEffect : Effect draw s job claims) (hNone : s.claims.find? k = none)
    (hNew : ∀ r account link ids, job = .insert r account link ids → k ≠ draw.claim_id) :
    claims.find? k = none := by
  cases hEffect with
  | quiet _ => exact hNone
  | expired request =>
    rw [find?_expireStaleClaims, hNone]
    rfl
  | inserted r account link ids claims hInsert =>
    have hOther := hNew r account link ids rfl
    rw [(ActiveTable.find?_insert? hInsert).2, if_neg (fun hSame => hOther hSame.symm)]
    exact hNone
  | recorded r claim stored loaded sent ids claims hRow hUpdate =>
    rw [ActiveTable.find?_update? hUpdate]
    split
    next hSame =>
      rw [← hSame, hNone]
      rfl
    next _ => exact hNone
  | committed about ending claim stored loaded answer claims hRow
      hUpdate =>
      rw [ActiveTable.find?_update? hUpdate]
      split
      next hSame =>
        rw [← hSame, hNone]
        rfl
      next _ => exact hNone

/- A call keeps to its claim, unless a claim of its id is inserted. -/
theorem Effect.keeps (hEffect : Effect draw s job s'.claims) {other : Job}
    (hNew :
      ∀ r account link ids, job = .insert r account link ids → other.ends ≠ some draw.claim_id)
    (hOther : other.Keeps s) : other.Keeps s' := by
  have hOwn :
      ∀ about claim, other.ends = some claim.claim_id → Own s about claim → Own s' about claim := by
    intro about claim hEnds hOwn
    rcases hOwn with hSame | hNone
    · exact .inl hSame
    · right
      apply hEffect.absent hNone
      intro r account link ids hInsert hId
      apply hNew r account link ids hInsert
      rw [hEnds, hId]
  cases other with
  | refresh call account claim => exact hOther
  | reread call account_id claim probe => exact hOther
  | checkout call account claim probe_failed => exact hOwn call.about claim rfl hOther
  | commit about ending claim stored loaded answer => exact hOwn about claim rfl hOther
  | _ => exact trivial

theorem insert_ends (r : Round) (account : Account) (link : Link) (ids : List Nat) :
    (insert draw r account link ids s).2.ends = none := by
  unfold insert
  dsimp only
  split <;> rfl

/- A step of a call that keeps to its claim changes no other row. -/
theorem Effect.others_kept (hEffect : Effect draw s job claims) (hKeeps : job.Keeps s)
    (hAbout : job.about = some claim_id) (hOther : k ≠ claim_id) :
    claims.find? k = s.claims.find? k := by
  cases hEffect with
  | quiet _ => rfl
  | expired request => cases hAbout
  | inserted r account link ids claims hInsert => cases hAbout
  | recorded r claim stored loaded sent ids claims hRow hUpdate => cases hAbout
  | committed about ending claim stored loaded answer claims hRow
      hUpdate =>
      rcases hKeeps with hSame | hNone
      · have hIs := Option.some.inj hAbout
        rw [ActiveTable.find?_update? hUpdate, if_neg]
        rw [hSame, hIs]
        exact hOther
      · rw [hNone] at hRow
        cases hRow

----
-- Claims Are Independent
----

theorem keeps_holds (draw : Draw) (st : State Shared Job) (job : Job)
    (hHolds : Holds (fun _ => True) Job.Keeps st) (hMem : job ∈ st.jobs)
    (hKeeps : KeepsToClaim st draw job) :
    Job.Keeps (advance env draw st.shared job).1 (advance env draw st.shared job).2 ∧
      ∀ other ∈ st.jobs, Job.Keeps (advance env draw st.shared job).1 other := by
  let s := st.shared.wait draw.seconds
  have hJobs : ∀ other ∈ st.jobs, other.Keeps s := by
    intro other hOther
    have hOwn := hHolds.jobs other hOther
    cases other <;> exact hOwn
  have hKeeps' : KeepsToClaim { st with shared := s } draw job := by cases job <;> exact hKeeps
  have hEffect : Effect draw s job (stepJob env draw s job).1.claims := stepJob_effect job
  constructor
  · apply hEffect.keeps
    · intro r account link ids hInsert hEnds
      have hNone : (stepJob env draw s job).2.ends = none := by
        rw [hInsert]
        exact insert_ends r account link ids
      cases hEnds.symm.trans hNone
    · exact keeps_step (hJobs job hMem) hKeeps' rfl
  · intro other hOther
    apply hEffect.keeps
    · intro r account link ids hInsert
      rw [hInsert] at hKeeps
      exact hKeeps other hOther
    · exact hJobs other hOther

/- No call changes another claim's row in a run whose calls keep to their claims. -/
theorem other_claims_kept (env : Env) (accounts : Accounts) (ops : List Op) (op : Op)
    (hSteps : Machine.Steps (step (program env)) (OnJob (program env) KeepsToClaim)
        { shared := { clock := 0, accounts := accounts } } ops) :
    OthersKept env (run env accounts ops) op := by
  have hHolds : Holds (fun _ => True) Job.Keeps (run env accounts ops) := by
    refine JobPool.run_holds_of_steps ?_ ?_ ?_ ?_ hSteps
    · intro s request _
      cases request with
      | claim request =>
        simp only [program, Request.job]
        split <;> exact trivial
      | _ => exact trivial
    · exact fun s _ => trivial
    · intro draw st job hHolds hMem _ hKeeps
      exact ⟨trivial, keeps_holds draw st job hHolds hMem hKeeps⟩
    · refine ⟨trivial, ?_⟩
      intro job hMem
      cases hMem
  intro i draw job claim_id hOp hJob hAbout k hOther
  rw [hOp, JobPool.step_advance hJob]
  have hKeeps := hHolds.jobs job (JobPool.mem_of_pending? hJob).1
  have hWaited : job.Keeps ((run env accounts ops).shared.wait draw.seconds) := by
    cases job <;> exact hKeeps
  exact (stepJob_effect job).others_kept hWaited hAbout hOther

/- One account with a link that the preflight accepts. -/
def plainEnv : Env where
  lower := id
  upper := id
  normalizeCountry := fun country _ => country
  verify_after_seconds := 300

def linkedAccount : Account where
  id := 1
  email := "linked@example.com"
  extra :=
    { link :=
        { url := "https://pay.example/1", plan := "plus", country := "US", currency := "USD" } }

def oneAccount : Accounts := KeyedTable.insertNew .empty linkedAccount

def unpaidProbe : Probe where
  has_paid_subscription := false
  account_status := "registered"

/- A request makes some steps, the first one after a wait. -/
def goesOn (i : Nat) (claim_id : String) (seconds count : Nat) :
    List Op :=
  let draw : Draw := { claim_id := claim_id, outside := { probe := some unpaidProbe } }
  .advance i { draw with seconds := seconds } :: List.replicate (count - 1) (.advance i draw)

def handedOut : List Op := .arrive (.claim { lease_seconds := 60 }) :: goesOn 0 "subclaim-1" 0 9

def report (claim_id status payment_id : String) : Op :=
  .arrive (.result claim_id { status := status, external_payment_id := payment_id })

/- The result of the only claim. -/
theorem other_claims_kept_one_claim :
    OthersKept plainEnv (run plainEnv oneAccount
        (handedOut ++ [report "subclaim-1" "paid" "pay-1"] ++ goesOn 1 "" 0 4)) (.advance 1 {}) :=
  other_claims_kept plainEnv oneAccount _ _ (by decide +kernel)

/- The first claim is released, and the link is handed out
   again; then a late result of the first claim arrives. -/
def lateResult : List Op := handedOut ++ [.arrive (.release "subclaim-1" "")] ++ goesOn 1 "" 0 3 ++
    [.arrive (.claim { lease_seconds := 60 })] ++
    goesOn 2 "subclaim-2" 0 9 ++
    [report "subclaim-1" "failed" "pay-1"] ++ goesOn 3 "" 0 4

/- The late result marks the second claim as failed. -/
theorem newer_claim_failed :
    ¬ OthersKept plainEnv (run plainEnv oneAccount lateResult) (.advance 3 {}) := by
  have hEnd :
      let st := run plainEnv oneAccount lateResult
      (pending? (program plainEnv) st 3).bind Job.about = some "subclaim-1" ∧
        (st.shared.claims.find? "subclaim-2").map Claim.status = some .claimed ∧
        ((step (program plainEnv) st (.advance 3 {})).1.shared.claims.find?
            "subclaim-2").map Claim.status = some .failed := by
    decide +kernel
  rcases hEnd with ⟨hAbout, hClaimed, hFailed⟩
  rcases Option.bind_eq_some_iff.mp hAbout with ⟨job, hJob, hIs⟩
  intro hKept
  have hSame := hKept 3 {} job "subclaim-1" rfl hJob hIs "subclaim-2" (by decide)
  rw [hSame, hClaimed] at hFailed
  cases hFailed

end SubscriptionLinks
