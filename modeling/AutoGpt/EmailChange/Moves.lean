import AutoGpt.EmailChange.Runs

/-
  What a step of a run can lead to: one rule for each way on,
  with what the checks on the way have shown. Later proofs are
  by cases on these rules and never unfold a step.

  Main theorem:
    * `EmailChange.moves_of_after`
-/

----
-- The Rules
----

namespace EmailChange

/- The steps of the loop before the verify request. -/
def Pc.inLoop : Pc → Bool
| .openBrowser => true
| .sourceMe => true
| .eligibility => true
| .beginChange => true
| .waitOtp => true
| _ => false

/- The steps of the handlers of `run`; after them the exception is raised again. -/
def Pc.handles : Pc → Bool
| .closing _ _ => true
| .recoveryRead _ => true
| .recoveryWrite _ _ => true
| _ => false

/- The steps that are neither a handler's nor the request. -/
def Pc.works : Pc → Bool
| .verify => false
| pc => !pc.handles

/- The patch for a mailbox state in a phase. -/
def Run.mailboxPatch (run : Run) (phase : Phase) : Patch :=
  { running phase with mailbox_state := some run.target_state }

/- A step that ends as the draw says may lead from the first job to the second. -/
inductive Moves (env : Env) (draw : Draw) (w : World) :
    Job → Job → Prop
| closes (job run error phase resumable crossed)
    (hRow : run.row = job.run.row) (hTask : run.task_id = job.run.task_id)
    (hOwn : job.pc.handles = false)
    (hTold : job.run.remote_changed = true ∨ job.pc = .verify → crossed = true ∧ resumable = true) :
    Moves env draw w job (Run.closed env run error phase resumable crossed)
| ends (job) :
    Moves env draw w job ⟨job.run, .finished⟩
| starts (run) :
    Moves env draw w ⟨run, .checkpoint⟩ run.afterCheckpoint
| recovers (run account)
    (hFind : w.accounts.find? run.row.account_id = some account)
    (hTarget : normalizeEmail env account.email = normalizeEmail env run.row.target_email)
    (hMarked : account.markedBy run.task_id) :
    Moves env draw w ⟨run, .accountRead⟩ ((run.opened env account).crossed.recovered draw)
| executes (run account)
    (hInside : run.remote_changed = false) :
    Moves env draw w ⟨run, .accountRead⟩ ((run.opened env account).execute env)
| resumes (run account)
    (hPast : run.remote_changed)
    (hSource : normalizeEmail env account.email = normalizeEmail env run.row.source_email)
    (hUser : (sourceIdentityFromRow env run.row (detachedAccount env account)).user_id ≠ "")
    (hAccount : (sourceIdentityFromRow env run.row (detachedAccount env account)).account_id ≠ "") :
    Moves env draw w ⟨run, .accountRead⟩
      ⟨{ run.opened env account with
          source_identity := sourceIdentityFromRow env run.row (detachedAccount env account) },
        .prepareTarget⟩
| raises (run pc error)
    (hLoop : pc.inLoop) :
    Moves env draw w ⟨run, pc⟩ ⟨run, .loopRaise error⟩
| unknown (run message) :
    Moves env draw w ⟨run, .verify⟩ ⟨run.crossed, .loopRaise (verifyOutcomeUnknown message)⟩
| opens (run) :
    Moves env draw w ⟨run, .openBrowser⟩ ⟨run, .sourceMe⟩
| identifies (run remote identity)
    (hIdentity : identity = sourceIdentity env run.account remote)
    (hAssert : assertSourceIdentity env identity run.expected run.row.source_email = none) :
    Moves env draw w ⟨run, .sourceMe⟩ ⟨{ run with source_identity := identity },
        .update { source := some identity.recorded } .eligibility⟩
| allows (run) :
    Moves env draw w ⟨run, .eligibility⟩ ⟨run, .update (running .eligibilityChecked) .beginChange⟩
| begins (run) :
    Moves env draw w ⟨run, .beginChange⟩
      ⟨run, .update (running .beginSent) (.update (run.mailboxPatch .waitingChangeOtp) .waitOtp)⟩
| submits (run mailbox) :
    Moves env draw w ⟨run, .waitOtp⟩
      ⟨{ run with target_state := mailbox }, .update
          { running .waitingChangeOtp with mailbox_state := some mailbox }
          (.update
            { running .waitingChangeOtp with
              mailbox_state := some mailbox,
              verify_submitted_at := some (some draw.now) }
            .verify)⟩
| rejected (run error)
    (hEnding : draw.ending = .returned) (hOutcome : draw.answer.outcome = .rejected) :
    Moves env draw w ⟨run, .verify⟩
      ⟨run, .update { verify_submitted_at := some none } (.loopRaise error)⟩
| accepted (run) :
    Moves env draw w ⟨run, .verify⟩ ⟨run.crossed, .update
          { run.mailboxPatch .remoteEmailChanged with remote_changed_at := some draw.now }
          .prepareTarget⟩
| reauthenticates (run error state)
    (hReauth : error.requiresReauth) :
    Moves env draw w ⟨run, .loopRaise error⟩ ⟨{ run with source_state := some state }, .update
          { running .sourceReauthRequired with resumable := some true } .sourceLogin⟩
| sourceLogged (run source_state) :
    Moves env draw w ⟨run, .sourceLogin⟩
      ⟨{ run with tokens := draw.tokens, source_state := source_state }, .sourceCheck⟩
| sourceChecked (run verified) :
    Moves env draw w ⟨run, .sourceCheck⟩ ⟨run, .sourceRead verified⟩
| sourceFound (run verified account) :
    Moves env draw w ⟨run, .sourceRead verified⟩ ⟨run, .sourceWrite verified account⟩
| sourceWritten (run verified loaded) :
    Moves env draw w ⟨run, .sourceWrite verified loaded⟩ ⟨run, .sourceRefresh verified⟩
| sourceRefreshed (run verified account) :
    Moves env draw w ⟨run, .sourceRefresh verified⟩
      ⟨{ run with
          account := detachedAccount env account, expected := run.expected.merged verified,
          reauth_attempted := true },
        .update
          { running .sourceReauthRequired with
            source := some verified.recorded,
            resumable := some false }
          (.update (running .eligibilityChecked) .openBrowser)⟩
| prepares (run) :
    Moves env draw w ⟨run, .prepareTarget⟩ ⟨run, .update (running .waitingTargetLoginOtp)
          (.update (run.mailboxPatch .waitingTargetLoginOtp) .targetLogin)⟩
| targetLogged (run target_state) :
    Moves env draw w ⟨run, .targetLogin⟩
      ⟨{ run with tokens := draw.tokens, target_state := target_state },
        .update { running .sessionCaptured with mailbox_state := some target_state } .targetCheck⟩
| targetChecked (run verified)
    (hEnding : draw.ending = .returned) (hVerified : verifyRemoteIdentity env run.tokens
          { run.source_identity with email := normalizeEmail env run.row.target_email }
          "目标邮箱登录" true draw.me = .ok verified) :
    Moves env draw w ⟨run, .targetCheck⟩ ⟨{ run with target_identity := verified },
        .update (run.mailboxPatch .identityVerified) .commitRead⟩
| commitChecked (run account)
    (hGuard : run.commitError env = none)
    (hFind : w.accounts.find? run.row.account_id = some account)
    (hSource : normalizeEmail env account.email = normalizeEmail env run.source_identity.email)
    (hFree : w.accounts.conflict (run.committedEmail env) run.row.account_id = false) :
    Moves env draw w ⟨run, .commitRead⟩ ⟨run, .commitWrite account⟩
| committed (run loaded) :
    Moves env draw w ⟨run, .commitWrite loaded⟩ (run.afterCommitWrite draw)
| finalizes (run committed_at target_state)
    (hEnding : draw.ending = .returned) :
    Moves env draw w ⟨run, .finalize committed_at⟩
      ⟨{ run with target_state := target_state }, .finalizedRead committed_at⟩
| finalizedFound (run committed_at account)
    (hFind : w.accounts.find? run.row.account_id = some account)
    (hTarget : normalizeEmail env account.email = normalizeEmail env run.row.target_email)
    (hMarked : account.markedBy run.task_id) :
    Moves env draw w ⟨run, .finalizedRead committed_at⟩ ⟨run, .finalizedWrite committed_at account⟩
| finalized (run committed_at loaded account)
    (hEnding : draw.ending = .returned) (hFind : w.accounts.find? loaded.id = some account) :
    Moves env draw w ⟨run, .finalizedWrite committed_at loaded⟩
      (run.afterFinalizedWrite draw committed_at)
| updated (run patch next)
    (hEnding : draw.ending = .returned) :
    Moves env draw w ⟨run, .update patch next⟩ ⟨run, next⟩
| closed (run patch next)
    (hEnding : draw.ending = .returned) :
    Moves env draw w ⟨run, .closing patch next⟩ ⟨run, next⟩
| warns (run code account) :
    Moves env draw w ⟨run, .recoveryRead code⟩ ⟨run, .recoveryWrite code account⟩

----
-- Every Step Follows A Rule
----

variable {env : Env} {draw : Draw} {w : World}
variable {run : Run} {pc : Pc} {job job' : Job}

theorem Pc.handles_of_works (hWorks : pc.works) : pc.handles = false ∧ pc ≠ .verify := by
  cases pc <;> first | cases hWorks; done | exact ⟨rfl, Pc.noConfusion⟩

theorem Moves.fails (run : Run) (error : ChangeError) (hRow : run.row = job.run.row)
    (hTask : run.task_id = job.run.task_id) (hWorks : job.pc.works = true)
    (hFlag : job.run.remote_changed = true → run.remote_changed) :
    Moves env draw w job (run.failed env error) := by
  have hPc := Pc.handles_of_works hWorks
  refine .closes job run error _ _ _ hRow hTask hPc.1 ?_
  intro hPast
  rw [hFlag (hPast.resolve_right hPc.2), Bool.or_true]
  exact ⟨rfl, rfl⟩

theorem Moves.stops (code message : String) (hWorks : job.pc.works = true) :
    Moves env draw w job (job.run.stopped env code message) := by
  have hPc := Pc.handles_of_works hWorks
  refine .closes job job.run _ _ _ _ rfl rfl hPc.1 ?_
  intro hPast
  have hChanged := hPast.resolve_right hPc.2
  exact ⟨hChanged, hChanged⟩

theorem moves_interrupted : Moves env draw w job (job.interrupted env) := by
  rcases job with ⟨run, pc⟩
  cases pc with
  | verify => exact .closes _ run.crossed _ _ _ _ rfl rfl rfl (fun _ => ⟨rfl, rfl⟩)
  | closing patch next => exact .ends _
  | recoveryRead code => exact .ends _
  | recoveryWrite code loaded => exact .ends _
  | _ => exact .stops _ _ rfl

theorem moves_crashed : Moves env draw w job (job.crashed env draw) := by
  rcases job with ⟨run, pc⟩
  cases pc with
  | verify => exact .unknown run _
  | sourceLogin | sourceCheck => exact .fails _ _ rfl rfl rfl id
  | targetLogin => exact .fails _ _ rfl rfl rfl id
  | finalize committed_at => exact .fails _ _ rfl rfl rfl id
  | closing patch next => exact .ends _
  | recoveryRead code => exact .ends _
  | recoveryWrite code loaded => exact .ends _
  | _ => exact .stops _ _ rfl

theorem moves_afterAccountRead :
    Moves env draw w ⟨run, .accountRead⟩ (run.afterAccountRead env draw w.accounts) := by
  unfold Run.afterAccountRead
  split
  · exact .fails _ _ rfl rfl rfl id
  · next account hFind =>
      split
      · exact .fails _ _ rfl rfl rfl id
      · unfold Run.resumed
        dsimp only
        split_ifs with hReserved hTarget hPresent hSource hCommitted hInside hMissing
        · exact .fails _ _ rfl rfl rfl id
        · unfold Run.localCommitPresent at hPresent
          rw [Bool.and_eq_true] at hPresent
          exact .recovers run account hFind hTarget hPresent.2
        · exact .fails _ _ rfl rfl rfl (fun _ => rfl)
        · exact .fails _ _ rfl rfl rfl id
        · exact .fails _ _ rfl rfl rfl id
        · exact .executes run account hInside
        · exact .fails _ _ rfl rfl rfl id
        · rw [not_or] at hMissing
          exact .resumes run account (eq_true_of_ne_false hInside)
              (not_not.mp hSource) hMissing.1 hMissing.2

theorem moves_afterSourceMe : Moves env draw w ⟨run, .sourceMe⟩ (run.afterSourceMe env draw) := by
  unfold Run.afterSourceMe
  split
  · exact .raises run _ _ rfl
  · dsimp only
    split
    · exact .raises run _ _ rfl
    · next hAssert => exact .identifies run _ _ rfl hAssert

theorem moves_afterEligibility :
    Moves env draw w ⟨run, .eligibility⟩ (run.afterEligibility env draw) := by
  unfold Run.afterEligibility
  split_ifs
  · exact .raises run _ _ rfl
  · exact .raises run _ _ rfl
  · exact .allows run

theorem moves_afterBegin : Moves env draw w ⟨run, .beginChange⟩ (run.afterBegin env draw) := by
  unfold Run.afterBegin
  split_ifs
  · exact .raises run _ _ rfl
  · exact .raises run _ _ rfl
  · exact .begins run

theorem moves_afterOtp : Moves env draw w ⟨run, .waitOtp⟩ (run.afterOtp draw) := by
  unfold Run.afterOtp
  split
  · exact .raises run _ _ rfl
  · exact .submits run _

theorem moves_afterVerify (hEnding : draw.ending = .returned) :
    Moves env draw w ⟨run, .verify⟩ (run.afterVerify env draw) := by
  unfold Run.afterVerify
  split
  · exact .unknown run _
  · next hOutcome => exact .rejected run _ hEnding hOutcome
  · exact .accepted run

theorem moves_afterLoopRaise (error : ChangeError) :
    Moves env draw w ⟨run, .loopRaise error⟩ (run.afterLoopRaise env error) := by
  unfold Run.afterLoopRaise
  split_ifs with hFinal
  · exact .fails _ _ rfl rfl rfl id
  · exact .fails _ _ rfl rfl rfl id
  · unfold Run.reauthSource
    split
    · split
      · exact .reauthenticates run error _ (eq_true_of_ne_false hFinal)
      · exact .fails _ _ rfl rfl rfl id
    · exact .fails _ _ rfl rfl rfl id

----
-- Steps That Read And Write Accounts
----

theorem moves_afterSourceLogin :
    Moves env draw w ⟨run, .sourceLogin⟩ (run.afterSourceLogin env draw) := by
  unfold Run.afterSourceLogin
  split
  · exact .fails _ _ rfl rfl rfl id
  · exact .sourceLogged run _

theorem moves_afterSourceCheck :
    Moves env draw w ⟨run, .sourceCheck⟩ (run.afterSourceCheck env draw) := by
  unfold Run.afterSourceCheck
  split
  · exact .fails _ _ rfl rfl rfl id
  · split
    · exact .fails _ _ rfl rfl rfl id
    · exact .sourceChecked run _

theorem moves_afterSourceRead (verified : Identity) :
    Moves env draw w ⟨run, .sourceRead verified⟩ (run.afterSourceRead env w.accounts verified) := by
  unfold Run.afterSourceRead
  split
  · exact .fails _ _ rfl rfl rfl id
  · split_ifs
    · exact .fails _ _ rfl rfl rfl id
    · exact .fails _ _ rfl rfl rfl id
    · exact .fails _ _ rfl rfl rfl id
    · exact .sourceFound run verified _

theorem moves_afterSourceRefresh (verified : Identity) :
    Moves env draw w ⟨run, .sourceRefresh verified⟩
      (run.afterSourceRefresh env draw w.accounts verified) := by
  unfold Run.afterSourceRefresh
  split
  · exact moves_crashed
  · exact .sourceRefreshed run verified _

theorem moves_prepareTarget : Moves env draw w ⟨run, .prepareTarget⟩ (run.prepareTarget env) := by
  unfold Run.prepareTarget
  split
  · exact .fails _ _ rfl rfl rfl id
  · exact .prepares run

theorem moves_afterTargetLogin :
    Moves env draw w ⟨run, .targetLogin⟩ (run.afterTargetLogin env draw) := by
  unfold Run.afterTargetLogin
  split
  · exact .fails _ _ rfl rfl rfl id
  · split
    · exact .fails _ _ rfl rfl rfl id
    · exact .targetLogged run _

theorem moves_afterTargetCheck (hEnding : draw.ending = .returned) :
    Moves env draw w ⟨run, .targetCheck⟩ (run.afterTargetCheck env draw) := by
  unfold Run.afterTargetCheck
  split
  · exact .fails _ _ rfl rfl rfl id
  · next hVerified => exact .targetChecked run _ hEnding hVerified

theorem moves_afterCommitRead :
    Moves env draw w ⟨run, .commitRead⟩ (run.afterCommitRead env w.accounts) := by
  unfold Run.afterCommitRead
  split
  · exact .fails _ _ rfl rfl rfl id
  · next hGuard =>
      split
      · exact .fails _ _ rfl rfl rfl id
      · next account hFind =>
          split_ifs with hPlatform hSource hTaken
          · exact .fails _ _ rfl rfl rfl id
          · exact .fails _ _ rfl rfl rfl id
          · exact .fails _ _ rfl rfl rfl id
          · exact .commitChecked run account hGuard hFind (not_not.mp hSource)
                (eq_false_of_ne_true hTaken)

theorem moves_afterFinalizedRead (committed_at : Nat) :
    Moves env draw w ⟨run, .finalizedRead committed_at⟩
      (run.afterFinalizedRead env w.accounts committed_at) := by
  unfold Run.afterFinalizedRead
  split
  · exact .fails _ _ rfl rfl rfl id
  · next account hFind =>
      split_ifs with hPlatform hTarget hMarked
      · exact .fails _ _ rfl rfl rfl id
      · exact .fails _ _ rfl rfl rfl id
      · exact .fails _ _ rfl rfl rfl id
      · exact .finalizedFound run committed_at account hFind (not_not.mp hTarget)
            (eq_true_of_ne_false hMarked)

/- Steps that return. -/
theorem moves_next (hEnding : draw.ending = .returned) :
    Moves env draw w job (job.next env draw w) := by
  rcases job with ⟨run, pc⟩
  cases pc with
  | checkpoint => exact .starts run
  | accountRead => exact moves_afterAccountRead
  | openBrowser =>
    unfold Job.next
    dsimp only
    split
    · exact .raises run _ _ rfl
    · exact .opens run
  | sourceMe => exact moves_afterSourceMe
  | eligibility => exact moves_afterEligibility
  | beginChange => exact moves_afterBegin
  | waitOtp => exact moves_afterOtp
  | verify => exact moves_afterVerify hEnding
  | loopRaise error => exact moves_afterLoopRaise error
  | sourceLogin => exact moves_afterSourceLogin
  | sourceCheck => exact moves_afterSourceCheck
  | sourceRead verified => exact moves_afterSourceRead verified
  | sourceWrite verified loaded =>
    unfold Job.next
    dsimp only
    split
    · exact moves_crashed
    · exact .sourceWritten run verified loaded
  | sourceRefresh verified => exact moves_afterSourceRefresh verified
  | prepareTarget => exact moves_prepareTarget
  | targetLogin => exact moves_afterTargetLogin
  | targetCheck => exact moves_afterTargetCheck hEnding
  | commitRead => exact moves_afterCommitRead
  | commitWrite loaded =>
    unfold Job.next
    dsimp only
    split
    · exact moves_crashed
    · exact .committed run loaded
  | finalize committed_at => exact .finalizes run committed_at _ hEnding
  | finalizedRead committed_at => exact moves_afterFinalizedRead committed_at
  | finalizedWrite committed_at loaded =>
    unfold Job.next
    dsimp only
    split
    · exact moves_crashed
    · next account hFind => exact .finalized run committed_at loaded account hEnding hFind
  | update patch next => exact .updated run patch next hEnding
  | closing patch next => exact .closed run patch next hEnding
  | recoveryRead code =>
    unfold Job.next
    dsimp only
    split
    · exact .ends _
    · split
      · exact .ends _
      · exact .warns run code _
  | recoveryWrite code loaded => exact .ends _
  | finished => exact .ends _

theorem moves_of_after (hAfter : job' ∈ job.after env draw w) : Moves env draw w job job' := by
  unfold Job.after at hAfter
  cases hEnding : draw.ending with
  | returned =>
    rw [hEnding] at hAfter
    cases hAfter
    exact moves_next hEnding
  | interrupted =>
    rw [hEnding] at hAfter
    cases hAfter
    exact moves_interrupted
  | failed =>
    rw [hEnding] at hAfter
    cases hAfter
    exact moves_crashed
  | killed =>
    rw [hEnding] at hAfter
    cases hAfter

----
-- What A Step Leaves
----

/- A verify request without an answer is no reason to log in again. -/
theorem verifyOutcomeUnknown_final (message : String) :
    (verifyOutcomeUnknown message).requiresReauth = false := by
  simp [verifyOutcomeUnknown, ChangeError.requiresReauth, reauthCodes]

theorem effect_of_patch (hPatch : job.patch = some patch) :
    job.effect env draw w = { w with row := w.row.patched env patch } := by
  unfold Job.effect
  rw [hPatch]

/- What a step without an update does: it leaves the row, and logs one event at most. -/
theorem effect_of_patch_none (hPatch : job.patch = none) :
    ∃ accounts events, job.effect env draw w =
          { row := w.row, accounts := accounts, log := w.log ++ events } ∧
        (events = [] ∨ ∃ event, events = [event] ∧ (event ∈ job.event draw ∨
              ∃ new loaded, job.accountWrite env draw w.row = some (new, loaded, [event]))) := by
  unfold Job.effect
  rw [hPatch]
  cases hWrite : job.accountWrite env draw w.row with
  | none =>
    refine ⟨w.accounts, (job.event draw).toList, rfl, ?_⟩
    cases hEvent : job.event draw with
    | none => exact .inl rfl
    | some event => exact .inr ⟨event, rfl, .inl rfl⟩
  | some write =>
    rcases write with ⟨new, loaded, events⟩
    dsimp only
    unfold World.commit
    cases w.accounts.find? loaded.id with
    | none =>
      refine ⟨w.accounts, [], ?_, .inl rfl⟩
      simp
    | some account =>
      refine ⟨_, events, rfl, ?_⟩
      rcases job with ⟨run, pc⟩
      cases pc <;>
        rcases hWrite with ⟨rfl, rfl, rfl⟩ <;>
        simp

theorem world_row (hPatch : job.patch = none) : (job.world env draw w).row = w.row := by
  unfold Job.world
  split
  · rcases effect_of_patch_none hPatch with
      ⟨accounts, events, hEffect, _⟩
    rw [hEffect]
  · rfl

theorem world_log : ∀ event ∈ w.log, event ∈ (job.world env draw w).log := by
  intro event hEvent
  unfold Job.world
  split
  · cases hPatch : job.patch with
    | some patch =>
      rw [effect_of_patch hPatch]
      exact hEvent
    | none =>
      rcases effect_of_patch_none hPatch with ⟨accounts, events, hEffect, _⟩
      rw [hEffect]
      exact List.mem_append_left _ hEvent
  · exact hEvent

theorem world_of_returned (hEnding : draw.ending = .returned) :
    job.world env draw w = job.effect env draw w :=
  if_pos (.inl hEnding)

end EmailChange
