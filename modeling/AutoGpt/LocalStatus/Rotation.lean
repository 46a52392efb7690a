import AutoGpt.LocalStatus.ProbeRun

/-
  Rotated credentials of a run. No refresh token is used after
  a refresh has consumed it, and a run that has refreshed the
  stored token ends with the newest tokens stored, if each
  probe that obtains tokens is the one that the run goes on
  with, and its write finds the account as it was probed.

  Main theorems:
    * `LocalStatus.credentials_kept`
    * `LocalStatus.credentials_dropped`
-/

open List

----
-- Rotation
----

namespace LocalStatus

/- The account has the tokens of an update. -/
def Account.Has (account : Account) (update : CredentialUpdate) : Prop :=
  account.token = update.access_token ∧ account.extra.access_token = update.access_token ∧
    (update.refresh_token ≠ "" → account.extra.refresh_token = update.refresh_token)

theorem refreshToken_keepTokens (changed account : Account) :
    (changed.keepTokens account).refreshToken = account.refreshToken := rfl

/- The newest tokens that calls have obtained. -/
def newestUpdate (calls : List RefreshCall) :
    Option CredentialUpdate :=
  (calls.filterMap RefreshCall.update).getLast?

/- What a run promises: no call after the one that has consumed its token, and at the end the newest
   tokens, if one was obtained from the stored token. -/
structure CredentialsKept (run : SyncRun) : Prop where
  single_use : run.calls.Pairwise fun earlier later =>
      earlier.update.isSome → later.used ≠ earlier.used
  stored : run.stage = .ended →
      (∃ call ∈ run.calls, call.update.isSome ∧ call.stored) →
      ∀ update ∈ newestUpdate run.calls, run.row.Has update

/- A report that the run goes on with: a first one that is no reason for a retry, or one that is not
   worse than the first one. -/
def GoesOn (env : ProbeEnv) (report : ProbeReport) :
    Option Probe → Prop
| none => retryReason env report = ""
| some first => probeScore env first.report ≤ probeScore env report

instance
    (env : ProbeEnv) (report : ProbeReport) (first : Option Probe) :
    Decidable (GoesOn env report first) := by
  cases first with
  | none => exact inferInstanceAs (Decidable (_ = _))
  | some first => exact inferInstanceAs (Decidable (_ ≤ _))

/- The condition on a step: a probe that obtains tokens does not fail, is no reason for a retry and
   is not worse than the probe that it retries; and the write of tokens from the stored token finds
   the identity and the revision unchanged. -/
def KeepsTokens (env : ProbeEnv) (run : SyncRun) :
    SyncOp → Prop
| .probe draw =>
    match run.stage with
    | .probing first =>
      draw.unresolved = none →
      run.snapshot.refreshToken ≠ "" →
      draw.oauth.isSome →
        draw.raised = none ∧ proxyFailure env draw.report = "" ∧ GoesOn env draw.report first
    | _ => True
| .write =>
    match run.stage with
    | .writing probe =>
      probe.update.isSome →
      run.snapshot.refreshToken = run.row.refreshToken →
        run.row.identity = run.snapshot.identity ∧ run.snapshot.revision = run.row.revision
    | _ => True
| _ => True

instance (env : ProbeEnv) (run : SyncRun) (op : SyncOp) :
    Decidable (KeepsTokens env run op) := by
  unfold KeepsTokens
  split
  · split <;> infer_instance
  · split <;> infer_instance
  · infer_instance

end LocalStatus

----
-- Calls
----

namespace LocalStatus

attribute [local irreducible] ProbeAccount.refreshToken
  Account.refreshToken ProbeAccount.accessToken PyText.strip

def Spared (calls : List RefreshCall) (token : String) :
    Prop :=
  ∀ call ∈ calls, call.update.isSome → call.used ≠ token

/- Each call says whether its token was the stored one. -/
def Marked (calls : List RefreshCall) (token : String) :
    Prop :=
  ∀ call ∈ calls, call.stored = decide (call.used = token)

structure CredentialUpdate.Clean (update : CredentialUpdate) :
    Prop where
  access : PyText.strip update.access_token = update.access_token
  refresh : PyText.strip update.refresh_token = update.refresh_token
  nonempty : update.access_token ≠ ""

theorem OAuthTokens.update_clean (tokens : OAuthTokens) (used : String) :
    (tokens.update used).Clean where
  access := PyText.strip_strip _
  refresh := PyText.strip_strip _
  nonempty := tokens.nonempty

variable {call : RefreshCall}

theorem Account.has_updated (hClean : update.Clean) (account : Account) :
    (account.updated update).Has update := by
  unfold Account.updated Account.Has
  simp only [hClean.access, hClean.refresh, if_neg hClean.nonempty]
  refine ⟨trivial, trivial, ?_⟩
  intro hNonempty
  rw [if_neg hNonempty]

theorem obtained_eq_some (hObtained : obtained draw calls used = some update) :
    draw.oauth.isSome ∧ update.Clean := by
  unfold obtained at hObtained
  cases hConsumed : consumed calls used with
  | true =>
    rw [hConsumed, if_pos rfl] at hObtained
    cases hObtained
  | false =>
    rw [hConsumed, if_neg Bool.false_ne_true] at hObtained
    rcases Option.map_eq_some_iff.mp hObtained with ⟨tokens, hTokens, hIs⟩
    rw [hTokens, ← hIs]
    exact ⟨rfl, tokens.update_clean used⟩

/- A probe has made a call with the token of its account, or none. -/
theorem probeLocal_cases (draw : ProbeDraw) (stored : String)
    (calls : List RefreshCall) (account : ProbeAccount) :
    ((probeLocal draw stored calls account).1 = calls ∧
        ∀ probe, (probeLocal draw stored calls account).2 = .ok probe → probe.update = none) ∨
      (draw.unresolved = none ∧ account.refreshToken ≠ "" ∧
        (probeLocal draw stored calls account).1 = calls ++
            [{ used := account.refreshToken, stored := decide (account.refreshToken = stored),
               update := obtained draw calls account.refreshToken }] ∧
        (probeLocal draw stored calls account).2 =
          match draw.raised with
          | some error => .error error
          | none => .ok
                { report := draw.report
                  update := obtained draw calls
                      account.refreshToken }) := by
  simp only [probeLocal]
  by_cases hMissing : account.refreshToken = "" ∧ account.accessToken = ""
  · left
    rw [if_pos hMissing]
    refine ⟨rfl, ?_⟩
    intro probe hProbe
    cases hProbe
    rfl
  · rw [if_neg hMissing]
    cases hUnresolved : draw.unresolved with
    | some report =>
      left
      refine ⟨rfl, ?_⟩
      intro probe hProbe
      cases hProbe
      rfl
    | none =>
      by_cases hUsed : account.refreshToken = ""
      · left
        simp only [if_pos hUsed]
        refine ⟨trivial, ?_⟩
        intro probe hProbe
        cases hRaised : draw.raised with
        | some error =>
          rw [hRaised] at hProbe
          cases hProbe
        | none =>
          rw [hRaised] at hProbe
          cases hProbe
          rfl
      · right
        simp only [if_neg hUsed]
        refine ⟨?_, hUsed, ?_, ?_⟩
        · trivial
        · trivial
        · trivial

theorem Spared.append (hSpared : Spared calls token)
    (hCall : call.update.isSome → call.used ≠ token) : Spared (calls ++ [call]) token := by
  intro other hMem hSome
  rcases mem_append.mp hMem with hOld | hNew
  · exact hSpared other hOld hSome
  · rw [mem_singleton.mp hNew] at hSome ⊢
    exact hCall hSome

theorem Marked.append (hMarked : Marked calls token)
    (hCall : call.stored = decide (call.used = token)) : Marked (calls ++ [call]) token := by
  intro other hMem
  rcases mem_append.mp hMem with hOld | hNew
  · exact hMarked other hOld
  · rw [mem_singleton.mp hNew]
    exact hCall

theorem pairwise_append_call
    (hCalls : calls.Pairwise fun earlier later =>
        earlier.update.isSome → later.used ≠ earlier.used)
    (hSpared : Spared calls call.used) :
    (calls ++ [call]).Pairwise fun earlier later =>
      earlier.update.isSome → later.used ≠ earlier.used := by
  apply pairwise_append.mpr
  refine ⟨hCalls, pairwise_singleton _ _, ?_⟩
  intro earlier hEarlier later hLater hSome hIs
  rw [mem_singleton.mp hLater] at hIs
  exact hSpared earlier hEarlier hSome hIs.symm

theorem newestUpdate_append (calls : List RefreshCall)
    (hUpdate : call.update = some update) : newestUpdate (calls ++ [call]) = some update := by
  simp [newestUpdate, filterMap_append, hUpdate]

end LocalStatus

----
-- Soundness
----

namespace LocalStatus

attribute [local irreducible] ProbeAccount.refreshToken
  Account.refreshToken ProbeAccount.accessToken
  ProbeAccount.revision Account.revision probeLocal

/- No tokens were obtained from the row's token, nor from the one of the snapshot. -/
structure Untouched (run : SyncRun) : Prop where
  single_use : run.calls.Pairwise fun earlier later =>
      earlier.update.isSome → later.used ≠ earlier.used
  marked : Marked run.calls run.row.refreshToken
  row : Spared run.calls run.row.refreshToken
  snapshot : Spared run.calls run.snapshot.refreshToken

/- The last call has obtained the tokens that are to be written. -/
structure Obtained (run : SyncRun) (update : CredentialUpdate) :
    Prop where
  single_use : run.calls.Pairwise fun earlier later =>
      earlier.update.isSome → later.used ≠ earlier.used
  marked : Marked run.calls run.row.refreshToken
  clean : update.Clean
  last : ∃ earlier call, run.calls = earlier ++ [call] ∧ call.used = run.snapshot.refreshToken ∧
        call.update = some update ∧ Spared earlier run.row.refreshToken

/- The invariant, by the stage of a run. -/
def SyncSound (run : SyncRun) : Prop :=
  match run.stage with
  | .probing first => Untouched run ∧ ∀ probe ∈ first, probe.update = none
  | .writing probe =>
    match probe.update with
    | none => Untouched run
    | some update => Obtained run update
  | .ended => CredentialsKept run

theorem not_stored {calls : List RefreshCall} {token : String} (hMarked : Marked calls token)
    (hSpared : Spared calls token) :
    ¬ ∃ call ∈ calls, call.update.isSome ∧ call.stored := by
  rintro ⟨call, hMem, hSome, hStored⟩
  rw [hMarked call hMem] at hStored
  exact hSpared call hMem hSome (of_decide_eq_true hStored)

theorem Untouched.kept {run : SyncRun} (hUntouched : Untouched run) :
    CredentialsKept run where
  single_use := hUntouched.single_use
  stored := by
    intro _ hStored
    exact absurd hStored (not_stored hUntouched.marked hUntouched.row)

variable {run : SyncRun}
theorem Untouched.probing (hUntouched : Untouched run)
    (hFirst : ∀ probe ∈ first, probe.update = none) :
    SyncSound { run with stage := .probing first } :=
  ⟨⟨hUntouched.single_use, hUntouched.marked, hUntouched.row, hUntouched.snapshot⟩, hFirst⟩

theorem Untouched.ended (hUntouched : Untouched run) : SyncSound { run with stage := .ended } :=
  Untouched.kept ⟨hUntouched.single_use, hUntouched.marked, hUntouched.row, hUntouched.snapshot⟩

theorem Untouched.nextCandidate (hUntouched : Untouched run) : SyncSound run.nextCandidate := by
  unfold SyncRun.nextCandidate
  split
  · exact hUntouched.probing (fun _ hMem => by cases hMem)
  · exact hUntouched.ended

theorem Untouched.settle (env : ProbeEnv) (hUntouched : Untouched run)
    (hProbe : probe.update = none) : SyncSound (run.settle env probe) := by
  unfold SyncRun.settle
  by_cases hFails : proxyFailure env probe.report ≠ ""
  · rw [if_pos hFails]
    exact hUntouched.nextCandidate
  · rw [if_neg hFails]
    unfold SyncSound
    simp only [hProbe]
    exact ⟨hUntouched.single_use, hUntouched.marked, hUntouched.row, hUntouched.snapshot⟩

theorem Untouched.call (call : RefreshCall) (hUntouched : Untouched run)
    (hUsed : call.used = run.snapshot.refreshToken)
    (hStored : call.stored = decide (call.used = run.row.refreshToken))
    (hNone : call.update = none) :
    Untouched { run with calls := run.calls ++ [call] } where
  single_use := by
    apply pairwise_append_call hUntouched.single_use
    rw [hUsed]
    exact hUntouched.snapshot
  marked := hUntouched.marked.append hStored
  row := by
    apply hUntouched.row.append
    intro hSome
    rw [hNone] at hSome
    cases hSome
  snapshot := by
    apply hUntouched.snapshot.append
    intro hSome
    rw [hNone] at hSome
    cases hSome

theorem Untouched.afterProbe (env : ProbeEnv)
    (hUntouched : Untouched run) (hFirst : ∀ probe ∈ first, probe.update = none)
    (hResult : ∀ probe, result = .ok probe → probe.update = none) :
    SyncSound (run.afterProbe env first result) := by
  cases result with
  | error error =>
    unfold SyncRun.afterProbe
    cases hTransport : env.transportError error 0 with
    | true =>
      simp only [hTransport, if_true]
      exact hUntouched.nextCandidate
    | false =>
      simp only [hTransport, Bool.false_eq_true, if_false]
      exact hUntouched.ended
  | ok probe =>
    have hNone := hResult probe rfl
    cases first with
    | none =>
      unfold SyncRun.afterProbe
      simp only
      by_cases hReason : retryReason env probe.report = ""
      · rw [if_pos hReason]
        exact hUntouched.settle env hNone
      · rw [if_neg hReason]
        apply hUntouched.probing
        intro other hOther
        rw [← Option.some.inj hOther]
        exact hNone
    | some first =>
      unfold SyncRun.afterProbe
      simp only
      split
      · exact hUntouched.settle env hNone
      · exact hUntouched.settle env (hFirst first rfl)

/- A probe that has obtained tokens and is gone on with. -/
theorem Untouched.obtained (call : RefreshCall)
    (env : ProbeEnv) (hUntouched : Untouched run) (hUsed : call.used = run.snapshot.refreshToken)
    (hStored : call.stored = decide (call.used = run.row.refreshToken))
    (hUpdate : call.update = some update) (hClean : update.Clean)
    (hFine : proxyFailure env report = "") (hRetry : GoesOn env report first) :
    SyncSound (SyncRun.afterProbe env { run with calls := run.calls ++ [call] } first
        (.ok { report := report, update := some update })) := by
  have hSettle : SyncRun.afterProbe env
          { run with calls := run.calls ++ [call] } first
          (.ok { report := report, update := some update }) =
        { run with
          calls := run.calls ++ [call]
          stage := .writing
              { report := report, update := some update } } := by
    cases first with
    | none =>
      have hReason : retryReason env report = "" := hRetry
      simp only [SyncRun.afterProbe, SyncRun.settle]
      rw [if_pos hReason, if_neg (fun hFails => hFails hFine)]
    | some first =>
      have hScore : probeScore env first.report ≤ probeScore env report := hRetry
      simp only [SyncRun.afterProbe, SyncRun.settle]
      rw [if_pos hScore, if_neg (fun hFails => hFails hFine)]
  rw [hSettle]
  show
    Obtained
      { run with
        calls := run.calls ++ [call]
        stage := .writing
            { report := report, update := some update } }
      update
  refine ⟨?_, ?_, hClean, ?_⟩
  · apply pairwise_append_call hUntouched.single_use
    rw [hUsed]
    exact hUntouched.snapshot
  · exact hUntouched.marked.append hStored
  · exact ⟨run.calls, call, rfl, hUsed, hUpdate, hUntouched.row⟩

/- A probe keeps the invariant. -/
theorem syncSound_probe (hStage : run.stage = .probing first)
    (hSound : SyncSound run) (hKeeps : KeepsTokens env run (.probe draw)) :
    SyncSound (run.probe env draw first) := by
  unfold SyncSound at hSound
  simp only [hStage] at hSound
  simp only [KeepsTokens, hStage] at hKeeps
  rcases hSound with ⟨hUntouched, hFirst⟩
  unfold SyncRun.probe
  rcases probeLocal_cases draw run.row.refreshToken run.calls run.snapshot with
    ⟨hCalls, hResult⟩ | ⟨hUnresolved, hUsed, hCalls, hResult⟩
  · simp only [hCalls]
    exact hUntouched.afterProbe env hFirst hResult
  · simp only [hCalls, hResult]
    cases hObtained : LocalStatus.obtained draw run.calls run.snapshot.refreshToken with
    | none =>
      have hCall := hUntouched.call
          { used := run.snapshot.refreshToken,
            stored := decide (run.snapshot.refreshToken = run.row.refreshToken), update := none }
          (by simp only) (by simp only) (by simp only)
      apply hCall.afterProbe env hFirst
      intro probe hProbe
      cases hRaised : draw.raised with
      | some error =>
        rw [hRaised] at hProbe
        cases hProbe
      | none =>
        rw [hRaised] at hProbe
        cases hProbe
        rfl
    | some update =>
      rcases obtained_eq_some hObtained with ⟨hOauth, hClean⟩
      rcases hKeeps hUnresolved hUsed hOauth with ⟨hRaised, hFine, hRetry⟩
      rw [hRaised]
      exact hUntouched.obtained
          { used := run.snapshot.refreshToken
            stored := decide (run.snapshot.refreshToken = run.row.refreshToken)
            update := some update }
          env (by simp only) (by simp only) (by simp only)
          hClean hFine hRetry

/- A run that has obtained tokens from another token than the stored one, without them. -/
theorem Obtained.other (hObtained : Obtained run update)
    (hOther : run.snapshot.refreshToken ≠ run.row.refreshToken) :
    Spared run.calls run.row.refreshToken := by
  rcases hObtained.last with ⟨earlier, call, hCalls, hUsed, _, hSpared⟩
  rw [hCalls]
  apply hSpared.append
  intro _
  rw [hUsed]
  exact hOther

theorem Obtained.stored (hObtained : Obtained run update) :
    CredentialsKept { run with row := run.row.updated update, stage := .ended } where
  single_use := hObtained.single_use
  stored := by
    intro _ _ newest hNewest
    rcases hObtained.last with ⟨earlier, call, hCalls, _, hUpdate, _⟩
    simp only [hCalls] at hNewest
    rw [newestUpdate_append earlier hUpdate] at hNewest
    rw [← Option.some.inj hNewest]
    exact Account.has_updated hObtained.clean run.row

section

variable (hCalls : run.calls.Pairwise fun earlier later =>
        earlier.update.isSome → later.used ≠ earlier.used)
  (hMarked : Marked run.calls run.row.refreshToken)
  (hSpared : Spared run.calls run.row.refreshToken)
include hCalls hMarked hSpared

theorem kept_of_spared (row : Account) (stage : SyncStage) :
    CredentialsKept { run with row := row, stage := stage } where
  single_use := hCalls
  stored := by
    intro _ hStored
    exact absurd hStored (not_stored hMarked hSpared)

theorem untouched_again :
    SyncSound
      { run with
        snapshot := buildProbeAccount run.row, attempt := run.attempt + 1,
        stage := .probing none } := by
  constructor
  · refine ⟨hCalls, hMarked, hSpared, ?_⟩
    rw [refreshToken_buildProbeAccount]
    exact hSpared
  · intro probe hMem
    cases hMem

theorem syncSound_write_of_spared (probe : Probe) : SyncSound (run.write probe) := by
  unfold SyncRun.write
  by_cases hIdentity : run.row.identity ≠ run.snapshot.identity
  · rw [if_pos hIdentity]
    exact kept_of_spared hCalls hMarked hSpared _ _
  · rw [if_neg hIdentity]
    by_cases hRevision : run.snapshot.revision = run.row.revision
    · rw [if_pos hRevision]
      exact kept_of_spared hCalls hMarked hSpared _ _
    · rw [if_neg hRevision]
      split
      · exact untouched_again hCalls hMarked hSpared
      · exact kept_of_spared hCalls hMarked hSpared _ _

end

theorem syncSound_write (hStage : run.stage = .writing probe) (hSound : SyncSound run)
    (hKeeps : KeepsTokens env run .write) : SyncSound (run.write probe) := by
  unfold SyncSound at hSound
  simp only [hStage] at hSound
  simp only [KeepsTokens, hStage] at hKeeps
  cases hUpdate : probe.update with
  | none =>
    simp only [hUpdate] at hSound
    exact syncSound_write_of_spared hSound.single_use hSound.marked hSound.row probe
  | some update =>
    simp only [hUpdate] at hSound
    by_cases hSame : run.snapshot.refreshToken = run.row.refreshToken
    · rcases hKeeps (by rw [hUpdate]; rfl) hSame with
        ⟨hIdentity, hRevision⟩
      unfold SyncRun.write
      rw [if_neg (fun hNe => hNe hIdentity), if_pos hRevision]
      simp only [hUpdate]
      exact hSound.stored
    · exact syncSound_write_of_spared hSound.single_use hSound.marked (hSound.other hSame) probe

theorem Untouched.change (hUntouched : Untouched run) (account : Account) (stage : SyncStage) :
    Untouched { run with row := account.keepTokens run.row, stage := stage } where
  single_use := hUntouched.single_use
  marked := by
    rw [refreshToken_keepTokens]
    exact hUntouched.marked
  row := by
    rw [refreshToken_keepTokens]
    exact hUntouched.row
  snapshot := hUntouched.snapshot

theorem Obtained.change (hObtained : Obtained run update) (account : Account) (stage : SyncStage) :
    Obtained { run with row := account.keepTokens run.row, stage := stage } update where
  single_use := hObtained.single_use
  marked := by
    rw [refreshToken_keepTokens]
    exact hObtained.marked
  clean := hObtained.clean
  last := by
    rw [refreshToken_keepTokens]
    exact hObtained.last

theorem syncSound_change (account : Account) (hSound : SyncSound run) :
    SyncSound { run with row := account.keepTokens run.row } := by
  unfold SyncSound at hSound ⊢
  cases hStage : run.stage with
  | probing first =>
    simp only [hStage] at hSound ⊢
    exact ⟨hSound.1.change account _, hSound.2⟩
  | writing probe =>
    simp only [hStage] at hSound ⊢
    cases hUpdate : probe.update with
    | none =>
      simp only [hUpdate] at hSound
      exact hSound.change account _
    | some update =>
      simp only [hUpdate] at hSound
      exact hSound.change account _
  | ended =>
    simp only [hStage] at hSound ⊢
    refine ⟨hSound.single_use, ?_⟩
    intro _ hStored update hNewest
    exact hSound.stored hStage hStored update hNewest

theorem syncSound_step (run : SyncRun) (op : SyncOp) (hSound : SyncSound run)
    (hKeeps : KeepsTokens env run op) : SyncSound (run.step env op).1 := by
  cases op with
  | probe draw =>
    cases hStage : run.stage with
    | probing first =>
      simp only [SyncRun.step, hStage]
      exact syncSound_probe hStage hSound hKeeps
    | writing probe =>
      simp only [SyncRun.step, hStage]
      exact hSound
    | ended =>
      simp only [SyncRun.step, hStage]
      exact hSound
  | exhausted =>
    simp only [SyncRun.step]
    split
    · next hStage =>
        unfold SyncSound at hSound
        simp only [hStage] at hSound
        exact hSound.1.ended
    · exact hSound
  | write =>
    cases hStage : run.stage with
    | probing first =>
      simp only [SyncRun.step, hStage]
      exact hSound
    | writing probe =>
      simp only [SyncRun.step, hStage]
      exact syncSound_write hStage hSound hKeeps
    | ended =>
      simp only [SyncRun.step, hStage]
      exact hSound
  | change account => exact syncSound_change account hSound

theorem SyncSound.kept (hSound : SyncSound run) : CredentialsKept run := by
  unfold SyncSound at hSound
  cases hStage : run.stage with
  | probing first =>
    simp only [hStage] at hSound
    exact hSound.1.kept
  | writing probe =>
    have hCalls : run.calls.Pairwise fun earlier later =>
          earlier.update.isSome → later.used ≠ earlier.used := by
      simp only [hStage] at hSound
      cases hUpdate : probe.update with
      | none =>
        simp only [hUpdate] at hSound
        exact hSound.single_use
      | some update =>
        simp only [hUpdate] at hSound
        exact hSound.single_use
    refine ⟨hCalls, ?_⟩
    intro hEnded
    rw [hStage] at hEnded
    cases hEnded
  | ended =>
    simp only [hStage] at hSound
    exact hSound

/- Every state of a run whose steps meet the condition keeps the tokens. -/
theorem credentials_kept (env : ProbeEnv) (row : Account) (snapshot : ProbeAccount)
    (candidates : Bool) (ops : List SyncOp)
    (hSteps : Machine.Steps (SyncRun.step env) (KeepsTokens env)
        { row := row, snapshot := snapshot, candidates := candidates } ops) :
    CredentialsKept (syncRun env row snapshot candidates ops) := by
  apply SyncSound.kept
  apply Machine.run_induction_of_steps
      (fun run op hSound hKeeps => syncSound_step run op hSound hKeeps) _ hSteps
  constructor
  · constructor
    · exact List.Pairwise.nil
    · intro call hMem
      cases hMem
    · intro call hMem
      cases hMem
    · intro call hMem
      cases hMem
  · intro probe hMem
    cases hMem

end LocalStatus

----
-- Dropped Credentials
----

namespace LocalStatus

/- An account that was logged in through OAuth. -/
def loggedIn (workspace_id : String) : Account where
  identity := { id := 1, email := "a@example.com", created_at := "2024-01-01 00:00:00" }
  token := "at-1"
  extra := { access_token := "at-1", refresh_token := "rt-1", workspace_id := workspace_id }

/- Proxy errors by one of their texts; the states and plans below are in lower case. -/
def exampleEnv : ProbeEnv where
  transportError := fun message status => decide (status = 0) && within "curl: (28)" message
  lower := id

def rotated : OAuthTokens where
  access_token := "at-2"
  refresh_token := "rt-2"
  nonempty := by decide

def validReport (plan : String) : ProbeReport where
  auth_state := "refresh_token_valid"
  http_status := 200
  plan := plan

/- A probe that has refreshed and then reports. -/
def refreshedWith (report : ProbeReport) : ProbeDraw where
  oauth := some rotated
  report := report

/- A request that has timed out after the refresh. -/
def timedOut : ProbeReport where
  auth_state := "probe_failed"
  message := "curl: (28) Operation timed out"

theorem credentials_kept_free :
    CredentialsKept (syncRun exampleEnv (loggedIn "w-1") (buildProbeAccount (loggedIn "w-1")) true
        [.probe (refreshedWith (validReport "free")), .write]) :=
  credentials_kept _ _ _ _ _ (by decide +kernel)

/- A refresh whose probe then times out is dropped with the candidate, and the next candidate uses
   the consumed token; so do the retry of an incomplete subscription and the probe after a change of
   the workspace. Without candidates the run just ends without the new tokens. -/
theorem credentials_dropped :
    ¬ CredentialsKept (syncRun exampleEnv (loggedIn "w-1") (buildProbeAccount (loggedIn "w-1")) true
          [.probe (refreshedWith timedOut), .probe {}]) ∧ ¬ CredentialsKept
        (syncRun exampleEnv (loggedIn "w-1") (buildProbeAccount (loggedIn "w-1")) true
          [.probe (refreshedWith (validReport "unknown")), .probe {}]) ∧ ¬ CredentialsKept
        (syncRun exampleEnv (loggedIn "w-1") (buildProbeAccount (loggedIn "w-1")) true
          [.probe (refreshedWith (validReport "free")),
            .change (loggedIn "w-2"), .write, .probe {}]) ∧ ¬ CredentialsKept
        (syncRun exampleEnv (loggedIn "w-1") (buildProbeAccount (loggedIn "w-1")) false
          [.probe (refreshedWith timedOut)]) := by
  refine ⟨?_, ?_, ?_, ?_⟩
  · intro hKept
    exact absurd hKept.single_use (by decide +kernel)
  · intro hKept
    exact absurd hKept.single_use (by decide +kernel)
  · intro hKept
    exact absurd hKept.single_use (by decide +kernel)
  · intro hKept
    have hHas := hKept.stored (by decide +kernel) (by decide +kernel)
        { access_token := "at-2", refresh_token := "rt-2" } (by decide +kernel)
    exact absurd hHas.1 (by decide +kernel)

end LocalStatus
