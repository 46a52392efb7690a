import AutoGpt.EmailChange.Moves

/-
  Whose session a run has captured. The ids of the source are
  recorded in the row before the boundary is crossed and stay
  as they are afterwards; a run comes to the local commit only
  with a session whose `/me` user id and token account id are
  the recorded ones.

  Main theorem:
    * `EmailChange.standing_of_moves`
-/

open PyText (orElse strip strip_strip)

----
-- What The Checks Show
----

namespace EmailChange

/- What `_verify_remote_identity` has found. -/
structure VerifiedBy (env : Env) (tokens : Tokens) (expected : Identity)
    (me : HttpAnswer) (verified : Identity) : Prop where
  email : verified.email = normalizeEmail env expected.email
  email_known : verified.email ≠ ""
  user : verified.user_id = strip me.identity.user_id
  user_known : verified.user_id ≠ ""
  user_expected : expected.user_id ≠ "" → verified.user_id = expected.user_id
  account : verified.account_id = (targetIdentity env tokens "").account_id
  account_known : verified.account_id ≠ ""
  account_expected : expected.account_id ≠ "" → verified.account_id = expected.account_id

theorem eq_of_not_differs (hSame : ¬ differs wanted found)
    (hKnown : wanted ≠ "") : found = wanted := by
  by_contra hOther
  apply hSame
  simp [differs, hKnown, hOther]

theorem verifiedBy_of_identity
    (hOk : verifyIdentity env tokens expected label remote_changed me.identity = .ok verified) :
    VerifiedBy env tokens expected me verified := by
  unfold verifyIdentity at hOk
  dsimp only at hOk
  split_ifs at hOk with hEmail hUser hUserExpected hToken
    hAccount hAccountExpected hCaptured hOrganization
  cases hOk
  rw [not_or, not_not] at hEmail
  have hStrip : strip
          (targetIdentity env tokens expected.email).account_id =
        (targetIdentity env tokens "").account_id := by
    simp [targetIdentity]
  exact
    { email := hEmail.2, email_known := hEmail.1, user := rfl, user_known := hUser,
      user_expected := eq_of_not_differs hUserExpected, account := hStrip,
      account_known := hAccount, account_expected := eq_of_not_differs hAccountExpected }

theorem verifiedBy_of_remote
    (hOk : verifyRemoteIdentity env tokens expected label remote_changed response = .ok verified) :
    ∃ me, response = some me ∧ VerifiedBy env tokens expected me verified := by
  unfold verifyRemoteIdentity at hOk
  cases hResponse : response with
  | none =>
    rw [hResponse] at hOk
    cases hOk
  | some me =>
    rw [hResponse] at hOk
    dsimp only at hOk
    split_ifs at hOk
    exact ⟨me, rfl, verifiedBy_of_identity hOk⟩

theorem source_of_assert (hAssert : assertSourceIdentity env actual expected source_email = none) :
    normalizeEmail env actual.email = normalizeEmail env source_email ∧
      strip actual.user_id ≠ "" ∧ strip actual.account_id ≠ "" := by
  unfold assertSourceIdentity at hAssert
  dsimp only at hAssert
  split_ifs at hAssert with hEmail hUser hUserExpected hAccount
  rw [not_or, not_not] at hEmail
  exact ⟨hEmail.2, hUser, hAccount⟩

----
-- Where A Run Stands
----

def ChangeRow.ids (row : ChangeRow) : String × String :=
  (row.source_chatgpt_user_id, row.source_chatgpt_account_id)

def Identity.ids (identity : Identity) : String × String := (identity.user_id, identity.account_id)

structure KnownIds (ids : String × String) : Prop where
  user : ids.1 ≠ ""
  account : ids.2 ≠ ""
  user_strip : strip ids.1 = ids.1
  account_strip : strip ids.2 = ids.2

/- Nothing was sent that may have been accepted. -/
structure ChangeRow.Inside (row : ChangeRow) : Prop where
  submitted : row.verify_submitted_at = none
  changed : row.remote_changed_at = none

/- The source that a run goes on with is the recorded one. -/
structure Recorded (env : Env) (row : ChangeRow) (run : Run) : Prop where
  ids : run.source_identity.ids = row.ids
  known : KnownIds row.ids
  email : normalizeEmail env run.source_identity.email = normalizeEmail env run.row.source_email

/- What a run that has just started knows of its row. -/
structure Started (row : ChangeRow) (run : Run) : Prop where
  inside : run.remote_changed = false → row.Inside
  past : run.remote_changed → row.crossed
  ids : run.remote_changed → run.row.ids = row.ids

/- `/me` and the token of a session show the recorded ids. -/
structure SessionProven (env : Env) (log : List Event) (row : ChangeRow)
    (tokens : Tokens) : Prop where
  me : ∃ me, Event.targetCheck tokens (some me) ∈ log ∧
      strip me.identity.user_id = row.source_chatgpt_user_id
  token : (targetIdentity env tokens "").account_id = row.source_chatgpt_account_id
  known : KnownIds row.ids

/- The session was verified for the target e-mail. -/
structure Verified (env : Env) (log : List Event) (row : ChangeRow) (run : Run) : Prop where
  session : SessionProven env log row run.tokens
  email : run.target_identity.email = normalizeEmail env run.row.target_email
  email_known : run.target_identity.email ≠ ""

/- Past the boundary no update records a source, and one that crosses it finds the source recorded.
   An update that ends a row sets both times, and none records a finalization that has not been
   committed. -/
structure Patch.Sound (env : Env) (log : List Event) (row : ChangeRow) (patch : Patch) : Prop where
  source : row.crossed → patch.source = none
  crosses : (row.patched env patch).crossed →
      row.crossed ∨ KnownIds (row.patched env patch).ids
  done : patch.status = some .done →
      patch.committed_at.isSome ∧ patch.mailbox_finalized_at.isSome
  finalized : patch.mailbox_finalized_at.isSome → Event.finalizedCommit ∈ log

/- What holds of the row before each step. -/
def Standing (env : Env) (run : Run) (log : List Event) :
    ChangeRow → Pc → Prop
| row, .checkpoint => Started row run
| row, .accountRead => Started row run
| row, .openBrowser => row.Inside
| row, .sourceMe => row.Inside
| row, .eligibility => row.Inside ∧ Recorded env row run
| row, .beginChange => row.Inside ∧ Recorded env row run
| row, .waitOtp => row.Inside ∧ Recorded env row run
| row, .verify => row.remote_changed_at = none ∧ row.crossed ∧ Recorded env row run
| row, .loopRaise error => error.requiresReauth → row.Inside
| row, .sourceLogin => row.Inside
| row, .sourceCheck => row.Inside
| row, .sourceRead _ => row.Inside
| row, .sourceWrite _ _ => row.Inside
| row, .sourceRefresh _ => row.Inside
| row, .prepareTarget => row.crossed ∧ Recorded env row run
| row, .targetLogin => row.crossed ∧ Recorded env row run
| row, .targetCheck => row.crossed ∧ Recorded env row run
| row, .commitRead => row.crossed ∧ Recorded env row run ∧ Verified env log row run
| row, .commitWrite _ => row.crossed ∧ Recorded env row run ∧ Verified env log row run ∧
      run.committedEmail env = normalizeEmail env run.row.target_email
| row, .update patch next =>
    patch.Sound env log row ∧ Standing env run log (row.patched env patch) next
| row, .closing patch next =>
    patch.Sound env log row ∧ Standing env run log (row.patched env patch) next
| _, _ => True

----
-- Rules For Standing
----

variable {run : Run}
variable {row : ChangeRow}

theorem ChangeRow.Inside.not_crossed
    (hInside : row.Inside) : row.crossed = false := by
  unfold ChangeRow.crossed
  rw [hInside.submitted, hInside.changed]
  rfl

theorem ChangeRow.Inside.source_none
    (hInside : row.Inside) : row.crossed → source = none := by
  intro hCrossed
  rw [hInside.not_crossed] at hCrossed
  cases hCrossed

theorem Patch.sound_of_plain (hSource : row.crossed → patch.source = none)
    (hCrosses : (row.patched env patch).crossed →
        row.crossed ∨ KnownIds (row.patched env patch).ids)
    (hStatus : patch.status ≠ some .done) (hFinalized : patch.mailbox_finalized_at = none) :
    patch.Sound env log row where
  source := hSource
  crosses := hCrosses
  done := fun hDone => absurd hDone hStatus
  finalized := by
    rw [hFinalized]
    intro hSome
    cases hSome

theorem Verified.mono (hLog : ∀ event ∈ log, event ∈ log') (hVerified : Verified env log row run) :
    Verified env log' row run := by
  rcases hVerified.session.me with ⟨me, hMe, hUser⟩
  exact
    { session :=
        { me := ⟨me, hLog _ hMe, hUser⟩, token := hVerified.session.token,
          known := hVerified.session.known }
      email := hVerified.email
      email_known := hVerified.email_known }

theorem standing_update (hSource : patch.source = none)
    (hCrosses : (row.patched env patch).crossed →
        row.crossed ∨ KnownIds (row.patched env patch).ids)
    (hStatus : patch.status ≠ some .done) (hFinalized : patch.mailbox_finalized_at = none)
    (hNext : Standing env run log (row.patched env patch) next) :
    Standing env run log row (.update patch next) :=
  ⟨Patch.sound_of_plain (fun _ => hSource) hCrosses hStatus hFinalized, hNext⟩

theorem standing_closed (error : ChangeError) (phase : Phase) (resumable crossed : Bool) :
    Standing env run log row (run.closed env error phase resumable crossed).pc := by
  constructor
  · apply Patch.sound_of_plain (fun _ => rfl) .inl _ rfl
    cases crossed <;> nofun
  · cases crossed <;> trivial

theorem standing_finalize (committed_at : Nat) :
    Standing env run log row (run.finalizePc committed_at) :=
  standing_update rfl .inl nofun rfl trivial

theorem standing_done (committed_at finalized_at : Nat) (hCommit : Event.finalizedCommit ∈ log) :
    Standing env run log row (.update (donePatch committed_at finalized_at run) .finished) :=
  ⟨{ source := fun _ => rfl, crosses := .inl, done := fun _ => ⟨rfl, rfl⟩,
     finalized := fun _ => hCommit }, trivial⟩

theorem standing_recovered
    (hSnapshot : run.row.mailbox_finalized_at.isSome → Event.finalizedCommit ∈ log) :
    Standing env run log row (run.recovered draw).pc := by
  unfold Run.recovered
  dsimp only [Run.at]
  cases hFinalized : run.row.mailbox_finalized_at with
  | none =>
    cases run.row.committed_at with
    | none => exact standing_update rfl .inl nofun rfl (standing_finalize _)
    | some committed_at => exact standing_finalize committed_at
  | some finalized_at =>
    have hCommit : Event.finalizedCommit ∈ log := hSnapshot (by rw [hFinalized]; rfl)
    cases run.row.committed_at with
    | none => exact standing_update rfl .inl nofun rfl (standing_done _ finalized_at hCommit)
    | some committed_at => exact standing_done committed_at finalized_at hCommit

----
-- One Move
----

theorem known_of_assert
    (hAssert : assertSourceIdentity env (sourceIdentity env account remote) expected
        source_email = none) :
    KnownIds (sourceIdentity env account remote).ids := by
  have hSource := source_of_assert hAssert
  have hUser : strip (sourceIdentity env account remote).user_id =
        (sourceIdentity env account remote).user_id := strip_strip _
  have hAccount : strip (sourceIdentity env account remote).account_id =
        (sourceIdentity env account remote).account_id := strip_strip _
  rw [hUser, hAccount] at hSource
  exact ⟨hSource.2.1, hSource.2.2, hUser, hAccount⟩

theorem recorded_of_row (hIds : run.row.ids = row.ids) (hKnown : KnownIds row.ids)
    (hSource : normalizeEmail env account.email = normalizeEmail env run.row.source_email) :
    Recorded env row
      { run.opened env account with
        source_identity := sourceIdentityFromRow env run.row (detachedAccount env account) } := by
  have hKnownRow := hIds ▸ hKnown
  have hUser : orElse run.row.source_chatgpt_user_id
          (localIdentity env (detachedAccount env account)).user_id =
        run.row.source_chatgpt_user_id :=
    if_neg hKnownRow.user
  have hAccount : orElse run.row.source_chatgpt_account_id
          (localIdentity env (detachedAccount env account)).account_id =
        run.row.source_chatgpt_account_id :=
    if_neg hKnownRow.account
  refine ⟨?_, hKnown, ?_⟩
  · rw [← hIds]
    dsimp only [sourceIdentityFromRow]
    rw [hUser, hAccount]
    exact Prod.ext hKnownRow.user_strip hKnownRow.account_strip
  · dsimp only [sourceIdentityFromRow, Run.opened]
    rw [normalizeEmail_twice]
    unfold orElse
    split
    · dsimp only [localIdentity, detachedAccount]
      rw [normalizeEmail_twice, normalizeEmail_twice, hSource]
    · rfl

theorem verified_of_check
    (hRecorded : Recorded env row run) (hVerified : verifyRemoteIdentity env run.tokens
          { run.source_identity with email := normalizeEmail env run.row.target_email }
          "目标邮箱登录" true me = .ok verified)
    (hLogged : Event.targetCheck run.tokens me ∈ log) :
    Verified env log row { run with target_identity := verified } := by
  rcases verifiedBy_of_remote hVerified with ⟨answer, hAnswer, hBy⟩
  have hIds := Prod.ext_iff.mp hRecorded.ids
  have hUser : verified.user_id = row.source_chatgpt_user_id := by
    have hKnown : run.source_identity.user_id ≠ "" := by
      intro hEmpty
      exact hRecorded.known.user (hIds.1.symm.trans hEmpty)
    exact (hBy.user_expected hKnown).trans hIds.1
  have hAccount : verified.account_id = row.source_chatgpt_account_id := by
    have hKnown : run.source_identity.account_id ≠ "" := by
      intro hEmpty
      exact hRecorded.known.account (hIds.2.symm.trans hEmpty)
    exact (hBy.account_expected hKnown).trans hIds.2
  exact
    { session :=
        { me := ⟨answer, hAnswer ▸ hLogged, hBy.user.symm.trans hUser⟩,
          token := hBy.account.symm.trans hAccount, known := hRecorded.known }
      email := hBy.email.trans (normalizeEmail_twice _ _)
      email_known := hBy.email_known }

theorem committedEmail_of_guard (hVerified : Verified env log row run)
    (hGuard : run.commitError env = none) :
    run.committedEmail env = normalizeEmail env run.row.target_email := by
  unfold Run.commitError at hGuard
  dsimp only at hGuard
  split_ifs at hGuard with hIncomplete hAccount hUser hOrganization hEmail
  rw [← hVerified.email]
  by_contra hOther
  apply hEmail
  rw [not_or] at hIncomplete
  simp only [knownDiffer, Bool.and_eq_true, decide_eq_true_eq]
  exact ⟨⟨hIncomplete.1, hVerified.email_known⟩, fun hSame => hOther hSame.symm⟩

theorem standing_inLoop (hStanding : Standing env run log row pc)
    (hLoop : pc.inLoop) : row.Inside := by
  cases pc with
  | openBrowser => exact hStanding
  | sourceMe => exact hStanding
  | eligibility => exact hStanding.1
  | beginChange => exact hStanding.1
  | waitOtp => exact hStanding.1
  | _ => cases hLoop

theorem patch_inLoop (hLoop : pc.inLoop) : Job.patch ⟨run, pc⟩ = none := by
  cases pc with
  | update patch next => cases hLoop
  | closing patch next => cases hLoop
  | _ => rfl

/- Every move keeps what holds of the row. -/
theorem standing_of_moves (hMoves : Moves env draw w job job')
    (hStanding : Standing env job.run w.log w.row job.pc)
    (hIdentified : w.row.crossed → KnownIds w.row.ids)
    (hSnapshot : job.run.row.mailbox_finalized_at.isSome → Event.finalizedCommit ∈ w.log) :
    Standing env job'.run (job.world env draw w).log (job.world env draw w).row job'.pc := by
  cases hMoves with
  | closes _ run error phase resumable crossed hRow hTask =>
    exact standing_closed error phase resumable crossed
  | ends => trivial
  | starts run =>
    rw [world_row rfl]
    refine standing_update rfl .inl nofun rfl ?_
    refine ⟨?_, hStanding.past, hStanding.ids⟩
    intro hInside
    have hRow := hStanding.inside hInside
    exact ⟨hRow.submitted, hRow.changed⟩
  | recovers run account =>
    apply standing_recovered
    intro hFinalized
    exact world_log _ (hSnapshot hFinalized)
  | executes run account hInside =>
    rw [world_row rfl]
    refine standing_update rfl .inl nofun rfl ?_
    have hRow := hStanding.inside hInside
    exact ⟨hRow.submitted, hRow.changed⟩
  | resumes run account hPast hSource hUser hAccount =>
    rw [world_row rfl]
    have hCrossed := hStanding.past hPast
    exact ⟨hCrossed, recorded_of_row (hStanding.ids hPast) (hIdentified hCrossed) hSource⟩
  | raises run pc error hLoop =>
    have hInside := standing_inLoop hStanding hLoop
    intro _
    rw [world_row (patch_inLoop hLoop)]
    exact hInside
  | unknown run message =>
    intro hReauth
    rw [verifyOutcomeUnknown_final] at hReauth
    cases hReauth
  | opens run =>
    rw [world_row rfl]
    exact hStanding
  | identifies run remote identity hIdentity hAssert =>
    rw [world_row rfl]
    subst hIdentity
    have hKnown := known_of_assert hAssert
    refine ⟨Patch.sound_of_plain hStanding.source_none .inl nofun
          rfl,
        ⟨hStanding.submitted, hStanding.changed⟩, ?_⟩
    exact ⟨rfl, hKnown, (source_of_assert hAssert).1⟩
  | allows run =>
    rw [world_row rfl]
    refine standing_update rfl .inl nofun rfl ?_
    exact ⟨⟨hStanding.1.submitted, hStanding.1.changed⟩,
      hStanding.2.ids, hStanding.2.known, hStanding.2.email⟩
  | begins run =>
    rw [world_row rfl]
    refine standing_update rfl .inl nofun rfl ?_
    refine standing_update rfl .inl nofun rfl ?_
    exact ⟨⟨hStanding.1.submitted, hStanding.1.changed⟩,
      hStanding.2.ids, hStanding.2.known, hStanding.2.email⟩
  | submits run mailbox =>
    rw [world_row rfl]
    refine standing_update rfl .inl nofun rfl ?_
    refine standing_update rfl (fun _ => .inr hStanding.2.known) nofun rfl ?_
    exact ⟨hStanding.1.changed, Bool.or_true _,
      hStanding.2.ids, hStanding.2.known, hStanding.2.email⟩
  | rejected run error hEnding hOutcome =>
    rw [world_row rfl]
    refine standing_update rfl (fun _ => .inl hStanding.2.1) nofun rfl ?_
    intro _
    exact ⟨rfl, hStanding.1⟩
  | accepted run =>
    rw [world_row rfl]
    refine standing_update rfl (fun _ => .inl hStanding.2.1) nofun rfl ?_
    exact ⟨rfl, hStanding.2.2.ids, hStanding.2.2.known, hStanding.2.2.email⟩
  | reauthenticates run error state hReauth =>
    rw [world_row rfl]
    refine standing_update rfl .inl nofun rfl ?_
    have hInside := hStanding hReauth
    exact ⟨hInside.submitted, hInside.changed⟩
  | sourceLogged run source_state =>
    rw [world_row rfl]
    exact hStanding
  | sourceChecked run verified =>
    rw [world_row rfl]
    exact hStanding
  | sourceFound run verified account =>
    rw [world_row rfl]
    exact hStanding
  | sourceWritten run verified loaded =>
    rw [world_row rfl]
    exact hStanding
  | sourceRefreshed run verified account =>
    rw [world_row rfl]
    refine ⟨Patch.sound_of_plain hStanding.source_none .inl nofun
          rfl,
        ?_⟩
    refine standing_update rfl .inl nofun rfl ?_
    exact ⟨hStanding.submitted, hStanding.changed⟩
  | prepares run =>
    rw [world_row rfl]
    refine standing_update rfl .inl nofun rfl ?_
    refine standing_update rfl .inl nofun rfl ?_
    exact ⟨hStanding.1, hStanding.2.ids, hStanding.2.known, hStanding.2.email⟩
  | targetLogged run target_state =>
    rw [world_row rfl]
    refine standing_update rfl .inl nofun rfl ?_
    exact ⟨hStanding.1, hStanding.2.ids, hStanding.2.known, hStanding.2.email⟩
  | targetChecked run verified hEnding hVerified =>
    have hLogged : Event.targetCheck run.tokens draw.me ∈
          (Job.world env draw w ⟨run, .targetCheck⟩).log := by
      rw [world_of_returned hEnding]
      exact List.mem_append_right _ (List.mem_singleton.mpr rfl)
    have hChecked := verified_of_check hStanding.2 hVerified hLogged
    rw [world_row rfl]
    refine standing_update rfl .inl nofun rfl ?_
    exact ⟨hStanding.1, ⟨hStanding.2.ids, hStanding.2.known, hStanding.2.email⟩,
      ⟨hChecked.session.me, hChecked.session.token, hChecked.session.known⟩,
      hChecked.email, hChecked.email_known⟩
  | commitChecked run account hGuard =>
    rw [world_row rfl]
    exact ⟨hStanding.1, hStanding.2.1, hStanding.2.2.mono world_log,
      committedEmail_of_guard hStanding.2.2 hGuard⟩
  | committed run loaded =>
    refine standing_update rfl .inl nofun rfl ?_
    exact standing_update rfl .inl nofun rfl trivial
  | finalizes => trivial
  | finalizedFound => trivial
  | finalized run committed_at loaded account hEnding hFind =>
    have hLogged : Event.finalizedCommit ∈
          (Job.world env draw w ⟨run, .finalizedWrite committed_at loaded⟩).log := by
      rw [world_of_returned hEnding]
      unfold Job.effect World.commit
      dsimp only [Job.patch, Job.accountWrite]
      rw [hFind]
      exact List.mem_append_right _ (List.mem_singleton.mpr rfl)
    exact ⟨⟨fun _ => rfl, .inl, nofun, fun _ => hLogged⟩,
        ⟨fun _ => rfl, .inl, fun _ => ⟨rfl, rfl⟩, fun _ => hLogged⟩,
        trivial⟩
  | updated run patch next hEnding =>
    rw [world_of_returned hEnding, effect_of_patch rfl]
    exact hStanding.2
  | closed run patch next hEnding =>
    rw [world_of_returned hEnding, effect_of_patch rfl]
    exact hStanding.2
  | warns => trivial

end EmailChange
