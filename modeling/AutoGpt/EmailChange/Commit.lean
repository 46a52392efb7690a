import AutoGpt.EmailChange.Proven

/-
  The local commit. A run checks the account and the other
  accounts, and commits later; what it commits is right if
  nobody changes in between what it has checked. The same goes
  for the last update, which relies on the marker on the
  account.

  Main theorems:
    * `EmailChange.local_commit_proven`
    * `EmailChange.local_commit_overtaken`
-/

open KeyedTable (find?_deleteWhere find?_of_mem find?_put find?_updateKey_self mem_of_find?)
open Option
open Machine

----
-- Conditions And Guarantees
----

namespace EmailChange

/- What a change is about stays as it was prepared. -/
structure SameChange (row row' : ChangeRow) : Prop where
  account_id : row'.account_id = row.account_id
  source_email : row'.source_email = row.source_email
  target_email : row'.target_email = row.target_email

/- The account has the target e-mail and the marker of the task. -/
def HoldsTarget (env : Env) (row : ChangeRow) (task_id : String) (account : Account) : Prop :=
  normalizeEmail env account.email = normalizeEmail env row.target_email ∧
    account.markedBy task_id

instance
    (env : Env) (row : ChangeRow) (task_id : String) (account : Account) :
    Decidable (HoldsTarget env row task_id account) := by
  unfold HoldsTarget
  infer_instance

/- The account does not stand in the way of the target. -/
def LeavesTarget (env : Env) (row : ChangeRow) (account : Account) : Prop :=
  account.platform = "chatgpt" →
    sameNocase account.email (normalizeEmail env row.target_email) = false

instance
    (env : Env) (row : ChangeRow) (account : Account) :
    Decidable (LeavesTarget env row account) := by
  unfold LeavesTarget
  infer_instance

/- The local commit comes next, without another check. -/
def Pc.commits : Pc → Bool
| .commitWrite _ => true
| .update _ next => next.commits
| .closing _ next => next.commits
| _ => false

/- The last update comes next, without another check. -/
def Pc.finishes : Pc → Bool
| .finalizedWrite _ _ => true
| .update patch next => decide (patch.status = some .done) || next.finishes
| .closing patch next => decide (patch.status = some .done) || next.finishes
| _ => false

/- Nobody changes what a run has checked and relies on: before the local commit the e-mail of the
   account, and that no other account has the target e-mail; before the last update the e-mail of
   the account and its marker. -/
def EditKeepsChecks (env : Env) (s : State) : Op → Prop
| .edit account => ∀ job ∈ s.current, (job.pc.commits →
        if account.id = s.world.row.account_id then
          normalizeEmail env account.email = normalizeEmail env s.world.row.source_email
        else LeavesTarget env s.world.row account) ∧
        (job.pc.finishes →
          account.id = s.world.row.account_id → HoldsTarget env s.world.row job.run.task_id account)
| .remove account_id =>
    ∀ job ∈ s.current, job.pc.finishes → account_id ≠ s.world.row.account_id
| _ => True

instance (env : Env) (s : State) (op : Op) :
    Decidable (EditKeepsChecks env s op) := by
  unfold EditKeepsChecks
  split <;> infer_instance

structure EmailProven (env : Env) (s : State) (before after : Account) :
    Prop where
  own : before.id = s.world.row.account_id
  source : normalizeEmail env before.email = normalizeEmail env s.world.row.source_email
  target : after.email = normalizeEmail env s.world.row.target_email
  crossed : s.world.row.crossed
  session : ∃ job ∈ s.current, SessionProven env s.world.log s.world.row job.run.tokens
  free : ∀ other ∈ s.world.accounts.rows, other.id ≠ before.id → LeavesTarget env s.world.row other

structure DoneProven (env : Env) (s : State) (w : World) :
    Prop where
  account : ∃ job ∈ s.current, ∃ account ∈ w.accounts.find? w.row.account_id,
        ∃ marker ∈ account.extra.marker, normalizeEmail env account.email =
              normalizeEmail env w.row.target_email ∧ PyText.strip marker.task_id = job.run.task_id
  committed : w.row.committed_at.isSome
  finalized : w.row.mailbox_finalized_at.isSome
  logged : Event.finalizedCommit ∈ w.log

/- What is promised of an operation: a run changes an e-mail, and ends a row, only with proof; and
   the recorded ids stay once the boundary may have been crossed. -/
structure CommitProven (env : Env) (s : State) (op : Op) :
    Prop where
  email : ∀ draw, op = .step draw → ∀ before ∈ s.world.accounts.rows, ∀ after ∈
            (step env s op).1.world.accounts.find? before.id,
          after.email ≠ before.email → EmailProven env s before after
  done : (step env s op).1.world.row.status = .done →
      s.world.row.status ≠ .done → DoneProven env s (step env s op).1.world
  recorded : s.world.row.crossed → (step env s op).1.world.row.ids = s.world.row.ids
  kept : SameChange s.world.row (step env s op).1.world.row

/- The row that `prepare_email_change_target` creates. -/
def preparedRow (account_id : Nat) (source_email target_email : String)
    (mailbox_state : Option Mailbox) (remove_social_subs : Bool) : ChangeRow where
  account_id := account_id
  source_email := source_email
  target_email := target_email
  mailbox_state := mailbox_state
  remove_social_subs := remove_social_subs

----
-- Checks That Still Hold
----

/- The account, if it is there, has the source e-mail, and no
   other account has the target e-mail. -/
structure SourceHeld (env : Env) (accounts : Accounts) (row : ChangeRow) :
    Prop where
  source : ∀ account ∈ accounts.find? row.account_id,
      normalizeEmail env account.email = normalizeEmail env row.source_email
  free : ∀ other ∈ accounts.rows, other.id ≠ row.account_id → LeavesTarget env row other

def TargetHeld (env : Env) (accounts : Accounts) (row : ChangeRow) (task_id : String) : Prop :=
  ∃ account ∈ accounts.find? row.account_id, HoldsTarget env row task_id account

/- What the next steps rely on still holds. -/
def Checked (env : Env) (accounts : Accounts) (row : ChangeRow) (task_id : String) : Pc → Prop
| .commitWrite loaded => loaded.id = row.account_id ∧ SourceHeld env accounts row
| .finalizedWrite _ loaded => loaded.markedBy task_id ∧ TargetHeld env accounts row task_id
| .update patch next => (patch.status = some .done → TargetHeld env accounts row task_id) ∧
      Checked env accounts row task_id next
| .closing patch next => (patch.status = some .done → TargetHeld env accounts row task_id) ∧
      Checked env accounts row task_id next
| _ => True

structure JobKept (env : Env) (w : World) (job : Job) :
    Prop where
  same : SameChange w.row job.run.row
  task : job.run.task_id ≠ ""
  snapshot : job.run.row.mailbox_finalized_at.isSome → Event.finalizedCommit ∈ w.log
  standing : Standing env job.run w.log w.row job.pc
  checked : Checked env w.accounts w.row job.run.task_id job.pc

structure CommitKept (env : Env) (s : State) : Prop where
  identified : s.world.row.crossed → KnownIds s.world.row.ids
  finalized : s.world.row.mailbox_finalized_at.isSome → Event.finalizedCommit ∈ s.world.log
  job : ∀ job ∈ s.current, JobKept env s.world job

----
-- Writes Of A Run
----

variable {w : World}
variable {job job' : Job}
theorem SameChange.refl (row : ChangeRow) :
    SameChange row row := ⟨rfl, rfl, rfl⟩

theorem sameChange_world (env : Env) (draw : Draw) (w : World) (job : Job) :
    SameChange w.row (job.world env draw w).row := by
  cases hPatch : job.patch with
  | none =>
    rw [world_row hPatch]
    exact SameChange.refl _
  | some patch =>
    unfold Job.world
    split
    · rw [effect_of_patch hPatch]
      exact ⟨rfl, rfl, rfl⟩
    · exact SameChange.refl _

theorem world_accounts {id : Nat} (hAfter : (job.world env draw w).accounts.find? id = some after) :
    ∃ before, w.accounts.find? id = some before ∧ (after = before ∨ ∃ new loaded events,
          job.accountWrite env draw w.row = some (new, loaded, events) ∧ id = loaded.id ∧
            after = new.committed loaded before) := by
  unfold Job.world at hAfter
  split at hAfter
  · unfold Job.effect at hAfter
    split at hAfter
    · exact ⟨after, hAfter, .inl rfl⟩
    · split at hAfter
      · next new loaded events hWrite =>
          unfold World.commit at hAfter
          split at hAfter
          · exact ⟨after, hAfter, .inl rfl⟩
          · by_cases hId : id = loaded.id
            · subst hId
              rw [find?_updateKey_self] at hAfter
              rcases map_eq_some_iff.mp hAfter with ⟨before, hBefore, hNew⟩
              exact ⟨before, hBefore, .inr ⟨new, loaded, events, hWrite, rfl, hNew.symm⟩⟩
            · rw [KeyedTable.find?_updateKey_of_ne _ _ _ hId]
                at hAfter
              exact ⟨after, hAfter, .inl rfl⟩
      · exact ⟨after, hAfter, .inl rfl⟩
  · exact ⟨after, hAfter, .inl rfl⟩

theorem accounts_of_no_write (hWrite : job.accountWrite env draw w.row = none) :
    (job.world env draw w).accounts = w.accounts := by
  unfold Job.world
  split
  · unfold Job.effect
    rw [hWrite]
    split <;> rfl
  · rfl

theorem exists_world_account (env : Env) (draw : Draw) (job : Job) {id : Nat}
    (hBefore : w.accounts.find? id = some before) :
    ∃ after, (job.world env draw w).accounts.find? id = some after := by
  unfold Job.world
  split
  · unfold Job.effect
    split
    · exact ⟨before, hBefore⟩
    · split
      · next new loaded events hWrite =>
          unfold World.commit
          split
          · exact ⟨before, hBefore⟩
          · by_cases hId : id = loaded.id
            · subst hId
              refine ⟨new.committed loaded before, ?_⟩
              rw [find?_updateKey_self, hBefore]
              rfl
            · refine ⟨before, ?_⟩
              rw [KeyedTable.find?_updateKey_of_ne _ _ _ hId]
              exact hBefore
      · exact ⟨before, hBefore⟩
  · exact ⟨before, hBefore⟩

theorem commits_of_email (hWrite : job.accountWrite env draw w.row = some (new, loaded, events))
    (hEmail : (new.committed loaded before).email ≠ before.email) :
    job.pc = .commitWrite loaded ∧
      (new.committed loaded before).email = job.run.committedEmail env := by
  have hNew : new.email ≠ loaded.email := by
    intro hSame
    apply hEmail
    exact if_pos hSame
  rcases job with ⟨run, pc⟩
  cases pc <;>
    rcases hWrite with ⟨rfl, rfl, rfl⟩
  case commitWrite => exact ⟨rfl, if_neg hNew⟩
  all_goals exact absurd rfl hNew

----
-- Checks Along A Run
----

variable {run : Run}

theorem HoldsTarget.congr {account : Account} (hSame : SameChange row row')
    (hHolds : HoldsTarget env row task_id account) : HoldsTarget env row' task_id account := by
  unfold HoldsTarget at *
  rw [hSame.target_email]
  exact hHolds

theorem TargetHeld.congr (hSame : SameChange row row')
    (hHeld : TargetHeld env accounts row task_id) : TargetHeld env accounts row' task_id := by
  rcases hHeld with ⟨account, hFind, hHolds⟩
  refine ⟨account, ?_, hHolds.congr hSame⟩
  rw [hSame.account_id]
  exact hFind

theorem SourceHeld.congr (hSame : SameChange row row') (hHeld : SourceHeld env accounts row) :
    SourceHeld env accounts row' := by
  constructor
  · rw [hSame.account_id, hSame.source_email]
    exact hHeld.source
  · unfold LeavesTarget
    rw [hSame.account_id, hSame.target_email]
    exact hHeld.free

theorem Checked.congr {pc : Pc} (hSame : SameChange row row')
    (hChecked : Checked env accounts row task_id pc) : Checked env accounts row' task_id pc := by
  induction pc with
  | commitWrite loaded => exact ⟨hChecked.1.trans hSame.account_id.symm, hChecked.2.congr hSame⟩
  | finalizedWrite committed_at loaded => exact ⟨hChecked.1, hChecked.2.congr hSame⟩
  | update patch next ih => exact ⟨fun hDone => (hChecked.1 hDone).congr hSame, ih hChecked.2⟩
  | closing patch next ih => exact ⟨fun hDone => (hChecked.1 hDone).congr hSame, ih hChecked.2⟩
  | _ => trivial

theorem checked_closed (error : ChangeError) (phase : Phase) (resumable crossed : Bool) :
    Checked env accounts row task_id (run.closed env error phase resumable crossed).pc := by
  cases crossed <;> exact ⟨nofun, trivial⟩

theorem checked_recovered (hHeld : TargetHeld env accounts row task_id) :
    Checked env accounts row task_id (run.recovered draw).pc := by
  unfold Run.recovered
  cases run.row.committed_at with
  | none =>
    cases run.row.mailbox_finalized_at with
    | none => exact ⟨nofun, nofun, trivial⟩
    | some finalized_at => exact ⟨nofun, fun _ => hHeld, trivial⟩
  | some committed_at =>
    cases run.row.mailbox_finalized_at with
    | none => exact ⟨nofun, trivial⟩
    | some finalized_at => exact ⟨fun _ => hHeld, trivial⟩

/- The commit of the finalized mailbox keeps e-mail and marker. -/
theorem holdsTarget_finalized
    (hMarked : loaded.markedBy task_id) (hHolds : HoldsTarget env row task_id before) :
    HoldsTarget env row task_id ((run.finalized env rest loaded).committed loaded before) := by
  constructor
  · have hEmail :
        ((run.finalized env rest loaded).committed loaded before).email = before.email := if_pos rfl
    rw [hEmail]
    exact hHolds.1
  · unfold Account.markedBy at *
    dsimp only [Account.committed]
    unfold Column.written
    split
    · exact hHolds.2
    · cases hMarker : loaded.extra.marker with
      | none => simpa [Run.finalized, hMarker] using hMarked
      | some marker => simpa [Run.finalized, hMarker] using hMarked

theorem targetHeld_finalized {committed_at : Nat}
    (hMarked : loaded.markedBy task_id) (hHeld : TargetHeld env w.accounts row task_id) :
    TargetHeld env
      (Job.world env draw w ⟨run, .finalizedWrite committed_at loaded⟩).accounts
      row task_id := by
  rcases hHeld with ⟨before, hBefore, hHolds⟩
  rcases exists_world_account env draw
      ⟨run, .finalizedWrite committed_at loaded⟩ hBefore with
    ⟨after, hAfter⟩
  refine ⟨after, hAfter, ?_⟩
  rcases world_accounts hAfter with ⟨old, hOld, hCase⟩
  rw [mem_def.mp hBefore] at hOld
  cases hOld
  rcases hCase with rfl | ⟨new, first, events, hWrite, _, rfl⟩
  · exact hHolds
  · cases hWrite
    exact holdsTarget_finalized hMarked hHolds

theorem sourceHeld_of_guard {account : Account} (hSame : SameChange w.row run.row)
    (hRecorded : Recorded env row run) (hVerified : Verified env w.log row run)
    (hGuard : run.commitError env = none)
    (hFind : w.accounts.find? run.row.account_id = some account)
    (hSource : normalizeEmail env account.email = normalizeEmail env run.source_identity.email)
    (hFree : w.accounts.conflict (run.committedEmail env) run.row.account_id = false) :
    SourceHeld env w.accounts w.row := by
  constructor
  · intro found hFound
    rw [← hSame.account_id, hFind] at hFound
    cases hFound
    rw [hSource, hRecorded.email, hSame.source_email]
  · intro other hOther hId hPlatform
    rw [committedEmail_of_guard hVerified hGuard, hSame.target_email, hSame.account_id] at hFree
    have hNot := List.any_eq_false.mp hFree other hOther
    simpa [hPlatform, hId] using hNot

/- Every move keeps what the next steps rely on. -/
theorem checked_of_moves (hMoves : Moves env draw w job job') (hKept : JobKept env w job) :
    Checked env (job.world env draw w).accounts w.row job'.run.task_id job'.pc := by
  have hStanding := hKept.standing
  have hChecked := hKept.checked
  have hSame := hKept.same
  cases hMoves with
  | closes _ run error phase resumable crossed => exact checked_closed error phase resumable crossed
  | recovers run account hFind hTarget hMarked =>
    rw [accounts_of_no_write rfl]
    apply checked_recovered
    refine ⟨account, ?_, ?_, hMarked⟩
    · rw [← hSame.account_id]
      exact hFind
    · rw [← hSame.target_email]
      exact hTarget
  | submits run mailbox => exact ⟨nofun, nofun, trivial⟩
  | begins run => exact ⟨nofun, nofun, trivial⟩
  | prepares run => exact ⟨nofun, nofun, trivial⟩
  | sourceRefreshed => exact ⟨nofun, nofun, trivial⟩
  | committed run loaded => exact ⟨nofun, nofun, trivial⟩
  | commitChecked run account hGuard hFind hSource hFree =>
    rw [accounts_of_no_write rfl]
    refine ⟨?_, sourceHeld_of_guard hSame hStanding.2.1 hStanding.2.2 hGuard hFind hSource hFree⟩
    rw [← hSame.account_id]
    exact (mem_of_find? hFind).2
  | finalizedFound run committed_at account hFind hTarget
      hMarked =>
      rw [accounts_of_no_write rfl]
      refine ⟨hMarked, account, ?_, ?_, hMarked⟩
      · rw [← hSame.account_id]
        exact hFind
      · rw [← hSame.target_email]
        exact hTarget
  | finalized run committed_at loaded => exact ⟨nofun,
          fun _ => targetHeld_finalized hChecked.1 hChecked.2,
          trivial⟩
  | updated run patch next =>
    rw [accounts_of_no_write rfl]
    exact hChecked.2
  | closed run patch next =>
    rw [accounts_of_no_write rfl]
    exact hChecked.2
  | _ => first | trivial | exact ⟨nofun, trivial⟩

----
-- One Step
----

theorem Moves.row_eq (hMoves : Moves env draw w job job') : job'.run.row = job.run.row := by
  cases hMoves with
  | closes _ run error phase resumable crossed hRow => exact hRow
  | _ => rfl

theorem Moves.task_eq (hMoves : Moves env draw w job job') :
    job'.run.task_id = job.run.task_id := by
  cases hMoves with
  | closes _ run error phase resumable crossed _ hTask => exact hTask
  | _ => rfl

theorem jobKept_of_moves (hMoves : Moves env draw w job job') (hKept : JobKept env w job)
    (hIdentified : w.row.crossed → KnownIds w.row.ids) :
    JobKept env (job.world env draw w) job' where
  same := by
    have hWorld := sameChange_world env draw w job
    rw [hMoves.row_eq]
    exact ⟨hKept.same.account_id.trans hWorld.account_id.symm,
        hKept.same.source_email.trans hWorld.source_email.symm,
        hKept.same.target_email.trans hWorld.target_email.symm⟩
  task := by
    rw [hMoves.task_eq]
    exact hKept.task
  snapshot := by
    rw [hMoves.row_eq]
    intro hFinalized
    exact world_log _ (hKept.snapshot hFinalized)
  standing := standing_of_moves hMoves hKept.standing hIdentified hKept.snapshot
  checked := (checked_of_moves hMoves hKept).congr (sameChange_world env draw w job)

section

variable (hStanding : Standing env job.run w.log w.row job.pc)
include hStanding

theorem patch_sound (hPatch : job.patch = some patch) : patch.Sound env w.log w.row := by
  rcases job with ⟨run, pc⟩
  cases pc with
  | update first next =>
    cases hPatch
    exact hStanding.1
  | closing first next =>
    cases hPatch
    exact hStanding.1
  | _ => cases hPatch

theorem ids_world (hCrossed : w.row.crossed) :
    (job.world env draw w).row.ids = w.row.ids := by
  cases hPatch : job.patch with
  | none => rw [world_row hPatch]
  | some patch =>
    unfold Job.world
    split
    · rw [effect_of_patch hPatch]
      have hSource := (patch_sound hStanding hPatch).source hCrossed
      unfold ChangeRow.ids ChangeRow.patched
      rw [hSource]
      rfl
    · rfl

theorem identified_world (hIdentified : w.row.crossed → KnownIds w.row.ids)
    (hCrossed : (job.world env draw w).row.crossed) :
    KnownIds (job.world env draw w).row.ids := by
  by_cases hBefore : w.row.crossed
  · rw [ids_world hStanding hBefore]
    exact hIdentified hBefore
  · cases hPatch : job.patch with
    | none =>
      rw [world_row hPatch] at hCrossed
      exact absurd hCrossed hBefore
    | some patch =>
      unfold Job.world at hCrossed ⊢
      split at hCrossed
      · next hPlace =>
        rw [if_pos hPlace]
        rw [effect_of_patch hPatch] at hCrossed ⊢
        rcases (patch_sound hStanding hPatch).crosses hCrossed with hOld | hKnown
        · exact absurd hOld hBefore
        · exact hKnown
      · exact absurd hCrossed hBefore

theorem finalized_world
    (hKept : w.row.mailbox_finalized_at.isSome → Event.finalizedCommit ∈ w.log)
    (hFinalized : (job.world env draw w).row.mailbox_finalized_at.isSome) :
    Event.finalizedCommit ∈ (job.world env draw w).log := by
  apply world_log
  cases hPatch : job.patch with
  | none =>
    rw [world_row hPatch] at hFinalized
    exact hKept hFinalized
  | some patch =>
    unfold Job.world at hFinalized
    split at hFinalized
    · rw [effect_of_patch hPatch] at hFinalized
      have hSound := patch_sound hStanding hPatch
      cases hTime : patch.mailbox_finalized_at with
      | none =>
        apply hKept
        simpa [ChangeRow.patched, hTime] using hFinalized
      | some finalized_at => exact hSound.finalized (by rw [hTime]; rfl)
    · exact hKept hFinalized

end

theorem advance_commit (hKept : CommitKept env ⟨w, some job⟩) :
    CommitKept env (step env ⟨w, some job⟩ (.step draw)).1 := by
  have hJob := hKept.job job rfl
  constructor
  · exact identified_world hJob.standing hKept.identified
  · exact finalized_world hJob.standing hKept.finalized
  · intro job' hNext
    have hAfter := (mem_filter_iff.mp hNext).1
    exact jobKept_of_moves (moves_of_after hAfter) hJob hKept.identified

----
-- Other Operations
----

theorem targetHeld_put (hHeld : TargetHeld env accounts row task_id)
    (hEdit : account.id = row.account_id → HoldsTarget env row task_id account) :
    TargetHeld env (accounts.put account) row task_id := by
  rcases hHeld with ⟨before, hFind, hHolds⟩
  by_cases hId : account.id = row.account_id
  · refine ⟨account, ?_, hEdit hId⟩
    rw [find?_put, if_pos hId]
    rfl
  · refine ⟨before, ?_, hHolds⟩
    rw [find?_put, if_neg hId]
    exact hFind

theorem sourceHeld_put (hHeld : SourceHeld env accounts row)
    (hEdit :
      if account.id = row.account_id then
        normalizeEmail env account.email = normalizeEmail env row.source_email
      else LeavesTarget env row account) :
    SourceHeld env (accounts.put account) row := by
  constructor
  · intro found hFound
    rw [find?_put] at hFound
    by_cases hId : account.id = row.account_id
    · rw [if_pos hId] at hFound hEdit
      cases hFound
      exact hEdit
    · rw [if_neg hId] at hFound
      exact hHeld.source found hFound
  · intro other hOther hId
    rcases KeyedTable.mem_rows_put hOther with hNew | ⟨_, hOld⟩
    · subst hNew
      rw [if_neg hId] at hEdit
      exact hEdit
    · exact hHeld.free other hOld hId

theorem checked_put (hChecked : Checked env accounts row task_id pc)
    (hCommits : pc.commits →
        if account.id = row.account_id then
          normalizeEmail env account.email = normalizeEmail env row.source_email
        else LeavesTarget env row account)
    (hFinishes :
      pc.finishes → account.id = row.account_id → HoldsTarget env row task_id account) :
    Checked env (accounts.put account) row task_id pc := by
  induction pc with
  | commitWrite loaded => exact ⟨hChecked.1, sourceHeld_put hChecked.2 (hCommits rfl)⟩
  | finalizedWrite committed_at loaded =>
    exact ⟨hChecked.1, targetHeld_put hChecked.2 (hFinishes rfl)⟩
  | update patch next ih =>
    simp only [Pc.finishes, Bool.or_eq_true, decide_eq_true_eq] at hFinishes
    refine ⟨fun hDone => targetHeld_put (hChecked.1 hDone) (hFinishes (.inl hDone)),
        ih hChecked.2 hCommits (fun hNext => hFinishes (.inr hNext))⟩
  | closing patch next ih =>
    simp only [Pc.finishes, Bool.or_eq_true, decide_eq_true_eq] at hFinishes
    refine ⟨fun hDone => targetHeld_put (hChecked.1 hDone) (hFinishes (.inl hDone)),
        ih hChecked.2 hCommits (fun hNext => hFinishes (.inr hNext))⟩
  | _ => trivial

theorem targetHeld_remove (hHeld : TargetHeld env accounts row task_id)
    (hOther : account_id ≠ row.account_id) :
    TargetHeld env
      (accounts.deleteWhere fun account => account.id = account_id)
      row task_id := by
  rcases hHeld with ⟨before, hFind, hHolds⟩
  refine ⟨before, ?_, hHolds⟩
  have hId := (mem_of_find? hFind).2
  rw [find?_deleteWhere]
  apply mem_filter_iff.mpr
  refine ⟨hFind, ?_⟩
  simp [hId, Ne.symm hOther]

theorem sourceHeld_remove (account_id : Nat) (hHeld : SourceHeld env accounts row) :
    SourceHeld env
      (accounts.deleteWhere fun account => account.id = account_id)
      row := by
  constructor
  · intro found hFound
    rw [find?_deleteWhere] at hFound
    exact hHeld.source found (mem_filter_iff.mp hFound).1
  · intro other hOther
    exact hHeld.free other (List.mem_of_mem_filter hOther)

theorem checked_remove (hChecked : Checked env accounts row task_id pc)
    (hFinishes : pc.finishes → account_id ≠ row.account_id) :
    Checked env
      (accounts.deleteWhere fun account => account.id = account_id)
      row task_id pc := by
  induction pc with
  | commitWrite loaded => exact ⟨hChecked.1, sourceHeld_remove account_id hChecked.2⟩
  | finalizedWrite committed_at loaded =>
    exact ⟨hChecked.1, targetHeld_remove hChecked.2 (hFinishes rfl)⟩
  | update patch next ih =>
    simp only [Pc.finishes, Bool.or_eq_true, decide_eq_true_eq] at hFinishes
    exact ⟨fun hDone => targetHeld_remove (hChecked.1 hDone) (hFinishes (.inl hDone)),
        ih hChecked.2 fun hNext => hFinishes (.inr hNext)⟩
  | closing patch next ih =>
    simp only [Pc.finishes, Bool.or_eq_true, decide_eq_true_eq] at hFinishes
    exact ⟨fun hDone => targetHeld_remove (hChecked.1 hDone) (hFinishes (.inl hDone)),
        ih hChecked.2 fun hNext => hFinishes (.inr hNext)⟩
  | _ => trivial

theorem start_commit (hKept : CommitKept env ⟨w, none⟩) (hTask : PyText.strip task_id ≠ "") :
    CommitKept env ⟨w, some ((Run.loaded env task_id w.row).at .checkpoint)⟩ := by
  refine ⟨hKept.identified, hKept.finalized, ?_⟩
  intro job hCurrent
  cases hCurrent
  exact
    { same := SameChange.refl w.row
      task := hTask
      snapshot := hKept.finalized
      standing :=
        { inside := by
            intro hInside
            have hRow : w.row.crossed = false := hInside
            unfold ChangeRow.crossed at hRow
            rw [Bool.or_eq_false_iff] at hRow
            exact ⟨isNone_iff_eq_none.mp (by simpa using hRow.2),
                isNone_iff_eq_none.mp (by simpa using hRow.1)⟩
          past := id
          ids := fun _ => rfl }
      checked := trivial }

/- Every operation that keeps the checks keeps the invariant. -/
theorem step_commit (op : Op) (hKept : CommitKept env s) (hChecks : EditKeepsChecks env s op) :
    CommitKept env (step env s op).1 := by
  rcases s with ⟨w, current⟩
  cases op with
  | start task_id =>
    cases current with
    | some job => exact hKept
    | none =>
      unfold step
      dsimp only
      split
      · exact hKept
      · next hTask => exact start_commit hKept hTask
  | step draw =>
    cases current with
    | none => exact hKept
    | some job => exact advance_commit hKept
  | edit account =>
    refine ⟨hKept.identified, hKept.finalized, ?_⟩
    intro job hCurrent
    have hJob := hKept.job job hCurrent
    have hEdit := hChecks job hCurrent
    exact
      { same := hJob.same, task := hJob.task, snapshot := hJob.snapshot, standing := hJob.standing,
        checked := checked_put hJob.checked hEdit.1 hEdit.2 }
  | remove account_id =>
    refine ⟨hKept.identified, hKept.finalized, ?_⟩
    intro job hCurrent
    have hJob := hKept.job job hCurrent
    exact
      { same := hJob.same, task := hJob.task, snapshot := hJob.snapshot, standing := hJob.standing,
        checked := checked_remove hJob.checked (hChecks job hCurrent) }

----
-- Proven Steps
----

theorem emailProven_of_step {before after : Account} (hKept : CommitKept env ⟨w, some job⟩)
    (hBefore : before ∈ w.accounts.rows)
    (hAfter : after ∈ (job.world env draw w).accounts.find? before.id)
    (hEmail : after.email ≠ before.email) : EmailProven env ⟨w, some job⟩ before after := by
  have hJob := hKept.job job rfl
  rcases world_accounts hAfter with ⟨found, hFound, hCase⟩
  rw [find?_of_mem hBefore] at hFound
  cases hFound
  rcases hCase with
    rfl | ⟨new, loaded, events, hWrite, hId, rfl⟩
  · exact absurd rfl hEmail
  · rcases commits_of_email hWrite hEmail with ⟨hPc, hNew⟩
    have hStanding := hJob.standing
    have hChecked := hJob.checked
    rw [hPc] at hStanding hChecked
    have hOwn : before.id = w.row.account_id := hId.trans hChecked.1
    have hHeld := hChecked.2
    exact
      { own := hOwn
        source := by
          apply hHeld.source before
          rw [← hOwn]
          exact find?_of_mem hBefore
        target := by rw [hNew, hStanding.2.2.2, hJob.same.target_email]
        crossed := hStanding.1
        session := ⟨job, rfl, hStanding.2.2.1.session⟩
        free := by
          intro other hOther hDifferent
          rw [hOwn] at hDifferent
          exact hHeld.free other hOther hDifferent }

/- A row becomes done with proof only. -/
theorem doneProven_of_step (hKept : CommitKept env ⟨w, some job⟩)
    (hDone : (job.world env draw w).row.status = .done) (hBefore : w.row.status ≠ .done) :
    DoneProven env ⟨w, some job⟩ (job.world env draw w) := by
  have hJob := hKept.job job rfl
  cases hPatch : job.patch with
  | none =>
    rw [world_row hPatch] at hDone
    exact absurd hDone hBefore
  | some patch =>
    have hSound := patch_sound hJob.standing hPatch
    have hAccounts : (job.world env draw w).accounts = w.accounts := by
      unfold Job.world
      rw [effect_of_patch hPatch]
      split <;> rfl
    have hSame := sameChange_world env draw w job
    have hRow : (job.world env draw w).row = w.row.patched env patch := by
      unfold Job.world at hDone ⊢
      split at hDone
      · next hPlace => rw [if_pos hPlace, effect_of_patch hPatch]
      · exact absurd hDone hBefore
    have hStatus : patch.status = some .done := by
      rw [hRow] at hDone
      cases hGiven : patch.status with
      | none =>
        simp only [ChangeRow.patched, hGiven, getD_none] at hDone
        exact absurd hDone hBefore
      | some status =>
        simp only [ChangeRow.patched, hGiven, getD_some] at hDone
        rw [hDone]
    have hHeld : TargetHeld env w.accounts w.row job.run.task_id := by
      have hChecked := hJob.checked
      rcases job with ⟨run, pc⟩
      cases pc with
      | update first next =>
        cases hPatch
        exact hChecked.1 hStatus
      | closing first next =>
        cases hPatch
        exact hChecked.1 hStatus
      | _ => cases hPatch
    rcases hHeld with ⟨account, hFind, hEmail, hMarked⟩
    have hTimes := hSound.done hStatus
    have hMarker :
        ∃ marker ∈ account.extra.marker, PyText.strip marker.task_id = job.run.task_id := by
      unfold Account.markedBy at hMarked
      rw [decide_eq_true_eq] at hMarked
      cases hMarker : account.extra.marker with
      | none =>
        rw [hMarker] at hMarked
        exact absurd hMarked.symm hJob.task
      | some marker =>
        rw [hMarker] at hMarked
        exact ⟨marker, rfl, hMarked⟩
    rcases hMarker with ⟨marker, hHas, hTask⟩
    exact
      { account := by
          refine ⟨job, rfl, account, ?_, marker, hHas, ?_, hTask⟩
          · rw [hAccounts, hSame.account_id]
            exact hFind
          · rw [hSame.target_email]
            exact hEmail
        committed := by
          rw [hRow]
          change (patch.committed_at.or w.row.committed_at).isSome
          rw [isSome_or, hTimes.1]
          rfl
        finalized := by
          rw [hRow]
          change (patch.mailbox_finalized_at.or w.row.mailbox_finalized_at).isSome
          rw [isSome_or, hTimes.2]
          rfl
        logged := world_log _ (hSound.finalized hTimes.2) }

theorem proven_of_row (hNot : ∀ draw, op ≠ .step draw)
    (hRow : (step env s op).1.world.row = s.world.row) :
    CommitProven env s op where
  email := fun draw hOp => absurd hOp (hNot draw)
  done := by
    rw [hRow]
    intro hDone hBefore
    exact absurd hDone hBefore
  recorded := by
    rw [hRow]
    exact fun _ => rfl
  kept := by
    rw [hRow]
    exact SameChange.refl _

theorem step_proven (op : Op) (hKept : CommitKept env s) : CommitProven env s op := by
  rcases s with ⟨w, current⟩
  cases op with
  | start task_id =>
    apply proven_of_row (fun _ hOp => by cases hOp)
    cases current with
    | some job => rfl
    | none =>
      unfold step
      dsimp only
      split <;> rfl
  | step draw =>
    cases current with
    | none => exact
          { email := by
              intro _ _ before hBefore after hAfter hEmail
              rw [show (step env ⟨w, none⟩ (.step draw)).1.world.accounts = w.accounts from rfl,
                find?_of_mem hBefore] at hAfter
              cases hAfter
              exact absurd rfl hEmail
            done := fun hDone hBefore => absurd hDone hBefore
            recorded := fun _ => rfl
            kept := SameChange.refl _ }
    | some job => exact
          { email := by
              intro _ _ before hBefore after hAfter hEmail
              exact emailProven_of_step hKept hBefore hAfter hEmail
            done := doneProven_of_step hKept
            recorded := ids_world (hKept.job job rfl).standing
            kept := sameChange_world env draw w job }
  | edit account => exact proven_of_row (fun _ hOp => by cases hOp) rfl
  | remove account_id => exact proven_of_row (fun _ hOp => by cases hOp) rfl

theorem initial_commit (account_id : Nat) (source_email target_email : String)
    (mailbox_state : Option Mailbox) (remove_social_subs : Bool) (accounts : Accounts) :
    CommitKept env (State.initial
        (preparedRow account_id source_email target_email mailbox_state remove_social_subs)
        accounts) := by
  refine ⟨?_, ?_, ?_⟩
  · intro hCrossed
    cases hCrossed
  · intro hFinalized
    cases hFinalized
  · intro job hCurrent
    cases hCurrent

----
-- All Runs
----

/- In every sequence of runs of a prepared row in which nobody changes what a run has checked and
   relies on, every step is proven. -/
theorem local_commit_proven (env : Env) (account_id : Nat) (source_email target_email : String)
    (mailbox_state : Option Mailbox) (remove_social_subs : Bool) (accounts : Accounts)
    (ops : List Op) (hChecks : Machine.Steps (step env) (EditKeepsChecks env) (State.initial
          (preparedRow account_id source_email target_email mailbox_state remove_social_subs)
          accounts) ops) :
    Machine.Steps (step env) (CommitProven env)
      (State.initial
        (preparedRow account_id source_email target_email mailbox_state remove_social_subs)
        accounts)
      ops := by
  rw [steps_iff_forall_split]
  intro before op after hSplit
  rw [hSplit, steps_append] at hChecks
  have hKept := run_induction_of_steps (P := CommitKept env)
      (fun s op hKept hCheck => step_commit op hKept hCheck)
      (initial_commit account_id source_email target_email
        mailbox_state remove_social_subs accounts) hChecks.1
  exact step_proven op hKept

/- An environment for plain lower-case texts. -/
def plainEnv : Env where
  lower := id
  lower_strip := PyText.strip_strip
  sanitize_error_message := id
  valid_email := fun _ => true
  decode_jwt_payload := fun _ => { sub := "user-1", chatgpt_account_id := "account-1" }
  safe_mailbox_state := fun state _ => state
  mailbox_state_from_account := fun account => some { email := account.email }

/- An account whose e-mail is to be changed. -/
def sourceAccount : Account where
  id := 1
  email := "a@x.com"
  extra := { access_token := "t1", cookies := "c1" }

def sourceAccounts : Accounts where
  rows := [sourceAccount]
  keys_nodup := by decide

/- Every call is answered as it is hoped for. -/
def goodDraw : Draw where
  answer :=
    { identity := { email := "a@x.com", user_id := "user-1" }, eligible := true, success := true }
  me := some { identity := { email := "b@x.com", user_id := "user-1" } }
  code := "123456"
  mailbox := some { email := "b@x.com" }
  tokens := { access_token := "t2", session_token := "s2", cookie_header := "c2" }

def checkedOps : List Op := .start "task-1" :: List.replicate 25 (.step goodDraw)

/- A run that ends, with an edit before its commit that leaves the e-mail. -/
theorem local_commit_proven_done :
    Machine.Steps (step plainEnv) (CommitProven plainEnv)
        (State.initial (preparedRow 1 "a@x.com" "b@x.com" (some { email := "b@x.com" }) false)
          sourceAccounts)
        (checkedOps ++
          .edit { sourceAccount with password := "p" } :: List.replicate 8 (.step goodDraw)) ∧
      (runs plainEnv
          (preparedRow 1 "a@x.com" "b@x.com" (some { email := "b@x.com" }) false)
          sourceAccounts
          (checkedOps ++ .edit { sourceAccount with password := "p" } ::
              List.replicate 8 (.step goodDraw))).world.row.status =
        .done :=
  ⟨local_commit_proven plainEnv 1 "a@x.com" "b@x.com"
      (some { email := "b@x.com" }) false sourceAccounts _ (by decide +kernel), by decide +kernel⟩

/- Without the condition: the e-mail is edited between the
   check and the commit, and the commit overwrites it. -/
theorem local_commit_overtaken :
    ¬ ∀ (env : Env) (account_id : Nat)
        (source_email target_email : String)
        (mailbox_state : Option Mailbox)
        (remove_social_subs : Bool) (accounts : Accounts)
        (ops : List Op),
        Machine.Steps (step env) (CommitProven env)
          (State.initial
            (preparedRow account_id source_email target_email mailbox_state remove_social_subs)
            accounts)
          ops := by
  intro hAll
  have hSteps := hAll plainEnv 1 "a@x.com" "b@x.com"
      (some { email := "b@x.com" }) false sourceAccounts
      (checkedOps ++ [.edit { sourceAccount with email := "c@x.com" }, .step goodDraw])
  rw [steps_append] at hSteps
  have hStep := hSteps.2.2.1
  have hProven := hStep.email _ rfl
      { sourceAccount with email := "c@x.com" }
      (by decide +kernel)
      ({ sourceAccount with
          email := "b@x.com"
          token := "t2"
          user_id := "user-1"
          extra :=
            { access_token := "t2"
              session_token := "s2"
              cookies := "c2"
              cookie_header := "c2"
              account_id := "account-1"
              mailbox_state := some { email := "b@x.com" }
              marker := some
                  { task_id := "task-1", source_email := "a@x.com", target_email := "b@x.com" } } })
      (by decide +kernel) (by decide +kernel)
  exact absurd hProven.source (by decide +kernel)

end EmailChange
