import AutoGpt.LocalStatus.RefreshQueue

/-
  The generations of the refresh queue. A row is closed only
  by an attempt of its own generation or by a probe of its own
  revision, no worker changes the row of another generation,
  and generations do not decrease, at every commit that finds
  the row of the generation or revision that its session has
  looked at.

  Main theorems:
    * `LocalStatus.generations_fenced`
    * `LocalStatus.generations_mixed`
-/

open JobPool (Holds OnJob Op State pending? step)
open Option
open LocalStatus

----
-- Fences
----

namespace LocalStatus

/- A closed row that was open before, or of another generation. -/
def Closes (before : Option RefreshJob) (after : RefreshJob) :
    Prop :=
  after.state.terminal ∧
    ∀ row ∈ before, row.state ≠ after.state ∨ row.generation ≠ after.generation

/- What may close the row: an attempt that was claimed for its
   generation, or a probe of its revision. -/
def MayClose (s : QueueState) (row : RefreshJob) :
    QueueJob → Prop
| .updateWrite _ update _ => update.generation = row.generation ∧ row.generation ∈ s.claimed
| .reconcileWrite _ _ revision_hash _ _ => revision_hash = row.auth_revision_hash
| _ => False

/- A row that the outcome of the job is not about. -/
def Foreign (row : RefreshJob) : QueueJob → Prop
| .updateWrite _ update _ => row.generation ≠ update.generation
| .reconcileWrite _ _ revision_hash _ _ => row.auth_revision_hash ≠ revision_hash
| _ => False

/- What the queue promises of one step of a job. -/
structure StepFenced (s : QueueState) (draw : QueueDraw) (job : QueueJob) :
    Prop where
  closes : ∀ row ∈ (job.advance draw s).1.job, Closes s.job row → MayClose s row job
  foreign : ∀ row ∈ s.job, Foreign row job → (job.advance draw s).1.job = some row
  grows :
    ∀ before ∈ s.job, ∀ after ∈ (job.advance draw s).1.job, before.generation ≤ after.generation

/- What it promises of an operation; those that are no steps of jobs change nothing. -/
def Fences (st : State QueueState QueueJob) (op : QueueOp) :
    Prop :=
  OnJob refreshQueue (fun st draw job => StepFenced st.shared draw job) st op ∧
    ((∀ i draw, op ≠ .advance i draw) → (step refreshQueue st op).1.shared = st.shared)

/- The condition on a step: an update finds the row of its generation, a probe that of its revision,
   and an enqueue that begins a generation finds no newer one, and no row closed that it has read as
   pending. -/
def Current (st : State QueueState QueueJob) (_ : QueueDraw) : QueueJob → Prop
| .updateWrite _ update _ => ∀ row ∈ st.shared.job, row.generation = update.generation
| .reconcileWrite _ _ revision_hash _ _ =>
    ∀ row ∈ st.shared.job, row.auth_revision_hash = revision_hash
| .enqueueWrite _ account _ (some loaded) => ∀ row ∈ st.shared.job,
      loaded.nextGeneration account = loaded.generation ∨
      loaded.nextGeneration account = row.generation ∨
      (row.generation < loaded.nextGeneration account ∧
        (loaded.state = .pending → row.state.terminal = false))
| _ => True

instance
    (st : State QueueState QueueJob) (draw : QueueDraw) (job : QueueJob) :
    Decidable (Current st draw job) := by
  apply job.casesOn (motive := fun job => Decidable (Current st draw job))
  case enqueueWrite =>
    intro now account request loaded
    apply loaded.casesOn (motive := fun loaded =>
      Decidable (Current st draw (.enqueueWrite now account request loaded))) <;> intros <;>
      dsimp only [Current] <;> infer_instance
  all_goals
    intros
    dsimp only [Current]
    infer_instance

----
-- Claimed Attempts
----

/- The generation for which a worker has claimed an attempt. -/
def QueueJob.attempted : QueueJob → Option Nat
| .probing attempt => some attempt.generation
| .reconcileRead _ _ attempt => attempt.map Attempt.generation
| .reconcileWrite _ _ _ _ attempt => attempt.map Attempt.generation
| .updateRead update => some update.generation
| .updateWrite _ update _ => some update.generation
| _ => none

abbrev QueueJob.Logged (s : QueueState) (job : QueueJob) :
    Prop :=
  ∀ generation ∈ job.attempted, generation ∈ s.claimed

theorem attempted_startWorker (draw : QueueDraw) (generation : Nat) :
    (startWorker draw generation).attempted = none := by
  unfold startWorker
  split <;> rfl

theorem attempted_takePending (draw : QueueDraw) : (takePending draw).attempted = none := by
  unfold takePending
  split <;> rfl

theorem attempted_afterUpdate (draw : QueueDraw) (update : StateUpdate) :
    (afterUpdate draw update).attempted = none := by
  unfold afterUpdate
  split
  · rfl
  · exact attempted_takePending draw

theorem generation_storedUpdate (now : Nat) (outcome : String) (attempt : Attempt) :
    (storedUpdate now outcome attempt).generation = attempt.generation := by
  unfold storedUpdate
  split <;> rfl

theorem attempted_afterReconcile (now : Nat) (outcome : String) (attempt : Option Attempt) :
    (afterReconcile now outcome attempt).attempted = attempt.map Attempt.generation := by
  cases attempt with
  | none => rfl
  | some attempt => exact congrArg some (generation_storedUpdate now outcome attempt)

theorem claimed_subset (draw : QueueDraw) (s : QueueState) (job : QueueJob) :
    s.claimed ⊆ (job.advance draw s).1.claimed := by
  cases job with
  | claimWrite now generation loaded => exact List.subset_append_left _ _
  | enqueueWrite now account request loaded =>
    show s.claimed ⊆ (enqueueWrite draw now account request loaded s).1.claimed
    unfold enqueueWrite
    split <;> exact List.Subset.refl _
  | probing attempt =>
    dsimp only [QueueJob.advance]
    split <;> exact List.Subset.refl _
  | enqueueRead request => exact List.Subset.refl _
  | claimRead generation => exact List.Subset.refl _
  | reconcileRead outcome revision_hash attempt => exact List.Subset.refl _
  | reconcileWrite now outcome revision_hash loaded attempt => exact List.Subset.refl _
  | updateRead update => exact List.Subset.refl _
  | updateWrite now update loaded => exact List.Subset.refl _
  | recoverRead => exact List.Subset.refl _
  | recoverWrite now loaded => exact List.Subset.refl _
  | saveAccount account => exact List.Subset.refl _
  | finished => exact List.Subset.refl _

/- A step goes on with the attempt that it has, or with one that it has just claimed. -/
theorem logged_advance {draw : QueueDraw} {s : QueueState} {job : QueueJob}
    (hLogged : job.Logged s) : (job.advance draw s).2.Logged (job.advance draw s).1 := by
  have hNone : ∀ next : QueueJob, next.attempted = none → next.Logged (job.advance draw s).1 := by
    intro next hNext generation hMem
    rw [hNext] at hMem
    cases hMem
  have hSame : ∀ next : QueueJob, next.attempted = job.attempted →
        next.Logged (job.advance draw s).1 := by
    intro next hNext generation hMem
    rw [hNext] at hMem
    exact claimed_subset draw s job (hLogged generation hMem)
  cases job with
  | enqueueRead request =>
    apply hNone
    show (enqueueRead draw request s).attempted = none
    unfold enqueueRead
    split
    · rfl
    · split <;> rfl
  | enqueueWrite now account request loaded =>
    apply hNone
    show (enqueueWrite draw now account request loaded s).2.attempted = none
    unfold enqueueWrite
    split
    · exact attempted_startWorker _ _
    · exact attempted_startWorker _ _
    · rfl
  | claimRead generation =>
    apply hNone
    show (claimRead draw generation s).attempted = none
    unfold claimRead
    split
    · exact attempted_takePending draw
    · split
      · exact attempted_takePending draw
      · split <;> rfl
  | claimWrite now generation loaded =>
    intro other hMem
    rw [← some.inj hMem]
    exact List.mem_append_right _ (List.mem_singleton_self _)
  | probing attempt =>
    cases hProbe : draw.probe with
    | raised error =>
      have hNext : (QueueJob.advance draw s (.probing attempt)).2 =
            .updateRead (failedUpdate draw.now "probe_failed" error attempt) := by
        simp only [QueueJob.advance, hProbe]
      rw [hNext]
      exact hSame _ rfl
    | stored outcome revision_hash =>
      have hNext : (QueueJob.advance draw s (.probing attempt)).2 =
            .reconcileRead outcome revision_hash (some attempt) := by
        simp only [QueueJob.advance, hProbe]
      rw [hNext]
      exact hSame _ rfl
  | reconcileRead outcome revision_hash attempt =>
    apply hSame
    show (reconcileRead draw outcome revision_hash
        attempt s).attempted = attempt.map Attempt.generation
    unfold reconcileRead
    split
    · exact attempted_afterReconcile _ _ _
    · split
      · exact attempted_afterReconcile _ _ _
      · rfl
  | reconcileWrite now outcome revision_hash loaded attempt =>
    exact hSame _ (attempted_afterReconcile _ _ _)
  | updateRead update =>
    show (updateRead draw update s).Logged _
    unfold updateRead
    split
    · exact hNone _ (attempted_afterUpdate _ _)
    · split
      · exact hNone _ (attempted_afterUpdate _ _)
      · exact hSame _ rfl
  | updateWrite now update loaded => exact hNone _ (attempted_afterUpdate _ _)
  | recoverRead =>
    apply hNone
    show (recoverRead draw s).attempted = none
    unfold recoverRead
    split
    · rfl
    · split
      · rfl
      · split
        · split <;> rfl
        · split
          · rfl
          · exact attempted_startWorker _ _
  | recoverWrite now loaded => exact hNone _ (attempted_startWorker _ _)
  | saveAccount account => exact hNone _ rfl
  | finished => exact hNone _ rfl

theorem queueRun_logged (account : QueueAccount) (ops : List QueueOp) :
    ∀ job ∈ (queueRun account ops).jobs, job.Logged (queueRun account ops).shared := by
  have hHolds : Holds (fun _ : QueueState => True)
        (fun s job => QueueJob.Logged s job)
        (queueRun account ops) := by
    apply JobPool.run_holds_of_steps (C := fun _ _ _ => True)
    · intro s request _ generation hMem
      cases request <;> cases hMem
    · intro s _ generation hMem
      cases hMem
    · intro draw st job hHolds hJob _ _
      refine ⟨trivial, ?_, ?_⟩
      · exact logged_advance (hHolds.jobs job hJob)
      · intro other hMem generation hGeneration
        exact claimed_subset draw st.shared job (hHolds.jobs other hMem generation hGeneration)
    · refine ⟨trivial, ?_⟩
      intro job hMem
      cases hMem
    · apply (Machine.steps_iff_forall_split _ _).mpr
      intro before op after _
      exact JobPool.onJob_of_forall (fun _ _ => trivial) op
  exact hHolds.jobs

----
-- Steps
----

variable {s : QueueState} {draw : QueueDraw}

/- A column that a session has not changed. -/
@[simp] theorem written_self {α : Type} [DecidableEq α] (loaded current : α) :
    Column.written loaded loaded current = current :=
  if_pos rfl

theorem written_cases {α : Type} [DecidableEq α] (new loaded current : α) :
    (new = loaded ∧ Column.written new loaded current = current) ∨
      (new ≠ loaded ∧ Column.written new loaded current = new) := by
  by_cases hSame : new = loaded
  · exact .inl ⟨hSame, if_pos hSame⟩
  · exact .inr ⟨hSame, if_neg hSame⟩

theorem stepFenced_same (hSame : (job.advance draw s).1.job = s.job)
    (hForeign : ∀ row, ¬ Foreign row job) : StepFenced s draw job := by
  constructor
  · intro row hRow hCloses
    rw [hSame] at hRow
    rcases hCloses.2 row hRow with hState | hGeneration
    · exact absurd rfl hState
    · exact absurd rfl hGeneration
  · intro row _ hIs
    exact absurd hIs (hForeign row)
  · intro before hBefore after hAfter
    rw [hSame] at hAfter
    rw [some.inj (hBefore.symm.trans hAfter)]

/- A commit that writes no generation and closes the row only if it may. -/
theorem stepFenced_commit (new loaded : RefreshJob)
    (hStep : (job.advance draw s).1.job = s.job.map fun row => new.committed loaded row)
    (hGeneration : new.generation = loaded.generation)
    (hCloses : ∀ row ∈ s.job, new.state.terminal →
        new.state ≠ loaded.state → MayClose s (new.committed loaded row) job)
    (hForeign : ∀ row ∈ s.job, ¬ Foreign row job) : StepFenced s draw job := by
  have hKept : ∀ row : RefreshJob, (new.committed loaded row).generation = row.generation := by
    intro row
    simp [RefreshJob.committed, hGeneration]
  constructor
  · intro after hAfter hClosed
    rw [hStep] at hAfter
    rcases map_eq_some_iff.mp hAfter with ⟨row, hRow, hIs⟩
    rcases hClosed with ⟨hTerminal, hChanged⟩
    have hState : row.state ≠ after.state := by
      rcases hChanged row hRow with hState | hOther
      · exact hState
      · rw [← hIs, hKept] at hOther
        exact absurd rfl hOther
    rw [← hIs] at hState hTerminal ⊢
    rcases written_cases new.state loaded.state row.state with ⟨_, hWritten⟩ | ⟨hNe, hWritten⟩
    · exact absurd hWritten.symm hState
    · have hNew : new.state.terminal := by
        simp only [RefreshJob.committed, hWritten] at hTerminal
        exact hTerminal
      exact hCloses row hRow hNew hNe
  · intro row hRow hIs
    exact absurd hIs (hForeign row hRow)
  · intro before hBefore after hAfter
    rw [hStep, hBefore] at hAfter
    rw [← some.inj hAfter, hKept]

/- An enqueue that meets the condition. -/
theorem stepFenced_enqueueWrite (hCurrent :
      Current { shared := s, jobs := jobs } draw (.enqueueWrite now account request loaded)) :
    StepFenced s draw (.enqueueWrite now account request loaded) := by
  have hNoForeign : ∀ row, ¬ Foreign row (.enqueueWrite now account request loaded) :=
    fun _ hIs => hIs
  cases loaded with
  | none =>
    cases hJob : s.job with
    | some row =>
      apply stepFenced_same
      · simp only [QueueJob.advance, enqueueWrite, hJob]
      · exact hNoForeign
    | none =>
      have hStep : (QueueJob.advance draw s
            (.enqueueWrite now account request none)).1.job =
            some (enqueuedRow now account request (newRow account)) := by
        simp only [QueueJob.advance, enqueueWrite, hJob]
        rfl
      constructor
      · intro row hRow hCloses
        rw [hStep] at hRow
        rw [← some.inj hRow] at hCloses
        cases hCloses.1
      · intro row hRow
        rw [hJob] at hRow
        cases hRow
      · intro before hBefore
        rw [hJob] at hBefore
        cases hBefore
  | some loaded =>
    cases hJob : s.job with
    | none =>
      apply stepFenced_same
      · simp only [QueueJob.advance, enqueueWrite, hJob]
      · exact hNoForeign
    | some row =>
      have hStep : (QueueJob.advance draw s
            (.enqueueWrite now account request (some loaded))).1.job =
            some ((enqueuedRow now account request loaded).committed loaded row) := by
        simp only [QueueJob.advance, enqueueWrite, hJob]
        rfl
      have hState : ((enqueuedRow now account request
              loaded).committed loaded row).state = row.state ∨
            ((enqueuedRow now account request loaded).committed loaded row).state = .pending := by
        rcases written_cases JobState.pending loaded.state row.state with ⟨_, hIs⟩ | ⟨_, hIs⟩
        · exact .inl hIs
        · exact .inr hIs
      have hGeneration : ((enqueuedRow now account request
              loaded).committed loaded row).generation =
            Column.written (loaded.nextGeneration account) loaded.generation row.generation := rfl
      have hMay := hCurrent row hJob
      constructor
      · intro after hAfter hCloses
        rw [hStep] at hAfter
        rw [← some.inj hAfter] at hCloses
        rcases hCloses with ⟨hTerminal, hChanged⟩
        rcases hState with hSame | hPending
        · rcases hChanged row hJob with hNe | hNe
          · exact absurd hSame.symm hNe
          · rw [hGeneration] at hNe
            rcases written_cases (loaded.nextGeneration account)
                loaded.generation row.generation with
              ⟨_, hIs⟩ | ⟨hBump, hIs⟩
            · exact absurd hIs.symm hNe
            · rw [hIs] at hNe
              rcases hMay with hNo | hEq | ⟨_, hOpen⟩
              · exact absurd hNo hBump
              · exact absurd hEq.symm hNe
              · -- the state was left as it is
                rcases written_cases JobState.pending loaded.state row.state with
                  ⟨hLoaded, _⟩ | ⟨_, hWritten⟩
                · rw [hSame, hOpen hLoaded.symm] at hTerminal
                  cases hTerminal
                · have hIsPending : ((enqueuedRow now account request
                        loaded).committed loaded row).state = .pending := hWritten
                  rw [hIsPending] at hTerminal
                  cases hTerminal
        · rw [hPending] at hTerminal
          cases hTerminal
      · intro other _ hIs
        exact absurd hIs (hNoForeign other)
      · intro before hBefore after hAfter
        rw [hJob] at hBefore
        rw [hStep] at hAfter
        rw [← some.inj hBefore, ← some.inj hAfter, hGeneration]
        rcases written_cases (loaded.nextGeneration account) loaded.generation row.generation with
          ⟨_, hIs⟩ | ⟨hBump, hIs⟩
        · rw [hIs]
        · rw [hIs]
          rcases hMay with hNo | hEq | ⟨hLt, _⟩
          · exact absurd hNo hBump
          · exact Nat.le_of_eq hEq.symm
          · exact Nat.le_of_lt hLt

/- The step lemma. -/
theorem stepFenced_of_current (hLogged : job.Logged st.shared) (hCurrent : Current st draw job) :
    StepFenced st.shared draw job := by
  cases job with
  | enqueueRead request => exact stepFenced_same rfl fun _ hIs => hIs
  | enqueueWrite now account request loaded => exact stepFenced_enqueueWrite hCurrent
  | claimRead generation => exact stepFenced_same rfl fun _ hIs => hIs
  | claimWrite now generation loaded =>
    apply stepFenced_commit (claimedRow now loaded) loaded rfl rfl
    · intro row _ hTerminal
      cases hTerminal
    · intro row _ hIs
      exact hIs
  | probing attempt =>
    apply stepFenced_same
    · simp only [QueueJob.advance]
      split <;> rfl
    · intro row hIs
      exact hIs
  | reconcileRead outcome revision_hash attempt => exact stepFenced_same rfl fun _ hIs => hIs
  | reconcileWrite now outcome revision_hash loaded attempt =>
    have hKept : (reconciledRow now outcome loaded).generation = loaded.generation ∧
          (reconciledRow now outcome
              loaded).auth_revision_hash =
            loaded.auth_revision_hash := by
      unfold reconciledRow
      split
      · exact ⟨rfl, rfl⟩
      · split <;> exact ⟨rfl, rfl⟩
    apply stepFenced_commit (reconciledRow now outcome loaded) loaded rfl hKept.1
    · intro row hRow _ _
      have hHash := hCurrent row hRow
      simp [MayClose, RefreshJob.committed, hKept.2, hHash]
    · intro row hRow hIs
      exact hIs (hCurrent row hRow)
  | updateRead update => exact stepFenced_same rfl fun _ hIs => hIs
  | updateWrite now update loaded =>
    apply stepFenced_commit (update.row now loaded) loaded rfl rfl
    · intro row hRow _ _
      have hSame := hCurrent row hRow
      have hIn := hLogged update.generation rfl
      have hKept : ((update.row now loaded).committed loaded row).generation = row.generation := by
        simp [RefreshJob.committed, StateUpdate.row]
      constructor
      · rw [hKept, hSame]
      · rw [hKept, hSame]
        exact hIn
    · intro row hRow hIs
      exact hIs (hCurrent row hRow)
  | recoverRead => exact stepFenced_same rfl fun _ hIs => hIs
  | recoverWrite now loaded =>
    apply stepFenced_commit (recoveredRow now loaded) loaded rfl rfl
    · intro row _ hTerminal
      cases hTerminal
    · intro row _ hIs
      exact hIs
  | saveAccount account => exact stepFenced_same rfl fun _ hIs => hIs
  | finished => exact stepFenced_same rfl fun _ hIs => hIs

/- Every operation of a run whose steps meet the condition keeps the fences. -/
theorem generations_fenced (account : QueueAccount) (ops : List QueueOp) (op : QueueOp)
    (hSteps : Machine.Steps (step refreshQueue) (OnJob refreshQueue Current)
        { shared := { account := account } } (ops ++ [op])) :
    Fences (queueRun account ops) op := by
  have hStep := (Machine.steps_iff_forall_split _ _).mp hSteps ops op [] (by simp)
  constructor
  · unfold OnJob at hStep ⊢
    split
    · next i draw =>
        simp only at hStep
        cases hJob : pending? refreshQueue (queueRun account ops) i with
        | none => exact trivial
        | some job =>
          rw [hJob] at hStep
          have hMem := (JobPool.mem_of_pending? hJob).1
          exact stepFenced_of_current (queueRun_logged account ops job hMem) hStep
    · exact trivial
  · intro hOther
    rcases JobPool.step_advance_cases refreshQueue (queueRun account ops) op with
      hSame | ⟨i, draw, _, hIs, _⟩
    · exact hSame
    · exact absurd hIs (hOther i draw)

----
-- Mixed Generations
----

def accountOf (revision_hash : String) : QueueAccount where
  email := "a@example.com"
  created_at := "2024-01-01"
  revision_hash := revision_hash

def stepsOf (i : Nat) (draws : List QueueDraw) : List QueueOp := draws.map (Op.advance i)

/- The end of a probe that has confirmed a plan. -/
def confirmedBy (revision_hash : String) : QueueDraw where
  probe := .stored "confirmed" revision_hash

/- A request whose worker has claimed an attempt and probed, up to the read of its update. -/
def workedUntilUpdate : List QueueOp :=
  .arrive (.enqueue {}) :: stepsOf 0 [{}, {}, {}, {}, confirmedBy "r1", {}, {}]

/- New credentials and a request for them. -/
def savedAndRequested (i : Nat) (revision_hash : String) :
    List QueueOp :=
  .arrive (.save (accountOf revision_hash)) ::
    stepsOf i [{}] ++ .arrive (.enqueue {}) :: stepsOf (i + 1) [{}, {}]

theorem generations_fenced_update :
    Fences (queueRun (accountOf "r1") workedUntilUpdate) (.advance 0 {}) :=
  generations_fenced (accountOf "r1") workedUntilUpdate (.advance 0 {}) (by decide +kernel)

/- A step by which an update closes the row of another generation, or a generation shrinks. -/
def breaksFence (draw : QueueDraw) (s : QueueState) (job : QueueJob) :
    Bool :=
  match s.job, (job.advance draw s).1.job with
  | some before, some after => decide (after.generation < before.generation) ||
        (after.state.terminal &&
          decide (before.state ≠ after.state) &&
          match job with
          | .updateWrite _ update _ => decide (update.generation ≠ after.generation)
          | _ => false)
  | _, _ => false

theorem not_fences
    (hBreaks : (pending? refreshQueue st i).any (breaksFence draw st.shared)) :
    ¬ Fences st (.advance i draw) := by
  intro hFences
  have hStep := hFences.1
  simp only [OnJob] at hStep
  cases hJob : pending? refreshQueue st i with
  | none =>
    rw [hJob] at hBreaks
    cases hBreaks
  | some job =>
    rw [hJob] at hBreaks hStep
    have hBroken : breaksFence draw st.shared job := hBreaks
    unfold breaksFence at hBroken
    split at hBroken
    · next before after hBefore hAfter =>
        rcases Bool.or_eq_true_iff.mp hBroken with hShrinks | hCloses
        · have hLe := hStep.grows before hBefore after hAfter
          have hLt := of_decide_eq_true hShrinks
          omega
        · simp only [Bool.and_eq_true, decide_eq_true_eq] at hCloses
          rcases hCloses with ⟨⟨hTerminal, hState⟩, hOther⟩
          split at hOther
          · next now update loaded =>
              have hMay := hStep.closes after hAfter
                  ⟨hTerminal, by
                    intro row hRow
                    rw [hBefore] at hRow
                    rw [← some.inj hRow]
                    exact .inl hState⟩
              exact of_decide_eq_true hOther hMay.1
          · cases hOther
    · cases hBroken

/- The worker of the first generation closes the row of the second one, which was enqueued between
   its read and its commit; and an enqueue sets the generation back that two others have raised
   since its read. -/
theorem generations_mixed :
    ¬ Fences (queueRun (accountOf "r1") (workedUntilUpdate ++ savedAndRequested 1 "r2"))
        (.advance 0 {}) ∧ ¬ Fences (queueRun (accountOf "r1")
          (.arrive (.enqueue {}) :: stepsOf 0 [{}, {}] ++
            (.arrive (.save (accountOf "r2")) :: stepsOf 1 [{}]) ++
            (.arrive (.enqueue {}) :: stepsOf 2 [{}]) ++ savedAndRequested 3 "r3" ++
            savedAndRequested 5 "r4")) (.advance 2 {}) :=
  ⟨not_fences (by decide +kernel), not_fences (by decide +kernel)⟩

end LocalStatus
