import AutoGpt.LocalStatus.RefreshQueue

/-
  The attempts of the refresh queue. No generation has more
  attempts than its row allows, at every commit that finds
  the row with the attempts that its session has counted and
  at every claim that finds one left. A recovery scan selects
  every open row without a worker once its time has come, or
  a full batch of rows that come before it.

  Main theorems:
    * `LocalStatus.attempts_bounded`
    * `LocalStatus.attempts_exceeded`
    * `LocalStatus.pickedUp`
-/

open JobPool (Holds OnJob Op State step)
open List
open Option

----
-- Bounds
----

namespace LocalStatus

/- No generation has more attempts than rows allow. -/
structure AttemptsBounded (s : QueueState) : Prop where
  claimed : ∀ generation, s.claimed.count generation ≤ autoMaxAttempts
  allowed : ∀ row ∈ s.job, row.max_attempts = autoMaxAttempts

/- The time from which on a recovery scan takes a row. -/
def RefreshJob.dueAt (job : RefreshJob) : Nat :=
  if job.state = .running then job.updated_at_ts + 180
  else job.next_attempt_at_ts

/- An open row that a scan takes before another one. -/
def RefreshJob.before (row job : RefreshJob) : Bool := !job.state.terminal &&
    decide (job.next_attempt_at_ts ≤ row.next_attempt_at_ts) &&
    decide (job ≠ row)

/- What the queue promises of recovery: a scan of any table that has the row, at any time after it
   is due, without a worker of the account, starts one for it, or its batch is full of rows that
   come before it. -/
def PickedUp (row : RefreshJob) : Prop := row.state.terminal = false →
    ∀ (now : Nat) (inFlight : RefreshJob → Bool) (rows : List RefreshJob), row ∈ rows →
      row.dueAt ≤ now → (∀ job, job.account_email = row.account_email → inFlight job = false) →
      100 ≤ rows.countP row.before ∨ ∃ resumed ∈ resumeDue now inFlight rows,
          resumed.account_email = row.account_email ∧ resumed.generation = row.generation

/- The condition on a step: a claim finds the row of its generation, without attempts that it has
   not counted and with one left; an update or a reconciliation sets no smaller count; and an
   enqueue begins a generation from the row that it has read, or from one whose attempts it does not
   reset. -/
def Counted (st : State QueueState QueueJob) (_ : QueueDraw) : QueueJob → Prop
| .claimWrite _ generation loaded => st.shared.job.any fun row =>
      decide (row.generation = generation) &&
        decide (row.attempt_count ≤ loaded.attempt_count) &&
        decide (loaded.attempt_count < row.max_attempts)
| .updateWrite _ update loaded => ∀ row ∈ st.shared.job,
      update.attempt_count = loaded.attempt_count ∨ row.attempt_count ≤ update.attempt_count
| .reconcileWrite _ _ _ loaded _ =>
    ∀ row ∈ st.shared.job, loaded.attempt_count ≠ 0 ∨ row.attempt_count ≤ 1
| .enqueueWrite _ account _ (some loaded) => ∀ row ∈ st.shared.job,
      loaded.nextGeneration account = loaded.generation ∨
      row.generation = loaded.generation ∨
      (row.generation = loaded.generation + 1 ∧ (loaded.attempt_count = 0 ∨ row.attempt_count = 0))
| _ => True

instance
    (st : State QueueState QueueJob) (draw : QueueDraw) (job : QueueJob) :
    Decidable (Counted st draw job) := by
  unfold Counted
  split <;> infer_instance

----
-- Recovery Scans
----

/- A member of a sorted list is in its first part, or that part has come before it. -/
theorem mem_take_or_countP {α : Type} [DecidableEq α] {r : α → α → Prop} [DecidableRel r]
    {l : List α} {a : α} (hSorted : l.Pairwise r) (hMem : a ∈ l) :
    a ∈ l.take n ∨ n ≤ l.countP fun b => decide (r b a) && decide (b ≠ a) := by
  by_cases hIn : a ∈ l.take n
  · exact .inl hIn
  · right
    rw [← take_append_drop n l] at hSorted hMem
    have hDrop : a ∈ l.drop n := (mem_append.mp hMem).resolve_left hIn
    have hBefore : ∀ b ∈ l.take n, (decide (r b a) && decide (b ≠ a)) := by
      intro b hB
      have hLe := (pairwise_append.mp hSorted).2.2 b hB a hDrop
      have hNe : b ≠ a := by
        intro hIs
        rw [hIs] at hB
        exact hIn hB
      simp [hLe, hNe]
    have hLong : n ≤ l.length := by
      by_contra hShort
      have hNone : l.drop n = [] := drop_eq_nil_of_le (by omega)
      rw [hNone] at hDrop
      cases hDrop
    have hAll : (l.take n).countP (fun b => decide (r b a) && decide (b ≠ a)) = n := by
      rw [countP_eq_length.mpr hBefore, length_take]
      omega
    calc
      n = (l.take n).countP _ := hAll.symm
      _ ≤ l.countP _ := (take_sublist n l).countP_le

/- A row is in the batch of a scan, or the batch is full of rows that come before it. -/
theorem mem_openRows {rows : List RefreshJob} {row : RefreshJob} (hMem : row ∈ rows)
    (hOpen : row.state.terminal = false) : row ∈ openRows rows ∨ 100 ≤ rows.countP row.before := by
  let le : RefreshJob → RefreshJob → Prop := fun a b => a.next_attempt_at_ts ≤ b.next_attempt_at_ts
  let opens := rows.filter fun job => !job.state.terminal
  have hSorted : (opens.insertionSort le).Pairwise le := by
    have hTotal : Std.Total le := ⟨fun a b => Nat.le_total _ _⟩
    have hTrans : IsTrans RefreshJob le := ⟨fun _ _ _ hAB hBC => Nat.le_trans hAB hBC⟩
    exact pairwise_insertionSort le opens
  have hSortedMem : row ∈ opens.insertionSort le := by
    apply (perm_insertionSort le opens).mem_iff.mpr
    exact mem_filter.mpr ⟨hMem, by simp [hOpen]⟩
  rcases mem_take_or_countP (n := 100) hSorted hSortedMem with hIn | hFull
  · exact .inl hIn
  · right
    rw [(perm_insertionSort le opens).countP_eq, countP_filter] at hFull
    have hSame : (fun job : RefreshJob =>
          (decide (le job row) && decide (job ≠ row)) && !job.state.terminal) =
          row.before := by
      funext job
      simp only [RefreshJob.before, le]
      cases job.state.terminal <;> simp
    rw [hSame] at hFull
    exact hFull

theorem resumeRow_of_due {now : Nat} {row : RefreshJob} (hDue : row.dueAt ≤ now) :
    ∃ resumed, resumeRow now row = some resumed ∧ resumed.account_email = row.account_email ∧
        resumed.generation = row.generation := by
  unfold RefreshJob.dueAt at hDue
  unfold resumeRow RefreshJob.staleRunning
  split at hDue
  · next hRunning => exact ⟨recoveredRow now row, by simp [hRunning, hDue], rfl, rfl⟩
  · next hOther =>
      refine ⟨row, ?_, rfl, rfl⟩
      rw [if_neg hOther, if_neg (by omega)]

theorem pickedUp (row : RefreshJob) : PickedUp row := by
  intro hOpen now inFlight rows hMem hDue hFree
  rcases mem_openRows hMem hOpen with hIn | hFull
  · rcases resumeRow_of_due hDue with
      ⟨resumed, hResumed, hEmail, hGeneration⟩
    right
    refine ⟨resumed, ?_, hEmail, hGeneration⟩
    apply mem_filter.mpr
    constructor
    · exact mem_filterMap.mpr ⟨row, hIn, hResumed⟩
    · rw [hFree resumed hEmail]
      rfl
  · exact .inl hFull

----
-- Counts
----

/- The invariant: the row has counted the attempts of its generation, and no later generation has
   any. -/
structure AttemptsCounted (s : QueueState) : Prop where
  bounded : AttemptsBounded s
  counted : ∀ row ∈ s.job, s.claimed.count row.generation ≤ row.attempt_count
  newest : ∀ row ∈ s.job, ∀ generation, row.generation < generation → s.claimed.count generation = 0
  start : s.job = none → s.claimed = []

/- A commit that leaves the generation and does not count less. -/
theorem AttemptsCounted.commit (hCounted : AttemptsCounted s) (new loaded : RefreshJob)
    (hGeneration : new.generation = loaded.generation)
    (hAllowed : new.max_attempts = loaded.max_attempts) (hCount : ∀ row ∈ s.job,
        new.attempt_count = loaded.attempt_count ∨ row.attempt_count ≤ new.attempt_count) :
    AttemptsCounted (commitRow new loaded s) := by
  have hKept : ∀ row : RefreshJob, (new.committed loaded row).generation = row.generation := by
    intro row
    simp [RefreshJob.committed, hGeneration, Column.written]
  constructor
  · refine ⟨hCounted.bounded.claimed, ?_⟩
    intro after hAfter
    rcases map_eq_some_iff.mp hAfter with ⟨row, hRow, hIs⟩
    rw [← hIs]
    simp only [RefreshJob.committed, hAllowed, Column.written, if_true]
    exact hCounted.bounded.allowed row hRow
  · intro after hAfter
    rcases map_eq_some_iff.mp hAfter with ⟨row, hRow, hIs⟩
    have hBefore := hCounted.counted row hRow
    rw [← hIs, hKept]
    show s.claimed.count row.generation ≤
      Column.written new.attempt_count loaded.attempt_count row.attempt_count
    unfold Column.written
    split
    · exact hBefore
    · next hNe =>
        rcases hCount row hRow with hSame | hLe
        · exact absurd hSame hNe
        · omega
  · intro after hAfter generation hLt
    rcases map_eq_some_iff.mp hAfter with ⟨row, hRow, hIs⟩
    rw [← hIs, hKept] at hLt
    exact hCounted.newest row hRow generation hLt
  · intro hNone
    exact hCounted.start (map_eq_none_iff.mp hNone)

/- A claim that finds an attempt left. -/
theorem AttemptsCounted.claim (hCounted : AttemptsCounted s)
    (hRow : s.job = some row) (hGeneration : row.generation = generation)
    (hCount : row.attempt_count ≤ loaded.attempt_count)
    (hLeft : loaded.attempt_count < row.max_attempts) :
    AttemptsCounted
      { commitRow (claimedRow now loaded) loaded s with claimed := s.claimed ++ [generation] } := by
  have hBefore := hCounted.counted row hRow
  have hAllowed := hCounted.bounded.allowed row hRow
  rw [hGeneration] at hBefore
  have hOne : ∀ other, (s.claimed ++ [generation]).count other =
          s.claimed.count other + if generation = other then 1 else 0 := by
    intro other
    rw [count_append, count_singleton]
    by_cases hSame : generation = other
    · simp [hSame]
    · simp [hSame]
  have hAfter : ∀ after, (commitRow (claimedRow now loaded) loaded s).job = some after →
          after.generation = generation ∧ after.attempt_count = loaded.attempt_count + 1 ∧
            after.max_attempts = row.max_attempts := by
    intro after hIs
    simp only [commitRow, hRow, map_some] at hIs
    rw [← some.inj hIs]
    simp [RefreshJob.committed, claimedRow, Column.written, hGeneration]
  constructor
  · constructor
    · intro other
      have hOld := hCounted.bounded.claimed other
      rw [hOne other]
      split
      · next hSame =>
          rw [← hSame]
          omega
      · omega
    · intro after hIs
      rw [(hAfter after hIs).2.2]
      exact hAllowed
  · intro after hIs
    rw [(hAfter after hIs).1, (hAfter after hIs).2.1, hOne generation, if_pos rfl]
    omega
  · intro after hIs other hLt
    rw [(hAfter after hIs).1] at hLt
    rw [hOne other, if_neg (by omega)]
    exact hCounted.newest row hRow other (by rw [hGeneration]; exact hLt)
  · intro hNone
    simp only [commitRow, hRow, map_some] at hNone
    cases hNone

/- The generation of an enqueue, by what it does to the attempts. -/
theorem nextGeneration_cases (account : QueueAccount) (job : RefreshJob) :
    (job.resets account = false ∧ job.nextGeneration account = job.generation) ∨
      (job.resets account ∧ job.nextGeneration account = job.generation + 1) := by
  unfold RefreshJob.nextGeneration
  cases job.resets account with
  | false => exact .inl ⟨rfl, rfl⟩
  | true =>
    right
    refine ⟨rfl, ?_⟩
    rw [if_pos rfl]
    omega

theorem AttemptsCounted.insert (hCounted : AttemptsCounted s) (hNone : s.job = none) :
    AttemptsCounted { s with job := some (enqueuedRow now account request (newRow account)) } := by
  have hEmpty := hCounted.start hNone
  constructor
  · refine ⟨hCounted.bounded.claimed, ?_⟩
    intro row hRow
    rw [← some.inj hRow]
    rfl
  · intro row _
    rw [hEmpty]
    exact Nat.zero_le _
  · intro row _ generation _
    rw [hEmpty]
    rfl
  · intro hIs
    cases hIs

/- An enqueue of a row that is there. -/
theorem AttemptsCounted.enqueue (hCounted : AttemptsCounted s) (hRow : s.job = some row)
    (hNext : loaded.nextGeneration account = loaded.generation ∨
      row.generation = loaded.generation ∨ (row.generation = loaded.generation + 1 ∧
        (loaded.attempt_count = 0 ∨ row.attempt_count = 0))) :
    AttemptsCounted
      { s with job := some ((enqueuedRow now account request loaded).committed loaded row) } := by
  have hBefore := hCounted.counted row hRow
  have hNewest := hCounted.newest row hRow
  have hAllowed := hCounted.bounded.allowed row hRow
  let after := (enqueuedRow now account request loaded).committed loaded row
  have hGeneration : after.generation =
        Column.written (loaded.nextGeneration account) loaded.generation row.generation := rfl
  have hAttempts : after.attempt_count = Column.written
          (if loaded.resets account then 0
            else loaded.attempt_count)
          loaded.attempt_count row.attempt_count := rfl
  -- the row has counted its attempts, whichever it now is
  have hCount : s.claimed.count after.generation ≤ after.attempt_count ∧
        row.generation ≤ after.generation := by
    rw [hGeneration, hAttempts]
    rcases nextGeneration_cases account loaded with ⟨hKeeps, hSame⟩ | ⟨hResets, hBump⟩
    · simp only [hSame, hKeeps, Column.written, if_true, Bool.false_eq_true, if_false]
      exact ⟨hBefore, le_rfl⟩
    · have hNe : loaded.generation + 1 ≠ loaded.generation := by
        omega
      simp only [hBump, hResets, Column.written, if_neg hNe, if_true]
      rcases hNext with hNo | hOld | ⟨hNew, hZero⟩
      · omega
      · rw [hNewest _ (by omega)]
        exact ⟨Nat.zero_le _, by omega⟩
      · rw [hNew] at hBefore
        refine ⟨?_, by omega⟩
        split
        · exact hBefore
        · next hLoaded =>
            rcases hZero with hLoadedZero | hRowZero
            · exact absurd hLoadedZero.symm hLoaded
            · omega
  constructor
  · refine ⟨hCounted.bounded.claimed, ?_⟩
    intro other hOther
    rw [← some.inj hOther]
    show Column.written autoMaxAttempts loaded.max_attempts row.max_attempts = autoMaxAttempts
    unfold Column.written
    split
    · exact hAllowed
    · rfl
  · intro other hOther
    rw [← some.inj hOther]
    exact hCount.1
  · intro other hOther generation hLt
    rw [← some.inj hOther] at hLt
    exact hNewest generation (Nat.lt_of_le_of_lt hCount.2 hLt)
  · intro hIs
    cases hIs

----
-- Runs
----

theorem attemptsCounted_enqueueWrite {loaded : Option RefreshJob}
    (hCounted : AttemptsCounted s) (hCondition :
      Counted { shared := s, jobs := jobs } draw (.enqueueWrite now account request loaded)) :
    AttemptsCounted (enqueueWrite draw now account request loaded s).1 := by
  cases loaded with
  | none =>
    cases hJob : s.job with
    | none =>
      simp only [enqueueWrite, hJob]
      exact hCounted.insert hJob
    | some row =>
      simp only [enqueueWrite, hJob]
      exact hCounted
  | some loaded =>
    cases hJob : s.job with
    | none =>
      simp only [enqueueWrite, hJob]
      exact hCounted
    | some row =>
      simp only [enqueueWrite, hJob]
      exact hCounted.enqueue hJob (hCondition row hJob)

/- The step lemma. -/
theorem attemptsCounted_advance
    (hCounted : AttemptsCounted st.shared) (hCondition : Counted st draw job) :
    AttemptsCounted (job.advance draw st.shared).1 := by
  cases job with
  | enqueueRead request => exact hCounted
  | enqueueWrite now account request loaded =>
    exact attemptsCounted_enqueueWrite hCounted hCondition
  | claimRead generation => exact hCounted
  | claimWrite now generation loaded =>
    rcases (any_eq_true _ _).mp hCondition with ⟨row, hRow, hLeft⟩
    simp only [Bool.and_eq_true, decide_eq_true_eq] at hLeft
    rcases hLeft with ⟨⟨hGeneration, hCount⟩, hLeft⟩
    exact hCounted.claim hRow hGeneration hCount hLeft
  | probing attempt =>
    simp only [QueueJob.advance]
    split <;> exact hCounted
  | reconcileRead outcome revision_hash attempt => exact hCounted
  | reconcileWrite now outcome revision_hash loaded attempt =>
    have hNew : (reconciledRow now outcome loaded).generation = loaded.generation ∧
          (reconciledRow now outcome loaded).max_attempts = loaded.max_attempts ∧
          (reconciledRow now outcome loaded).attempt_count = max 1 loaded.attempt_count := by
      unfold reconciledRow
      split
      · exact ⟨rfl, rfl, rfl⟩
      · split <;> exact ⟨rfl, rfl, rfl⟩
    apply hCounted.commit _ _ hNew.1 hNew.2.1
    intro row hRow
    rw [hNew.2.2]
    rcases hCondition row hRow with hSome | hFew
    · left
      omega
    · right
      omega
  | updateRead update => exact hCounted
  | updateWrite now update loaded => exact hCounted.commit _ _ rfl rfl hCondition
  | recoverRead => exact hCounted
  | recoverWrite now loaded =>
    apply hCounted.commit (recoveredRow now loaded) loaded rfl rfl
    intro row _
    exact .inl rfl
  | saveAccount account => exact ⟨⟨hCounted.bounded.claimed, hCounted.bounded.allowed⟩,
          hCounted.counted, hCounted.newest, hCounted.start⟩
  | finished => exact hCounted

/- In every state of a run whose steps meet the condition no generation has had too many attempts,
   and recovery selects the row if it is open. -/
theorem attempts_bounded (account : QueueAccount) (ops : List QueueOp)
    (hSteps : Machine.Steps (step refreshQueue) (OnJob refreshQueue Counted)
        { shared := { account := account } } ops) :
    AttemptsBounded (queueRun account ops).shared ∧
      ∀ row ∈ (queueRun account ops).shared.job, PickedUp row := by
  have hHolds : Holds AttemptsCounted (fun _ _ => True) (queueRun account ops) := by
    apply JobPool.run_holds_of_steps (C := Counted)
    · intro s request _
      exact trivial
    · intro s _
      exact trivial
    · intro draw st job hHolds _ _ hCondition
      exact ⟨attemptsCounted_advance hHolds.shared hCondition, trivial, fun _ _ => trivial⟩
    · refine ⟨⟨⟨?_, ?_⟩, ?_, ?_, ?_⟩, ?_⟩
      · intro generation
        exact Nat.zero_le _
      · intro row hRow
        cases hRow
      · intro row hRow
        cases hRow
      · intro row hRow
        cases hRow
      · intro _
        rfl
      · intro job hMem
        cases hMem
    · exact hSteps
  exact ⟨hHolds.shared.bounded, fun row _ => pickedUp row⟩

/- The five steps in which a worker claims an attempt for a
   row that is due, probes in vain and stores that. -/
def failedAttempt (i now : Nat) : List QueueOp :=
  (List.replicate 5 ({ now := now } : QueueDraw)).map (Op.advance i)

def threeAttempts : List QueueOp := .arrive (.enqueue {}) ::
    (List.replicate 2 ({} : QueueDraw)).map (Op.advance 0) ++
      failedAttempt 0 0 ++ failedAttempt 0 100 ++
      (List.replicate 2 ({ now := 200 } : QueueDraw)).map (Op.advance 0)

theorem attempts_bounded_three :
    AttemptsBounded
        (queueRun { email := "a@example.com", created_at := "2024-01-01", revision_hash := "r1" }
          threeAttempts).shared ∧
      ∀ row ∈ (queueRun
            { email := "a@example.com", created_at := "2024-01-01", revision_hash := "r1" }
            threeAttempts).shared.job,
        PickedUp row :=
  attempts_bounded _ threeAttempts (by decide +kernel)

/- The process dies in the third attempt; the recovery scan that finds the row stale starts a worker
   that claims a fourth one. -/
theorem attempts_exceeded :
    ¬ AttemptsBounded (queueRun
          { email := "a@example.com", created_at := "2024-01-01", revision_hash := "r1" }
          (threeAttempts ++ [.restart, .arrive .recover] ++ (List.replicate 4
              ({ now := 400 } : QueueDraw)).map (Op.advance 0))).shared := by
  intro hBounded
  exact absurd (hBounded.claimed 1) (by decide +kernel)

end LocalStatus
