import AutoGpt.DomainRotation.Filling

/-
  The end of a task: the item is retried, or it is over and
  perhaps its group with it, and then the slots are refilled.
  A task that reported progress is never replayed.

  Main theorems:
    * `DomainRotation.endTechnical_reaches`
    * `DomainRotation.endTask_reaches`
    * `DomainRotation.requeue_moves`
-/

----
-- Scheduling A Retry
----

namespace DomainRotation

/- What a task may be retried for: it held a slot of a running group, and it had no progress. -/
structure Retryable (item : Item) (s : Locked) : Prop where
  running : s.snapshot.state = .running
  found : s.item? item.position = some item
  live : item.state.isLive
  fresh : item.quality.hasProgress = false
  unlinked : ∀ link ∈ s.links, link.position ≠ item.position

theorem ItemState.not_queued_of_isLive {state : ItemState} (hLive : state.isLive) :
    state.isQueued = false := by
  by_contra hNot
  have hQueued := Bool.eq_true_of_not_eq_false hNot
  unfold isQueued at hQueued
  rw [Bool.or_eq_true, decide_eq_true_eq, decide_eq_true_eq] at hQueued
  rcases hQueued with hPending | hWait
  · rw [hPending] at hLive
    cases hLive
  · rw [hWait] at hLive
    cases hLive

theorem recordTechnicalFailure_settles (item : Item) (task_id code label error : String)
    (now : Nat) (s : Locked) :
    Settles s (recordTechnicalFailure item task_id code label error now s).1 :=
  ⟨⟨⟨rfl, rfl, rfl, rfl⟩, rfl, rfl, fun _ h => h,
    KeyedTable.Related.refl ItemKept.refl _, id, fun _ => rfl,
    id, id, fun _ => id⟩, LiveKept.of_items rfl⟩

/- An item below its limit goes to wait for a retry. -/
theorem retryWait_moves (env : Env) (code label error : String) (hSafe : s.Safe)
    (hRetryable : Retryable item s)
    (hBelow : item.retry_count < s.snapshot.policy.technical_retry_limit) :
    MovesItem item.position item
      (retryWaitItem code label error s.snapshot.policy.technical_retry_limit) (fun _ => rfl) s
      (persist env (s.edit item.position
          (retryWaitItem code label error s.snapshot.policy.technical_retry_limit)
          (fun _ => rfl))) := by
  have hFound := hRetryable.found
  have hSlot := ItemState.isSlot_of_isLive hRetryable.live
  have hSound := hSafe.sound.items item (KeyedTable.mem_of_find? hFound).1
  constructor
  · rfl
  · rfl
  · rfl
  · rfl
  · exact hRetryable.running
  · exact hFound
  · rw [Item.isSpent_eq_false_iff]
    exact ⟨ItemState.isOpen_of_isSlot hSlot, hRetryable.fresh⟩
  · exact hRetryable.unlinked
  · exact fun _ => rfl
  · rfl
  · exact ⟨[], by rw [List.append_nil]; rfl, by simp⟩
  · have hCount : stateCount ItemState.isSlot
              (s.edit item.position
                (retryWaitItem code label error s.snapshot.policy.technical_retry_limit)
                (fun _ => rfl)).items +
            (if item.state.isSlot then 1 else 0) =
          stateCount ItemState.isSlot s.items + 1 :=
      stateCount_edit ItemState.isSlot hFound
    rw [hSlot, if_pos rfl] at hCount
    have hSlots := hSafe.sound.slots
    change stateCount ItemState.isSlot (s.edit item.position
            (retryWaitItem code label error s.snapshot.policy.technical_retry_limit)
            (fun _ => rfl)).items ≤ _
    have hSame := Nat.add_right_cancel hCount
    rw [hSame]
    exact hSlots
  · exact hBelow
  · have hStarts := hSound.starts
    rw [ItemState.not_queued_of_isLive hRetryable.live] at hStarts
    change startsAt item.position s.made + 1 ≤ item.retry_count + 1 + 1
    simp only [Bool.false_eq_true, if_false] at hStarts
    omega
  · have hNotEnded : s.snapshot.state.isTerminal = false := by
      rw [hRetryable.running]
      rfl
    exact clean_persist (s := s.edit item.position
            (retryWaitItem code label error s.snapshot.policy.technical_retry_limit) (fun _ => rfl))
        hNotEnded

/- The item waits for its retry, or it is over. -/
theorem scheduleTechnicalRetry_reaches (env : Env) (task_id code label error : String)
    (now : Nat) (scheduleError : Option String) (hSafe : s.Safe) (hRetryable : Retryable item s) :
    Reaches s (scheduleTechnicalRetry env item task_id code label error now scheduleError s) ∧
      ∀ later, (scheduleTechnicalRetry env item task_id code label
            error now scheduleError s).item? item.position = some later →
        later.state = .retry_wait ∨ later.state.isOpen = false := by
  let recorded := (recordTechnicalFailure item task_id code label error now s).1
  have hRecorded : Reaches s recorded :=
    (recordTechnicalFailure_settles item task_id code label error now s).reaches hSafe
  have hStill : Retryable item recorded :=
    ⟨hRetryable.running, hRetryable.found, hRetryable.live, hRetryable.fresh, hRetryable.unlinked⟩
  have hOpen : recorded.snapshot.state.isTerminal = false := by
    change s.snapshot.state.isTerminal = false
    rw [hRetryable.running]
    rfl
  have hFails : ∀ (t : Locked) (failed : Item) (f : Item → Item)
        (hPosition : ∀ item, (f item).position = item.position)
        (reasonCode reason : String),
        Reaches s t → t.snapshot.state.isTerminal = false →
        (∀ item, (f item).state.isOpen = false) →
        (∀ item, (f item).domain = item.domain) →
        (∀ item, (f item).retry_count = item.retry_count) →
        Reaches s
            (beginGroupFailure env failed reasonCode reason (t.edit item.position f hPosition)) ∧
          ∀ later, (beginGroupFailure env failed reasonCode reason
                (t.edit item.position f hPosition)).item? item.position = some later →
              later.state = .retry_wait ∨ later.state.isOpen = false := by
    intro t failed f hPosition reasonCode reason hReaches hGoing hOver hDomain hRetries
    refine ⟨?_, ?_⟩
    · exact hReaches.trans ((failAt_settles failed reasonCode reason hOver
            hDomain hRetries hGoing).reaches hReaches.safe)
    · exact fun later hLater => .inr (failAt_over failed reasonCode reason hOver hGoing hLater)
  unfold scheduleTechnicalRetry
  simp only
  split
  -- The circuit is open.
  · exact hFails recorded _ _ _ _ _ hRecorded hOpen (fun _ => rfl) (fun _ => rfl) fun _ => rfl
  split
  -- The retries are used up.
  · exact hFails recorded _ _ _ _ _ hRecorded hOpen (fun _ => rfl) (fun _ => rfl) fun _ => rfl
  next hLimit =>
    have hMoves := retryWait_moves env code label error hRecorded.safe hStill (Nat.not_le.mp hLimit)
    have hWaiting := hRecorded.trans (hMoves.reaches hRecorded.safe)
    split
    · refine ⟨hWaiting.trans (Settles.reaches ?_ hWaiting.safe), ?_⟩
      · exact settles_of_snapshot rfl rfl rfl rfl (fun _ h => h) id fun _ => id
      · intro later hLater
        have hFound := hMoves.item?_self.symm.trans hLater
        cases hFound
        exact .inl rfl
    -- The scheduler raised an error.
    · exact hFails _ _ _ _ _ _ hWaiting hOpen (fun _ => rfl) (fun _ => rfl) fun _ => rfl

----
-- The End Of A Task
----

theorem endState_over (triggered : Bool) (group_state : GroupState) (terminal_status : String) :
    (endState triggered group_state terminal_status).isOpen = false := by
  unfold endState
  split
  · rfl
  split
  · rfl
  split
  · rfl
  split
  · rfl
  split
  · rfl
  · rfl

theorem endAttempt_kept (task_id state error : String) (item : Item) :
    ItemKept item (endAttempt task_id state error item) :=
  ItemKept.of_state (.inl rfl) rfl rfl rfl rfl

theorem stored_refill_reaches (env : Env) (hReaches : Reaches s mid) :
    Reaches s (refill env (persist env mid)) ∧ Rested (refill env (persist env mid)).snapshot := by
  have hStored := (persist_settles env mid).reaches hReaches.safe
  have hRefill := refill_reaches env hStored.safe
  exact ⟨(hReaches.trans hStored).trans hRefill.1, hRefill.2⟩

theorem endTechnical_reaches (env : Env) (task_id code label error : String)
    (now : Nat) (scheduleError : Option String) (hSafe : s.Safe) (hRetryable : Retryable item s) :
    Reaches s (endTechnical env item task_id code label error now scheduleError s) ∧
      Rested (endTechnical env item task_id code label error now scheduleError s).snapshot := by
  let ended := endAttempt task_id "technical_failed" error
  let edited := s.edit item.position ended (fun _ => rfl)
  have hEdit : Settles s edited := edit_settles fun old _ =>
      ⟨endAttempt_kept task_id _ error old, id, rfl⟩
  have hEdited := hEdit.reaches hSafe
  have hFound := item?_edit (f := ended) item.position s (fun _ => rfl)
  rw [hRetryable.found] at hFound
  have hStill : Retryable (ended item) edited :=
    ⟨hRetryable.running, hFound, hRetryable.live, hRetryable.fresh, hRetryable.unlinked⟩
  have hScheduled := scheduleTechnicalRetry_reaches env task_id code label error
      now scheduleError hEdited.safe hStill
  have hReaches := hEdited.trans hScheduled.1
  unfold endTechnical
  simp only
  split
  · exact stored_refill_reaches env hReaches
  next later hLater =>
    split
    · exact stored_refill_reaches env hReaches
    next hOver =>
      have hClosed : ∀ row, (scheduleTechnicalRetry env (ended item) task_id
                code label error now scheduleError
                edited).item? item.position = some row →
              row.state.isOpen = false := by
        intro row hRow
        rw [← Option.some.inj (hLater.symm.trans hRow)]
        rcases hScheduled.2 later hLater with hWait | hClosed
        · exact absurd hWait hOver
        · exact hClosed
      have hDropped := (dropLedger_settles hClosed).reaches hReaches.safe
      exact stored_refill_reaches env (hReaches.trans hDropped)

/- The end of a task, up to what it does to its group. -/
def endedTask (item : Item) (task_id terminal_status terminal_error : String)
    (s : Locked) : Locked :=
  let recovered :=
    if item.trigger.isSome = false ∧ s.snapshot.state ∉ [.stopping, .failing] ∧
        terminal_status = "done" then
      markTechnicalRecovery item.position s
    else s
  dropLedger item.position (recovered.edit item.position
      (endItem task_id terminal_status terminal_error s.snapshot.state) (id fun _ => rfl))

/- The item of the task is over, and nothing was started. -/
theorem endedTask_settles (task_id terminal_status terminal_error : String)
    (hItem : s.item? item.position = some item)
    (hUnlinked : ∀ link ∈ s.links, link.position ≠ item.position) :
    Settles s (endedTask item task_id terminal_status terminal_error s) ∧
      ∃ later, (endedTask item task_id terminal_status terminal_error
            s).item? item.position = some later ∧ later.state.isOpen = false := by
  unfold endedTask
  generalize hRecovered : (if item.trigger.isSome = false ∧
        s.snapshot.state ∉ [.stopping, .failing] ∧
        terminal_status = "done" then
      markTechnicalRecovery item.position s
    else s) = recovered
  have hRecovers : Settles s recovered ∧ recovered.links = s.links ∧
        ∃ row, recovered.item? item.position = some row := by
    rw [← hRecovered]
    split
    · refine ⟨markTechnicalRecovery_settles item.position s, rfl, ?_⟩
      have hFound := item?_edit (f := recoverItem) item.position s (fun _ => rfl)
      rw [hItem] at hFound
      exact ⟨_, hFound⟩
    · exact ⟨Settles.refl s, rfl, item, hItem⟩
  rcases hRecovers with ⟨hSettles, hLinks, row, hRow⟩
  have hEnd : Settles recovered
        (recovered.edit item.position
          (endItem task_id terminal_status terminal_error s.snapshot.state) (fun _ => rfl)) := by
    refine edit_over_settles ?_ ?_ (fun _ => rfl) (fun _ => rfl)
    · rw [hLinks]
      exact hUnlinked
    · exact fun old => endState_over _ _ _
  have hFound := item?_edit (f := endItem task_id terminal_status terminal_error s.snapshot.state)
      item.position recovered (fun _ => rfl)
  rw [hRow] at hFound
  have hOver : ∀ old, (recovered.edit item.position
            (endItem task_id terminal_status terminal_error s.snapshot.state)
            (fun _ => rfl)).item? item.position = some old →
          old.state.isOpen = false := by
    intro old hOld
    rw [← Option.some.inj (hFound.symm.trans hOld)]
    exact endState_over _ _ _
  refine ⟨(hSettles.trans hEnd).trans (dropLedger_settles hOver), _, hFound, ?_⟩
  exact endState_over _ _ _

/- A task that was not retried ends its item for good. -/
theorem endTask_reaches (env : Env) (task_id terminal_status terminal_error : String)
    (retryable : Option (String × String)) (progress : Bool) (hSafe : s.Safe)
    (hItem : s.item? item.position = some item)
    (hUnlinked : ∀ link ∈ s.links, link.position ≠ item.position) :
    (Reaches s (endTask env item task_id terminal_status terminal_error retryable progress s) ∧
        Rested
          (endTask env item task_id terminal_status terminal_error retryable progress s).snapshot) ∧
      ∃ later, (endTask env item task_id terminal_status terminal_error retryable progress s).item?
            item.position = some later ∧ later.isSpent ∧ startsAt item.position
              (endTask env item task_id terminal_status terminal_error retryable progress s).made =
            startsAt item.position s.made := by
  let ended := endedTask item task_id terminal_status terminal_error s
  rcases endedTask_settles task_id terminal_status
      terminal_error hItem hUnlinked with
    ⟨hSettles, later, hLater, hOver⟩
  have hEnded := hSettles.reaches hSafe
  have hSpent : later.isSpent := by
    unfold Item.isSpent
    rw [hOver]
    rfl
  have hAll : (Reaches ended
            (endTask env item task_id terminal_status terminal_error retryable progress s) ∧
          Rested (endTask env item task_id terminal_status
              terminal_error retryable progress s).snapshot) := by
    unfold endTask
    simp only
    split
    next hFails =>
      apply stored_refill_reaches env
      apply Settles.reaches _ hEnded.safe
      apply beginGroupFailure_settles
      by_contra hEnd
      have hWas := hSettles.ended (Bool.eq_true_of_not_eq_false hEnd)
      rw [hFails.2.2] at hWas
      cases hWas
    · exact stored_refill_reaches env ((Settles.refl ended).reaches hEnded.safe)
  refine ⟨⟨hEnded.trans hAll.1, hAll.2⟩, ?_⟩
  rcases hAll.1.advances.spent _ _ hLater hSpent with ⟨last, hLast, hLastSpent, hSame⟩
  refine ⟨last, hLast, hLastSpent, ?_⟩
  rw [hSame, hSettles.made_eq]

end DomainRotation
