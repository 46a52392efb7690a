import AutoGpt.DomainRotation.Runs

/-
  The public methods, the retry callback and the restart, one
  by one, and the runs they make up.

  Main theorems:
    * `DomainRotation.run_safe`
    * `DomainRotation.run_advances`
    * `DomainRotation.handleTaskTerminal_ends`
-/

open PyText (strip)
open KeyedTable (find?_eq_none_iff find?_put mem_of_find?)
open List
open Machine

----
-- Recording Methods
----

namespace DomainRotation

variable {w : World}

theorem recordRegistrationResult_holds (env : Env) (task_id decision : String) (hSafe : w.Safe) :
    Holds w (recordRegistrationResult env task_id decision w).1 := by
  unfold recordRegistrationResult
  simp only
  split
  · exact Holds.refl hSafe
  split
  · exact Holds.refl hSafe
  next s item hTask =>
    have hReports := hSafe.reports_of_lockTask hTask
    have hLocks := hReports.locks
    have hRecovered := markTechnicalRecovery_notes item.position hLocks.safe
    have hCounted := hRecovered.trans (countDecision_notes
          (decide (lowered env decision = "registration_disallowed"))
          hRecovered.reaches.safe hReports.linked)
    have hStored := hCounted.trans (persist_notes env hCounted.reaches.safe)
    split
    · exact (hStored.trans
          (triggerQualityStop_notes env item.position _ _ hStored.reaches.safe)).holds hSafe hLocks
    · exact hStored.holds hSafe hLocks

theorem recordRegisteredAccount_holds (env : Env) (task_id : String)
    (account_id attempt_order : Int) (hSafe : w.Safe) :
    Holds w (recordRegisteredAccount env task_id account_id attempt_order w).1 := by
  unfold recordRegisteredAccount
  split
  · exact Holds.refl hSafe
  split
  · exact Holds.refl hSafe
  next s item hTask =>
    have hReports := hSafe.reports_of_lockTask hTask
    have hLocks := hReports.locks
    have hRecovered := markTechnicalRecovery_notes item.position hLocks.safe
    have hAdded := hRecovered.trans
        (addAccount_notes
          { position := item.position, account_id := positiveInt account_id 0,
            attempt_order := positiveInt attempt_order 1, state := .pending,
            reason_code := "registration_succeeded" }
          hRecovered.reaches.safe)
    have hLinked := hReports.linked
    rw [← hAdded.links] at hLinked
    have hCounted := hAdded.trans (recomputeLinkQuality_notes hAdded.reaches.safe hLinked)
    exact (hCounted.trans (persist_notes env hCounted.reaches.safe)).holds hSafe hLocks

theorem recordOutcome_holds (env : Env) (task_id : String) (account_id : Nat) (reason_code : String)
    (outcome : AccountState → Option AccountState) (hSafe : w.Safe) :
    Holds w (recordOutcome env task_id account_id reason_code outcome w).1 := by
  unfold recordOutcome
  split
  · exact Holds.refl hSafe
  next s item hTask =>
    have hReports := hSafe.reports_of_lockTask hTask
    have hLocks := hReports.locks
    split
    · exact Holds.refl hSafe
    next account _ =>
      have hHolds : ∀ changed, Notes s changed →
          Holds w (w.unlock (afterLinkOutcome env item.position changed)) := by
        intro changed hChanged
        have hLinked := hReports.linked
        rw [← hChanged.links] at hLinked
        exact (hChanged.trans
            (afterLinkOutcome_notes env hChanged.reaches.safe hLinked)).holds hSafe hLocks
      dsimp only
      split
      · exact hHolds _ (Notes.refl hLocks.safe)
      · exact hHolds _
          (setAccountOutcome_notes item.position account_id _ reason_code hLocks.safe)

theorem recordEligibilityResult_holds (env : Env) (task_id : String) (result : LinkResult)
    (hSafe : w.Safe) : Holds w (recordEligibilityResult env task_id result w).1 := by
  unfold recordEligibilityResult
  simp only
  split
  · exact Holds.refl hSafe
  · exact recordOutcome_holds env task_id _ _ _ hSafe

theorem recordLinkResult_holds (env : Env) (task_id : String) (result : LinkResult)
    (hSafe : w.Safe) : Holds w (recordLinkResult env task_id result w).1 := by
  unfold recordLinkResult
  simp only
  split
  · exact Holds.refl hSafe
  · exact recordOutcome_holds env task_id _ _ _ hSafe

----
-- Ending And Retrying Methods
----

/- A linked item of a running group may be retried, once its task has been dropped. -/
theorem Reports.retryable (hReports : Reports w task_id s item)
    (hRunning : s.snapshot.state = .running) (hFresh : item.quality.hasProgress = false) :
    Retryable item (dropTask task_id s) := by
  refine ⟨hRunning, hReports.found, ?_, hFresh, hReports.unlinked⟩
  rcases hReports.locks.safe.links.item _ hReports.link with ⟨row, hRow, _, hLive⟩
  rw [Option.some.inj (hReports.found.symm.trans hRow)]
  exact hLive hRunning

theorem handleTaskTerminal_holds (env : Env) (task_id : String) (task : TaskSnapshot)
    (now : Nat) (scheduleError : Option String) (hSafe : w.Safe) :
    Holds w (handleTaskTerminal env task_id task now scheduleError w).1 := by
  unfold handleTaskTerminal
  split
  · exact Holds.refl hSafe
  next s item hTask =>
    have hReports := hSafe.reports_of_lockTask hTask
    have hLocks := hReports.locks
    have hPopped := (dropTask_settles task_id s).reaches hLocks.safe
    have hEnds : ∀ terminal_status terminal_error retryable progress, Holds w
            (w.unlock (endTask env item task_id terminal_status terminal_error retryable progress
                (dropTask task_id s))) := by
      intro terminal_status terminal_error retryable progress
      have hEnd := (endTask_reaches env task_id terminal_status
          terminal_error retryable progress hPopped.safe hReports.found hReports.unlinked).1
      exact hSafe.unlock_holds hLocks (hPopped.trans hEnd.1) hEnd.2
    simp only
    split
    · exact hEnds _ _ _ _
    next code label _ =>
      split
      next hRetries =>
        have hFresh : item.quality.hasProgress = false := by
          have hNone := hRetries.2.2.2
          exact (Bool.or_eq_false_iff.mp hNone).1
        have hEnd := endTechnical_reaches env task_id code label
            (terminalError env task (task.terminalStatus env)) now scheduleError hPopped.safe
            (hReports.retryable hRetries.2.2.1 hFresh)
        exact hSafe.unlock_holds hLocks (hPopped.trans hEnd.1) hEnd.2
      · exact hEnds _ _ _ _

/- A task that reported progress ends its item for good. -/
theorem handleTaskTerminal_ends (env : Env)
    (now : Nat) (scheduleError : Option String) (hSafe : w.Safe)
    (hTask : w.lockTask task_id = some (s, item)) (hProgress : task.hasProgress env) :
    ∃ r, (handleTaskTerminal env task_id task now scheduleError w).1.runtimes[s.self]? = some r ∧
        ∃ later, r.snapshot.items.find? item.position = some later ∧ later.isSpent ∧
            startsAt item.position (startsOf s.self
                  (handleTaskTerminal env task_id task now scheduleError w).1.shared.starts) =
              startsAt item.position (startsOf s.self w.shared.starts) := by
  have hReports := hSafe.reports_of_lockTask hTask
  have hLocks := hReports.locks
  have hPopped := (dropTask_settles task_id s).reaches hLocks.safe
  have hEnds : ∀ terminal_status terminal_error retryable progress, ∃ r, (w.unlock
              (endTask env item task_id terminal_status terminal_error retryable progress
                (dropTask task_id s))).runtimes[s.self]? =
              some r ∧
            ∃ later, r.snapshot.items.find? item.position = some later ∧ later.isSpent ∧
                startsAt item.position (startsOf s.self (endTask env item task_id
                        terminal_status terminal_error retryable progress
                        (dropTask task_id s)).shared.starts) =
                  startsAt item.position (startsOf s.self w.shared.starts) := by
    intro terminal_status terminal_error retryable progress
    have hEnd := endTask_reaches env task_id terminal_status
        terminal_error retryable progress hPopped.safe hReports.found hReports.unlinked
    have hReaches := hPopped.trans hEnd.1.1
    have hSelf := hReaches.advances.plan.self
    rcases hEnd.2 with ⟨later, hLater, hSpent, hSame⟩
    refine ⟨_, unlock_self hLocks hSelf, later, hLater, hSpent, ?_⟩
    unfold Locked.made at hSame
    rw [hSelf] at hSame
    rw [hSame, ← hLocks.shared]
    rfl
  have hAny : taskHasBusinessProgress env item task := by
    unfold taskHasBusinessProgress
    rw [hProgress, Bool.or_true]
  unfold handleTaskTerminal
  rw [hTask]
  simp only
  split
  · exact hEnds _ _ _ _
  · rw [hAny]
    rw [if_neg (fun h => Bool.noConfusion h.2.2.2)]
    exact hEnds _ _ _ _

/- A waiting item goes back into the queue. -/
theorem requeue_moves (env : Env) (hSafe : s.Safe)
    (hRunning : s.snapshot.state = .running) (hItem : s.item? position = some item)
    (hWaits : item.state = .retry_wait) :
    MovesItem position item requeueItem (fun _ => rfl) s
      (persist env (s.edit position requeueItem (fun _ => rfl))) := by
  have hMem := (mem_of_find? hItem).1
  have hSound := hSafe.sound.items item hMem
  have hUnbound : item.state.isUnbound := by
    rw [hWaits]
    rfl
  have hNotEnded : s.snapshot.state.isTerminal = false := by
    rw [hRunning]
    rfl
  constructor
  · rfl
  · rfl
  · rfl
  · rfl
  · exact hRunning
  · exact hItem
  · rw [Item.isSpent_eq_false_iff]
    refine ⟨ItemState.isOpen_of_isUnbound hUnbound, ?_⟩
    by_contra hProgress
    have hBound := hSound.progress (Bool.eq_true_of_not_eq_false hProgress)
    rw [hUnbound] at hBound
    cases hBound
  · exact hSafe.links.unlinked hItem hUnbound
  · exact fun _ => rfl
  · rfl
  · exact ⟨[], by rw [append_nil]; rfl, by simp⟩
  · have hCount : stateCount ItemState.isSlot
              (s.edit position requeueItem (fun _ => rfl)).items +
            (if item.state.isSlot then 1 else 0) =
          stateCount ItemState.isSlot s.items + 0 :=
      stateCount_edit ItemState.isSlot hItem
    have hSlots : stateCount ItemState.isSlot s.items ≤ s.snapshot.active_domain_slots :=
      hSafe.sound.slots
    change stateCount ItemState.isSlot (s.edit position requeueItem (fun _ => rfl)).items ≤
        s.snapshot.active_domain_slots
    omega
  · exact hSound.retries
  · have hStarts := hSound.starts
    rw [hWaits, (mem_of_find? hItem).2] at hStarts
    exact hStarts
  · exact clean_persist (s := s.edit position requeueItem (fun _ => rfl)) hNotEnded

theorem retryFires_holds (env : Env) (timer : Timer) (hSafe : w.Safe) :
    Holds w (retryFires env timer w).1 := by
  unfold retryFires
  split
  · exact Holds.refl hSafe
  next s hLock =>
    have hLocks := hSafe.toSound.locks hLock
    split
    · exact Holds.refl hSafe
    split
    · exact Holds.refl hSafe
    next item hItem =>
      split
      next hFires =>
        have hQueued :=
          (requeue_moves env hLocks.safe hFires.1 hItem hFires.2.1).reaches hLocks.safe
        have hFill := fillSlotsLocked_reaches env hQueued.safe
        have hStored := (persist_settles env _).reaches hFill.1.safe
        have hFinal := finalizeIfIdle_reaches env hStored.safe
        exact hSafe.unlock_holds hLocks (((hQueued.trans hFill.1).trans hStored).trans hFinal.1)
            (hFinal.2 hFill.2)
      · exact Holds.refl hSafe

theorem stopGroup_holds (env : Env) (group_id mode reason : String) (hSafe : w.Safe) :
    Holds w (stopGroup env group_id mode reason w).1 := by
  unfold stopGroup
  simp only
  split
  · exact Holds.refl hSafe
  next s hLock =>
    have hLocks := hSafe.toSound.locks hLock
    split
    · exact Holds.refl hSafe
    next hGoing =>
      have hStopped := Settles.reaches
          (stopItems_settles
            (if mode = "immediate" then mode
              else "after_current")
            (PyText.orElse reason "用户停止域名轮换任务组")
            (Bool.eq_false_of_not_eq_true hGoing))
          hLocks.safe
      have hStored := (persist_settles env _).reaches hStopped.safe
      have hFinal := finalizeIfIdle_reaches env hStored.safe
      refine hSafe.unlock_holds hLocks ((hStopped.trans hStored).trans hFinal.1) (hFinal.2 ?_)
      exact fun hRunning => GroupState.noConfusion hRunning

theorem getGroup_holds (env : Env) (group_id : String) (hSafe : w.Safe) :
    Holds w (getGroup env group_id w).1 := by
  unfold getGroup
  simp only
  split
  · exact Holds.refl hSafe
  next s hLock =>
    have hLocks := hSafe.toSound.locks hLock
    split
    next hTerminal =>
      have hStored := (persist_settles env s).reaches hLocks.safe
      split
      · have hRetired := retireRuntime_reaches true hStored.safe hTerminal
        exact hSafe.unlock_holds hLocks (hStored.trans hRetired)
            (hSafe.rested s.self s.runtime hLocks.runtime)
      · exact hSafe.unlock_holds hLocks hStored (hSafe.rested s.self s.runtime hLocks.runtime)
    · exact Holds.refl hSafe

----
-- Creating And Restarting
----

theorem normalizedDomains_nodup (env : Env) (domains : List String) :
    (normalizedDomains env domains).Nodup := by
  have hFold : ∀ (raw kept : List String), kept.Nodup → (raw.foldl addDomain kept).Nodup := by
    intro raw
    induction raw with
    | nil => exact fun kept h => h
    | cons domain raw ih =>
      intro kept hKept
      rw [foldl_cons]
      apply ih
      unfold addDomain
      split
      · exact hKept
      next hNew =>
        rw [not_or] at hNew
        rw [nodup_append]
        refine ⟨hKept, nodup_singleton domain, ?_⟩
        intro a hA b hB hSame
        rw [mem_singleton.mp hB] at hSame
        rw [hSame] at hA
        exact hNew.2 hA
  exact hFold _ [] nodup_nil

theorem mem_newItems (hItem : item ∈ (newItems domains).rows) :
    ∃ domain position, item = { domain := domain, position := position } := by
  rcases mem_map.mp hItem with ⟨entry, _, hEq⟩
  exact ⟨entry.1, entry.2, hEq.symm⟩

theorem occupancy_newSnapshot (call : CreateGroup) (domains : List String) :
    occupancy (newSnapshot call domains) = 0 := by
  unfold occupancy
  rw [countP_eq_zero]
  intro item hItem
  rcases mem_newItems hItem with ⟨domain, position, hEq⟩
  rw [hEq]
  exact Bool.false_ne_true

theorem startsOf_fresh (hSafe : w.Safe) : startsOf w.runtimes.length w.shared.starts = [] := by
  unfold startsOf
  rw [filter_eq_nil_iff]
  intro call hCall hIs
  have hLt := hSafe.calls call hCall
  rw [decide_eq_true_eq] at hIs
  omega

/- A new group is safe once its id was free. -/
theorem newLocked_safe (call : CreateGroup) (hDomains : domains.Nodup)
    (hSafe : w.Safe) (hFree : w.shared.groups.find? (strip call.group_id) = none) :
    (newLocked call domains w).Safe := by
  have hMade : (newLocked call domains w).made = [] := startsOf_fresh hSafe
  have hNone : (newLocked call domains w).links = [] := by
    unfold Locked.links
    rw [filter_eq_nil_iff]
    intro link hLink hOwn
    rcases hSafe.links link hLink with ⟨entry, hEntry, hId⟩
    have hNot := find?_eq_none_iff.mp hFree entry hEntry
    apply hNot
    rw [hId]
    exact of_decide_eq_true hOwn
  refine ⟨⟨?_, ?_, ?_, ?_, ?_, ?_⟩, ⟨?_, ?_, ?_⟩, ?_⟩
  · change occupancy (newSnapshot call domains) ≤ _
    rw [occupancy_newSnapshot]
    exact Nat.zero_le _
  · intro item hItem
    rcases mem_newItems hItem with ⟨domain, position, hEq⟩
    rw [hEq, hMade]
    refine ⟨Nat.zero_le _, le_rfl, ?_, ?_⟩
    · exact fun h => Bool.noConfusion h
    · exact fun h => Bool.noConfusion h
  · rw [hMade]
    exact fun call h => absurd h not_mem_nil
  · rw [hMade]
    exact fun call h => absurd h not_mem_nil
  · have hMap : (newItems domains).rows.map Item.domain = domains := by
      unfold newItems
      rw [map_map]
      have hFirst : (Item.domain ∘ fun entry : String × Nat =>
              ({ domain := entry.1, position := entry.2 } : Item)) =
            Prod.fst := rfl
      rw [hFirst, zipIdx_map_fst]
    change ((newItems domains).rows.map Item.domain).Nodup
    rw [hMap]
    exact hDomains
  · intro item hItem _
    rcases mem_newItems hItem with ⟨domain, position, hEq⟩
    rw [hEq]
    exact Nat.zero_le _
  · rw [hNone]
    exact fun link h => absurd h not_mem_nil
  · rw [hNone]
    exact fun link h => absurd h not_mem_nil
  · rw [hNone]
    exact fun link h => absurd h not_mem_nil
  · intro _
    have hFound := find?_put w.shared.groups
        { group_id := strip call.group_id, runtime := w.runtimes.length } (strip call.group_id)
    rw [if_pos rfl] at hFound
    exact ⟨_, (mem_of_find? hFound).1, rfl⟩

/- The world in which a new group is filled. -/
def World.register (w : World) (s : Locked) : World where
  runtimes := w.runtimes ++ [s.runtime]
  shared := s.shared

theorem runtimes_register (hr : (w.register s).runtimes[i]? = some r) :
    w.runtimes[i]? = some r ∨ i = w.runtimes.length ∧ r = s.runtime := by
  unfold World.register at hr
  simp only at hr
  by_cases hLt : i < w.runtimes.length
  · rw [getElem?_append_left hLt] at hr
    exact .inl hr
  · right
    rw [getElem?_append_right (by omega)] at hr
    have hIndex := (List.getElem?_eq_some_iff.mp hr).1
    simp only [List.length_singleton] at hIndex
    have hZero : i - w.runtimes.length = 0 := by omega
    rw [hZero] at hr
    cases hr
    exact ⟨by omega, rfl⟩

theorem register_of_lt {i : Nat} (hr : w.runtimes[i]? = some r) :
    (w.register s).runtimes[i]? = some r := by
  have hLt := (List.getElem?_eq_some_iff.mp hr).1
  unfold World.register
  simp only
  rw [List.getElem?_append_left hLt]
  exact hr

theorem register_new (s : Locked) :
    (w.register s).runtimes[w.runtimes.length]? = some s.runtime := by
  unfold World.register
  simp

theorem newLocked_register (call : CreateGroup) {domains : List String} (hDomains : domains.Nodup)
    (hSafe : w.Safe) (hFree : w.shared.groups.find? (strip call.group_id) = none) :
    (w.register (newLocked call domains w)).Sound ∧ Locks (w.register (newLocked call domains w))
        (strip call.group_id) (newLocked call domains w) := by
  have hNew := newLocked_safe call hDomains hSafe hFree
  have hEntries : ∀ entry ∈ (newLocked call domains w).shared.groups.rows, entry =
            { group_id := strip call.group_id, runtime := w.runtimes.length } ∨
          entry ∈ w.shared.groups.rows := by
    intro entry hEntry
    rcases KeyedTable.mem_rows_put hEntry with hIs | ⟨_, hOld⟩
    · exact .inl hIs
    · exact .inr hOld
  have hKept :
      ∀ entry ∈ w.shared.groups.rows, entry ∈ (newLocked call domains w).shared.groups.rows := by
    intro entry hEntry
    have hNe := find?_eq_none_iff.mp hFree entry hEntry
    rw [KeyedTable.mem_rows_iff]
    change (w.shared.groups.put
        { group_id := strip call.group_id, runtime := w.runtimes.length }).find?
          entry.group_id = some entry
    rw [find?_put, if_neg (Ne.symm hNe)]
    exact KeyedTable.find?_of_mem hEntry
  have hOwn : ({ group_id := strip call.group_id, runtime := w.runtimes.length } : GroupLink) ∈
        (newLocked call domains w).shared.groups.rows := by
    have hFound := find?_put w.shared.groups
        { group_id := strip call.group_id, runtime := w.runtimes.length } (strip call.group_id)
    rw [if_pos rfl] at hFound
    exact (mem_of_find? hFound).1
  refine ⟨⟨?_, ?_, ?_, ?_, ?_⟩, rfl, register_new _, rfl, hOwn, hNew⟩
  · intro entry hEntry
    rcases hEntries entry hEntry with hIs | hOld
    · rw [hIs]
      exact ⟨_, register_new _, rfl⟩
    · rcases hSafe.known entry hOld with ⟨r, hr, hId⟩
      exact ⟨r, register_of_lt hr, hId⟩
  · intro other hOther
    have hLt := hSafe.calls other hOther
    unfold World.register
    simp only [length_append, length_singleton]
    omega
  · intro link hLink
    rcases hSafe.links link hLink with ⟨entry, hEntry, hId⟩
    exact ⟨entry, hKept entry hEntry, hId⟩
  · intro i r hr
    rcases runtimes_register hr with hOld | ⟨hAt, hIs⟩
    · exact hSafe.sound i r hOld
    · rw [hAt, hIs]
      exact hNew.sound
  · intro entry hEntry r hr
    rcases hEntries entry hEntry with hIs | hOld
    · rw [hIs] at hr ⊢
      rw [register_new] at hr
      cases hr
      exact hNew.links
    · rcases hSafe.known entry hOld with ⟨r', hr', hId⟩
      have hSame := Option.some.inj ((register_of_lt hr').symm.trans hr)
      subst hSame
      refine LinksSound.of_fewer ?_ ⟨entry, hEntry, hId.symm⟩ (hSafe.reports entry hOld r' hr')
      exact fun _ h _ => h

theorem createGroup_holds (env : Env) (call : CreateGroup) (hSafe : w.Safe) :
    Holds w (createGroup env call w).1 := by
  unfold createGroup
  simp only
  split
  · exact Holds.refl hSafe
  split
  · exact Holds.refl hSafe
  next hFree =>
    rw [Option.not_isSome_iff_eq_none] at hFree
    split
    next hStored =>
      let s := newLocked call (normalizedDomains env call.domains) w
      have hNew := newLocked_register call (normalizedDomains_nodup env call.domains) hSafe hFree
      have hFirst := (persist_settles env s).reaches hNew.2.safe
      have hRefill := refill_reaches env hFirst.safe
      have hReaches := hFirst.trans hRefill.1
      have hRests :
          ∀ i r, i ≠ s.self → (w.register s).runtimes[i]? = some r → Rested r.snapshot := by
        intro i r hNe hr
        rcases runtimes_register hr with hOld | ⟨hAt, _⟩
        · exact hSafe.rested i r hOld
        · exact absurd hAt hNe
      have hHolds := unlock_holds hNew.1 hRests hNew.2 hReaches hRefill.2
      have hSet : (w.register s).unlock (refill env (persist env s)) =
            { runtimes := w.runtimes ++ [(refill env (persist env s)).runtime]
              shared := (refill env (persist env s)).shared } := by
        unfold World.unlock World.register
        rw [hReaches.advances.plan.self]
        congr 1
        have hSelf : s.self = w.runtimes.length := rfl
        rw [hSelf, set_append_right _ _ (le_rfl), Nat.sub_self]
        rfl
      rw [hSet] at hHolds
      refine ⟨hHolds.safe, ?_, hHolds.clean⟩
      refine WorldAdvances.trans _ _ _ ?_ hHolds.advances
      exact fun i r hr => ⟨r, register_of_lt hr, GroupAdvances.refl r _⟩
    · refine ⟨⟨⟨hSafe.known, hSafe.calls, hSafe.links, hSafe.sound,
          ?_⟩, hSafe.rested⟩, WorldAdvances.refl w, id⟩
      intro entry hEntry r hr
      rcases hSafe.known entry hEntry with ⟨r', hr', hId⟩
      have hSame := Option.some.inj (hr.symm.trans hr')
      subst hSame
      refine LinksSound.of_fewer ?_ ⟨entry, hEntry, hId.symm⟩ (hSafe.reports entry hEntry r hr)
      exact fun _ h _ => h

theorem restart_safe (hSafe : w.Safe) : (restart w).Safe ∧ WorldAdvances w (restart w) := by
  refine ⟨⟨⟨?_, hSafe.calls, ?_, hSafe.sound, ?_⟩, hSafe.rested⟩, WorldAdvances.refl w⟩
  · exact fun entry h => absurd h not_mem_nil
  · exact fun link h => absurd h not_mem_nil
  · exact fun entry h => absurd h not_mem_nil

----
-- Steps And Runs
----

theorem step_holds (env : Env) (op : Op) (hSafe : w.Safe) (hOp : op ≠ .restart) :
    Holds w (step env w op).1 := by
  cases op with
  | createGroup call => exact createGroup_holds env call hSafe
  | recordRegistrationResult task_id decision =>
    exact recordRegistrationResult_holds env task_id decision hSafe
  | recordRegisteredAccount task_id account_id attempt_order =>
    exact recordRegisteredAccount_holds env task_id account_id attempt_order hSafe
  | recordEligibilityResult task_id result =>
    exact recordEligibilityResult_holds env task_id result hSafe
  | recordLinkResult task_id result => exact recordLinkResult_holds env task_id result hSafe
  | handleTaskTerminal task_id task now scheduleError =>
    exact handleTaskTerminal_holds env task_id task now scheduleError hSafe
  | retryFires timer =>
    dsimp only [step]
    split
    · exact Holds.refl hSafe
    next timer _ => exact retryFires_holds env timer hSafe
  | stopGroup group_id mode reason => exact stopGroup_holds env group_id mode reason hSafe
  | getGroup group_id => exact getGroup_holds env group_id hSafe
  | restart => exact absurd rfl hOp

theorem step_safe (env : Env) (op : Op) (hSafe : w.Safe) :
    (step env w op).1.Safe ∧ WorldAdvances w (step env w op).1 := by
  by_cases hOp : op = .restart
  · rw [hOp]
    exact restart_safe hSafe
  · have hHolds := step_holds env op hSafe hOp
    exact ⟨hHolds.safe, hHolds.advances⟩

theorem safe_init : ({} : World).Safe := by
  refine ⟨⟨?_, ?_, ?_, ?_, ?_⟩, ?_⟩
  · exact fun entry h => absurd h not_mem_nil
  · exact fun call h => absurd h not_mem_nil
  · exact fun link h => absurd h not_mem_nil
  · intro i r hr
    cases hr
  · exact fun entry h => absurd h not_mem_nil
  · intro i r hr
    cases hr

theorem run_safe (env : Env) (ops : List Op) : (run env ops).Safe :=
  run_induction (P := World.Safe)
    (fun _ op hSafe => (step_safe env op hSafe).1) safe_init ops

theorem run_advances (env : Env) (before after : List Op) :
    WorldAdvances (run env before) (run env (before ++ after)) := by
  unfold run
  rw [run_append]
  exact run_rel (P := World.Safe) (R := WorldAdvances)
      WorldAdvances.refl WorldAdvances.trans (fun _ op hSafe => (step_safe env op hSafe).1)
      (fun _ op hSafe => (step_safe env op hSafe).2) (run_safe env before) after

end DomainRotation
