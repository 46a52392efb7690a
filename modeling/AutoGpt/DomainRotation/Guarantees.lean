import AutoGpt.DomainRotation.Methods

/-
  What a rotation group guarantees over whole runs: its slots
  are never exceeded and never leak, it starts nothing after
  it left `running`, and a finished group is closed, as long
  as no restart finds a stored group with pending items.

  Main theorems:
    * `DomainRotation.slots_bounded_and_filled`
    * `DomainRotation.starts_guarded`
    * `DomainRotation.finished_groups_closed_iff`
-/

open List
open Machine

----
-- Slots
----

namespace DomainRotation

/- A group never occupies more than its slots, and a running group with a pending item occupies all
   of them. -/
theorem slots_bounded_and_filled (env : Env) (ops : List Op) {r : Runtime}
    (hr : r ∈ (run env ops).runtimes) :
    occupancy r.snapshot ≤ r.snapshot.active_domain_slots ∧ (r.snapshot.state = .running →
        (∃ item ∈ r.snapshot.items.rows, item.state = .pending) →
        occupancy r.snapshot = r.snapshot.active_domain_slots) := by
  rcases getElem?_of_mem hr with ⟨i, hi⟩
  have hSafe := run_safe env ops
  have hBound := (hSafe.sound i r hi).slots
  refine ⟨hBound, ?_⟩
  intro hRunning hPending
  have hFull := (hSafe.rested i r hi).filled hRunning hPending
  exact Nat.le_antisymm hBound hFull

/- A runtime whose texts are plain, and whose `start_task` hands out one task id a call. -/
def plainEnv : Env where
  persists := fun _ => true
  starts := fun call =>
    { bound := some ("task-" ++ toString call), result := .ok ("task-" ++ toString call) }
  lower := id
  intOf := fun _ => 0
  sanitize := id
  rateAbove := fun _ _ _ => false
  rateText := fun _ _ _ => ""

def twoDomains : Op := .createGroup
    { group_id := "g"
      domains := ["a.example", "b.example"]
      requested_count_per_task := 1
      requested_concurrency_per_task := 1
      active_domain_slots := 1
      rejection_rate_threshold_percent := 50
      rejection_rate_min_samples := 10
      no_link_streak_threshold := 10 }

theorem twoDomains_runtimes : (run plainEnv [twoDomains]).runtimes ≠ [] := by decide +kernel

/- One domain is started, the other one waits for it. -/
theorem slots_bounded_and_filled_two_domains :
    let r := (run plainEnv [twoDomains]).runtimes.head twoDomains_runtimes
    occupancy r.snapshot ≤ r.snapshot.active_domain_slots ∧ (r.snapshot.state = .running →
        (∃ item ∈ r.snapshot.items.rows, item.state = .pending) →
        occupancy r.snapshot = r.snapshot.active_domain_slots) :=
  slots_bounded_and_filled plainEnv [twoDomains] (head_mem twoDomains_runtimes)

----
-- Starts
----

def domainStarts (domain : String) (made : List StartCall) :
    Nat :=
  made.countP fun call => decide (call.domain = domain)

/- A domain has one position, so its starts are those of its item. -/
theorem Sound.domainStarts_eq (hSound : Sound r made) (hItem : item ∈ r.snapshot.items.rows) :
    domainStarts item.domain made = startsAt item.position made := by
  apply countP_congr
  intro call hCall
  rcases hSound.calls call hCall with ⟨row, hRow, hPosition, hDomain⟩
  rw [decide_eq_true_eq, decide_eq_true_eq]
  constructor
  · intro hSame
    have hEq := inj_on_of_nodup_map hSound.domains hRow hItem (hDomain.trans hSame)
    rw [← hPosition, hEq]
  · intro hSame
    have hEq := KeyedTable.eq_of_mem_of_key_eq hRow hItem (hPosition.trans hSame)
    rw [← hDomain, hEq]

theorem Sound.domainStarts_le (hSound : Sound r made) (domain : String) :
    domainStarts domain made ≤ 1 + r.snapshot.policy.technical_retry_limit := by
  by_cases hNone : domainStarts domain made = 0
  · omega
  · have hSome := Nat.pos_of_ne_zero hNone
    rcases countP_pos_iff.mp hSome with ⟨call, hCall, hIs⟩
    rcases hSound.calls call hCall with ⟨item, hItem, _, hDomain⟩
    have hOf : item.domain = domain := hDomain.trans (of_decide_eq_true hIs)
    have hRow := hSound.items item hItem
    have hStarts := hRow.starts
    have hRetries := hRow.retries
    rw [← hOf, hSound.domainStarts_eq hItem]
    omega

/- The operation records progress of the item: a registration decision, a registered account, or the
   end of a task that reports progress of its own. -/
inductive RecordsProgress (env : Env) (w : World) (i : Nat) (item : Item) : Op → Prop where
| decision
    {s : Locked} (task_id decision : String)
    (hDecision : lowered env decision ∈ ["accepted", "registration_disallowed"])
    (hTask : w.lockTask task_id = some (s, item)) (hSelf : s.self = i) :
    RecordsProgress env w i item (.recordRegistrationResult task_id decision)
| account
    {s : Locked} (task_id : String) (account_id attempt_order : Int)
    (hAccount : positiveInt account_id 0 ≠ 0) (hTask : w.lockTask task_id = some (s, item))
    (hSelf : s.self = i) :
    RecordsProgress env w i item (.recordRegisteredAccount task_id account_id attempt_order)
| success
    {s : Locked} (task_id : String) (task : TaskSnapshot)
    (now : Nat) (scheduleError : Option String) (hProgress : task.hasProgress env)
    (hTask : w.lockTask task_id = some (s, item)) (hSelf : s.self = i) :
    RecordsProgress env w i item (.handleTaskTerminal task_id task now scheduleError)

/- The item is spent, and nothing was started for it. -/
def SpentIn (w next : World) (i : Nat) (item : Item) : Prop := ∃ r, next.runtimes[i]? = some r ∧
    ∃ later, r.snapshot.items.find? item.position = some later ∧ later.isSpent ∧
        startsAt item.position (startsOf i next.shared.starts) =
          startsAt item.position (startsOf i w.shared.starts)

theorem Notes.spentIn {next : Locked} (hFirst : Notes s mid)
    (hSecond : Notes mid next) (hLocks : Locks w s.snapshot.task_group_id s)
    (hLater : mid.item? item.position = some later) (hSpent : later.isSpent) :
    SpentIn w (w.unlock next) s.self item := by
  have hBoth := hFirst.trans hSecond
  have hSelf := hBoth.reaches.advances.plan.self
  rcases hSecond.reaches.advances.spent _ _ hLater hSpent with ⟨last, hLast, hLastSpent, _⟩
  refine ⟨next.runtime, unlock_self hLocks hSelf, last, hLast, hLastSpent, ?_⟩
  change startsAt item.position (startsOf s.self next.shared.starts) = _
  rw [hBoth.starts, hLocks.shared]

theorem recordRegistrationResult_spends (env : Env) (hSafe : w.Safe)
    (hDecision : lowered env decision ∈ ["accepted", "registration_disallowed"])
    (hTask : w.lockTask task_id = some (s, item)) :
    SpentIn w
      (recordRegistrationResult env task_id decision w).1
      s.self item := by
  have hReports := hSafe.reports_of_lockTask hTask
  have hLocks := hReports.locks
  have hRecovered := markTechnicalRecovery_notes item.position hLocks.safe
  let disallowed := decide (lowered env decision = "registration_disallowed")
  have hCounted :=
    hRecovered.trans (countDecision_notes disallowed hRecovered.reaches.safe hReports.linked)
  have hStored := persist_notes env hCounted.reaches.safe
  have hLater : ((markTechnicalRecovery item.position s).edit
          item.position (countDecision disallowed)
          (fun _ => rfl)).item? item.position =
        some (countDecision disallowed (recoverItem item)) := by
    have hFirst := item?_edit (f := recoverItem) item.position s (fun _ => rfl)
    rw [hReports.found] at hFirst
    have hSecond := item?_edit (f := countDecision disallowed) item.position
        (markTechnicalRecovery item.position s) (fun _ => rfl)
    rw [hSecond]
    exact congrArg (Option.map (countDecision disallowed)) hFirst
  have hSpent : (countDecision disallowed (recoverItem item)).isSpent := by
    unfold Item.isSpent Quality.hasProgress countDecision
    simp
  unfold recordRegistrationResult
  simp only [hTask]
  rw [if_neg (not_not_intro hDecision)]
  split
  · exact hCounted.spentIn (hStored.trans (triggerQualityStop_notes env item.position _ _
            hStored.reaches.safe)) hLocks hLater hSpent
  · exact hCounted.spentIn hStored hLocks hLater hSpent

theorem recordRegisteredAccount_spends (env : Env) (attempt_order : Int) (hSafe : w.Safe)
    (hAccount : positiveInt account_id 0 ≠ 0) (hTask : w.lockTask task_id = some (s, item)) :
    SpentIn w (recordRegisteredAccount env task_id account_id attempt_order w).1 s.self item := by
  have hReports := hSafe.reports_of_lockTask hTask
  have hLocks := hReports.locks
  have hRecovered := markTechnicalRecovery_notes item.position hLocks.safe
  let account : Account :=
    { position := item.position, account_id := positiveInt account_id 0,
      attempt_order := positiveInt attempt_order 1, state := .pending,
      reason_code := "registration_succeeded" }
  let recovered := markTechnicalRecovery item.position s
  have hAdded := hRecovered.trans (addAccount_notes account hRecovered.reaches.safe)
  have hLinked := hReports.linked
  rw [← hAdded.links] at hLinked
  have hCounted := hAdded.trans (recomputeLinkQuality_notes hAdded.reaches.safe hLinked)
  have hStored := persist_notes env hCounted.reaches.safe
  have hSome : 0 < ((addAccount account recovered).runtime.accounts item.position).length := by
    unfold addAccount
    split
    next hAny =>
      rcases any_eq_true.mp hAny with ⟨old, hOld, _⟩
      exact length_pos_of_mem hOld
    · unfold Runtime.accounts
      simp [account]
  have hItems : (addAccount account recovered).item? item.position = some (recoverItem item) := by
    have hFirst := item?_edit (f := recoverItem) item.position s (fun _ => rfl)
    rw [hReports.found] at hFirst
    unfold addAccount
    split
    · exact hFirst
    · exact hFirst
  have hLater := item?_edit
      (f := requalify ((addAccount account recovered).runtime.accounts item.position))
      item.position (addAccount account recovered) (fun _ => rfl)
  rw [hItems] at hLater
  have hSpent : (requalify
          ((addAccount account recovered).runtime.accounts item.position)
          (recoverItem item)).isSpent := by
    unfold Item.isSpent Quality.hasProgress
    rw [Bool.or_eq_true, Bool.or_eq_true]
    exact .inr (.inr (decide_eq_true hSome))
  unfold recordRegisteredAccount
  simp only [hTask]
  rw [if_neg hAccount]
  exact hCounted.spentIn hStored hLocks hLater hSpent

theorem RecordsProgress.mem (hRecords : RecordsProgress env w i item op) (hSafe : w.Safe)
    (hr : w.runtimes[i]? = some r) : item ∈ r.snapshot.items.rows := by
  have hLocked : ∀ (s : Locked) (task_id : String),
        w.lockTask task_id = some (s, item) → s.self = i → item ∈ r.snapshot.items.rows := by
    intro s task_id hTask hSelf
    have hReports := hSafe.reports_of_lockTask hTask
    have hRuntime := hReports.locks.runtime
    rw [hSelf] at hRuntime
    rw [Option.some.inj (hr.symm.trans hRuntime)]
    exact (KeyedTable.mem_of_find? hReports.found).1
  cases hRecords with
  | decision task_id decision hDecision hTask hSelf => exact hLocked _ task_id hTask hSelf
  | account task_id account_id attempt_order hAccount hTask
      hSelf =>
      exact hLocked _ task_id hTask hSelf
  | success task_id task now scheduleError hProgress hTask
      hSelf =>
      exact hLocked _ task_id hTask hSelf

theorem RecordsProgress.spends (hRecords : RecordsProgress env w i item op) (hSafe : w.Safe) :
    SpentIn w (step env w op).1 i item := by
  cases hRecords with
  | decision task_id decision hDecision hTask hSelf =>
    subst hSelf
    exact recordRegistrationResult_spends env hSafe hDecision hTask
  | account task_id account_id attempt_order hAccount hTask
      hSelf =>
      subst hSelf
      exact recordRegisteredAccount_spends env attempt_order hSafe hAccount hTask
  | success task_id task now scheduleError hProgress hTask
      hSelf =>
      subst hSelf
      exact handleTaskTerminal_ends env now scheduleError hSafe hTask hProgress

/- What the operations after a state cannot do to a group of that state: start it again once it left
   `running`, change the state it finished in, start a domain more often than its retries allow, or
   start one that has progress. -/
structure StartsGuarded (env : Env) (before after : List Op)
    (i : Nat) (r later : Runtime) : Prop where
  running :
    ∀ call ∈ startsOf i (run env (before ++ after)).shared.starts, call.group_state = .running
  stopped : r.snapshot.state ≠ .running → later.snapshot.state ≠ .running ∧
        startsOf i (run env (before ++ after)).shared.starts =
          startsOf i (run env before).shared.starts
  terminal : r.snapshot.state.isTerminal → later.snapshot.state = r.snapshot.state
  limit : ∀ domain, domainStarts domain (startsOf i (run env (before ++ after)).shared.starts) ≤
        1 + later.snapshot.policy.technical_retry_limit
  progress : ∀ item ∈ r.snapshot.items.rows, item.quality.hasProgress →
      domainStarts item.domain (startsOf i (run env (before ++ after)).shared.starts) =
        domainStarts item.domain (startsOf i (run env before).shared.starts)
  recorded : ∀ op rest item, after = op :: rest → RecordsProgress env (run env before) i item op →
      domainStarts item.domain (startsOf i (run env (before ++ after)).shared.starts) =
        domainStarts item.domain (startsOf i (run env before).shared.starts)

/- The starts of one item are those of its domain, then and later. -/
theorem domainStarts_eq_of_startsAt_eq {next : Runtime}
    (hSound : Sound r made) (hNext : Sound next later) (hAdvances : GroupAdvances r next made later)
    (hItem : item ∈ r.snapshot.items.rows)
    (hSame : startsAt item.position later = startsAt item.position made) :
    domainStarts item.domain later = domainStarts item.domain made := by
  rcases hAdvances.kept item hItem with ⟨row, hRow, hAt, hOf⟩
  have hLater := hNext.domainStarts_eq hRow
  rw [hAt, hOf] at hLater
  rw [hLater, hSame, hSound.domainStarts_eq hItem]

/- Every start is made while its group runs, and a group that has left `running` starts nothing ever
   after. No domain is started more than once and once for each retry, and none after progress was
   recorded for it. -/
theorem starts_guarded (env : Env) (before after : List Op) {i : Nat} {r : Runtime}
    (hr : (run env before).runtimes[i]? = some r) :
    ∃ later, (run env (before ++ after)).runtimes[i]? = some later ∧
        StartsGuarded env before after i r later := by
  have hAdvances := run_advances env before after
  have hSafe := run_safe env before
  have hEnd := run_safe env (before ++ after)
  rcases hAdvances i r hr with ⟨later, hLater, hGroup⟩
  have hSound := hSafe.sound i r hr
  have hLast := hEnd.sound i later hLater
  refine ⟨later, hLater, hLast.running, hGroup.stopped,
    hGroup.terminal, hLast.domainStarts_le, ?_, ?_⟩
  · intro item hItem hProgress
    have hSpent : item.isSpent := by
      unfold Item.isSpent
      rw [hProgress, Bool.or_true]
    rcases hGroup.spent item.position item
        (KeyedTable.find?_of_mem hItem) hSpent with
      ⟨_, _, _, hSame⟩
    exact domainStarts_eq_of_startsAt_eq hSound hLast hGroup hItem hSame
  · intro op rest item hAfter hRecords
    subst hAfter
    have hItem : item ∈ r.snapshot.items.rows := hRecords.mem hSafe hr
    rcases hRecords.spends hSafe with ⟨mid, hMid, row, hRow, hSpent, hStarts⟩
    have hStep : run env (before ++ [op]) = (step env (run env before) op).1 := by
      unfold run
      rw [run_append]
      rfl
    have hSplit : before ++ op :: rest = (before ++ [op]) ++ rest := by simp
    rw [← hStep] at hMid hStarts
    rcases run_advances env (before ++ [op]) rest i mid hMid with ⟨last, hLastAt, hRest⟩
    rcases hRest.spent item.position row hRow hSpent with ⟨_, _, _, hSame⟩
    rw [← hSplit] at hSame
    exact domainStarts_eq_of_startsAt_eq hSound hLast hGroup hItem (hSame.trans hStarts)

/- The pending domain of a stopped group is never started. -/
theorem starts_guarded_stopped_group :
    ∃ later, (run plainEnv
          ([twoDomains, .stopGroup "g" "" ""] ++
            [.handleTaskTerminal "task-0" {} 0 none])).runtimes[0]? =
          some later ∧
        StartsGuarded plainEnv
          [twoDomains, .stopGroup "g" "" ""]
          [.handleTaskTerminal "task-0" {} 0 none] 0
          ((run plainEnv [twoDomains, .stopGroup "g" "" ""]).runtimes.head (by decide +kernel))
          later :=
  starts_guarded plainEnv [twoDomains, .stopGroup "g" "" ""]
    [.handleTaskTerminal "task-0" {} 0 none] (by decide +kernel)

----
-- Finished Groups
----

/- Every finished group is closed, in the store and in
   memory, and every group without open items is finished. -/
structure Finished (w : World) : Prop where
  stored : Clean w.shared.persisted
  closed : ∀ r ∈ w.runtimes, r.snapshot.state.isTerminal →
      ∀ item ∈ r.snapshot.items.rows, item.state.isOpen = false
  ended : ∀ r ∈ w.runtimes, (∀ item ∈ r.snapshot.items.rows, item.state.isOpen = false) →
      r.snapshot.state.isTerminal

/- A restart finds no stored group in work with an item that still waits for its slot. -/
def RestartsClean (w : World) (op : Op) : Prop := op = .restart →
    ∀ snapshot ∈ w.shared.persisted.rows, snapshot.state.isActive →
      ∀ item ∈ snapshot.items.rows, item.state ≠ .pending

theorem interruptItem_isOpen (item : Item) :
    (interruptItem item).state.isOpen ↔ item.state = .pending := by
  unfold interruptItem
  split
  next hSlot =>
    constructor
    · intro hOpen
      cases hOpen
    · intro hPending
      rw [hPending] at hSlot
      cases hSlot
  next hFree =>
    unfold ItemState.isOpen
    rw [Bool.or_eq_true, decide_eq_true_eq]
    exact or_iff_right hFree

theorem clean_restart_iff (hClean : Clean w.shared.persisted) :
    Clean (restart w).shared.persisted ↔ RestartsClean w .restart := by
  constructor
  · intro hAfter _ snapshot hSnapshot hActive item hItem
      hPending
    have hRow : interruptSnapshot snapshot ∈ (restart w).shared.persisted.rows := by
      apply mem_map.mpr
      exact ⟨snapshot, hSnapshot, if_pos hActive⟩
    have hInterrupted : interruptItem item ∈ (interruptSnapshot snapshot).items.rows := by
      apply mem_map.mpr
      exact ⟨item, hItem, if_pos rfl⟩
    have hOver := hAfter _ hRow rfl _ hInterrupted
    rw [(interruptItem_isOpen item).mpr hPending] at hOver
    cases hOver
  · intro hSafe snapshot hSnapshot hTerminal item hItem
    rcases mem_map.mp hSnapshot with ⟨old, hOld, hEq⟩
    split at hEq
    next hActive =>
      subst hEq
      rcases mem_map.mp hItem with ⟨row, hRow, hIs⟩
      rw [if_pos rfl] at hIs
      subst hIs
      by_contra hOpen
      exact hSafe rfl old hOld hActive row hRow
          ((interruptItem_isOpen row).mp (Bool.eq_true_of_not_eq_false hOpen))
    · subst hEq
      exact hClean old hOld hTerminal item hItem

theorem clean_step_iff (env : Env) (op : Op) (hSafe : w.Safe) (hClean : Clean w.shared.persisted) :
    Clean (step env w op).1.shared.persisted ↔ RestartsClean w op := by
  by_cases hOp : op = .restart
  · rw [hOp]
    exact clean_restart_iff hClean
  · constructor
    · exact fun _ h => absurd h hOp
    · exact fun _ => (step_holds env op hSafe hOp).clean hClean

theorem finished_of_clean (hSafe : w.Safe) (hClean : Clean w.shared.persisted) : Finished w := by
  refine ⟨hClean, ?_, ?_⟩
  · intro r hr hTerminal item hItem
    rcases getElem?_of_mem hr with ⟨i, hi⟩
    exact ((hSafe.sound i r hi).items item hItem).closed hTerminal
  · intro r hr
    rcases getElem?_of_mem hr with ⟨i, hi⟩
    exact (hSafe.rested i r hi).finished

/- Finished groups are closed at every point of a run exactly when no restart of it finds a stored
   group in work with a pending item. -/
theorem finished_groups_closed_iff (env : Env) (ops : List Op) :
    (∀ before after, ops = before ++ after → Finished (run env before)) ↔
      Machine.Steps (step env) RestartsClean {} ops := by
  constructor
  · intro hAll
    rw [steps_iff_forall_split]
    intro before op after hSplit
    have hBefore := hAll before (op :: after) hSplit
    have hSplitAfter : ops = (before ++ [op]) ++ after := by
      rw [hSplit, append_assoc]
      rfl
    have hAfter := hAll (before ++ [op]) after hSplitAfter
    have hStored := hAfter.stored
    unfold run at hStored
    rw [run_append] at hStored
    exact (clean_step_iff env op (run_safe env before) hBefore.stored).mp hStored
  · intro hSteps before after hSplit
    rw [hSplit, steps_append] at hSteps
    have hBoth : (run env before).Safe ∧ Clean (run env before).shared.persisted := by
      apply run_induction_of_steps
          (P := fun w => w.Safe ∧ Clean w.shared.persisted) _ _ hSteps.1
      · intro w op hInv hOp
        exact ⟨(step_safe env op hInv.1).1, (clean_step_iff env op hInv.1 hInv.2).mpr hOp⟩
      · exact ⟨safe_init, fun _ h => absurd h not_mem_nil⟩
    exact finished_of_clean hBoth.1 hBoth.2

/- A restart leaves the second domain of the group pending in a snapshot that is interrupted. -/
theorem pending_domain_in_interrupted_group : ¬ Finished (run plainEnv [twoDomains, .restart]) := by
  intro hFinished
  have hClean := hFinished.stored
  unfold Clean at hClean
  revert hClean
  decide +kernel

end DomainRotation
