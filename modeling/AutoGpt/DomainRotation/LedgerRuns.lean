import AutoGpt.DomainRotation.Ledgers

/-
  Link counters and ledgers over the runs of the manager: a
  report computes the counters again, and no other method or
  retry takes them away from their ledger.

  Main theorems:
    * `DomainRotation.recompute_tallies`
    * `DomainRotation.unlock_tallied`
    * `DomainRotation.run_tallied`
-/

open List

----
-- Recording Reports
----

namespace DomainRotation

/- The section keeps the tally, and the other groups. -/
structure Tallies (s next : Locked) : Prop where
  self : next.self = s.self
  groupId : next.snapshot.task_group_id = s.snapshot.task_group_id
  groups : ∀ entry ∈ next.shared.groups.rows, entry ∈ s.shared.groups.rows
  others : ∀ link ∈ next.shared.task_to_group.rows,
      link.group_id ≠ s.snapshot.task_group_id → link ∈ s.shared.task_to_group.rows
  tallied : Tallied s → Tallied next

variable {next : Locked}

theorem Keeps.tallies (hKeeps : Keeps s next) : Tallies s next :=
  ⟨hKeeps.self, hKeeps.groupId, hKeeps.groups, hKeeps.others, hKeeps.tallied⟩

theorem Tallies.trans (hFirst : Tallies s mid) (hSecond : Tallies mid next) : Tallies s next := by
  refine ⟨hSecond.self.trans hFirst.self, hSecond.groupId.trans hFirst.groupId, ?_, ?_, ?_⟩
  · exact fun entry h => hFirst.groups entry (hSecond.groups entry h)
  · intro link hLink hOther
    apply hFirst.others link _ hOther
    apply hSecond.others link hLink
    rw [hFirst.groupId]
    exact hOther
  · exact fun h => hSecond.tallied (hFirst.tallied h)

structure Rewrites (position : Nat) (s next : Locked) :
    Prop where
  self : next.self = s.self
  snapshot : next.snapshot = s.snapshot
  shared : next.shared = s.shared
  others : ∀ other, other ≠ position → next.runtime.accounts other = s.runtime.accounts other
  distinct : (∀ other, ((s.runtime.accounts other).map Account.account_id).Nodup) →
      ((next.runtime.accounts position).map Account.account_id).Nodup

theorem Rewrites.refl (position : Nat) (s : Locked) : Rewrites position s s :=
  ⟨rfl, rfl, rfl, fun _ _ => rfl, fun h => h position⟩

theorem addAccount_rewrites (account : Account) (s : Locked) :
    Rewrites account.position s (addAccount account s) := by
  unfold addAccount
  split
  · exact Rewrites.refl _ s
  next hNew =>
    refine ⟨rfl, rfl, rfl, ?_, ?_⟩
    · intro other hNe
      unfold Runtime.accounts
      rw [filter_append]
      have hNone : [account].filter (fun a => decide (a.position = other)) = [] := by
        rw [filter_eq_nil_iff]
        intro a hA hIs
        rw [mem_singleton.mp hA, decide_eq_true_eq] at hIs
        exact hNe hIs.symm
      rw [hNone, append_nil]
    · intro hDistinct
      unfold Runtime.accounts
      rw [filter_append]
      have hOwn : [account].filter
              (fun a => decide (a.position = account.position)) =
            [account] := by
        simp
      rw [hOwn, map_append, nodup_append]
      refine ⟨hDistinct account.position, nodup_singleton _, ?_⟩
      intro id hId other hOther hSame
      rcases mem_map.mp hId with ⟨a, hA, rfl⟩
      apply hNew
      rw [any_eq_true]
      refine ⟨a, hA, decide_eq_true ?_⟩
      rw [hSame]
      exact mem_singleton.mp hOther

theorem accounts_setAccountOutcome (position account_id : Nat) (state : AccountState)
    (reason_code : String) (s : Locked) (other : Nat) :
    (setAccountOutcome position account_id state reason_code
        s).runtime.accounts other =
      (s.runtime.accounts other).map fun account =>
        if account.position = position ∧ account.account_id = account_id then
          { account with state := state, reason_code := truncate 128 reason_code }
        else account := by
  unfold setAccountOutcome Runtime.accounts
  rw [filter_map]
  congr 1
  apply filter_congr
  intro account _
  rw [Function.comp_apply]
  split
  · rfl
  · rfl

theorem setAccountOutcome_rewrites (position account_id : Nat) (state : AccountState)
    (reason_code : String) (s : Locked) :
    Rewrites position s (setAccountOutcome position account_id state reason_code s) := by
  refine ⟨rfl, rfl, rfl, ?_, ?_⟩
  · intro other hNe
    rw [accounts_setAccountOutcome]
    conv_rhs => rw [← map_id (s.runtime.accounts other)]
    apply map_congr_left
    intro account hAccount
    have hAt : account.position = other := of_decide_eq_true (mem_filter.mp hAccount).2
    rw [if_neg (fun h => hNe (hAt.symm.trans h.1))]
    rfl
  · intro hDistinct
    rw [accounts_setAccountOutcome, map_map]
    have hIds : (s.runtime.accounts position).map
            (Account.account_id ∘ fun account =>
              if account.position = position ∧ account.account_id = account_id then
                { account with state := state, reason_code := truncate 128 reason_code }
              else account) =
          (s.runtime.accounts position).map
            Account.account_id := by
      apply map_congr_left
      intro account _
      rw [Function.comp_apply]
      split
      · rfl
      · rfl
    rw [hIds]
    exact hDistinct position

/- After the write the counters are computed again. -/
theorem recompute_tallies (hRewrites : Rewrites position s mid) :
    Tallies s (recomputeLinkQuality position mid) := by
  have hItem : ∀ other row, (recomputeLinkQuality position mid).item? other = some row →
          ∃ item, s.item? other = some item ∧ row.position = item.position ∧
            row.state = item.state ∧
            (other = position → row.quality.links = ledgerLinks (mid.runtime.accounts position)) ∧
            (other ≠ position → row = item) := by
    intro other row hRow
    rcases item?_edit_cases hRow with ⟨item, hOld, hCases⟩
    have hItem : s.item? other = some item := by
      unfold Locked.item? at hOld ⊢
      rw [← congrArg Snapshot.items hRewrites.snapshot]
      exact hOld
    refine ⟨item, hItem, ?_⟩
    rcases hCases with ⟨hSame, rfl⟩ | ⟨hNe, rfl⟩
    · exact ⟨rfl, rfl, fun _ => rfl, fun h => absurd hSame h⟩
    · exact ⟨rfl, rfl, fun h => absurd h hNe, fun _ => rfl⟩
  have hGroup : mid.snapshot.task_group_id = s.snapshot.task_group_id := by rw [hRewrites.snapshot]
  refine ⟨hRewrites.self, hGroup, ?_, ?_, fun hTallied => ⟨?_, ?_, ?_⟩⟩
  · intro entry hEntry
    rw [← hRewrites.shared]
    exact hEntry
  · intro link hLink _
    rw [← hRewrites.shared]
    exact hLink
  · intro other
    by_cases hSame : other = position
    · rw [hSame]
      exact hRewrites.distinct hTallied.distinct
    · have hKept := hTallied.distinct other
      rw [← hRewrites.others other hSame] at hKept
      exact hKept
  · intro other row hRow
    rcases hItem other row hRow with ⟨item, hOld, -, -, hOwn, hOther⟩
    by_cases hSame : other = position
    · rw [hOwn hSame]
      exact ledgerLinks_balanced _
    · rw [hOther hSame]
      exact hTallied.balanced other item hOld
  · intro other row hRow hCounts
    rcases hItem other row hRow with ⟨item, hOld, hPosition, hState, hOwn, hOther⟩
    by_cases hSame : other = position
    · rw [hOwn hSame, hSame]
      rfl
    · have hStill : s.Counts item := by
        rcases hCounts with hOpen | ⟨link, hLink, hAt, hIs⟩
        · rw [hState] at hOpen
          exact .inl hOpen
        · refine .inr ⟨link, ?_, hAt.trans hGroup, ?_⟩
          · rw [← hRewrites.shared]
            exact hLink
          · exact hIs.trans hPosition
      rw [hOther hSame, hTallied.counted other item hOld hStill, ← hRewrites.others other hSame]
      rfl

theorem afterLinkOutcome_tallies (env : Env) (hRewrites : Rewrites position s mid) :
    Tallies s (afterLinkOutcome env position mid) := by
  have hCounted := (recompute_tallies hRewrites).trans (persist_keeps env _).tallies
  unfold afterLinkOutcome
  dsimp only
  split
  · exact hCounted
  split
  · exact hCounted.trans (triggerQualityStop_keeps env position _ _ _).tallies
  · exact hCounted

----
-- Worlds
----

/- The tally holds for every group that the manager knows. -/
def World.Tallied (w : World) : Prop := ∀ entry ∈ w.shared.groups.rows, ∀ r : Runtime,
    w.runtimes[entry.runtime]? = some r → DomainRotation.Tallied
        { self := entry.runtime, runtime := r, shared := w.shared }

theorem Tallied.of_fewer
    (hLinks : ∀ link ∈ later.task_to_group.rows,
        link.group_id = r.snapshot.task_group_id → link ∈ shared.task_to_group.rows)
    (hTallied : Tallied { self := i, runtime := r, shared := shared }) :
    Tallied { self := i, runtime := r, shared := later } := by
  refine ⟨hTallied.distinct, hTallied.balanced, ?_⟩
  intro position item hItem hCounts
  apply hTallied.counted position item hItem
  rcases hCounts with hOpen | ⟨link, hLink, hOwn, hAt⟩
  · exact .inl hOpen
  · exact .inr ⟨link, hLinks link hLink hOwn, hOwn, hAt⟩

theorem World.Tallied.locked (hTallied : w.Tallied) (hLocks : Locks w group_id s) :
    DomainRotation.Tallied s := by
  have hEntry := hTallied _ hLocks.entry s.runtime hLocks.runtime
  rw [← hLocks.shared] at hEntry
  exact hEntry

/- What a section does to the tally of its group, it does to that of the world. -/
theorem unlock_tallied (hSound : w.Sound) (hTallied : w.Tallied) (hLocks : Locks w group_id s)
    (hTallies : Tallies s next) : (w.unlock next).Tallied := by
  intro entry hEntry r hr
  have hOldEntry : entry ∈ w.shared.groups.rows := by
    rw [← hLocks.shared]
    exact hTallies.groups entry hEntry
  by_cases hOwn : entry.runtime = s.self
  · rw [hOwn, unlock_self hLocks hTallies.self] at hr
    cases hr
    rw [hOwn, ← hTallies.self]
    exact hTallies.tallied (hTallied.locked hLocks)
  · rw [unlock_of_ne hTallies.self hOwn] at hr
    rcases hSound.known entry hOldEntry with ⟨r', hr', hId⟩
    have hSame := Option.some.inj (hr.symm.trans hr')
    subst hSame
    have hNe := hLocks.other_id hOldEntry hOwn
    refine Tallied.of_fewer ?_ (hTallied entry hOldEntry r hr)
    intro link hLink hAt
    rw [← hLocks.shared]
    apply hTallies.others link hLink
    rw [hAt, hId, hLocks.groupId]
    exact hNe

theorem recordRegistrationResult_tallied (env : Env) (task_id decision : String)
    (hSafe : w.Safe) (hTallied : w.Tallied) :
    (recordRegistrationResult env task_id decision w).1.Tallied := by
  unfold recordRegistrationResult
  dsimp only
  split
  · exact hTallied
  split
  · exact hTallied
  next s item hTask =>
    have hLocks := (hSafe.reports_of_lockTask hTask).locks
    have hCounted : Keeps s
          (persist env ((markTechnicalRecovery item.position s).edit item.position
              (countDecision (decide (lowered env decision = "registration_disallowed")))
              (fun _ => rfl))) := by
      refine Keeps.trans ?_ (persist_keeps env _)
      refine (markTechnicalRecovery_keeps item.position s).trans ?_
      exact Keeps.edit fun _ _ => ⟨rfl, id⟩
    split
    · exact unlock_tallied hSafe.toSound hTallied hLocks
          (hCounted.trans (triggerQualityStop_keeps env item.position _ _ _)).tallies
    · exact unlock_tallied hSafe.toSound hTallied hLocks hCounted.tallies

theorem recordRegisteredAccount_tallied (env : Env) (task_id : String)
    (account_id attempt_order : Int) (hSafe : w.Safe) (hTallied : w.Tallied) :
    (recordRegisteredAccount env task_id account_id attempt_order w).1.Tallied := by
  unfold recordRegisteredAccount
  split
  · exact hTallied
  split
  · exact hTallied
  next s item hTask =>
    have hLocks := (hSafe.reports_of_lockTask hTask).locks
    have hAdded := addAccount_rewrites
        { position := item.position, account_id := positiveInt account_id 0,
          attempt_order := positiveInt attempt_order 1, state := .pending,
          reason_code := "registration_succeeded" }
        (markTechnicalRecovery item.position s)
    exact unlock_tallied hSafe.toSound hTallied hLocks (((markTechnicalRecovery_keeps item.position
            s).tallies.trans (recompute_tallies hAdded)).trans (persist_keeps env _).tallies)

theorem recordOutcome_tallied (env : Env) (task_id : String) (account_id : Nat)
    (reason_code : String) (outcome : AccountState → Option AccountState)
    (hSafe : w.Safe) (hTallied : w.Tallied) :
    (recordOutcome env task_id account_id reason_code outcome w).1.Tallied := by
  unfold recordOutcome
  split
  · exact hTallied
  next s item hTask =>
    have hLocks := (hSafe.reports_of_lockTask hTask).locks
    split
    · exact hTallied
    next account _ =>
      apply unlock_tallied hSafe.toSound hTallied hLocks
      apply afterLinkOutcome_tallies
      split
      · exact Rewrites.refl item.position s
      next state _ => exact setAccountOutcome_rewrites item.position account_id state reason_code s

theorem handleTaskTerminal_tallied (env : Env) (task_id : String) (task : TaskSnapshot)
    (now : Nat) (scheduleError : Option String) (hSafe : w.Safe) (hTallied : w.Tallied) :
    (handleTaskTerminal env task_id task now scheduleError w).1.Tallied := by
  unfold handleTaskTerminal
  split
  · exact hTallied
  next s item hTask =>
    have hReports := hSafe.reports_of_lockTask hTask
    have hLocks := hReports.locks
    have hPopped := dropTask_keeps task_id s
    have hPoppedSafe := ((dropTask_settles task_id s).reaches hLocks.safe).safe
    have hPlain : ∀ terminal_status terminal_error retryable progress, (w.unlock
            (endTask env item task_id terminal_status terminal_error retryable progress
              (dropTask task_id s))).Tallied :=
      fun terminal_status terminal_error retryable progress =>
        unlock_tallied hSafe.toSound hTallied hLocks (hPopped.trans
            (endTask_keeps env task_id terminal_status terminal_error retryable progress
              hReports.unlinked)).tallies
    dsimp only
    split
    · exact hPlain _ _ _ _
    next code label _ =>
      split
      next hRetries =>
        have hFresh : item.quality.hasProgress = false := by
          have hNone := hRetries.2.2.2
          exact (Bool.or_eq_false_iff.mp hNone).1
        exact unlock_tallied hSafe.toSound hTallied hLocks (hPopped.trans
              (endTechnical_keeps env task_id code label _ now scheduleError hPoppedSafe
                (hReports.retryable hRetries.2.2.1 hFresh))).tallies
      · exact hPlain _ _ _ _

theorem retryFires_tallied (env : Env) (timer : Timer) (hSafe : w.Safe) (hTallied : w.Tallied) :
    (retryFires env timer w).1.Tallied := by
  unfold retryFires
  split
  · exact hTallied
  next s hLock =>
    have hLocks := hSafe.toSound.locks hLock
    split
    · exact hTallied
    split
    · exact hTallied
    next item hItem =>
      split
      next hFires =>
        have hQueued : Keeps s (s.edit timer.position requeueItem (fun _ => rfl)) := by
          apply Keeps.edit
          intro old hOld
          refine ⟨rfl, fun _ => ?_⟩
          rw [← Option.some.inj (hItem.symm.trans hOld), hFires.2.1]
          rfl
        exact unlock_tallied hSafe.toSound hTallied hLocks
            ((((hQueued.trans (persist_keeps env _)).trans (fillSlotsLocked_keeps env _)).trans
              (persist_keeps env _)).trans (finalizeIfIdle_keeps env _)).tallies
      · exact hTallied

theorem stopGroup_tallied (env : Env) (group_id mode reason : String)
    (hSafe : w.Safe) (hTallied : w.Tallied) : (stopGroup env group_id mode reason w).1.Tallied := by
  unfold stopGroup
  dsimp only
  split
  · exact hTallied
  next s hLock =>
    split
    · exact hTallied
    · exact unlock_tallied hSafe.toSound hTallied (hSafe.toSound.locks hLock)
          (((stopItems_keeps _ _ s).trans (persist_keeps env _)).trans
            (finalizeIfIdle_keeps env _)).tallies

theorem getGroup_tallied (env : Env) (group_id : String) (hSafe : w.Safe) (hTallied : w.Tallied) :
    (getGroup env group_id w).1.Tallied := by
  unfold getGroup
  dsimp only
  split
  · exact hTallied
  next s hLock =>
    have hLocks := hSafe.toSound.locks hLock
    split
    next hTerminal =>
      have hStored := persist_keeps env s
      split
      · have hOver : ∀ item ∈ (persist env s).items.rows, item.state.isOpen = false :=
          fun item hItem => (hLocks.safe.sound.items item hItem).closed hTerminal
        exact unlock_tallied hSafe.toSound hTallied hLocks
            (hStored.trans (retireRuntime_keeps true hOver)).tallies
      · exact unlock_tallied hSafe.toSound hTallied hLocks hStored.tallies
    · exact hTallied

theorem newLocked_tallied (call : CreateGroup) (domains : List String) (w : World) :
    DomainRotation.Tallied (newLocked call domains w) := by
  have hNew : ∀ position item,
        (newLocked call domains w).item? position = some item → item.quality = {} := by
    intro position item hItem
    rcases mem_newItems (KeyedTable.mem_of_find? hItem).1 with ⟨domain, at_, rfl⟩
    rfl
  refine ⟨fun _ => nodup_nil, ?_, ?_⟩
  · intro position item hItem
    rw [hNew position item hItem]
    exact ledgerLinks_balanced []
  · intro position item hItem _
    rw [hNew position item hItem]
    rfl

theorem createGroup_tallied (env : Env) (call : CreateGroup)
    (hSafe : w.Safe) (hTallied : w.Tallied) : (createGroup env call w).1.Tallied := by
  unfold createGroup
  dsimp only
  split
  · exact hTallied
  split
  · exact hTallied
  next hFree =>
    rw [Option.not_isSome_iff_eq_none] at hFree
    split
    · let s := newLocked call (normalizedDomains env call.domains) w
      have hNew := newLocked_register call (normalizedDomains_nodup env call.domains) hSafe hFree
      have hRegistered : (w.register s).Tallied := by
        intro entry hEntry r hr
        rcases KeyedTable.mem_rows_put hEntry with
          rfl | ⟨-, hOld⟩
        · have hIs : some s.runtime = some r := (register_new s).symm.trans hr
          cases hIs
          exact newLocked_tallied call (normalizedDomains env call.domains) w
        · rcases hSafe.known entry hOld with ⟨r', hr', hId⟩
          have hSame := Option.some.inj ((register_of_lt hr').symm.trans hr)
          subst hSame
          refine Tallied.of_fewer ?_ (hTallied entry hOld r' hr')
          exact fun _ h _ => h
      have hKeeps : Keeps s (refill env (persist env s)) :=
        (persist_keeps env s).trans (refill_keeps env _)
      have hUnlocked := unlock_tallied hNew.1 hRegistered hNew.2 hKeeps.tallies
      have hSet : (w.register s).unlock (refill env (persist env s)) =
            { runtimes := w.runtimes ++ [(refill env (persist env s)).runtime]
              shared := (refill env (persist env s)).shared } := by
        unfold World.unlock World.register
        rw [hKeeps.self]
        congr 1
        have hSelf : s.self = w.runtimes.length := rfl
        rw [hSelf, set_append_right _ _ (le_rfl), Nat.sub_self]
        rfl
      rw [hSet] at hUnlocked
      exact hUnlocked
    · intro entry hEntry r hr
      refine Tallied.of_fewer ?_ (hTallied entry hEntry r hr)
      exact fun _ h _ => h

theorem step_tallied (env : Env) (op : Op) (hSafe : w.Safe) (hTallied : w.Tallied) :
    (step env w op).1.Tallied := by
  cases op with
  | createGroup call => exact createGroup_tallied env call hSafe hTallied
  | recordRegistrationResult task_id decision =>
    exact recordRegistrationResult_tallied env task_id decision hSafe hTallied
  | recordRegisteredAccount task_id account_id attempt_order =>
    exact recordRegisteredAccount_tallied env task_id account_id attempt_order hSafe hTallied
  | recordEligibilityResult task_id result =>
    change (recordEligibilityResult env task_id result w).1.Tallied
    unfold recordEligibilityResult
    dsimp only
    split
    · exact hTallied
    · exact recordOutcome_tallied env task_id _ _ _ hSafe hTallied
  | recordLinkResult task_id result =>
    change (recordLinkResult env task_id result w).1.Tallied
    unfold recordLinkResult
    dsimp only
    split
    · exact hTallied
    · exact recordOutcome_tallied env task_id _ _ _ hSafe hTallied
  | handleTaskTerminal task_id task now scheduleError =>
    exact handleTaskTerminal_tallied env task_id task now scheduleError hSafe hTallied
  | retryFires timer =>
    dsimp only [step]
    split
    · exact hTallied
    next timer _ => exact retryFires_tallied env timer hSafe hTallied
  | stopGroup group_id mode reason =>
    exact stopGroup_tallied env group_id mode reason hSafe hTallied
  | getGroup group_id => exact getGroup_tallied env group_id hSafe hTallied
  | restart => exact fun entry h => absurd h not_mem_nil

theorem run_tallied (env : Env) (ops : List Op) : (run env ops).Tallied := by
  have hBoth : (run env ops).Safe ∧ (run env ops).Tallied := Machine.run_induction
      (P := fun w : World => w.Safe ∧ w.Tallied)
      (fun _ op h => ⟨(step_safe env op h.1).1, step_tallied env op h.1 h.2⟩)
      ⟨safe_init, fun entry h => absurd h not_mem_nil⟩ ops
  exact hBoth.2

end DomainRotation
