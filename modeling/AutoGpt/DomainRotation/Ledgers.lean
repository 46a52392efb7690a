import AutoGpt.DomainRotation.Methods

/-
  The link counters of an item and the ledger of its
  accounts: while a task can report to the item, its counters
  are those of its ledger, and they add up at all times. The
  sections here write neither counters nor live ledgers.

  Main theorems:
    * `DomainRotation.refill_keeps`
    * `DomainRotation.endTechnical_keeps`
    * `DomainRotation.endTask_keeps`
-/

open KeyedTable (mem_of_find?)
open PyText (strip)
open List
open KeyedTable

----
-- Counters And Ledgers
----

namespace DomainRotation

/- The counters that `_recompute_link_quality_locked` sets. -/
structure LinkCounters where
  registered_accounts : Nat
  link_success : Nat
  link_quality_miss : Nat
  link_technical_neutral : Nat
  link_pending : Nat
  link_current_miss_streak : Nat

def Quality.links (quality : Quality) : LinkCounters where
  registered_accounts := quality.registered_accounts
  link_success := quality.link_success
  link_quality_miss := quality.link_quality_miss
  link_technical_neutral := quality.link_technical_neutral
  link_pending := quality.link_pending
  link_current_miss_streak := quality.link_current_miss_streak

def ledgerLinks (accounts : List Account) : LinkCounters := (linkQuality accounts {}).links

/- Every registered account is counted once. -/
def LinkCounters.Balanced (links : LinkCounters) : Prop := links.registered_accounts =
    links.link_success + links.link_quality_miss + links.link_technical_neutral + links.link_pending

theorem ledgerLinks_balanced (accounts : List Account) : (ledgerLinks accounts).Balanced := by
  unfold LinkCounters.Balanced ledgerLinks Quality.links linkQuality
  dsimp only
  induction accounts with
  | nil => rfl
  | cons account accounts ih =>
    rw [length_cons, ih]
    simp only [countP_cons]
    cases account.state with
    | pending => simp; omega
    | awaiting_link => simp; omega
    | success => simp; omega
    | miss => simp; omega
    | neutral => simp; omega

/- The item may get a task, or has one that can report. -/
def Locked.Counts (s : Locked) (item : Item) : Prop := item.state.isOpen ∨
    ∃ link ∈ s.shared.task_to_group.rows,
      link.group_id = s.snapshot.task_group_id ∧ link.position = item.position

structure Tallied (s : Locked) : Prop where
  distinct : ∀ position, ((s.runtime.accounts position).map Account.account_id).Nodup
  balanced : ∀ position item, s.item? position = some item → item.quality.links.Balanced
  counted : ∀ position item, s.item? position = some item → s.Counts item →
      item.quality.links = ledgerLinks (s.runtime.accounts position)

----
-- Keeping Counters
----

/- The section writes no link counters, drops ledgers only of items that no task can report to, and
   leaves the other groups alone. -/
structure Keeps (s next : Locked) : Prop where
  self : next.self = s.self
  groupId : next.snapshot.task_group_id = s.snapshot.task_group_id
  ledgers : ∀ position, (next.runtime.accounts position).Sublist (s.runtime.accounts position)
  items : ∀ position row, next.item? position = some row → ∃ item, s.item? position = some item ∧
        row.quality.links = item.quality.links ∧
        (next.Counts row → s.Counts item ∧
            next.runtime.accounts position = s.runtime.accounts position)
  groups : ∀ entry ∈ next.shared.groups.rows, entry ∈ s.shared.groups.rows
  others : ∀ link ∈ next.shared.task_to_group.rows,
      link.group_id ≠ s.snapshot.task_group_id → link ∈ s.shared.task_to_group.rows

variable {s mid next : Locked}

theorem Keeps.refl (s : Locked) : Keeps s s := ⟨rfl, rfl, fun _ => List.Sublist.refl _,
    fun _ row hRow => ⟨row, hRow, rfl, fun h => ⟨h, rfl⟩⟩,
    fun _ h => h, fun _ h _ => h⟩

theorem Keeps.trans (hFirst : Keeps s mid) (hSecond : Keeps mid next) : Keeps s next := by
  constructor
  · exact hSecond.self.trans hFirst.self
  · exact hSecond.groupId.trans hFirst.groupId
  · exact fun position => (hSecond.ledgers position).trans (hFirst.ledgers position)
  · intro position row hRow
    rcases hSecond.items position row hRow with ⟨between, hBetween, hLinks, hCounts⟩
    rcases hFirst.items position between hBetween with ⟨item, hItem, hLinks', hCounts'⟩
    refine ⟨item, hItem, hLinks.trans hLinks', ?_⟩
    intro hRowCounts
    have hMid := hCounts hRowCounts
    have hOld := hCounts' hMid.1
    exact ⟨hOld.1, hMid.2.trans hOld.2⟩
  · exact fun entry h => hFirst.groups entry (hSecond.groups entry h)
  · intro link hLink hOther
    apply hFirst.others link _ hOther
    apply hSecond.others link hLink
    rw [hFirst.groupId]
    exact hOther

theorem Keeps.tallied (hKeeps : Keeps s next) (hTallied : Tallied s) : Tallied next := by
  constructor
  · intro position
    exact (hTallied.distinct position).sublist ((hKeeps.ledgers position).map _)
  · intro position row hRow
    rcases hKeeps.items position row hRow with ⟨item, hItem, hLinks, -⟩
    rw [hLinks]
    exact hTallied.balanced position item hItem
  · intro position row hRow hCounts
    rcases hKeeps.items position row hRow with ⟨item, hItem, hLinks, hKept⟩
    have hOld := hKept hCounts
    rw [hLinks, hOld.2]
    exact hTallied.counted position item hItem hOld.1

section

variable (hSelf : next.self = s.self)
  (hGroup : next.snapshot.task_group_id = s.snapshot.task_group_id)
  (hLedgers : next.runtime.account_ledgers = s.runtime.account_ledgers)
  (hGroups : next.shared.groups = s.shared.groups)
  (hLinks : ∀ link ∈ next.shared.task_to_group.rows, link ∈ s.shared.task_to_group.rows)
include hSelf hGroup hLedgers hGroups hLinks

/- Nothing but the items changes, and no item gets nearer to a report. -/
theorem Keeps.of_items (hItems : ∀ position row, next.item? position = some row →
        ∃ item, s.item? position = some item ∧ row.quality.links = item.quality.links ∧
          (row.state.isOpen → item.state.isOpen)) :
    Keeps s next := by
  have hAccounts : ∀ position, next.runtime.accounts position = s.runtime.accounts position := by
    intro position
    unfold Runtime.accounts
    rw [hLedgers]
  refine ⟨hSelf, hGroup, ?_, ?_, ?_, ?_⟩
  · intro position
    rw [hAccounts]
  · intro position row hRow
    rcases hItems position row hRow with ⟨item, hItem, hSame, hOpen⟩
    refine ⟨item, hItem, hSame, ?_⟩
    intro hCounts
    refine ⟨?_, hAccounts position⟩
    rcases hCounts with hRowOpen | ⟨link, hLink, hAt, hPosition⟩
    · exact .inl (hOpen hRowOpen)
    · refine .inr ⟨link, hLinks link hLink, ?_, ?_⟩
      · rw [← hGroup]
        exact hAt
      · rw [hPosition, (mem_of_find? hRow).2, (mem_of_find? hItem).2]
  · rw [hGroups]
    exact fun _ h => h
  · exact fun link hLink _ => hLinks link hLink

theorem Keeps.of_same (hItems : next.items = s.items) : Keeps s next := by
  refine Keeps.of_items hSelf hGroup hLedgers hGroups hLinks ?_
  intro position row hRow
  refine ⟨row, ?_, rfl, id⟩
  unfold Locked.item? at hRow ⊢
  unfold Locked.items at hItems
  rw [← hItems]
  exact hRow

end

theorem item?_edit_cases {position other : Nat}
    (hRow : (s.edit position f hPosition).item? other = some row) :
    ∃ item, s.item? other = some item ∧
      (other = position ∧ row = f item ∨ other ≠ position ∧ row = item) := by
  by_cases hSame : other = position
  · subst hSame
    have hFind : (s.items.updateKey other f hPosition).find? other = some row := hRow
    rw [find?_updateKey_self] at hFind
    rcases Option.map_eq_some_iff.mp hFind with ⟨item, hOld, hIs⟩
    exact ⟨item, hOld, .inl ⟨rfl, hIs.symm⟩⟩
  · have hFind : (s.items.updateKey position f hPosition).find? other = some row := hRow
    rw [find?_updateKey_of_ne _ _ _ hSame] at hFind
    exact ⟨row, hFind, .inr ⟨hSame, rfl⟩⟩

theorem Keeps.edit {position : Nat}
    (hItem : ∀ item, s.item? position = some item → (f item).quality.links = item.quality.links ∧
          ((f item).state.isOpen → item.state.isOpen)) :
    Keeps s (s.edit position f hPosition) := by
  refine Keeps.of_items rfl rfl rfl rfl (fun _ h => h) ?_
  intro other row hRow
  rcases item?_edit_cases hRow with ⟨item, hOld, hCases⟩
  refine ⟨item, hOld, ?_⟩
  rcases hCases with ⟨hSame, rfl⟩ | ⟨-, rfl⟩
  · rw [hSame] at hOld
    exact hItem item hOld
  · exact ⟨rfl, id⟩

theorem find?_updateWhere_kept {t : Items} (hKey : ∀ item, (f item).position = item.position)
    (hItem : ∀ item : Item, (f item).quality.links = item.quality.links ∧
          ((f item).state.isOpen → item.state.isOpen))
    {position : Nat} (hRow : (t.updateWhere p f hKey).find? position = some row) :
    ∃ item, t.find? position = some item ∧ row.quality.links = item.quality.links ∧
      (row.state.isOpen → item.state.isOpen) := by
  rw [find?_updateWhere] at hRow
  rcases Option.map_eq_some_iff.mp hRow with ⟨item, hOld, hIs⟩
  refine ⟨item, hOld, ?_⟩
  rw [← hIs]
  split
  · exact hItem item
  · exact ⟨rfl, id⟩

----
-- Sections That Keep Counters
----

theorem persist_keeps (env : Env) (s : Locked) : Keeps s (persist env s) :=
  Keeps.of_same rfl rfl rfl rfl (fun _ h => h) rfl

theorem markTechnicalRecovery_keeps (position : Nat) (s : Locked) :
    Keeps s (markTechnicalRecovery position s) := by
  have hEdit : Keeps s (s.edit position recoverItem (fun _ => rfl)) :=
    Keeps.edit fun item _ => ⟨rfl, id⟩
  exact hEdit.trans (Keeps.of_same rfl rfl rfl rfl (fun _ h => h) rfl)

theorem triggerQualityStop_keeps (env : Env) (position : Nat) (code message : String) (s : Locked) :
    Keeps s (triggerQualityStop env position code message s) := by
  unfold triggerQualityStop
  split
  · exact Keeps.refl s
  next item hItem =>
    dsimp only
    split
    next hActive =>
      have hEdit : Keeps s
            (s.edit position (drainItem { code := code, message := truncate 1000 message })
              (fun _ => rfl)) := by
        apply Keeps.edit
        intro old hOld
        refine ⟨rfl, fun _ => ?_⟩
        rw [← Option.some.inj (hItem.symm.trans hOld), hActive.1]
        rfl
      exact
        (hEdit.trans (persist_keeps env _)).trans (Keeps.of_same rfl rfl rfl rfl (fun _ h => h) rfl)
    · exact Keeps.refl s

theorem dropTask_keeps (task_id : String) (s : Locked) : Keeps s (dropTask task_id s) := by
  refine Keeps.of_same rfl rfl rfl rfl ?_ rfl
  intro link hLink
  exact (mem_filter.mp hLink).1

theorem beginGroupFailure_keeps (env : Env) (failed : Item) (code reason : String) (s : Locked) :
    Keeps s (beginGroupFailure env failed code reason s) := by
  refine Keeps.of_items rfl rfl rfl rfl (fun _ h => h) ?_
  intro position row hRow
  have hOther : ∀ item : Item, (failOther item).quality.links = item.quality.links ∧
          ((failOther item).state.isOpen → item.state.isOpen) := by
    intro item
    unfold failOther
    split
    next hWait =>
      refine ⟨rfl, fun _ => ?_⟩
      rw [hWait]
      rfl
    split
    · exact ⟨rfl, id⟩
    next hLive =>
      have hOpen : item.state.isOpen :=
        ItemState.isOpen_of_isSlot (ItemState.isSlot_of_isLive (Bool.eq_true_of_not_eq_false hLive))
      split
      · exact ⟨rfl, fun _ => hOpen⟩
      · exact ⟨rfl, fun _ => hOpen⟩
  have hPending : ∀ item : Item, (cancelPending item).quality.links = item.quality.links ∧
          ((cancelPending item).state.isOpen → item.state.isOpen) := by
    intro item
    unfold cancelPending
    split
    next hWas =>
      refine ⟨rfl, fun _ => ?_⟩
      rw [hWas]
      rfl
    · exact ⟨rfl, id⟩
  rcases find?_updateWhere_kept
        (fun item => by unfold failOther; split_ifs <;> rfl)
        hOther hRow with
    ⟨mid, hMid, hLinks, hOpen⟩
  rcases find?_updateWhere_kept
        (fun item => by unfold cancelPending; split <;> rfl)
        hPending hMid with
    ⟨item, hItem, hLinks', hOpen'⟩
  exact ⟨item, hItem, hLinks.trans hLinks', fun h => hOpen' (hOpen h)⟩

theorem retireRuntime_keeps (remove : Bool)
    (hOver : ∀ item ∈ s.items.rows, item.state.isOpen = false) :
    Keeps s (retireRuntime remove s) := by
  refine ⟨rfl, rfl, ?_, ?_, ?_, ?_⟩
  · intro position
    exact nil_sublist _
  · intro position row hRow
    have hOld : s.item? position = some row := hRow
    refine ⟨row, hOld, rfl, ?_⟩
    rintro (hOpen | ⟨link, hLink, hOwn, -⟩)
    · rw [hOver row (mem_of_find? hOld).1] at hOpen
      cases hOpen
    · have hKept := (mem_filter.mp hLink).2
      have hSame : link.group_id = s.snapshot.task_group_id := hOwn
      simp [hSame] at hKept
  · intro entry hEntry
    have hEntry' : entry ∈ (if remove &&
              (s.shared.groups.find? s.snapshot.task_group_id).any
                (fun link => link.runtime = s.self)
            then s.shared.groups.deleteWhere (fun link => link.group_id = s.snapshot.task_group_id)
            else s.shared.groups).rows := hEntry
    split at hEntry'
    · exact (mem_filter.mp hEntry').1
    · exact hEntry'
  · intro link hLink _
    exact (mem_filter.mp hLink).1

theorem finalizeIfIdle_keeps (env : Env) (s : Locked) : Keeps s (finalizeIfIdle env s) := by
  unfold finalizeIfIdle
  split
  · exact Keeps.refl s
  next hIdle =>
    have hOver : ∀ item ∈ s.items.rows, item.state.isOpen = false := by
      intro item hItem
      by_contra hNot
      apply hIdle
      rw [any_eq_true]
      exact ⟨item, hItem, Bool.eq_true_of_not_eq_false hNot⟩
    have hFinal : Keeps s (s.setState (finalState s.snapshot)) :=
      Keeps.of_same rfl rfl rfl rfl (fun _ h => h) rfl
    exact (hFinal.trans (persist_keeps env _)).trans (retireRuntime_keeps _ hOver)

theorem dropLedger_keeps (hOver : ∀ item, s.item? position = some item → ¬ s.Counts item) :
    Keeps s (dropLedger position s) := by
  have hOther : ∀ other, other ≠ position →
        (dropLedger position s).runtime.accounts other = s.runtime.accounts other := by
    intro other hNe
    unfold dropLedger Runtime.accounts
    rw [filter_filter]
    apply filter_congr
    intro account _
    by_cases hSame : account.position = other
    · simp [hSame, hNe]
    · simp [hSame]
  refine ⟨rfl, rfl, ?_, ?_, fun _ h => h, fun _ h _ => h⟩
  · intro other
    exact filter_sublist.filter _
  · intro other row hRow
    have hOld : s.item? other = some row := hRow
    refine ⟨row, hOld, rfl, ?_⟩
    intro hCounts
    have hStill : s.Counts row := hCounts
    refine ⟨hStill, ?_⟩
    apply hOther other
    rintro rfl
    exact hOver row hOld hStill

----
-- Filling Slots
----

/- A task is bound to an open item. -/
theorem bindTask_keeps (env : Env) (task_id : String) (hItem : s.item? position = some item)
    (hOpen : item.state.isOpen) : Keeps s (bindTask env position task_id s) := by
  unfold bindTask
  dsimp only
  split
  · exact Keeps.refl s
  · refine Keeps.trans ?_ (persist_keeps env _)
    have hEdit : Keeps s (s.edit position (bindItem (strip task_id)) (fun _ => rfl)) := by
      apply Keeps.edit
      intro old hOld
      refine ⟨rfl, fun _ => ?_⟩
      rw [← Option.some.inj (hItem.symm.trans hOld)]
      exact hOpen
    have hPut : ∀ link ∈ (s.shared.task_to_group.put
            { task_id := strip task_id, group_id := s.snapshot.task_group_id,
              position := position }).rows,
          link =
              { task_id := strip task_id, group_id := s.snapshot.task_group_id,
                position := position } ∨
            link ∈ s.shared.task_to_group.rows :=
      fun link hLink => (mem_rows_put hLink).imp_right And.right
    refine ⟨rfl, rfl, hEdit.ledgers, ?_, fun _ h => h, ?_⟩
    · intro other row hRow
      rcases hEdit.items other row hRow with ⟨old, hOld, hLinks, hCounts⟩
      refine ⟨old, hOld, hLinks, ?_⟩
      intro hRowCounts
      refine ⟨?_, rfl⟩
      rcases hRowCounts with hRowOpen | ⟨link, hLink, hOwn, hAt⟩
      · exact (hCounts (.inl hRowOpen)).1
      · rcases hPut link hLink with rfl | hOldLink
        · left
          have hSame : other = position := (mem_of_find? hRow).2.symm.trans hAt.symm
          subst hSame
          rw [← Option.some.inj (hItem.symm.trans hOld)]
          exact hOpen
        · exact (hCounts (.inr ⟨link, hOldLink, hOwn, hAt⟩)).1
    · intro link hLink hOther
      rcases hPut link hLink with rfl | hOldLink
      · exact absurd rfl hOther
      · exact hOldLink

theorem bindTask_open (env : Env) (task_id : String) (hItem : s.item? position = some item)
    (hOpen : item.state.isOpen) :
    ∃ row,
      (bindTask env position task_id s).item? position = some row ∧ row.state.isOpen := by
  unfold bindTask
  dsimp only
  split
  · exact ⟨item, hItem, hOpen⟩
  · have hFind := item?_edit (f := bindItem (strip task_id)) position s (fun _ => rfl)
    rw [hItem] at hFind
    exact ⟨_, hFind, rfl⟩

theorem bindOutcome_keeps (env : Env) (outcome : StartOutcome)
    (hItem : s.item? position = some item) (hOpen : item.state.isOpen) :
    Keeps s (bindOutcome env position outcome s).1 := by
  unfold bindOutcome
  extract_lets bound
  have hBound :
      Keeps s bound ∧ ∃ row, bound.item? position = some row ∧ row.state.isOpen := by
    unfold bound
    cases outcome.bound with
    | none => exact ⟨Keeps.refl s, item, hItem, hOpen⟩
    | some task_id =>
      exact ⟨bindTask_keeps env task_id hItem hOpen, bindTask_open env task_id hItem hOpen⟩
  clear_value bound
  rcases hBound with ⟨hKeeps, row, hRow, hRowOpen⟩
  split
  · exact hKeeps
  next task_id _ =>
    rw [hRow]
    dsimp only
    split
    · exact hKeeps.trans (bindTask_keeps env task_id hRow hRowOpen)
    · exact hKeeps

theorem startItem_keeps (env : Env) (hItem : s.item? item.position = some item)
    (hPending : item.state = .pending) : Keeps s (startItem env item s).1 := by
  have hEdit : Keeps s (s.edit item.position startingItem (fun _ => rfl)) := by
    apply Keeps.edit
    intro old hOld
    refine ⟨rfl, fun _ => ?_⟩
    rw [← Option.some.inj (hItem.symm.trans hOld), hPending]
    rfl
  have hCalled :
      Keeps s (callStart item (persist env (s.edit item.position startingItem (fun _ => rfl)))) :=
    (hEdit.trans (persist_keeps env _)).trans (Keeps.of_same rfl rfl rfl rfl (fun _ h => h) rfl)
  have hFind := item?_edit (f := startingItem) item.position s (fun _ => rfl)
  rw [hItem] at hFind
  exact hCalled.trans (bindOutcome_keeps env _ hFind rfl)

theorem startFailed_keeps (env : Env) (position : Nat) (error : String) (s : Locked) :
    Keeps s (startFailed env position error s) := by
  have hEdit : Keeps s (s.edit position (startFailedItem env error) (fun _ => rfl)) := by
    apply Keeps.edit
    intro old _
    refine ⟨rfl, fun hOpen => ?_⟩
    cases hOpen
  unfold startFailed
  dsimp only
  split
  · exact hEdit
  · exact (hEdit.trans (beginGroupFailure_keeps env _ _ _ _)).trans (persist_keeps env _)

theorem fillSlots_keeps (env : Env) (fuel : Nat) (s : Locked) : Keeps s (fillSlots env fuel s) := by
  induction fuel generalizing s with
  | zero => exact Keeps.refl s
  | succ fuel ih =>
    unfold fillSlots
    split
    · exact Keeps.refl s
    split
    · exact Keeps.refl s
    next item hNext =>
      have hPending : item.state = .pending := by
        have hIs := find?_some hNext
        exact of_decide_eq_true hIs
      have hItem : s.item? item.position = some item := find?_of_mem (mem_of_find?_eq_some hNext)
      have hStart := startItem_keeps env hItem hPending
      split
      next next hStarted =>
        rw [hStarted] at hStart
        exact hStart.trans (ih next)
      next next error hStarted =>
        rw [hStarted] at hStart
        exact hStart.trans (startFailed_keeps env item.position error next)

theorem fillSlotsLocked_keeps (env : Env) (s : Locked) : Keeps s (fillSlotsLocked env s) := by
  unfold fillSlotsLocked
  split
  · exact fillSlots_keeps env _ s
  · exact Keeps.refl s

theorem refill_keeps (env : Env) (s : Locked) : Keeps s (refill env s) :=
  (fillSlotsLocked_keeps env s).trans (finalizeIfIdle_keeps env _)

----
-- Ending Tasks
----

theorem Keeps.edit_over (hLinks : ∀ item, (f item).quality.links = item.quality.links)
    (hOver : ∀ item, (f item).state.isOpen = false) : Keeps s (s.edit position f hPosition) := by
  apply Keeps.edit
  intro old _
  refine ⟨hLinks old, fun hOpen => ?_⟩
  rw [hOver old] at hOpen
  cases hOpen

/- The retry is for an item that is still open. -/
theorem scheduleTechnicalRetry_keeps (env : Env) (task_id code label error : String)
    (now : Nat) (scheduleError : Option String) (hItem : s.item? item.position = some item)
    (hOpen : item.state.isOpen) :
    Keeps s (scheduleTechnicalRetry env item task_id code label error now scheduleError s) := by
  have hRecorded : Keeps s (recordTechnicalFailure item task_id code label error now s).1 :=
    Keeps.of_same rfl rfl rfl rfl (fun _ h => h) rfl
  unfold scheduleTechnicalRetry
  dsimp only
  split
  · refine (hRecorded.trans ?_).trans (beginGroupFailure_keeps env _ _ _ _)
    exact Keeps.edit_over (fun _ => rfl) fun _ => rfl
  split
  · refine (hRecorded.trans ?_).trans (beginGroupFailure_keeps env _ _ _ _)
    exact Keeps.edit_over (fun _ => rfl) fun _ => rfl
  · have hWaiting : Keeps s
          (persist env ((recordTechnicalFailure item task_id code label
                error now s).1.edit item.position
              (retryWaitItem code label error s.snapshot.policy.technical_retry_limit)
              (fun _ => rfl))) := by
      refine (hRecorded.trans ?_).trans (persist_keeps env _)
      apply Keeps.edit
      intro old hOld
      refine ⟨rfl, fun _ => ?_⟩
      have hSame : s.item? item.position = some old := hOld
      rw [← Option.some.inj (hItem.symm.trans hSame)]
      exact hOpen
    split
    · exact hWaiting.trans (Keeps.of_same rfl rfl rfl rfl (fun _ h => h) rfl)
    · refine (hWaiting.trans ?_).trans (beginGroupFailure_keeps env _ _ _ _)
      exact Keeps.edit_over (fun _ => rfl) fun _ => rfl

theorem scheduleTechnicalRetry_links (env : Env) (item : Item) (task_id code label error : String)
    (now : Nat) (scheduleError : Option String) (s : Locked) :
    (scheduleTechnicalRetry env item task_id code label error
        now scheduleError s).shared.task_to_group =
      s.shared.task_to_group := by
  unfold scheduleTechnicalRetry
  dsimp only
  split
  · rfl
  split
  · rfl
  split
  · rfl
  · rfl

theorem not_counts (hOver : item.state.isOpen = false)
    (hUnlinked : ∀ link ∈ s.links, link.position ≠ item.position) : ¬ s.Counts item := by
  rintro (hOpen | ⟨link, hLink, hOwn, hAt⟩)
  · rw [hOver] at hOpen
    cases hOpen
  · exact hUnlinked link (mem_filter.mpr ⟨hLink, decide_eq_true hOwn⟩) hAt

theorem endTechnical_keeps (env : Env) (task_id code label error : String)
    (now : Nat) (scheduleError : Option String) (hSafe : s.Safe) (hRetryable : Retryable item s) :
    Keeps s (endTechnical env item task_id code label error now scheduleError s) := by
  let failed := endAttempt task_id "technical_failed" error
  let mid := s.edit item.position failed (fun _ => rfl)
  have hOpen := ItemState.isOpen_of_isSlot (ItemState.isSlot_of_isLive hRetryable.live)
  have hEdit : Keeps s mid := Keeps.edit fun old _ => ⟨rfl, id⟩
  have hFound : mid.item? item.position = some (failed item) :=
    (item?_edit (f := failed) item.position s (fun _ => rfl)).trans
      (congrArg (Option.map failed) hRetryable.found)
  have hEdited : Settles s mid :=
    edit_settles fun old _ => ⟨endAttempt_kept task_id _ error old, id, rfl⟩
  have hStill : Retryable (failed item) mid :=
    ⟨hRetryable.running, hFound, hRetryable.live, hRetryable.fresh, hRetryable.unlinked⟩
  have hScheduled := (scheduleTechnicalRetry_reaches env task_id code label error
      now scheduleError (hEdited.reaches hSafe).safe hStill).2
  have hSchedule : Keeps mid (scheduleTechnicalRetry env (failed item) task_id code label error now
        scheduleError mid) :=
    scheduleTechnicalRetry_keeps env task_id code label error now scheduleError hFound hOpen
  have hGroup := hSchedule.groupId
  have hKeeps := hEdit.trans hSchedule
  have hLinks := scheduleTechnicalRetry_links env (failed item) task_id code label error now
      scheduleError mid
  refine Keeps.trans ?_ (refill_keeps env _)
  refine Keeps.trans ?_ (persist_keeps env _)
  split
  · exact hKeeps
  next later hLater =>
    split
    · exact hKeeps
    next hNotWaiting =>
      refine hKeeps.trans (dropLedger_keeps ?_)
      intro row hRow
      have hPosition := (mem_of_find? hRow).2
      apply not_counts
      · rw [← Option.some.inj (hLater.symm.trans hRow)]
        rcases hScheduled later hLater with hWait | hOver
        · exact absurd hWait hNotWaiting
        · exact hOver
      · intro link hLink
        rw [hPosition]
        apply hRetryable.unlinked link
        have hParts := mem_filter.mp hLink
        rw [hLinks, hGroup] at hParts
        exact mem_filter.mpr hParts

theorem endTask_keeps (env : Env) (task_id terminal_status terminal_error : String)
    (retryable : Option (String × String)) (progress : Bool)
    (hUnlinked : ∀ link ∈ s.links, link.position ≠ item.position) :
    Keeps s (endTask env item task_id terminal_status terminal_error retryable progress s) := by
  have hEnded : Keeps s (endedTask item task_id terminal_status terminal_error s) := by
    unfold endedTask
    generalize hRecovered : (if item.trigger.isSome = false ∧
          s.snapshot.state ∉ [.stopping, .failing] ∧
          terminal_status = "done" then
        markTechnicalRecovery item.position s
      else s) = recovered
    have hRecovers : Keeps s recovered ∧ recovered.links = s.links := by
      rw [← hRecovered]
      split
      · exact ⟨markTechnicalRecovery_keeps item.position s, rfl⟩
      · exact ⟨Keeps.refl s, rfl⟩
    refine (hRecovers.1.trans ?_).trans (dropLedger_keeps ?_)
    · apply Keeps.edit_over
      · exact fun _ => rfl
      · exact fun old => endState_over _ _ _
    intro row hRow
    have hPosition := (mem_of_find? hRow).2
    apply not_counts
    · have hFound := item?_edit
          (f := endItem task_id terminal_status terminal_error s.snapshot.state)
          item.position recovered (fun _ => rfl)
      rw [hFound] at hRow
      rcases Option.map_eq_some_iff.mp hRow with ⟨old, _, hIs⟩
      rw [← hIs]
      exact endState_over _ _ _
    · intro link hLink
      rw [hPosition]
      apply hUnlinked link
      rw [← hRecovers.2]
      exact hLink
  refine Keeps.trans ?_ (refill_keeps env _)
  refine Keeps.trans ?_ (persist_keeps env _)
  split
  · exact hEnded.trans (beginGroupFailure_keeps env _ _ _ _)
  · exact hEnded

theorem stopItems_keeps (mode reason : String) (s : Locked) :
    Keeps s (stopItems mode reason s) := by
  refine Keeps.of_items rfl rfl rfl rfl (fun _ h => h) ?_
  intro position row hRow
  refine find?_updateWhere_kept (fun item => by unfold stopItem; split_ifs <;> rfl)
      (fun item => ?_) hRow
  unfold stopItem
  split
  · exact ⟨rfl, fun h => by cases h⟩
  split
  · exact ⟨rfl, fun h => by cases h⟩
  split
  · exact ⟨rfl, id⟩
  next hLive =>
    have hOpen : item.state.isOpen :=
      ItemState.isOpen_of_isSlot (ItemState.isSlot_of_isLive (Bool.eq_true_of_not_eq_false hLive))
    split
    · exact ⟨rfl, fun _ => hOpen⟩
    · exact ⟨rfl, fun _ => hOpen⟩

end DomainRotation
