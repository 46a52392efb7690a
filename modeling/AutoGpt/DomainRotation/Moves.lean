import AutoGpt.DomainRotation.Sections

/-
  Each `_locked` method settles its group, or makes one of
  the three moves: it starts an item while a slot is free, it
  sends a live item without progress to wait for its retry,
  or it takes a waiting item back into the queue.

  Main theorems:
    * `DomainRotation.fillSlotsLocked_reaches`
    * `DomainRotation.scheduleTechnicalRetry_reaches`
    * `DomainRotation.finalizeIfIdle_reaches`
-/

open KeyedTable (Related find?_of_mem find?_updateKey_self mem_of_find? mem_rows_put
  mem_rows_updateKey related_updateKey related_updateWhere)
open List
open KeyedTable

----
-- Parts That Settle
----

namespace DomainRotation

variable {s next : Locked}

theorem LiveKept.of_items (hItems : next.items = s.items) : LiveKept s next := by
  intro _ link _ item later hItem hLater hLive
  change next.items.find? link.position = some later at hLater
  rw [hItems] at hLater
  have hSame := Option.some.inj (hItem.symm.trans hLater)
  rw [← hSame]
  exact hLive

theorem LiveKept.of_stopped (hState : next.snapshot.state ≠ .running) : LiveKept s next :=
  fun hRunning => absurd hRunning hState

theorem settles_of_snapshot (hSelf : next.self = s.self) (hSnapshot : next.snapshot = s.snapshot)
    (hStarts : next.shared.starts = s.shared.starts)
    (hGroups : next.shared.groups = s.shared.groups)
    (hLinks : ∀ link ∈ next.shared.task_to_group.rows, link ∈ s.shared.task_to_group.rows)
    (hLedger : LedgerSound s.runtime → LedgerSound next.runtime)
    (hClean : Sound s.runtime s.made → Clean s.shared.persisted → Clean next.shared.persisted) :
    Settles s next := by
  have hItems : next.items = s.items := congrArg Snapshot.items hSnapshot
  refine ⟨⟨⟨hSelf, ?_, ?_, ?_⟩, hStarts, hGroups, hLinks, ?_,
    ?_, ?_, ?_, hLedger, hClean⟩, LiveKept.of_items hItems⟩
  · rw [hSnapshot]
  · rw [hSnapshot]
  · rw [hSnapshot]
  · rw [hItems]
    exact Related.refl ItemKept.refl _
  · rw [hSnapshot]
    exact id
  · rw [hSnapshot]
    exact fun _ => rfl
  · rw [hSnapshot]
    exact id

theorem Settles.refl (s : Locked) : Settles s s :=
  settles_of_snapshot rfl rfl rfl rfl (fun _ h => h) id fun _ => id

theorem Settles.trans {mid : Locked} (hFirst : Settles s mid) (hSecond : Settles mid next) :
    Settles s next := by
  refine ⟨hFirst.toCalms.trans hSecond.toCalms, ?_⟩
  intro hRunning link hLink item later hItem hLater hWas
  have hMid := hSecond.toCalms.mem_links hLink
  rcases hFirst.items.find?
      (fun r r' hKept => hKept.position) hItem with
    ⟨row, hRow, _⟩
  have hLive := hFirst.live (hSecond.running hRunning) link hMid item row hItem hRow hWas
  exact hSecond.live hRunning link hLink row later hRow hLater hLive

theorem persist_settles (env : Env) (s : Locked) : Settles s (persist env s) := by
  refine settles_of_snapshot rfl rfl rfl rfl (fun _ h => h) id ?_
  intro hSound hClean snapshot hSnapshot hTerminal
  have hRow : snapshot = s.snapshot ∨ snapshot ∈ s.shared.persisted.rows := by
    unfold persist at hSnapshot
    simp only at hSnapshot
    split at hSnapshot
    · rcases mem_rows_put hSnapshot with
        hNew | ⟨_, hOld⟩
      · exact .inl hNew
      · exact .inr hOld
    · exact .inr hSnapshot
  rcases hRow with hNew | hOld
  · subst hNew
    exact fun item hItem => (hSound.items item hItem).closed hTerminal
  · exact hClean snapshot hOld hTerminal

theorem dropTask_settles (task_id : String) (s : Locked) : Settles s (dropTask task_id s) := by
  refine settles_of_snapshot rfl rfl rfl rfl ?_ id fun _ => id
  exact fun link hLink => mem_of_mem_filter hLink

theorem dropLedger_settles {position : Nat}
    (hOver : ∀ item, s.item? position = some item → item.state.isOpen = false) :
    Settles s (dropLedger position s) := by
  refine settles_of_snapshot rfl rfl rfl rfl (fun _ h => h) ?_ fun _ => id
  intro hLedger item hItem hOpen
  have hNe : item.position ≠ position := by
    intro hSame
    have hFound := find?_of_mem hItem
    rw [hSame] at hFound
    rw [hOver item hFound] at hOpen
    cases hOpen
  have hAccounts : (dropLedger position s).runtime.accounts item.position =
        s.runtime.accounts item.position := by
    unfold dropLedger Runtime.accounts
    simp only
    rw [filter_filter]
    apply filter_congr
    intro account _
    by_cases hAt : account.position = item.position
    · simp [hAt, hNe]
    · simp [hAt]
  rw [hAccounts]
  exact hLedger item hItem hOpen

theorem keepEvents_settles (events : List FailureEvent) (s : Locked) :
    Settles s { s with runtime := { s.runtime with technical_failure_events := events } } :=
  settles_of_snapshot rfl rfl rfl rfl (fun _ h => h) id fun _ => id

theorem addAccount_settles (account : Account) (s : Locked) : Settles s (addAccount account s) := by
  unfold addAccount
  split
  · exact Settles.refl s
  · refine settles_of_snapshot rfl rfl rfl rfl (fun _ h => h)
      ?_ fun _ => id
    intro hLedger item hItem hOpen
    apply Nat.le_trans (hLedger item hItem hOpen)
    unfold Runtime.accounts
    simp

theorem setAccountOutcome_settles (position account_id : Nat) (state : AccountState)
    (reason_code : String) (s : Locked) :
    Settles s (setAccountOutcome position account_id state reason_code s) := by
  refine settles_of_snapshot rfl rfl rfl rfl (fun _ h => h) ?_ fun _ => id
  intro hLedger item hItem hOpen
  apply Nat.le_trans (hLedger item hItem hOpen)
  apply Nat.le_of_eq
  unfold setAccountOutcome Runtime.accounts
  rw [← countP_eq_length_filter, ← countP_eq_length_filter, countP_map]
  apply countP_congr
  intro account _
  simp only [Function.comp_apply]
  split <;> simp

----
-- Writing One Item
----

variable {f : Item → Item}
  {hPosition : ∀ item, (f item).position = item.position}

theorem edit_calms (hKept : ∀ item, s.item? position = some item → ItemKept item (f item))
    (hCounters : ∀ item n, s.item? position = some item → n = (s.runtime.accounts position).length →
        (f item).state.isOpen → item.quality.registered_accounts ≤ n →
        (f item).quality.registered_accounts ≤ n) :
    Calms s (s.edit position f hPosition) := by
  refine ⟨⟨rfl, rfl, rfl, rfl⟩, rfl, rfl, fun _ h => h, ?_, id, fun _ => rfl, id, ?_, fun _ => id⟩
  · exact related_updateKey _ position f hPosition ItemKept.refl hKept
  · intro hLedger row hRow hOpen
    change row ∈ (s.items.updateKey position f hPosition).rows at hRow
    rcases mem_rows_updateKey hRow with ⟨item, hItem, hNew⟩ | ⟨_, hOld⟩
    · subst hNew
      have hFound := mem_of_find? hItem
      have hWas := (hKept item hItem).opened hOpen
      have hLe := hLedger item hFound.1 hWas
      have hAt : (f item).position = position := by rw [hPosition, hFound.2]
      rw [hFound.2] at hLe
      rw [hAt]
      exact hCounters item _ hItem rfl hOpen hLe
    · exact hLedger row hOld hOpen

theorem edit_live
    (hLive : ∀ item, s.item? position = some item → (∃ link ∈ s.links, link.position = position) →
        item.state.isLive → (f item).state.isLive) :
    LiveKept s (s.edit position f hPosition) := by
  intro _ link hLink item later hItem hLater hWas
  change (s.items.updateKey position f hPosition).find? link.position = some later at hLater
  change s.items.find? link.position = some item at hItem
  by_cases hSame : link.position = position
  · rw [hSame] at hItem hLater
    rw [find?_updateKey_self, hItem] at hLater
    cases hLater
    exact hLive item hItem ⟨link, hLink, hSame⟩ hWas
  · rw [find?_updateKey_of_ne _ _ _ hSame, hItem]
      at hLater
    cases hLater
    exact hWas

theorem edit_settles
    (hKept : ∀ item, s.item? position = some item → ItemKept item (f item) ∧
          (item.state.isLive → (f item).state.isLive) ∧
          (f item).quality = item.quality) :
    Settles s (s.edit position f hPosition) := by
  refine ⟨edit_calms ?_ ?_, edit_live ?_⟩
  · exact fun item hItem => (hKept item hItem).1
  · intro item n hItem _ _ hLe
    rw [(hKept item hItem).2.2]
    exact hLe
  · exact fun item hItem _ => (hKept item hItem).2.1

theorem edit_over_settles (hUnlinked : ∀ link ∈ s.links, link.position ≠ position)
    (hOver : ∀ item, (f item).state.isOpen = false)
    (hDomain : ∀ item, (f item).domain = item.domain)
    (hRetries : ∀ item, (f item).retry_count = item.retry_count) :
    Settles s (s.edit position f hPosition) := by
  refine ⟨edit_calms ?_ ?_, edit_live ?_⟩
  · exact fun item _ =>
      ItemKept.of_over (hOver item) (hPosition item) (hDomain item) (hRetries item)
  · intro item n _ _ hOpen
    rw [hOver item] at hOpen
    cases hOpen
  · rintro item _ ⟨link, hLink, hSame⟩
    exact absurd hSame (hUnlinked link hLink)

theorem item?_edit (position : Nat) (s : Locked)
    (hPosition : ∀ item, (f item).position = item.position) :
    (s.edit position f hPosition).item? position = (s.item? position).map f :=
  find?_updateKey_self _ _ _ hPosition

theorem markTechnicalRecovery_settles (position : Nat) (s : Locked) :
    Settles s (markTechnicalRecovery position s) := by
  have hEdit : Settles s (s.edit position recoverItem (fun _ => rfl)) := edit_settles fun item _ =>
      ⟨recoverItem_kept item, id, rfl⟩
  have hEvents := keepEvents_settles
      (s.runtime.technical_failure_events.filter (fun event => event.position ≠ position))
      (s.edit position recoverItem (fun _ => rfl))
  exact hEdit.trans hEvents

----
-- Failing And Stopping
----

theorem LedgerSound.of_settled {r r' : Runtime}
    (hItems : r.snapshot.items.Related ItemSettled r'.snapshot.items)
    (hLedgers : r'.account_ledgers = r.account_ledgers) (hLedger : LedgerSound r) :
    LedgerSound r' := by
  intro row hRow hOpen
  rcases hItems.exists_left hRow with ⟨item, hItem, hSettled⟩
  have hLe := hLedger item hItem (hSettled.opened hOpen)
  unfold Runtime.accounts at hLe ⊢
  rw [hLedgers, hSettled.position, hSettled.counters]
  exact hLe

/- A group that leaves `running` or stays out of it calms down with its items, as long as it had not
   ended. -/
theorem closing_settles (hPlan : SamePlan s next) (hStarts : next.shared.starts = s.shared.starts)
    (hGroups : next.shared.groups = s.shared.groups)
    (hLinks : next.shared.task_to_group = s.shared.task_to_group)
    (hPersisted : next.shared.persisted = s.shared.persisted)
    (hLedgers : next.runtime.account_ledgers = s.runtime.account_ledgers)
    (hItems : s.items.Related ItemSettled next.items) (hOpen : s.snapshot.state.isTerminal = false)
    (hRunning : next.snapshot.state ≠ .running)
    (hTerminal : next.snapshot.state.isTerminal = false) : Settles s next := by
  refine ⟨⟨hPlan, hStarts, hGroups, ?_, ?_, ?_, ?_, ?_, ?_, ?_⟩, LiveKept.of_stopped hRunning⟩
  · rw [hLinks]
    exact fun _ h => h
  · exact List.Forall₂.imp (fun _ _ h => h.toItemKept) hItems
  · exact fun h => absurd h hRunning
  · intro h
    rw [hOpen] at h
    cases h
  · intro h
    rw [hTerminal] at h
    cases h
  · exact LedgerSound.of_settled hItems hLedgers
  · rw [hPersisted]
    exact fun _ => id

theorem beginGroupFailure_settles (failed : Item) (code reason : String)
    (hOpen : s.snapshot.state.isTerminal = false) :
    Settles s (beginGroupFailure env failed code reason s) := by
  refine closing_settles ⟨rfl, rfl, rfl, rfl⟩ rfl rfl rfl rfl
    rfl ?_ hOpen ?_ rfl
  · unfold beginGroupFailure
    refine Related.trans ItemSettled.trans
      (related_updateWhere _ _ _ (fun item => (cancelPending_settled item).position) ?_)
      (related_updateWhere _ _ _ (fun item => (failOther_settled item).position) ?_)
    · intro item _
      exact cancelPending_settled item
    · intro item _
      split
      · exact failOther_settled item
      · exact ItemSettled.refl item
  · unfold beginGroupFailure
    exact fun h => GroupState.noConfusion h

theorem stopItems_settles (mode reason : String) (hOpen : s.snapshot.state.isTerminal = false) :
    Settles s (stopItems mode reason s) := by
  refine closing_settles ⟨rfl, rfl, rfl, rfl⟩ rfl rfl rfl rfl
    rfl ?_ hOpen ?_ rfl
  · unfold stopItems
    refine related_updateWhere _ _ _ (fun item => (stopItem_settled item).position) ?_
    intro item _
    exact stopItem_settled item
  · unfold stopItems
    exact fun h => GroupState.noConfusion h

theorem failAt_settles (failed : Item) (code reason : String)
    (hOver : ∀ item, (f item).state.isOpen = false)
    (hDomain : ∀ item, (f item).domain = item.domain)
    (hRetries : ∀ item, (f item).retry_count = item.retry_count)
    (hOpen : s.snapshot.state.isTerminal = false) :
    Settles s (beginGroupFailure env failed code reason (s.edit position f hPosition)) := by
  have hEdit : Calms s (s.edit position f hPosition) := by
    apply edit_calms
    · exact fun item _ =>
        ItemKept.of_over (hOver item) (hPosition item) (hDomain item) (hRetries item)
    · intro item n _ _ hStill
      rw [hOver item] at hStill
      cases hStill
  have hFails : Settles (s.edit position f hPosition)
        (beginGroupFailure env failed code reason (s.edit position f hPosition)) :=
    beginGroupFailure_settles failed code reason hOpen
  refine ⟨hEdit.trans hFails.toCalms, LiveKept.of_stopped ?_⟩
  exact fun h => GroupState.noConfusion h

theorem failAt_over (failed : Item) (code reason : String)
    (hOver : ∀ item, (f item).state.isOpen = false) (hOpen : s.snapshot.state.isTerminal = false)
    {later : Item} (hLater : (beginGroupFailure env failed code reason
        (s.edit position f hPosition)).item? position = some later) :
    later.state.isOpen = false := by
  have hFails : Settles (s.edit position f hPosition)
        (beginGroupFailure env failed code reason (s.edit position f hPosition)) :=
    beginGroupFailure_settles failed code reason hOpen
  have hFound := mem_of_find? hLater
  rcases hFails.items.exists_left hFound.1 with ⟨row, hRow, hKept⟩
  change row ∈ (s.items.updateKey position f hPosition).rows at hRow
  by_contra hNot
  have hWas := hKept.opened (Bool.eq_true_of_not_eq_false hNot)
  rcases mem_rows_updateKey hRow with ⟨item, _, hNew⟩ | ⟨hNe, _⟩
  · rw [hNew, hOver item] at hWas
    cases hWas
  · apply hNe
    rw [← hKept.position]
    exact hFound.2

----
-- Moving One Item
----

variable {item : Item}
  {hPosition : ∀ item, (f item).position = item.position}

/- The number of items in states of one kind. -/
def stateCount (q : ItemState → Bool) (items : Items) : Nat :=
  items.rows.countP fun item => q item.state

theorem stateCount_edit (q : ItemState → Bool) (hItem : s.item? position = some item) :
    stateCount q (s.edit position f hPosition).items + (if q item.state then 1 else 0) =
      stateCount q s.items + (if q (f item).state then 1 else 0) :=
  countP_updateKey s.items hItem f hPosition fun item => q item.state

theorem clean_persist (hOpen : s.snapshot.state.isTerminal = false)
    (hClean : Clean s.shared.persisted) : Clean (persist env s).shared.persisted := by
  intro snapshot hSnapshot hTerminal
  unfold persist at hSnapshot
  simp only at hSnapshot
  split at hSnapshot
  · rcases mem_rows_put hSnapshot with
      hNew | ⟨_, hOld⟩
    · rw [hNew, hOpen] at hTerminal
      cases hTerminal
    · exact hClean snapshot hOld hTerminal
  · exact hClean snapshot hSnapshot hTerminal

/- A move of one item of a running group: the item is not spent, no task reports to it, and what is
   called for it stays within its retries. -/
structure MovesItem (position : Nat) (item : Item) (f : Item → Item)
    (hPosition : ∀ item, (f item).position = item.position) (s next : Locked) : Prop where
  self : next.self = s.self
  runtime : next.runtime = (s.edit position f hPosition).runtime
  groups : next.shared.groups = s.shared.groups
  links : next.shared.task_to_group = s.shared.task_to_group
  running : s.snapshot.state = .running
  found : s.item? position = some item
  fresh : item.isSpent = false
  unlinked : ∀ link ∈ s.links, link.position ≠ position
  domain : ∀ item, (f item).domain = item.domain
  counters : (f item).quality = item.quality
  calls : ∃ calls, next.shared.starts = s.shared.starts ++ calls ∧ ∀ call ∈ calls, call =
          { runtime := s.self, domain := item.domain, position := position,
            group_state := .running }
  slots : occupancy next.snapshot ≤ s.snapshot.active_domain_slots
  retries : (f item).retry_count ≤ s.snapshot.policy.technical_retry_limit
  starts : startsAt position next.made + (if (f item).state.isQueued then 1 else 0) ≤
      (f item).retry_count + 1
  clean : Clean s.shared.persisted → Clean next.shared.persisted

namespace MovesItem

variable (hMoves : MovesItem position item f hPosition s next)
include hMoves

theorem mem_rows {row : Item} (hRow : row ∈ next.items.rows) :
    row = f item ∨ (row.position ≠ position ∧ row ∈ s.items.rows) := by
  change row ∈ next.runtime.snapshot.items.rows at hRow
  rw [hMoves.runtime] at hRow
  change row ∈ (s.items.updateKey position f hPosition).rows at hRow
  rcases mem_rows_updateKey hRow with ⟨old, hOld, hNew⟩ | hOther
  · left
    rw [hNew, Option.some.inj (hOld.symm.trans hMoves.found)]
  · exact .inr hOther

theorem item?_of_ne {other : Nat}
    (hNe : other ≠ position) : next.item? other = s.item? other := by
  unfold Locked.item?
  rw [hMoves.runtime]
  exact find?_updateKey_of_ne _ _ hPosition hNe

theorem item?_self : next.item? position = some (f item) := by
  have hFound := item?_edit position s hPosition
  rw [hMoves.found] at hFound
  unfold Locked.item? at hFound ⊢
  rw [hMoves.runtime]
  exact hFound

theorem state : next.snapshot.state = .running := by
  unfold Locked.snapshot
  rw [hMoves.runtime]
  exact hMoves.running

theorem made :
    ∃ calls, next.made = s.made ++ calls ∧ ∀ call ∈ calls,
        call.position = position ∧ call.domain = item.domain ∧ call.group_state = .running := by
  rcases hMoves.calls with ⟨calls, hStarts, hCalls⟩
  refine ⟨calls.filter fun call => decide (call.runtime = s.self), ?_, ?_⟩
  · unfold Locked.made startsOf
    rw [hStarts, hMoves.self, filter_append]
  · intro call hCall
    rw [hCalls call (mem_of_mem_filter hCall)]
    exact ⟨rfl, rfl, rfl⟩

theorem startsAt_of_ne {other : Nat}
    (hNe : other ≠ position) : startsAt other next.made = startsAt other s.made := by
  rcases hMoves.made with ⟨calls, hMade, hCalls⟩
  unfold startsAt
  rw [hMade, countP_append]
  have hNone : (calls.countP fun call => decide (call.position = other)) = 0 := by
    rw [countP_eq_zero]
    intro call hCall
    rw [(hCalls call hCall).1]
    simp [Ne.symm hNe]
  omega

theorem plan : SamePlan s next := by
  have hRuntime := hMoves.runtime
  refine ⟨hMoves.self, ?_, ?_, ?_⟩
  · unfold Locked.snapshot
    rw [hRuntime]
    rfl
  · unfold Locked.snapshot
    rw [hRuntime]
    rfl
  · unfold Locked.snapshot
    rw [hRuntime]
    rfl

theorem itemSound (hSound : Sound s.runtime s.made) {row : Item} (hRow : row ∈ next.items.rows) :
    ItemSound next.runtime next.made row := by
  have hPolicy := hMoves.plan.policy
  have hNotEnded : next.snapshot.state.isTerminal = false := by
    rw [hMoves.state]
    rfl
  have hFound := mem_of_find? hMoves.found
  have hFresh := item.isSpent_eq_false_iff.mp hMoves.fresh
  rcases hMoves.mem_rows hRow with hNew | ⟨hNe, hOld⟩
  · subst hNew
    constructor
    · rw [hPolicy]
      exact hMoves.retries
    · rw [hPosition, hFound.2]
      exact hMoves.starts
    · intro hProgress
      rw [hMoves.counters, hFresh.2] at hProgress
      cases hProgress
    · intro hTerminal
      rw [hNotEnded] at hTerminal
      cases hTerminal
  · have hItem := hSound.items row hOld
    constructor
    · rw [hPolicy]
      exact hItem.retries
    · rw [hMoves.startsAt_of_ne hNe]
      exact hItem.starts
    · exact hItem.progress
    · intro hTerminal
      rw [hNotEnded] at hTerminal
      cases hTerminal

theorem ledger
    (hLedger : LedgerSound s.runtime) : LedgerSound next.runtime := by
  intro row hRow hOpen
  have hAccounts : next.runtime.account_ledgers = s.runtime.account_ledgers := by
    rw [hMoves.runtime]
    rfl
  unfold LedgerSound Runtime.accounts at *
  rw [hAccounts]
  rcases hMoves.mem_rows hRow with hNew | ⟨_, hOld⟩
  · have hFound := mem_of_find? hMoves.found
    have hFresh := item.isSpent_eq_false_iff.mp hMoves.fresh
    rw [hNew, hMoves.counters, hPosition]
    exact hLedger item hFound.1 hFresh.1
  · exact hLedger row hOld hOpen

theorem kept :
    ∀ old ∈ s.items.rows, ∃ row ∈ next.items.rows,
      row.position = old.position ∧ row.domain = old.domain := by
  intro old hOld
  have hFoundOld := find?_of_mem hOld
  by_cases hSame : old.position = position
  · have hRow := mem_of_find? hMoves.item?_self
    have hFound := mem_of_find? hMoves.found
    have hEq := eq_of_mem_of_key_eq hOld hFound.1 (hSame.trans hFound.2.symm)
    refine ⟨f item, hRow.1, ?_, ?_⟩
    · rw [hEq, hPosition]
    · rw [hEq, hMoves.domain]
  · have hKept := hMoves.item?_of_ne hSame
    exact ⟨old, (mem_of_find? (hKept.trans hFoundOld)).1, rfl, rfl⟩

theorem sound
    (hSound : Sound s.runtime s.made) : Sound next.runtime next.made := by
  have hExists := hMoves.kept
  constructor
  · rw [hMoves.plan.slots]
    exact hMoves.slots
  · exact fun row hRow => hMoves.itemSound hSound hRow
  · intro call hCall
    rcases hMoves.made with ⟨calls, hMade, hCalls⟩
    rw [hMade] at hCall
    rcases mem_append.mp hCall with hOld | hNew
    · rcases hSound.calls call hOld with
        ⟨old, hMem, hAt, hOf⟩
      rcases hExists old hMem with ⟨row, hRow, hRowAt, hRowOf⟩
      exact ⟨row, hRow, hRowAt.trans hAt, hRowOf.trans hOf⟩
    · have hFound := mem_of_find? hMoves.found
      rcases hExists item hFound.1 with ⟨row, hRow, hRowAt, hRowOf⟩
      have hOf := hCalls call hNew
      refine ⟨row, hRow, ?_, ?_⟩
      · rw [hRowAt, hFound.2, hOf.1]
      · rw [hRowOf, hOf.2.1]
  · intro call hCall
    rcases hMoves.made with ⟨calls, hMade, hCalls⟩
    rw [hMade] at hCall
    rcases mem_append.mp hCall with hOld | hNew
    · exact hSound.running call hOld
    · exact (hCalls call hNew).2.2
  · have hDomains : next.items.rows.map Item.domain = s.items.rows.map Item.domain := by
      have hRelated : s.items.Related (fun old row => row.domain = old.domain)
            (s.items.updateKey position f hPosition) :=
        related_updateKey _ position f hPosition (fun _ => rfl) (fun old _ => hMoves.domain old)
      unfold Locked.items
      rw [hMoves.runtime]
      exact hRelated.map_eq fun _ _ h => h
    exact hDomains ▸ hSound.domains
  · exact hMoves.ledger hSound.ledger

theorem links_sound (hLinks : LinksSound s) : LinksSound next := by
  have hSame : next.links = s.links := by
    unfold Locked.links
    rw [hMoves.links, hMoves.plan.groupId]
  constructor
  · intro link hLink
    rw [hSame] at hLink
    rcases hLinks.item link hLink with ⟨old, hOld, hBound, hLive⟩
    refine ⟨old, ?_, hBound, fun _ => hLive hMoves.running⟩
    rw [hMoves.item?_of_ne (hMoves.unlinked link hLink)]
    exact hOld
  · rw [hSame]
    exact hLinks.single
  · rw [hSame, hMoves.groups]
    exact hLinks.known

theorem advances : Advances s next := by
  have hRunning := hMoves.running
  refine ⟨hMoves.plan, hMoves.kept, ?_, ?_, ?_, ?_, ?_, ?_, ?_⟩
  · exact fun h => absurd hRunning h
  · intro h
    rw [hRunning] at h
    cases h
  · intro other old hOld hSpent
    have hNe : other ≠ position := by
      intro hSame
      rw [hSame] at hOld
      have hEq := Option.some.inj (hMoves.found.symm.trans hOld)
      rw [← hEq, hMoves.fresh] at hSpent
      cases hSpent
    refine ⟨old, ?_, hSpent, hMoves.startsAt_of_ne hNe⟩
    rw [hMoves.item?_of_ne hNe]
    exact hOld
  · rcases hMoves.calls with ⟨calls, hStarts, hCalls⟩
    refine ⟨calls, hStarts, ?_⟩
    intro call hCall
    rw [hCalls call hCall]
  · rw [hMoves.groups]
    exact fun _ h => h
  · rw [hMoves.groups]
    exact fun _ h _ => h
  · rw [hMoves.links]
    exact fun _ h _ => h

theorem reaches (hSafe : s.Safe) : Reaches s next := by
  refine ⟨hMoves.advances, ⟨?_, ?_, ?_⟩, hMoves.clean⟩
  · exact hMoves.sound hSafe.sound
  · exact hMoves.links_sound hSafe.links
  · intro _
    unfold Locked.Registered
    rw [hMoves.groups, hMoves.plan.groupId]
    apply hSafe.registered
    rw [hMoves.running]
    rfl

end MovesItem

theorem LinksSound.unlinked (hLinks : LinksSound s) (hItem : s.item? position = some item)
    (hUnbound : item.state.isUnbound) : ∀ link ∈ s.links, link.position ≠ position := by
  intro link hLink hSame
  rcases hLinks.item link hLink with ⟨old, hOld, hBound, _⟩
  rw [hSame] at hOld
  have hEq := Option.some.inj (hItem.symm.trans hOld)
  rw [hEq, hBound] at hUnbound
  cases hUnbound

end DomainRotation
