import AutoGpt.DomainRotation.Moves

/-
  Filling the slots, retrying and finishing: the parts of a
  section that move items, up to the refill that ends every
  section which frees a slot.

  Main theorems:
    * `DomainRotation.fillSlotsLocked_filled`
    * `DomainRotation.scheduleTechnicalRetry_reaches`
    * `DomainRotation.finalizeIfIdle_reaches`
-/

open PyText (strip)
open List
open KeyedTable

----
-- Steady Counts
----

namespace DomainRotation

/- The kind does not tell live states apart. -/
def Uniform (q : ItemState → Bool) : Prop := ∀ a b : ItemState, a.isLive → b.isLive → q a = q b

/- The group is where it was, up to the kind of live items. -/
structure Steady (s next : Locked) : Prop where
  state : next.snapshot.state = s.snapshot.state
  counts : ∀ q, Uniform q → stateCount q next.items = stateCount q s.items

variable {s mid next : Locked}
variable {f : Item → Item}
  {hPosition : ∀ item, (f item).position = item.position}

theorem uniform_isSlot : Uniform ItemState.isSlot := by
  intro a b hA hB
  rw [ItemState.isSlot_of_isLive hA, ItemState.isSlot_of_isLive hB]

theorem uniform_isOpen : Uniform ItemState.isOpen := by
  intro a b hA hB
  rw [ItemState.isOpen_of_isSlot (ItemState.isSlot_of_isLive hA),
    ItemState.isOpen_of_isSlot (ItemState.isSlot_of_isLive hB)]

theorem uniform_pending : Uniform (fun state => decide (state = .pending)) := by
  intro a b hA hB
  have hNot : ∀ c : ItemState, c.isLive → decide (c = .pending) = false := by
    intro c hC
    rw [decide_eq_false_iff_not]
    intro hPending
    rw [hPending] at hC
    cases hC
  exact (hNot a hA).trans (hNot b hB).symm

theorem Steady.trans (hFirst : Steady s mid) (hSecond : Steady mid next) : Steady s next :=
  ⟨hSecond.state.trans hFirst.state, fun q hQ => (hSecond.counts q hQ).trans (hFirst.counts q hQ)⟩

theorem Steady.of_snapshot (hSnapshot : next.snapshot = s.snapshot) : Steady s next := by
  have hItems : next.items = s.items := congrArg Snapshot.items hSnapshot
  exact ⟨congrArg Snapshot.state hSnapshot, fun q _ => by rw [hItems]⟩

theorem edit_steady (hItem : s.item? position = some item)
    (hState :
      (f item).state = item.state ∨ item.state.isLive ∧ (f item).state.isLive) :
    Steady s (s.edit position f hPosition) := by
  refine ⟨rfl, ?_⟩
  intro q hQ
  have hCount : stateCount q (s.edit position f hPosition).items + (if q item.state then 1 else 0) =
        stateCount q s.items + (if q (f item).state then 1 else 0) := stateCount_edit q hItem
  have hSame : q (f item).state = q item.state := by
    rcases hState with hEq | ⟨hWas, hLive⟩
    · rw [hEq]
    · exact hQ _ _ hLive hWas
  rw [hSame] at hCount
  omega

----
-- Binding A Task
----

/- `_task_to_group[task_id] = (group_id, position)`. -/
def linkTask (position : Nat) (task_id : String) (s : Locked) :
    Locked :=
  { s with
    shared :=
      { s.shared with
        task_to_group := s.shared.task_to_group.put
            { task_id := task_id, group_id := s.snapshot.task_group_id, position := position } } }

theorem bindTask_blank (hBlank : strip task_id = "") : bindTask env position task_id s = s := by
  unfold bindTask
  rw [if_pos hBlank]

theorem bindTask_eq (hId : strip task_id ≠ "") :
    bindTask env position task_id s = persist env (linkTask position (strip task_id)
          (s.edit position (bindItem (strip task_id)) (fun _ => rfl))) := by
  unfold bindTask
  rw [if_neg hId]
  rfl

/- The new link is the only one of its item. -/
theorem linkTask_reaches (task_id : String) (hSafe : s.Safe) (hItem : s.item? position = some item)
    (hLive : item.state.isLive) (hBound : item.state.isUnbound = false)
    (hUnlinked : ∀ link ∈ s.links, link.position ≠ position) (hRegistered : s.Registered) :
    Reaches s (linkTask position task_id s) := by
  have hLinks : ∀ link ∈ (linkTask position task_id s).links,
        link = { task_id := task_id, group_id := s.snapshot.task_group_id, position := position } ∨
          link ∈ s.links := by
    intro link hLink
    have hMem := mem_filter.mp hLink
    rcases mem_rows_put hMem.1 with hNew | ⟨_, hOld⟩
    · exact .inl hNew
    · exact .inr (mem_filter.mpr ⟨hOld, hMem.2⟩)
  refine ⟨⟨⟨rfl, rfl, rfl, rfl⟩, fun old hOld => ⟨old, hOld, rfl, rfl⟩,
    fun h => ⟨h, rfl⟩, fun _ => rfl, ?_, ⟨[], by rw [append_nil]; rfl, by simp⟩,
    fun _ h => h, fun _ h _ => h, ?_⟩, ⟨hSafe.sound, ⟨?_, ?_, ?_⟩, hSafe.registered⟩, id⟩
  · exact fun _ old hOld hSpent => ⟨old, hOld, hSpent, rfl⟩
  · intro link hLink hOther
    rcases mem_rows_put hLink with hNew | ⟨_, hOld⟩
    · rw [hNew] at hOther
      exact absurd rfl hOther
    · exact hOld
  · intro link hLink
    rcases hLinks link hLink with hNew | hOld
    · rw [hNew]
      exact ⟨item, hItem, hBound, fun _ => hLive⟩
    · exact hSafe.links.item link hOld
  · intro link hLink other hOther hSame
    rcases hLinks link hLink with hNew | hOld
    · rcases hLinks other hOther with hNew' | hOld'
      · exact hNew.trans hNew'.symm
      · rw [hNew] at hSame
        exact absurd hSame.symm (hUnlinked other hOld')
    · rcases hLinks other hOther with hNew' | hOld'
      · rw [hNew'] at hSame
        exact absurd hSame (hUnlinked link hOld)
      · exact hSafe.links.single link hOld other hOld' hSame
  · intro link hLink
    rcases hLinks link hLink with hNew | hOld
    · rw [hNew]
      exact hRegistered
    · exact hSafe.links.known link hOld

theorem Locked.Safe.registered_of_open (hSafe : s.Safe) (hItem : s.item? position = some item)
    (hOpen : item.state.isOpen) : s.snapshot.state.isTerminal = false ∧ s.Registered := by
  have hNotEnded : s.snapshot.state.isTerminal = false := by
    by_contra hEnd
    have hClosed := (hSafe.sound.items item
        (mem_of_find? hItem).1).closed (Bool.eq_true_of_not_eq_false hEnd)
    rw [hOpen] at hClosed
    cases hClosed
  exact ⟨hNotEnded, hSafe.registered hNotEnded⟩

theorem bindTask_reaches (task_id : String) (hSafe : s.Safe) (hItem : s.item? position = some item)
    (hStarting : item.state = .starting) :
    Reaches s (bindTask env position task_id s) ∧ Steady s (bindTask env position task_id s) := by
  by_cases hBlank : strip task_id = ""
  · rw [bindTask_blank hBlank]
    exact ⟨(Settles.refl s).reaches hSafe, Steady.of_snapshot rfl⟩
  · rw [bindTask_eq hBlank]
    have hUnlinked := hSafe.links.unlinked hItem (by rw [hStarting]; rfl)
    have hRegistered := (hSafe.registered_of_open hItem (by rw [hStarting]; rfl)).2
    have hEdit : Settles s (s.edit position (bindItem (strip task_id)) (fun _ => rfl)) := by
      apply edit_settles
      intro old hOld
      have hEq := Option.some.inj (hItem.symm.trans hOld)
      rw [← hEq]
      exact ⟨bindItem_kept _ hStarting, fun _ => rfl, rfl⟩
    have hBound := hEdit.reaches hSafe
    have hFound := item?_edit (f := bindItem (strip task_id)) position s (fun _ => rfl)
    rw [hItem] at hFound
    have hLinked :=
      linkTask_reaches (strip task_id) hBound.safe hFound rfl rfl hUnlinked hRegistered
    have hStored := (persist_settles env _).reaches hLinked.safe
    refine ⟨(hBound.trans hLinked).trans hStored, ?_⟩
    have hSteady : Steady s (s.edit position (bindItem (strip task_id)) (fun _ => rfl)) := by
      apply edit_steady hItem
      rw [hStarting]
      exact .inr ⟨rfl, rfl⟩
    exact hSteady.trans (Steady.of_snapshot rfl)

theorem bindTask_item? (env : Env) (task_id : String) (hItem : s.item? position = some item) :
    ∃ row, (bindTask env position task_id s).item? position = some row := by
  by_cases hBlank : strip task_id = ""
  · rw [bindTask_blank hBlank]
    exact ⟨item, hItem⟩
  · rw [bindTask_eq hBlank]
    have hFound := item?_edit (f := bindItem (strip task_id)) position s (fun _ => rfl)
    rw [hItem] at hFound
    exact ⟨_, hFound⟩

/- One call of `start_task` binds at most one task. -/
theorem bindOutcome_cases (env : Env) (position : Nat) (outcome : StartOutcome) (s : Locked) :
    (bindOutcome env position outcome s).1 = s ∨
      ∃ task_id, (bindOutcome env position outcome s).1 = bindTask env position task_id s := by
  cases hBound : outcome.bound with
  | none =>
    unfold bindOutcome
    simp only [hBound]
    split
    · exact .inl rfl
    next task_id _ =>
      split
      · exact .inl rfl
      split
      · exact .inr ⟨task_id, by dsimp only⟩
      · exact .inl rfl
  | some first =>
    by_cases hBlank : strip first = ""
    · unfold bindOutcome
      simp only [hBound, bindTask_blank hBlank]
      split
      · exact .inl rfl
      next task_id _ =>
        split
        · exact .inl rfl
        split
        · exact .inr ⟨task_id, by dsimp only⟩
        · exact .inl rfl
    · right
      refine ⟨first, ?_⟩
      have hTask : ∀ later, (bindTask env position first s).item? position = some later →
            strip later.task_id ≠ "" := by
        intro later hLater
        rw [bindTask_eq hBlank] at hLater
        have hFound := item?_edit (f := bindItem (strip first)) position s (fun _ => rfl)
        have hEq := hFound.symm.trans hLater
        rcases Option.map_eq_some_iff.mp hEq with ⟨old, _, hNew⟩
        rw [← hNew]
        change strip (strip first) ≠ ""
        rw [PyText.strip_strip]
        exact hBlank
      unfold bindOutcome
      simp only [hBound]
      split
      · dsimp only
      split
      · dsimp only
      next later hLater => rw [if_neg (hTask later hLater)]

----
-- Starting An Item
----

/- The group up to the call of `start_task`. -/
def callingStart (env : Env) (item : Item) (s : Locked) :
    Locked :=
  callStart item
    (persist env (s.edit item.position startingItem (fun item => Eq.refl item.position)))

theorem nextPending_some (hItem : nextPending s.snapshot = some item) :
    s.item? item.position = some item ∧ item.state = .pending := by
  have hMem := mem_of_find?_eq_some hItem
  have hState := find?_some hItem
  exact ⟨find?_of_mem hMem, by simpa using hState⟩

theorem nextPending_none (hNone : nextPending s.snapshot = none) :
    ∀ item ∈ s.items.rows, item.state ≠ .pending := by
  intro item hItem hState
  have hNot := find?_eq_none.mp hNone item hItem
  rw [hState] at hNot
  simp at hNot

/- A pending item is started while a slot is free. -/
theorem callingStart_moves (env : Env) (hSafe : s.Safe) (hRunning : s.snapshot.state = .running)
    (hItem : nextPending s.snapshot = some item)
    (hFree : occupancy s.snapshot < s.snapshot.active_domain_slots) :
    MovesItem item.position item startingItem (fun _ => rfl) s (callingStart env item s) := by
  have hPending := nextPending_some hItem
  have hMem := (mem_of_find? hPending.1).1
  have hSound := hSafe.sound.items item hMem
  have hUnbound : item.state.isUnbound := by
    rw [hPending.2]
    rfl
  have hNotEnded : s.snapshot.state.isTerminal = false := by
    rw [hRunning]
    rfl
  constructor
  · rfl
  · rfl
  · rfl
  · rfl
  · exact hRunning
  · exact hPending.1
  · rw [Item.isSpent_eq_false_iff]
    refine ⟨ItemState.isOpen_of_isUnbound hUnbound, ?_⟩
    by_contra hProgress
    have hBound := hSound.progress (Bool.eq_true_of_not_eq_false hProgress)
    rw [hUnbound] at hBound
    cases hBound
  · exact hSafe.links.unlinked hPending.1 hUnbound
  · exact fun _ => rfl
  · rfl
  · refine ⟨[StartCall.mk s.self item.domain item.position s.snapshot.state], rfl, ?_⟩
    intro call hCall
    rw [mem_singleton.mp hCall, hRunning]
  · have hCount : stateCount ItemState.isSlot
              (s.edit item.position startingItem (fun _ => rfl)).items +
            (if item.state.isSlot then 1 else 0) =
          stateCount ItemState.isSlot s.items + 1 :=
      stateCount_edit ItemState.isSlot hPending.1
    change stateCount ItemState.isSlot (s.edit item.position startingItem (fun _ => rfl)).items ≤ _
    change stateCount ItemState.isSlot s.items < _ at hFree
    omega
  · exact hSound.retries
  · have hStarts := hSound.starts
    rw [hPending.2] at hStarts
    have hMade : (callingStart env item s).made =
          s.made ++ [StartCall.mk s.self item.domain item.position s.snapshot.state] := by
      unfold Locked.made startsOf
      change
        (s.shared.starts ++ [StartCall.mk s.self item.domain item.position s.snapshot.state]).filter
            (fun call => decide (call.runtime = s.self)) = _
      rw [filter_append]
      simp
    unfold startsAt at hStarts ⊢
    rw [hMade, countP_append]
    simpa [ItemState.isQueued, startingItem] using hStarts
  · exact clean_persist (s := s.edit item.position startingItem (fun _ => rfl)) hNotEnded

/- What one pass of the loop does to a running group. -/
structure StartsItem (env : Env) (item : Item) (s : Locked) :
    Prop where
  reaches : Reaches s (startItem env item s).1
  running : (startItem env item s).1.snapshot.state = .running
  found : ∃ row, (startItem env item s).1.item? item.position = some row
  pending : stateCount (fun state => decide (state = .pending)) (startItem env item s).1.items + 1 =
      stateCount (fun state => decide (state = .pending)) s.items

theorem startItem_starts (env : Env) (hSafe : s.Safe) (hRunning : s.snapshot.state = .running)
    (hItem : nextPending s.snapshot = some item)
    (hFree : occupancy s.snapshot < s.snapshot.active_domain_slots) : StartsItem env item s := by
  have hMoves := callingStart_moves env hSafe hRunning hItem hFree
  have hPending := nextPending_some hItem
  have hCalled := hMoves.reaches hSafe
  have hOutcome : (Reaches (callingStart env item s)
            (startItem env item s).1 ∧
          Steady (callingStart env item s) (startItem env item s).1) ∧
        ∃ row, (startItem env item s).1.item? item.position = some row := by
    rcases bindOutcome_cases env item.position
        (env.starts s.shared.starts.length)
        (callingStart env item s) with
      hSame | ⟨task_id, hBinds⟩
    · have hEq : (startItem env item s).1 = callingStart env item s := hSame
      rw [hEq]
      exact ⟨⟨(Settles.refl _).reaches hCalled.safe, Steady.of_snapshot rfl⟩, _, hMoves.item?_self⟩
    · have hEq :
          (startItem env item s).1 = bindTask env item.position task_id (callingStart env item s) :=
        hBinds
      rw [hEq]
      exact ⟨bindTask_reaches task_id hCalled.safe hMoves.item?_self rfl,
          bindTask_item? env task_id hMoves.item?_self⟩
  have hCount : stateCount (fun state => decide (state = .pending))
            (callingStart env item s).items +
          (if decide (item.state = .pending) then 1 else 0) =
        stateCount (fun state => decide (state = .pending))
            s.items +
          0 :=
    stateCount_edit (fun state => decide (state = .pending)) hPending.1
  constructor
  · exact hCalled.trans hOutcome.1.1
  · exact hOutcome.1.2.state.trans hMoves.state
  · exact hOutcome.2
  · rw [hOutcome.1.2.counts _ uniform_pending]
    rw [hPending.2] at hCount
    simpa using hCount

theorem startFailed_reaches (env : Env) (position : Nat) (error : String) (hSafe : s.Safe)
    (hOpen : s.snapshot.state.isTerminal = false) (hItem : ∃ item, s.item? position = some item) :
    Reaches s (startFailed env position error s) ∧
      (startFailed env position error s).snapshot.state = .failing := by
  rcases hItem with ⟨item, hItem⟩
  have hFound := item?_edit (f := startFailedItem env error) position s (fun _ => rfl)
  rw [hItem] at hFound
  unfold startFailed
  simp only [hFound, Option.map_some]
  refine ⟨?_, rfl⟩
  have hFails : Reaches s
        (beginGroupFailure env (startFailedItem env error item) "domain_task_start_failed"
          ("域名 " ++ PyText.orElse item.domain "-" ++ " 的注册任务创建失败；已停止补位并收口活动任务")
          (s.edit position (startFailedItem env error) (fun _ => rfl))) := by
    refine Settles.reaches (failAt_settles _ _ _ ?_ ?_ ?_ hOpen) hSafe
    · exact fun _ => rfl
    · exact fun _ => rfl
    · exact fun _ => rfl
  exact hFails.trans ((persist_settles env _).reaches hFails.safe)

----
-- Filling And Finishing
----

/- No slot of a running group is free while items wait. -/
def Filled (snapshot : Snapshot) : Prop := snapshot.state = .running →
    (∃ item ∈ snapshot.items.rows, item.state = .pending) →
    snapshot.active_domain_slots ≤ occupancy snapshot

/- The loop keeps the group safe, and it fills the slots. -/
theorem fillSlots_reaches (env : Env) (fuel : Nat) (hSafe : s.Safe)
    (hRunning : s.snapshot.state = .running)
    (hFuel : stateCount (fun state => decide (state = .pending)) s.items < fuel) :
    Reaches s (fillSlots env fuel s) ∧ Filled (fillSlots env fuel s).snapshot := by
  -- Every pass takes one item out of the pending ones.
  induction fuel generalizing s with
  | zero => omega
  | succ fuel ih =>
    unfold fillSlots
    split
    next hFull => exact ⟨(Settles.refl s).reaches hSafe, fun _ _ => hFull⟩
    next hFree =>
      split
      next hNone =>
        refine ⟨(Settles.refl s).reaches hSafe, ?_⟩
        rintro _ ⟨item, hItem, hPending⟩
        exact absurd hPending (nextPending_none hNone item hItem)
      next item hItem =>
        have hStarts := startItem_starts env hSafe hRunning hItem (Nat.not_le.mp hFree)
        split
        next later hOutcome =>
          have hLater : (startItem env item s).1 = later := by rw [hOutcome]
          have hReaches := hStarts.reaches
          have hState := hStarts.running
          have hCount := hStarts.pending
          rw [hLater] at hReaches hState hCount
          have hRest := ih hReaches.safe hState (by omega)
          exact ⟨hReaches.trans hRest.1, hRest.2⟩
        next later error hOutcome =>
          have hLater : (startItem env item s).1 = later := by rw [hOutcome]
          have hReaches := hStarts.reaches
          have hState := hStarts.running
          have hFound := hStarts.found
          rw [hLater] at hReaches hState hFound
          have hOpen : later.snapshot.state.isTerminal = false := by
            rw [hState]
            rfl
          have hFails := startFailed_reaches env item.position error hReaches.safe hOpen hFound
          refine ⟨hReaches.trans hFails.1, ?_⟩
          intro hStill
          rw [hFails.2] at hStill
          cases hStill

----
-- Refilling A Group
----

structure Rested (snapshot : Snapshot) : Prop where
  filled : Filled snapshot
  finished :
    (∀ item ∈ snapshot.items.rows, item.state.isOpen = false) → snapshot.state.isTerminal

theorem fillSlotsLocked_reaches (env : Env) (hSafe : s.Safe) :
    Reaches s (fillSlotsLocked env s) ∧ Filled (fillSlotsLocked env s).snapshot := by
  unfold fillSlotsLocked
  split
  next hRunning =>
    apply fillSlots_reaches env _ hSafe hRunning
    exact Nat.lt_succ_of_le countP_le_length
  next hStopped => exact ⟨(Settles.refl s).reaches hSafe, fun hRunning => absurd hRunning hStopped⟩

theorem finalState_isTerminal (snapshot : Snapshot) : (finalState snapshot).isTerminal := by
  unfold finalState
  split
  · rfl
  · rfl
  · rfl
  · rfl
  · rfl
  · rfl
  · split <;> rfl

theorem finalState_of_terminal {snapshot : Snapshot}
    (hTerminal : snapshot.state.isTerminal) : finalState snapshot = snapshot.state := by
  unfold finalState
  cases hState : snapshot.state with
  | running =>
    rw [hState] at hTerminal
    cases hTerminal
  | stopping =>
    rw [hState] at hTerminal
    cases hTerminal
  | failing =>
    rw [hState] at hTerminal
    cases hTerminal
  | completed => rfl
  | stopped => rfl
  | failed => rfl
  | interrupted => rfl

theorem not_running_of_terminal {state : GroupState} (hTerminal : state.isTerminal) :
    state ≠ .running := by
  intro hRunning
  rw [hRunning] at hTerminal
  cases hTerminal

theorem setState_reaches (hSafe : s.Safe)
    (hOver : ∀ item ∈ s.items.rows, item.state.isOpen = false) :
    Reaches s (s.setState (finalState s.snapshot)) := by
  have hFinal := finalState_isTerminal s.snapshot
  have hSound := hSafe.sound
  refine ⟨⟨⟨rfl, rfl, rfl, rfl⟩, fun old hOld => ⟨old, hOld, rfl, rfl⟩, ?_, ?_, ?_,
    ⟨[], by rw [append_nil]; rfl, by simp⟩, fun _ h => h, fun _ h _ => h, fun _ h _ => h⟩,
    ⟨⟨hSound.slots, ?_, hSound.calls, hSound.running, hSound.domains, hSound.ledger⟩,
      ⟨?_, hSafe.links.single, hSafe.links.known⟩, ?_⟩, id⟩
  · exact fun _ => ⟨not_running_of_terminal hFinal, rfl⟩
  · exact fun h => finalState_of_terminal h
  · exact fun _ old hOld hSpent => ⟨old, hOld, hSpent, rfl⟩
  · intro item hItem
    have hOld := hSound.items item hItem
    exact ⟨hOld.retries, hOld.starts, hOld.progress, fun _ => hOver item hItem⟩
  · intro link hLink
    rcases hSafe.links.item link hLink with ⟨item, hItem, hBound, _⟩
    exact ⟨item, hItem, hBound, fun h => absurd h (not_running_of_terminal hFinal)⟩
  · intro hOpen
    change (finalState s.snapshot).isTerminal = false at hOpen
    rw [hFinal] at hOpen
    cases hOpen

/- A finished group loses its ledgers and its links. -/
theorem retireRuntime_reaches (remove : Bool) (hSafe : s.Safe)
    (hTerminal : s.snapshot.state.isTerminal) : Reaches s (retireRuntime remove s) := by
  have hSound := hSafe.sound
  have hNone : (retireRuntime remove s).links = [] := by
    unfold Locked.links
    rw [filter_eq_nil_iff]
    intro link hLink hOwn
    have hMem := mem_filter.mp hLink
    simp only [decide_eq_true_eq] at hOwn
    change link.group_id = s.snapshot.task_group_id at hOwn
    simp [hOwn] at hMem
  refine ⟨⟨⟨rfl, rfl, rfl, rfl⟩, fun old hOld => ⟨old, hOld, rfl, rfl⟩,
    fun h => ⟨h, rfl⟩, fun _ => rfl, ?_, ⟨[], by rw [append_nil]; rfl, by simp⟩, ?_, ?_, ?_⟩,
    ⟨⟨hSound.slots, ?_, hSound.calls, hSound.running, hSound.domains, ?_⟩, ⟨?_, ?_, ?_⟩, ?_⟩, id⟩
  · exact fun _ old hOld hSpent => ⟨old, hOld, hSpent, rfl⟩
  · intro entry hEntry
    unfold retireRuntime at hEntry
    simp only at hEntry
    split at hEntry
    · exact mem_of_mem_filter hEntry
    · exact hEntry
  · intro entry hEntry hOther
    unfold retireRuntime
    simp only
    split
    · exact mem_filter.mpr ⟨hEntry, by simpa using hOther⟩
    · exact hEntry
  · exact fun link hLink _ => mem_of_mem_filter hLink
  · intro item hItem
    have hOld := hSound.items item hItem
    exact ⟨hOld.retries, hOld.starts, hOld.progress, hOld.closed⟩
  · intro item hItem hOpen
    have hOver := (hSound.items item hItem).closed hTerminal
    rw [hOver] at hOpen
    cases hOpen
  · rw [hNone]
    exact fun link h => absurd h not_mem_nil
  · rw [hNone]
    exact fun link h => absurd h not_mem_nil
  · rw [hNone]
    exact fun link h => absurd h not_mem_nil
  · intro hOpen
    change s.snapshot.state.isTerminal = false at hOpen
    rw [hTerminal] at hOpen
    cases hOpen

theorem finalizeIfIdle_reaches (env : Env) (hSafe : s.Safe) :
    Reaches s (finalizeIfIdle env s) ∧
      (Filled s.snapshot → Rested (finalizeIfIdle env s).snapshot) := by
  unfold finalizeIfIdle
  split
  next hOpen =>
    refine ⟨(Settles.refl s).reaches hSafe, ?_⟩
    intro hFilled
    refine ⟨hFilled, ?_⟩
    intro hOver
    rcases any_eq_true.mp hOpen with ⟨item, hItem, hIs⟩
    rw [hOver item hItem] at hIs
    cases hIs
  next hNone =>
    have hOver : ∀ item ∈ s.items.rows, item.state.isOpen = false := by
      intro item hItem
      by_contra hNot
      apply hNone
      rw [any_eq_true]
      exact ⟨item, hItem, Bool.eq_true_of_not_eq_false hNot⟩
    have hFinal := finalState_isTerminal s.snapshot
    have hSet := setState_reaches hSafe hOver
    have hStored := (persist_settles env _).reaches hSet.safe
    have hRetired := retireRuntime_reaches (persists env (s.setState (finalState s.snapshot)))
        hStored.safe hFinal
    refine ⟨(hSet.trans hStored).trans hRetired, ?_⟩
    intro _
    refine ⟨?_, fun _ => hFinal⟩
    exact fun h => absurd h (not_running_of_terminal hFinal)

theorem refill_reaches (env : Env) (hSafe : s.Safe) :
    Reaches s (refill env s) ∧ Rested (refill env s).snapshot := by
  have hFill := fillSlotsLocked_reaches env hSafe
  have hFinal := finalizeIfIdle_reaches env hFill.1.safe
  exact ⟨hFill.1.trans hFinal.1, hFinal.2 hFill.2⟩

end DomainRotation
