import AutoGpt.DomainRotation.Endings

/-
  Runs of the manager: what every public method, every retry
  callback and every restart keeps of all groups at once.

  Main theorems:
    * `DomainRotation.step_holds`
    * `DomainRotation.run_safe`
    * `DomainRotation.run_advances`
-/

open KeyedTable (mem_of_find?)
open List
open Option

----
-- Safe Worlds
----

namespace DomainRotation

/- Every group is sound, and the tables know what they point to. -/
structure World.Sound (w : World) : Prop where
  known : ∀ entry ∈ w.shared.groups.rows, ∃ r : Runtime,
      w.runtimes[entry.runtime]? = some r ∧ r.snapshot.task_group_id = entry.group_id
  calls : ∀ call ∈ w.shared.starts, call.runtime < w.runtimes.length
  links : ∀ link ∈ w.shared.task_to_group.rows,
      ∃ entry ∈ w.shared.groups.rows, entry.group_id = link.group_id
  sound : ∀ (i : Nat) (r : Runtime), w.runtimes[i]? = some r →
      DomainRotation.Sound r (startsOf i w.shared.starts)
  reports : ∀ entry ∈ w.shared.groups.rows, ∀ r : Runtime, w.runtimes[entry.runtime]? = some r →
        LinksSound { self := entry.runtime, runtime := r, shared := w.shared }

/- Between two methods every group is at rest as well. -/
structure World.Safe (w : World) : Prop
    extends World.Sound w where
  rested : ∀ (i : Nat) (r : Runtime), w.runtimes[i]? = some r → Rested r.snapshot

structure GroupAdvances (r next : Runtime) (made later : List StartCall) :
    Prop where
  kept : ∀ item ∈ r.snapshot.items.rows,
      ∃ row ∈ next.snapshot.items.rows, row.position = item.position ∧ row.domain = item.domain
  stopped : r.snapshot.state ≠ .running → next.snapshot.state ≠ .running ∧ later = made
  terminal : r.snapshot.state.isTerminal → next.snapshot.state = r.snapshot.state
  spent : ∀ position item, r.snapshot.items.find? position = some item → item.isSpent →
      ∃ row, next.snapshot.items.find? position = some row ∧ row.isSpent ∧
        startsAt position later = startsAt position made

/- Every group of the first world advances to the second. -/
def WorldAdvances (w next : World) : Prop := ∀ (i : Nat) (r : Runtime), w.runtimes[i]? = some r →
    ∃ r', next.runtimes[i]? = some r' ∧
      GroupAdvances r r' (startsOf i w.shared.starts) (startsOf i next.shared.starts)

/- What an operation of the running process keeps. -/
structure Holds (w next : World) : Prop where
  safe : next.Safe
  advances : WorldAdvances w next
  clean : Clean w.shared.persisted → Clean next.shared.persisted

theorem GroupAdvances.refl (r : Runtime) (made : List StartCall) : GroupAdvances r r made made :=
  ⟨fun item hItem => ⟨item, hItem, rfl, rfl⟩, fun h => ⟨h, rfl⟩, fun _ => rfl,
    fun _ item hItem hSpent => ⟨item, hItem, hSpent, rfl⟩⟩

theorem GroupAdvances.trans {r mid next : Runtime} {made between later : List StartCall}
    (hFirst : GroupAdvances r mid made between) (hSecond : GroupAdvances mid next between later) :
    GroupAdvances r next made later := by
  constructor
  · intro item hItem
    rcases hFirst.kept item hItem with ⟨row, hRow, hAt, hOf⟩
    rcases hSecond.kept row hRow with ⟨last, hLast, hStillAt, hStillOf⟩
    exact ⟨last, hLast, hStillAt.trans hAt, hStillOf.trans hOf⟩
  · intro h
    have hMid := hFirst.stopped h
    have hEnd := hSecond.stopped hMid.1
    exact ⟨hEnd.1, hEnd.2.trans hMid.2⟩
  · intro h
    have hMid := hFirst.terminal h
    rw [← hMid] at h
    exact (hSecond.terminal h).trans hMid
  · intro position item hItem hSpent
    rcases hFirst.spent position item hItem hSpent with ⟨row, hRow, hRowSpent, hSame⟩
    rcases hSecond.spent position row hRow hRowSpent with ⟨last, hLast, hLastSpent, hSameLast⟩
    exact ⟨last, hLast, hLastSpent, hSameLast.trans hSame⟩

theorem WorldAdvances.refl (w : World) : WorldAdvances w w :=
  fun _ r hr => ⟨r, hr, GroupAdvances.refl r _⟩

theorem WorldAdvances.trans (w mid next : World) (hFirst : WorldAdvances w mid)
    (hSecond : WorldAdvances mid next) : WorldAdvances w next := by
  intro i r hr
  rcases hFirst i r hr with ⟨r', hr', hMid⟩
  rcases hSecond i r' hr' with ⟨last, hLast, hEnd⟩
  exact ⟨last, hLast, hMid.trans hEnd⟩

theorem Holds.refl {w : World} (hSafe : w.Safe) : Holds w w := ⟨hSafe, WorldAdvances.refl w, id⟩

----
-- Taking And Releasing The Lock
----

variable {w : World} {s next : Locked}

/- What is known of the group that a method has locked. -/
structure Locks (w : World) (group_id : String) (s : Locked) :
    Prop where
  shared : s.shared = w.shared
  runtime : w.runtimes[s.self]? = some s.runtime
  groupId : s.snapshot.task_group_id = group_id
  entry : { group_id := group_id, runtime := s.self } ∈ w.shared.groups.rows
  safe : s.Safe

theorem World.Sound.locks (hSafe : w.Sound) (hLock : w.lockGroup group_id = some s) :
    Locks w group_id s := by
  unfold World.lockGroup at hLock
  split at hLock
  · cases hLock
  next entry hEntry =>
    rcases map_eq_some_iff.mp hLock with ⟨r, hr, hs⟩
    subst hs
    have hFound := mem_of_find? hEntry
    rcases hSafe.known entry hFound.1 with ⟨r', hr', hId⟩
    have hSame := some.inj (hr.symm.trans hr')
    subst hSame
    have hEntry : ({ group_id := group_id, runtime := entry.runtime } : GroupLink) = entry := by
      rw [← hFound.2]
    have hOwn : r.snapshot.task_group_id = group_id := hId.trans hFound.2
    refine ⟨rfl, hr, hOwn, ?_, ⟨?_, ?_, ?_⟩⟩
    · rw [hEntry]
      exact hFound.1
    · exact hSafe.sound entry.runtime r hr
    · exact hSafe.reports entry hFound.1 r hr
    · exact fun _ => ⟨entry, hFound.1, hId.symm⟩

theorem startsOf_append_of_ne {i self : Nat} {starts calls : List StartCall}
    (hCalls : ∀ call ∈ calls, call.runtime = self) (hNe : i ≠ self) :
    startsOf i (starts ++ calls) = startsOf i starts := by
  unfold startsOf
  rw [filter_append]
  have hNone : calls.filter (fun call => decide (call.runtime = i)) = [] := by
    rw [filter_eq_nil_iff]
    intro call hCall hIs
    rw [hCalls call hCall, decide_eq_true_eq] at hIs
    exact hNe hIs.symm
  rw [hNone, append_nil]

theorem unlock_self (hLocks : Locks w group_id s) (hSelf : next.self = s.self) :
    (w.unlock next).runtimes[s.self]? = some next.runtime := by
  have hLt : s.self < w.runtimes.length := by
    rcases List.getElem?_eq_some_iff.mp hLocks.runtime with ⟨hLt, _⟩
    exact hLt
  unfold World.unlock
  rw [hSelf]
  exact getElem?_set_self hLt

theorem unlock_of_ne {i : Nat} (hSelf : next.self = s.self) (hNe : i ≠ s.self) :
    (w.unlock next).runtimes[i]? = w.runtimes[i]? := by
  unfold World.unlock
  rw [hSelf]
  exact getElem?_set_ne (Ne.symm hNe)

theorem LinksSound.of_fewer {i : Nat} {r : Runtime} {shared later : Shared}
    (hLinks : ∀ link ∈ later.task_to_group.rows,
        link.group_id = r.snapshot.task_group_id → link ∈ shared.task_to_group.rows)
    (hKnown : ∃ entry ∈ later.groups.rows, entry.group_id = r.snapshot.task_group_id)
    (hSound : LinksSound { self := i, runtime := r, shared := shared }) :
    LinksSound { self := i, runtime := r, shared := later } := by
  have hMem : ∀ link, link ∈ Locked.links
            { self := i, runtime := r, shared := later } →
          link.group_id = r.snapshot.task_group_id ∧
            link ∈ Locked.links { self := i, runtime := r, shared := shared } := by
    intro link hLink
    have hParts := mem_filter.mp hLink
    have hOwn : link.group_id = r.snapshot.task_group_id := of_decide_eq_true hParts.2
    exact ⟨hOwn, mem_filter.mpr ⟨hLinks link hParts.1 hOwn, hParts.2⟩⟩
  constructor
  · exact fun link hLink => hSound.item link (hMem link hLink).2
  · exact fun link hLink other hOther =>
      hSound.single link (hMem link hLink).2 other (hMem other hOther).2
  · intro link hLink
    rcases hKnown with ⟨entry, hEntry, hOwn⟩
    exact ⟨entry, hEntry, hOwn.trans (hMem link hLink).1.symm⟩

theorem Locks.other_id (hLocks : Locks w group_id s) {entry : GroupLink}
    (hEntry : entry ∈ w.shared.groups.rows) (hNe : entry.runtime ≠ s.self) :
    entry.group_id ≠ group_id := by
  intro hSame
  have hEq := KeyedTable.eq_of_mem_of_key_eq hEntry hLocks.entry hSame
  rw [hEq] at hNe
  exact hNe rfl

/- What a section does to its group, it does to the world. -/
theorem unlock_holds (hSafe : w.Sound)
    (hRests : ∀ i r, i ≠ s.self → w.runtimes[i]? = some r → Rested r.snapshot)
    (hLocks : Locks w group_id s) (hReaches : Reaches s next) (hRested : Rested next.snapshot) :
    Holds w (w.unlock next) := by
  have hAdvances := hReaches.advances
  have hSelf := hAdvances.plan.self
  have hGroups : ∀ entry ∈ next.shared.groups.rows, entry ∈ w.shared.groups.rows := by
    rw [← hLocks.shared]
    exact hAdvances.groups
  rcases hAdvances.others with ⟨calls, hCalls, hMine⟩
  rw [hLocks.shared] at hCalls
  have hOthers : ∀ i, i ≠ s.self → startsOf i next.shared.starts = startsOf i w.shared.starts := by
    intro i hNe
    rw [hCalls]
    exact startsOf_append_of_ne hMine hNe
  have hLength : (w.unlock next).runtimes.length = w.runtimes.length := length_set
  refine ⟨⟨⟨?_, ?_, ?_, ?_, ?_⟩, ?_⟩, ?_, ?_⟩
  · intro entry hEntry
    rcases hSafe.known entry (hGroups entry hEntry) with ⟨r, hr, hId⟩
    by_cases hOwn : entry.runtime = s.self
    · refine ⟨next.runtime, ?_, ?_⟩
      · rw [hOwn]
        exact unlock_self hLocks hSelf
      · rw [hOwn] at hr
        have hSame := some.inj (hr.symm.trans hLocks.runtime)
        rw [← hId, hSame]
        exact hAdvances.plan.groupId
    · exact ⟨r, (unlock_of_ne hSelf hOwn).trans hr, hId⟩
  · intro call hCall
    change call ∈ next.shared.starts at hCall
    rw [hLength]
    rw [hCalls] at hCall
    rcases mem_append.mp hCall with hOld | hNew
    · exact hSafe.calls call hOld
    · rw [hMine call hNew]
      rcases List.getElem?_eq_some_iff.mp hLocks.runtime with ⟨hLt, _⟩
      exact hLt
  · intro link hLink
    by_cases hOwn : link.group_id = s.snapshot.task_group_id
    · apply hReaches.safe.links.known link
      apply mem_filter.mpr
      refine ⟨hLink, ?_⟩
      rw [hAdvances.plan.groupId]
      exact decide_eq_true hOwn
    · have hOld := hAdvances.links link hLink hOwn
      rw [hLocks.shared] at hOld
      rcases hSafe.links link hOld with ⟨entry, hEntry, hId⟩
      refine ⟨entry, ?_, hId⟩
      apply hAdvances.registered entry
      · rw [hLocks.shared]
        exact hEntry
      · rw [hId]
        exact hOwn
  · intro i r hr
    by_cases hOwn : i = s.self
    · subst hOwn
      rw [unlock_self hLocks hSelf] at hr
      cases hr
      have hSound := hReaches.safe.sound
      unfold Locked.made at hSound
      rw [hSelf] at hSound
      exact hSound
    · rw [unlock_of_ne hSelf hOwn] at hr
      have hSound := hSafe.sound i r hr
      rw [← hOthers i hOwn] at hSound
      exact hSound
  · intro entry hEntry r hr
    have hOldEntry := hGroups entry hEntry
    by_cases hOwn : entry.runtime = s.self
    · rw [hOwn, unlock_self hLocks hSelf] at hr
      cases hr
      rw [hOwn, ← hSelf]
      exact hReaches.safe.links
    · rw [unlock_of_ne hSelf hOwn] at hr
      rcases hSafe.known entry hOldEntry with ⟨r', hr', hId⟩
      have hSame := some.inj (hr.symm.trans hr')
      subst hSame
      have hNe := hLocks.other_id hOldEntry hOwn
      refine LinksSound.of_fewer ?_ ⟨entry, hEntry, hId.symm⟩ (hSafe.reports entry hOldEntry r hr)
      intro link hLink hAt
      rw [← hLocks.shared]
      apply hAdvances.links link hLink
      rw [hAt, hId, hLocks.groupId]
      exact hNe
  · intro i r hr
    by_cases hOwn : i = s.self
    · subst hOwn
      rw [unlock_self hLocks hSelf] at hr
      cases hr
      exact hRested
    · rw [unlock_of_ne hSelf hOwn] at hr
      exact hRests i r hOwn hr
  · intro i r hr
    by_cases hOwn : i = s.self
    · subst hOwn
      have hSame := some.inj (hr.symm.trans hLocks.runtime)
      subst hSame
      refine ⟨next.runtime, unlock_self hLocks hSelf, hAdvances.kept, ?_, ?_, ?_⟩
      · intro hStopped
        have hStill := hAdvances.stopped hStopped
        refine ⟨hStill.1, ?_⟩
        rw [← hLocks.shared, ← hStill.2]
        rfl
      · exact hAdvances.terminal
      · intro position item hItem hSpent
        rcases hAdvances.spent position item hItem hSpent with ⟨later, hLater, hLaterSpent, hStarts⟩
        refine ⟨later, hLater, hLaterSpent, ?_⟩
        unfold Locked.made at hStarts
        rw [hSelf, hLocks.shared] at hStarts
        exact hStarts
    · refine ⟨r, (unlock_of_ne hSelf hOwn).trans hr, ?_⟩
      have hSame : startsOf i (w.unlock next).shared.starts = startsOf i w.shared.starts :=
        hOthers i hOwn
      rw [hSame]
      exact GroupAdvances.refl r _
  · intro hClean
    apply hReaches.clean
    rw [hLocks.shared]
    exact hClean

theorem World.Safe.unlock_holds (hSafe : w.Safe) (hLocks : Locks w group_id s)
    (hReaches : Reaches s next) (hRested : Rested next.snapshot) : Holds w (w.unlock next) :=
  DomainRotation.unlock_holds hSafe.toSound (fun i r _ hr => hSafe.rested i r hr) hLocks hReaches
    hRested

----
-- Recording Events
----

/- A section that writes down an event: the group stays where it is, and so do its links. -/
structure Notes (s next : Locked) : Prop where
  reaches : Reaches s next
  steady : Steady s next
  links : next.links = s.links
  starts : next.shared.starts = s.shared.starts

theorem Notes.refl (hSafe : s.Safe) : Notes s s :=
  ⟨(Settles.refl s).reaches hSafe, Steady.of_snapshot rfl, rfl, rfl⟩

theorem Notes.trans (hFirst : Notes s mid) (hSecond : Notes mid next) : Notes s next :=
  ⟨hFirst.reaches.trans hSecond.reaches, hFirst.steady.trans hSecond.steady,
    hSecond.links.trans hFirst.links, hSecond.starts.trans hFirst.starts⟩

theorem Rested.of_steady (hSteady : Steady s next) (hPlan : SamePlan s next)
    (hRested : Rested s.snapshot) : Rested next.snapshot := by
  have hSlots := hSteady.counts _ uniform_isSlot
  have hPending := hSteady.counts _ uniform_pending
  have hOpen := hSteady.counts _ uniform_isOpen
  constructor
  · intro hRunning hSome
    have hWas : ∃ item ∈ s.items.rows, item.state = .pending := by
      rcases hSome with ⟨item, hItem, hState⟩
      have hCount : 0 < stateCount (fun state => decide (state = .pending))
            next.items :=
        countP_pos_iff.mpr ⟨item, hItem, decide_eq_true hState⟩
      rw [hPending] at hCount
      rcases countP_pos_iff.mp hCount with ⟨old, hOld, hIs⟩
      exact ⟨old, hOld, of_decide_eq_true hIs⟩
    rw [hSteady.state] at hRunning
    have hFull := hRested.filled hRunning hWas
    rw [hPlan.slots]
    change _ ≤ stateCount ItemState.isSlot next.items
    rw [hSlots]
    exact hFull
  · intro hOver
    rw [hSteady.state]
    apply hRested.finished
    intro old hOld
    by_contra hNot
    have hCount : 0 < stateCount ItemState.isOpen s.items :=
      countP_pos_iff.mpr ⟨old, hOld, Bool.eq_true_of_not_eq_false hNot⟩
    rw [← hOpen] at hCount
    rcases countP_pos_iff.mp hCount with ⟨row, hRow, hIs⟩
    rw [hOver row hRow] at hIs
    cases hIs

theorem Notes.holds (hNotes : Notes s next) (hSafe : w.Safe) (hLocks : Locks w group_id s) :
    Holds w (w.unlock next) :=
  hSafe.unlock_holds hLocks hNotes.reaches (Rested.of_steady hNotes.steady
      hNotes.reaches.advances.plan (hSafe.rested s.self s.runtime hLocks.runtime))

theorem persist_notes (env : Env) (hSafe : s.Safe) : Notes s (persist env s) :=
  ⟨(persist_settles env s).reaches hSafe, Steady.of_snapshot rfl, rfl, rfl⟩

theorem edit_steady_of_state {f : Item → Item}
    {hPosition : ∀ item, (f item).position = item.position}
    (hState : ∀ item, (f item).state = item.state) : Steady s (s.edit position f hPosition) := by
  refine ⟨rfl, ?_⟩
  intro q _
  have hSame : s.items.Related (fun old row => row.state = old.state)
        (s.items.updateKey position f hPosition) :=
    KeyedTable.related_updateKey _ position f hPosition (fun _ => rfl) (fun old _ => hState old)
  have hMap := hSame.map_eq fun _ _ h => h
  unfold stateCount
  rw [← Function.comp_def q Item.state, ← countP_map, ← countP_map]
  exact congrArg (countP q) hMap

theorem markTechnicalRecovery_notes (position : Nat) (hSafe : s.Safe) :
    Notes s (markTechnicalRecovery position s) := by
  have hEdit : Steady s (s.edit position recoverItem (fun _ => rfl)) :=
    edit_steady_of_state fun _ => rfl
  exact ⟨(markTechnicalRecovery_settles position s).reaches hSafe,
      hEdit.trans (Steady.of_snapshot rfl), rfl, rfl⟩

theorem Locked.Safe.bound (hSafe : s.Safe) (hLinked : ∃ link ∈ s.links, link.position = position)
    (hItem : s.item? position = some item) : item.state.isUnbound = false := by
  rcases hLinked with ⟨link, hLink, hSame⟩
  rcases hSafe.links.item link hLink with ⟨old, hOld, hBound, _⟩
  rw [hSame] at hOld
  rw [some.inj (hItem.symm.trans hOld)]
  exact hBound

theorem count_notes {f : Item → Item} {hPosition : ∀ item, (f item).position = item.position}
    (hSafe : s.Safe) (hState : ∀ item, (f item).state = item.state)
    (hKept : ∀ item, s.item? position = some item → ItemKept item (f item))
    (hCounters : ∀ item n, s.item? position = some item → n = (s.runtime.accounts position).length →
        (f item).state.isOpen → item.quality.registered_accounts ≤ n →
        (f item).quality.registered_accounts ≤ n) :
    Notes s (s.edit position f hPosition) := by
  refine ⟨Settles.reaches ⟨edit_calms hKept hCounters,
    edit_live ?_⟩ hSafe, edit_steady_of_state hState, rfl, rfl⟩
  intro old _ _ hLive
  rw [hState]
  exact hLive

theorem triggerQualityStop_notes (env : Env) (position : Nat) (code message : String)
    (hSafe : s.Safe) : Notes s (triggerQualityStop env position code message s) := by
  unfold triggerQualityStop
  split
  · exact Notes.refl hSafe
  next item hItem =>
    simp only
    split
    next hActive =>
      have hEdit : Settles s
            (s.edit position (drainItem { code := code, message := truncate 1000 message })
              (fun _ => rfl)) := by
        apply edit_settles
        intro old hOld
        rw [← some.inj (hItem.symm.trans hOld)]
        exact ⟨drainItem_kept _ hActive.1, fun _ => rfl, rfl⟩
      have hSteady : Steady s
            (s.edit position (drainItem { code := code, message := truncate 1000 message })
              (fun _ => rfl)) := by
        apply edit_steady hItem
        rw [hActive.1]
        exact .inr ⟨rfl, rfl⟩
      have hReaches := hEdit.reaches hSafe
      have hStored := persist_notes env hReaches.safe
      refine ⟨(hReaches.trans hStored.reaches).trans
        (Settles.reaches ?_ hStored.reaches.safe), ?_, rfl, rfl⟩
      · exact settles_of_snapshot rfl rfl rfl rfl (fun _ h => h) id fun _ => id
      · exact hSteady.trans (Steady.of_snapshot rfl)
    · exact Notes.refl hSafe

theorem countDecision_notes (disallowed : Bool) (hSafe : s.Safe)
    (hLinked : ∃ link ∈ s.links, link.position = position) :
    Notes s (s.edit position (countDecision disallowed) (fun _ => rfl)) :=
  count_notes hSafe (fun _ => rfl)
    (fun _ hItem => countDecision_kept disallowed (hSafe.bound hLinked hItem))
    fun _ _ _ _ _ hLe => hLe

theorem recomputeLinkQuality_notes (hSafe : s.Safe)
    (hLinked : ∃ link ∈ s.links, link.position = position) :
    Notes s (recomputeLinkQuality position s) := by
  refine count_notes hSafe ?_ ?_ ?_
  · exact fun _ => rfl
  · intro item hItem
    apply requalify_kept (hSafe.bound hLinked hItem)
    intro hOpen
    have hFound := mem_of_find? hItem
    have hLe := hSafe.sound.ledger item hFound.1 hOpen
    rw [hFound.2] at hLe
    exact hLe
  · intro item n _ hLength _ _
    rw [hLength]
    exact le_rfl

theorem addAccount_notes (account : Account) (hSafe : s.Safe) : Notes s (addAccount account s) := by
  refine ⟨(addAccount_settles account s).reaches hSafe, ?_, ?_, ?_⟩
  · unfold addAccount
    split
    · exact Steady.of_snapshot rfl
    · exact Steady.of_snapshot rfl
  · unfold addAccount
    split
    · rfl
    · rfl
  · unfold addAccount
    split
    · rfl
    · rfl

theorem setAccountOutcome_notes (position account_id : Nat)
    (state : AccountState) (reason_code : String) (hSafe : s.Safe) :
    Notes s (setAccountOutcome position account_id state reason_code s) :=
  ⟨(setAccountOutcome_settles position account_id state reason_code s).reaches hSafe,
    Steady.of_snapshot rfl, rfl, rfl⟩

theorem afterLinkOutcome_notes (env : Env) (hSafe : s.Safe)
    (hLinked : ∃ link ∈ s.links, link.position = position) :
    Notes s (afterLinkOutcome env position s) := by
  have hCounted := recomputeLinkQuality_notes hSafe hLinked
  have hStored := hCounted.trans (persist_notes env hCounted.reaches.safe)
  unfold afterLinkOutcome
  simp only
  split
  · exact hStored
  · split
    · exact hStored.trans (triggerQualityStop_notes env position _ _ hStored.reaches.safe)
    · exact hStored

----
-- Tasks And Their Groups
----

/- What is known of the item that a task reports to. -/
structure Reports (w : World) (task_id : String) (s : Locked) (item : Item) : Prop where
  locks : Locks w s.snapshot.task_group_id s
  found : s.item? item.position = some item
  link :
    { task_id := PyText.strip task_id, group_id := s.snapshot.task_group_id,
      position := item.position } ∈ s.links

theorem World.Safe.reports_of_lockTask (hSafe : w.Safe)
    (hTask : w.lockTask task_id = some (s, item)) : Reports w task_id s item := by
  unfold World.lockTask at hTask
  split at hTask
  · cases hTask
  next link hLink =>
    split at hTask
    · cases hTask
    next locked hLock =>
      rcases map_eq_some_iff.mp hTask with ⟨row, hRow, hPair⟩
      cases hPair
      have hLocks := hSafe.toSound.locks hLock
      have hFoundLink := mem_of_find? hLink
      have hFound := mem_of_find? hRow
      have hPosition : item.position = link.position := hFound.2
      have hId := hLocks.groupId
      refine ⟨?_, ?_, ?_⟩
      · rw [hId]
        exact hLocks
      · rw [hPosition]
        exact hRow
      · have hSame :
            ({ task_id := PyText.strip task_id, group_id := s.snapshot.task_group_id,
               position := item.position } : TaskLink) =
              link := by
          rw [hId, hPosition, ← hFoundLink.2]
        rw [hSame]
        apply mem_filter.mpr
        rw [hLocks.shared]
        exact ⟨hFoundLink.1, decide_eq_true hId.symm⟩

theorem Reports.linked (hReports : Reports w task_id s item) :
    ∃ link ∈ s.links, link.position = item.position :=
  ⟨_, hReports.link, rfl⟩

theorem Reports.unlinked (hReports : Reports w task_id s item) :
    ∀ link ∈ (dropTask task_id s).links, link.position ≠ item.position := by
  intro link hLink hSame
  have hMem := mem_filter.mp hLink
  have hParts := mem_filter.mp hMem.1
  have hOld : link ∈ s.links := mem_filter.mpr ⟨hParts.1, hMem.2⟩
  have hEq := hReports.locks.safe.links.single link hOld _ hReports.link hSame
  have hNe := hParts.2
  rw [hEq] at hNe
  simp at hNe

end DomainRotation
