import AutoGpt.DomainRotation.Manager
import Mathlib.Tactic.SplitIfs

/-
  What a section of the manager's lock may do to its group.
  Most parts of it only settle the group: no item comes
  nearer to a start, and no start is called. Starting an
  item, sending it to wait for its retry and taking it back
  into the queue are the three moves that do more.

  Main theorems:
    * `DomainRotation.Calms.sound`
    * `DomainRotation.Settles.reaches`
    * `DomainRotation.Reaches.trans`
-/

open KeyedTable
open Bool

----
-- Items That Keep Their Place
----

namespace DomainRotation

/- The item waits for a slot, or for its retry. -/
def ItemState.isQueued (state : ItemState) : Bool := state = .pending || state = .retry_wait

/- No task is bound to the item that could still report. -/
def ItemState.isUnbound (state : ItemState) : Bool := state.isQueued || state = .starting

/- Nothing that the item does can start its domain again. -/
def Item.isSpent (item : Item) : Bool := !item.state.isOpen || item.quality.hasProgress

structure ItemKept (item next : Item) : Prop where
  position : next.position = item.position
  domain : next.domain = item.domain
  retries : next.retry_count = item.retry_count
  slot : next.state.isSlot → item.state.isSlot
  opened : next.state.isOpen → item.state.isOpen
  unbound : next.state.isUnbound → next.state = item.state
  progress : item.isSpent → next.isSpent
  quality : next.state.isUnbound → next.quality.hasProgress = item.quality.hasProgress

structure ItemSettled (item next : Item) : Prop
    extends ItemKept item next where
  counters : next.quality = item.quality

/- The states an item may take without coming nearer. -/
def StateKept (old new : ItemState) : Prop :=
  new = old ∨ new.isOpen = false ∨ old.isLive ∧ (new = .active ∨ new = .draining)

variable {state : ItemState}

theorem ItemState.isOpen_of_isSlot (hSlot : state.isSlot) : state.isOpen := by
  unfold isOpen
  rw [hSlot]
  rfl

theorem ItemState.isSlot_of_isLive (hLive : state.isLive) : state.isSlot := by
  unfold isSlot
  rw [hLive]
  rfl

theorem ItemState.isOpen_of_isUnbound (hUnbound : state.isUnbound) :
    state.isOpen := by
  cases state with
  | pending => rfl
  | starting => rfl
  | retry_wait => rfl
  | active => cases hUnbound
  | draining => cases hUnbound
  | completed => cases hUnbound
  | stopped => cases hUnbound
  | cancelled => cases hUnbound
  | start_failed => cases hUnbound
  | technical_failed => cases hUnbound
  | failed => cases hUnbound
  | interrupted => cases hUnbound
  | quality_rejected => cases hUnbound

theorem ItemState.isUnbound_of_isQueued (hQueued : state.isQueued) :
    state.isUnbound := by
  unfold isUnbound
  rw [hQueued]
  rfl

theorem Item.isSpent_eq_false_iff (item : Item) :
    item.isSpent = false ↔ item.state.isOpen ∧ item.quality.hasProgress = false := by
  unfold isSpent
  rw [or_eq_false_iff, not_eq_false']

theorem ItemKept.refl (item : Item) : ItemKept item item :=
  ⟨rfl, rfl, rfl, id, id, fun _ => rfl, id, fun _ => rfl⟩

theorem ItemKept.trans (first second third : Item) (hFirst : ItemKept first second)
    (hSecond : ItemKept second third) : ItemKept first third := by
  have hMiddle : third.state.isUnbound → second.state.isUnbound := by
    intro hUnbound
    rw [← hSecond.unbound hUnbound]
    exact hUnbound
  constructor
  · exact hSecond.position.trans hFirst.position
  · exact hSecond.domain.trans hFirst.domain
  · exact hSecond.retries.trans hFirst.retries
  · exact fun h => hFirst.slot (hSecond.slot h)
  · exact fun h => hFirst.opened (hSecond.opened h)
  · intro h
    exact (hSecond.unbound h).trans (hFirst.unbound (hMiddle h))
  · exact fun h => hSecond.progress (hFirst.progress h)
  · intro h
    exact (hSecond.quality h).trans (hFirst.quality (hMiddle h))

/- A kept state keeps the item, if nothing else moves. -/
theorem ItemKept.of_state (hState : StateKept item.state next.state)
    (hPosition : next.position = item.position) (hDomain : next.domain = item.domain)
    (hRetries : next.retry_count = item.retry_count) (hQuality : next.quality = item.quality) :
    ItemKept item next := by
  have hOpened : next.state.isOpen → item.state.isOpen := by
    intro hOpen
    rcases hState with hSame | hOver | ⟨hLive, _⟩
    · rw [← hSame]
      exact hOpen
    · rw [hOver] at hOpen
      cases hOpen
    · exact ItemState.isOpen_of_isSlot (ItemState.isSlot_of_isLive hLive)
  constructor
  · exact hPosition
  · exact hDomain
  · exact hRetries
  · intro hSlot
    rcases hState with hSame | hOver | ⟨hLive, _⟩
    · rw [← hSame]
      exact hSlot
    · rw [ItemState.isOpen_of_isSlot hSlot] at hOver
      cases hOver
    · exact ItemState.isSlot_of_isLive hLive
  · exact hOpened
  · intro hUnbound
    rcases hState with hSame | hOver | ⟨_, hActive | hDrain⟩
    · exact hSame
    · rw [ItemState.isOpen_of_isUnbound hUnbound] at hOver
      cases hOver
    · rw [hActive] at hUnbound
      cases hUnbound
    · rw [hDrain] at hUnbound
      cases hUnbound
  · intro hSpent
    unfold Item.isSpent at hSpent ⊢
    rw [hQuality]
    rw [or_eq_true] at hSpent ⊢
    rcases hSpent with hOver | hProgress
    · left
      rw [not_eq_true'] at hOver ⊢
      by_contra hOpen
      rw [hOpened (eq_true_of_not_eq_false hOpen)] at hOver
      cases hOver
    · exact .inr hProgress
  · exact fun _ => congrArg _ hQuality

theorem ItemKept.of_over (hOver : next.state.isOpen = false)
    (hPosition : next.position = item.position) (hDomain : next.domain = item.domain)
    (hRetries : next.retry_count = item.retry_count) : ItemKept item next := by
  constructor
  · exact hPosition
  · exact hDomain
  · exact hRetries
  · intro hSlot
    rw [ItemState.isOpen_of_isSlot hSlot] at hOver
    cases hOver
  · intro hOpen
    rw [hOpen] at hOver
    cases hOver
  · intro hUnbound
    rw [ItemState.isOpen_of_isUnbound hUnbound] at hOver
    cases hOver
  · intro _
    unfold Item.isSpent
    rw [hOver]
    rfl
  · intro hUnbound
    rw [ItemState.isOpen_of_isUnbound hUnbound] at hOver
    cases hOver

theorem ItemSettled.refl (item : Item) : ItemSettled item item := ⟨ItemKept.refl item, rfl⟩

theorem ItemSettled.trans (first second third : Item) (hFirst : ItemSettled first second)
    (hSecond : ItemSettled second third) : ItemSettled first third :=
  ⟨ItemKept.trans first second third hFirst.toItemKept hSecond.toItemKept,
    hSecond.counters.trans hFirst.counters⟩

theorem cancelPending_settled (item : Item) : ItemSettled item (cancelPending item) := by
  unfold cancelPending
  split
  · exact ⟨ItemKept.of_over rfl rfl rfl rfl, rfl⟩
  · exact ItemSettled.refl item

/- Only a live item is asked to drain. -/
private theorem draining_settled (hLive : ¬ item.state.isLive = false)
    (hNext : next = { item with state := .draining }) : ItemSettled item next := by
  subst hNext
  refine ⟨ItemKept.of_state ?_ rfl rfl rfl rfl, rfl⟩
  exact .inr (.inr ⟨eq_true_of_not_eq_false hLive, .inr rfl⟩)

theorem failOther_settled (item : Item) : ItemSettled item (failOther item) := by
  unfold failOther
  split
  · exact ⟨ItemKept.of_over rfl rfl rfl rfl, rfl⟩
  split
  · exact ItemSettled.refl item
  next hLive =>
    split
    · exact ⟨ItemKept.of_over rfl rfl rfl rfl, rfl⟩
    · exact draining_settled hLive rfl

theorem stopItem_settled (item : Item) : ItemSettled item (stopItem item) := by
  unfold stopItem
  split
  · exact ⟨ItemKept.of_over rfl rfl rfl rfl, rfl⟩
  split
  · exact ⟨ItemKept.of_over rfl rfl rfl rfl, rfl⟩
  split
  · exact ItemSettled.refl item
  next hLive =>
    split
    · exact ⟨ItemKept.of_over rfl rfl rfl rfl, rfl⟩
    · exact draining_settled hLive rfl

theorem bindItem_kept (task_id : String) (hStarting : item.state = .starting) :
    ItemKept item (bindItem task_id item) := by
  refine ItemKept.of_state ?_ rfl rfl rfl rfl
  rw [hStarting]
  exact .inr (.inr ⟨rfl, .inl rfl⟩)

theorem recoverItem_kept (item : Item) : ItemKept item (recoverItem item) :=
  ItemKept.of_state (.inl rfl) rfl rfl rfl rfl

theorem drainItem_kept (trigger : Trigger) (hActive : item.state = .active) :
    ItemKept item (drainItem trigger item) := by
  refine ItemKept.of_state ?_ rfl rfl rfl rfl
  rw [hActive]
  exact .inr (.inr ⟨rfl, .inr rfl⟩)

theorem countDecision_kept (disallowed : Bool)
    (hBound : item.state.isUnbound = false) : ItemKept item (countDecision disallowed item) := by
  constructor
  · rfl
  · rfl
  · rfl
  · exact id
  · exact id
  · exact fun _ => rfl
  · intro hSpent
    unfold Item.isSpent at hSpent ⊢
    rw [or_eq_true] at hSpent ⊢
    rcases hSpent with hOver | _
    · exact .inl hOver
    · right
      unfold Quality.hasProgress countDecision
      simp
  · intro hUnbound
    have hSame : item.state.isUnbound := hUnbound
    rw [hBound] at hSame
    cases hSame

theorem requalify_kept {accounts : List Account} (hBound : item.state.isUnbound = false)
    (hLedger : item.state.isOpen → item.quality.registered_accounts ≤ accounts.length) :
    ItemKept item (requalify accounts item) := by
  constructor
  · rfl
  · rfl
  · rfl
  · exact id
  · exact id
  · exact fun _ => rfl
  · intro hSpent
    by_contra hNot
    rw [not_eq_true, Item.isSpent_eq_false_iff] at hNot
    have hOpen : item.state.isOpen := hNot.1
    have hNone : (decide (0 < item.quality.registration_decisions) ||
          decide (0 < accounts.length)) = false := hNot.2
    have hLe := hLedger hOpen
    unfold Item.isSpent Quality.hasProgress at hSpent
    simp only [hOpen, Bool.not_true, Bool.false_or, Bool.or_eq_true, decide_eq_true_eq] at hSpent
    simp only [Bool.or_eq_false_iff, decide_eq_false_iff_not, not_lt] at hNone
    omega
  · intro hUnbound
    have hSame : item.state.isUnbound := hUnbound
    rw [hBound] at hSame
    cases hSame

----
-- Sound Groups
----

def startsOf (self : Nat) (starts : List StartCall) :
    List StartCall :=
  starts.filter fun call => decide (call.runtime = self)

def startsAt (position : Nat) (made : List StartCall) : Nat :=
  made.countP fun call => decide (call.position = position)

/- The starts that the section's group has made. -/
abbrev Locked.made (s : Locked) : List StartCall := startsOf s.self s.shared.starts

/- An item has been started at most once more than it was retried, and once less while it is queued.
   Progress keeps it out of the queue, and a finished group has closed it. -/
structure ItemSound (r : Runtime) (made : List StartCall) (item : Item) :
    Prop where
  retries : item.retry_count ≤ r.snapshot.policy.technical_retry_limit
  starts :
    startsAt item.position made + (if item.state.isQueued then 1 else 0) ≤ item.retry_count + 1
  progress : item.quality.hasProgress → item.state.isUnbound = false
  closed : r.snapshot.state.isTerminal → item.state.isOpen = false

/- The ledger holds the accounts of the items in work. -/
def LedgerSound (r : Runtime) : Prop := ∀ item ∈ r.snapshot.items.rows, item.state.isOpen →
    item.quality.registered_accounts ≤ (r.accounts item.position).length

/- A group that has kept its slots and its retry limit. -/
structure Sound (r : Runtime) (made : List StartCall) :
    Prop where
  slots : occupancy r.snapshot ≤ r.snapshot.active_domain_slots
  items : ∀ item ∈ r.snapshot.items.rows, ItemSound r made item
  calls : ∀ call ∈ made, ∃ item ∈ r.snapshot.items.rows,
      item.position = call.position ∧ item.domain = call.domain
  running : ∀ call ∈ made, call.group_state = .running
  domains : (r.snapshot.items.rows.map Item.domain).Nodup
  ledger : LedgerSound r

/- No stored snapshot of a finished group has open items. -/
def Clean (persisted : KeyedTable Snapshot String Snapshot.task_group_id) :
    Prop :=
  ∀ snapshot ∈ persisted.rows, snapshot.state.isTerminal →
    ∀ item ∈ snapshot.items.rows, item.state.isOpen = false

/- The tasks whose reports reach the group. -/
def Locked.links (s : Locked) : List TaskLink := s.shared.task_to_group.rows.filter fun link =>
    decide (link.group_id = s.snapshot.task_group_id)

/- A linked item has a task, one at most, and while the group runs it holds a slot. Links belong to
   registered groups. -/
structure LinksSound (s : Locked) : Prop where
  item : ∀ link ∈ s.links, ∃ item, s.item? link.position = some item ∧
        item.state.isUnbound = false ∧ (s.snapshot.state = .running → item.state.isLive)
  single : ∀ link ∈ s.links, ∀ other ∈ s.links, link.position = other.position → link = other
  known : ∀ link ∈ s.links, ∃ entry ∈ s.shared.groups.rows, entry.group_id = link.group_id

def Locked.Registered (s : Locked) : Prop :=
  ∃ entry ∈ s.shared.groups.rows, entry.group_id = s.snapshot.task_group_id

/- What holds of a group whenever its lock is taken. -/
structure Locked.Safe (s : Locked) : Prop where
  sound : Sound s.runtime s.made
  links : LinksSound s
  registered : s.snapshot.state.isTerminal = false → s.Registered

----
-- Settling A Group
----

/- The parts of a snapshot that no method writes. -/
structure SamePlan (s next : Locked) : Prop where
  self : next.self = s.self
  groupId : next.snapshot.task_group_id = s.snapshot.task_group_id
  slots : next.snapshot.active_domain_slots = s.snapshot.active_domain_slots
  policy : next.snapshot.policy = s.snapshot.policy

/- No start is called, no item comes nearer to one, and the group neither ends nor gets running
   again. -/
structure Calms (s next : Locked) : Prop where
  plan : SamePlan s next
  starts : next.shared.starts = s.shared.starts
  groups : next.shared.groups = s.shared.groups
  links : ∀ link ∈ next.shared.task_to_group.rows, link ∈ s.shared.task_to_group.rows
  items : s.items.Related ItemKept next.items
  running : next.snapshot.state = .running → s.snapshot.state = .running
  terminal : s.snapshot.state.isTerminal → next.snapshot.state = s.snapshot.state
  ended : next.snapshot.state.isTerminal → s.snapshot.state.isTerminal
  ledger : LedgerSound s.runtime → LedgerSound next.runtime
  clean : Sound s.runtime s.made → Clean s.shared.persisted → Clean next.shared.persisted

/- While the group runs, linked items keep their slots. -/
def LiveKept (s next : Locked) : Prop := next.snapshot.state = .running →
    ∀ link ∈ next.links, ∀ item later, s.item? link.position = some item →
        next.item? link.position = some later →
        item.state.isLive → later.state.isLive

/- The group calms down, and its links stay sound. -/
structure Settles (s next : Locked) : Prop
    extends Calms s next where
  live : LiveKept s next

theorem SamePlan.trans (hFirst : SamePlan s mid) (hSecond : SamePlan mid next) : SamePlan s next :=
  ⟨hSecond.self.trans hFirst.self, hSecond.groupId.trans hFirst.groupId,
    hSecond.slots.trans hFirst.slots, hSecond.policy.trans hFirst.policy⟩

theorem Calms.made_eq (hCalms : Calms s next) : next.made = s.made := by
  unfold Locked.made
  rw [hCalms.starts, hCalms.plan.self]

theorem Calms.itemSound (hCalms : Calms s next) {row : Item} (hKept : ItemKept item row)
    (hItem : ItemSound s.runtime s.made item) : ItemSound next.runtime next.made row := by
  constructor
  · rw [hKept.retries, hCalms.plan.policy]
    exact hItem.retries
  · have hStarts := hItem.starts
    rw [hKept.retries, hKept.position, hCalms.made_eq]
    by_cases hQueued : row.state.isQueued
    · have hState := hKept.unbound (ItemState.isUnbound_of_isQueued hQueued)
      rw [hState]
      exact hStarts
    · rw [if_neg hQueued]
      omega
  · intro hProgress
    by_contra hBound
    have hUnbound := eq_true_of_not_eq_false hBound
    rw [hKept.quality hUnbound] at hProgress
    have hNot := hItem.progress hProgress
    rw [← hKept.unbound hUnbound, hUnbound] at hNot
    cases hNot
  · intro hTerminal
    have hClosed := hItem.closed (hCalms.ended hTerminal)
    by_contra hOpen
    rw [hKept.opened (eq_true_of_not_eq_false hOpen)] at hClosed
    cases hClosed

theorem Calms.sound (hCalms : Calms s next) (hSound : Sound s.runtime s.made) :
    Sound next.runtime next.made := by
  have hItems := hCalms.items
  constructor
  · rw [hCalms.plan.slots]
    apply Nat.le_trans _ hSound.slots
    exact hItems.countP_le fun r r' hKept => hKept.slot
  · intro row hRow
    rcases hItems.exists_left hRow with ⟨item, hItem, hKept⟩
    exact hCalms.itemSound hKept (hSound.items item hItem)
  · intro call hCall
    rw [hCalms.made_eq] at hCall
    rcases hSound.calls call hCall with ⟨item, hItem, hPosition, hDomain⟩
    rcases hItems.find? (fun r r' hKept => hKept.position)
        (find?_of_mem hItem) with
      ⟨later, hLater, hKept⟩
    exact ⟨later, (mem_of_find? hLater).1, hKept.position.trans hPosition,
        hKept.domain.trans hDomain⟩
  · rw [hCalms.made_eq]
    exact hSound.running
  · rw [hItems.map_eq fun r r' hKept => hKept.domain]
    exact hSound.domains
  · exact hCalms.ledger hSound.ledger

theorem Calms.trans (hFirst : Calms s mid) (hSecond : Calms mid next) : Calms s next := by
  constructor
  · exact hFirst.plan.trans hSecond.plan
  · exact hSecond.starts.trans hFirst.starts
  · exact hSecond.groups.trans hFirst.groups
  · exact fun link h => hFirst.links link (hSecond.links link h)
  · exact KeyedTable.Related.trans ItemKept.trans hFirst.items hSecond.items
  · exact fun h => hFirst.running (hSecond.running h)
  · intro h
    have hMid := hFirst.terminal h
    rw [← hMid] at h
    exact (hSecond.terminal h).trans hMid
  · exact fun h => hFirst.ended (hSecond.ended h)
  · exact fun h => hSecond.ledger (hFirst.ledger h)
  · exact fun hSound hClean => hSecond.clean (hFirst.sound hSound) (hFirst.clean hSound hClean)

theorem Calms.registered (hCalms : Calms s next)
    (hRegistered : s.snapshot.state.isTerminal = false → s.Registered)
    (hOpen : next.snapshot.state.isTerminal = false) : next.Registered := by
  have hWas : s.snapshot.state.isTerminal = false := by
    by_contra hEnd
    have hTerminal := eq_true_of_not_eq_false hEnd
    rw [hCalms.terminal hTerminal, hTerminal] at hOpen
    cases hOpen
  unfold Locked.Registered
  rw [hCalms.groups, hCalms.plan.groupId]
  exact hRegistered hWas

theorem Calms.mem_links (hCalms : Calms s next) {link : TaskLink} (hLink : link ∈ next.links) :
    link ∈ s.links := by
  unfold Locked.links at hLink ⊢
  rw [List.mem_filter, hCalms.plan.groupId] at hLink
  exact List.mem_filter.mpr ⟨hCalms.links link hLink.1, hLink.2⟩

theorem Settles.links_sound (hSettles : Settles s next) (hLinks : LinksSound s) :
    LinksSound next := by
  have hCalms := hSettles.toCalms
  constructor
  · intro link hLink
    rcases hLinks.item link (hCalms.mem_links hLink) with ⟨item, hItem, hBound, hLive⟩
    rcases hCalms.items.find?
        (fun r r' hKept => hKept.position) hItem with
      ⟨later, hLater, hKept⟩
    refine ⟨later, hLater, ?_, ?_⟩
    · by_contra hNot
      have hUnbound := eq_true_of_not_eq_false hNot
      rw [hKept.unbound hUnbound, hBound] at hUnbound
      cases hUnbound
    · intro hRunning
      exact
        hSettles.live hRunning link hLink item later hItem hLater (hLive (hCalms.running hRunning))
  · intro link hLink other hOther
    exact hLinks.single link (hCalms.mem_links hLink) other (hCalms.mem_links hOther)
  · intro link hLink
    rw [hCalms.groups]
    exact hLinks.known link (hCalms.mem_links hLink)

----
-- Advancing A Group
----

/- What any part of a section may do: a group that is not running starts nothing and stays so, a
   finished one keeps its state, spent items stay spent and unstarted, and the other groups keep
   their entries and get no new links. -/
structure Advances (s next : Locked) : Prop where
  plan : SamePlan s next
  kept : ∀ item ∈ s.items.rows, ∃ later ∈ next.items.rows,
      later.position = item.position ∧ later.domain = item.domain
  stopped : s.snapshot.state ≠ .running → next.snapshot.state ≠ .running ∧
        next.shared.starts = s.shared.starts
  terminal : s.snapshot.state.isTerminal → next.snapshot.state = s.snapshot.state
  spent : ∀ position item, s.item? position = some item → item.isSpent →
      ∃ later, next.item? position = some later ∧ later.isSpent ∧
        startsAt position next.made = startsAt position s.made
  others :
    ∃ calls, next.shared.starts = s.shared.starts ++ calls ∧ ∀ call ∈ calls, call.runtime = s.self
  groups : ∀ entry ∈ next.shared.groups.rows, entry ∈ s.shared.groups.rows
  registered : ∀ entry ∈ s.shared.groups.rows,
      entry.group_id ≠ s.snapshot.task_group_id → entry ∈ next.shared.groups.rows
  links : ∀ link ∈ next.shared.task_to_group.rows,
      link.group_id ≠ s.snapshot.task_group_id → link ∈ s.shared.task_to_group.rows

/- A part of a section that keeps the group safe. -/
structure Reaches (s next : Locked) : Prop where
  advances : Advances s next
  safe : next.Safe
  clean : Clean s.shared.persisted → Clean next.shared.persisted

theorem Advances.trans (hFirst : Advances s mid) (hSecond : Advances mid next) :
    Advances s next := by
  have hPlan := hFirst.plan
  constructor
  · exact hPlan.trans hSecond.plan
  · intro item hItem
    rcases hFirst.kept item hItem with ⟨row, hRow, hAt, hOf⟩
    rcases hSecond.kept row hRow with ⟨later, hLater, hStillAt, hStillOf⟩
    exact ⟨later, hLater, hStillAt.trans hAt, hStillOf.trans hOf⟩
  · intro h
    have hMid := hFirst.stopped h
    have hEnd := hSecond.stopped hMid.1
    exact ⟨hEnd.1, hEnd.2.trans hMid.2⟩
  · intro h
    have hMid := hFirst.terminal h
    rw [← hMid] at h
    exact (hSecond.terminal h).trans hMid
  · intro position item hItem hSpent
    rcases hFirst.spent position item hItem hSpent with ⟨later, hLater, hLaterSpent, hSame⟩
    rcases hSecond.spent position later hLater hLaterSpent with ⟨last, hLast, hLastSpent, hSameLast⟩
    exact ⟨last, hLast, hLastSpent, hSameLast.trans hSame⟩
  · rcases hFirst.others with ⟨calls, hCalls, hMine⟩
    rcases hSecond.others with ⟨more, hMore, hMineToo⟩
    refine ⟨calls ++ more, ?_, ?_⟩
    · rw [hMore, hCalls, List.append_assoc]
    · intro call hCall
      rcases List.mem_append.mp hCall with hOld | hNew
      · exact hMine call hOld
      · exact (hMineToo call hNew).trans hPlan.self
  · exact fun entry h => hFirst.groups entry (hSecond.groups entry h)
  · intro entry hEntry hOther
    apply hSecond.registered entry _
    · rw [hPlan.groupId]
      exact hOther
    · exact hFirst.registered entry hEntry hOther
  · intro link hLink hOther
    apply hFirst.links link _ hOther
    apply hSecond.links link hLink
    rw [hPlan.groupId]
    exact hOther

theorem Reaches.trans (hFirst : Reaches s mid) (hSecond : Reaches mid next) : Reaches s next :=
  ⟨hFirst.advances.trans hSecond.advances, hSecond.safe, fun h => hSecond.clean (hFirst.clean h)⟩

theorem Calms.advances (hCalms : Calms s next) : Advances s next := by
  constructor
  · exact hCalms.plan
  · intro item hItem
    rcases hCalms.items.find?
        (fun r r' hKept => hKept.position)
        (find?_of_mem hItem) with
      ⟨later, hLater, hKept⟩
    exact ⟨later, (mem_of_find? hLater).1, hKept.position, hKept.domain⟩
  · exact fun h => ⟨fun hRun => h (hCalms.running hRun), hCalms.starts⟩
  · exact hCalms.terminal
  · intro position item hItem hSpent
    rcases hCalms.items.find?
        (fun r r' hKept => hKept.position) hItem with
      ⟨later, hLater, hKept⟩
    refine ⟨later, hLater, hKept.progress hSpent, ?_⟩
    rw [hCalms.made_eq]
  · exact ⟨[], by rw [hCalms.starts, List.append_nil], by simp⟩
  · rw [hCalms.groups]
    exact fun _ h => h
  · rw [hCalms.groups]
    exact fun _ h _ => h
  · exact fun link h _ => hCalms.links link h

theorem Settles.reaches (hSettles : Settles s next) (hSafe : s.Safe) :
    Reaches s next where
  advances := hSettles.toCalms.advances
  safe := ⟨hSettles.toCalms.sound hSafe.sound, hSettles.links_sound hSafe.links,
      hSettles.toCalms.registered hSafe.registered⟩
  clean := hSettles.clean hSafe.sound

end DomainRotation
