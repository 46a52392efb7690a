import AutoGpt.DomainRotation.Guarantees
import AutoGpt.DomainRotation.LedgerRuns
import AutoGpt.Library.KeyedEvents
import AutoGpt.Library.Streak

/-
  The link counters after any reports on one item: they add
  up, the streak is the one of the ledger in order, and both
  do not depend on how the reports of different accounts lie
  between each other.

  Main theorems:
    * `DomainRotation.ledgerLinks_perm`
    * `DomainRotation.step_reportLedger`
    * `DomainRotation.link_quality_of_reports`
-/

open PyText (orElse strip)
open List

----
-- Streaks Of A Ledger
----

namespace DomainRotation

/- The account was attempted before the other one. -/
def attemptedBefore (a b : Account) : Bool := decide (a.attempt_order < b.attempt_order) ||
    decide (a.attempt_order = b.attempt_order ∧ a.account_id < b.account_id)

/- The misses after every success, by attempt and id. -/
def missesSinceSuccess (accounts : List Account) : Nat := Streak.since attemptedBefore
    (fun account => decide (account.state = .miss))
    (fun account => decide (account.state = .success))
    accounts

theorem attemptedBefore_asymm (a b : Account) (hBefore : attemptedBefore a b) :
    attemptedBefore b a = false := by
  unfold attemptedBefore at hBefore ⊢
  simp only [Bool.or_eq_true, decide_eq_true_eq] at hBefore
  simp only [Bool.or_eq_false_iff, decide_eq_false_iff_not]
  omega

theorem attemptedBefore_of_ledgerOrder (hOrder : ledgerOrder a b)
    (hIds : a.account_id ≠ b.account_id) : attemptedBefore a b := by
  unfold ledgerOrder at hOrder
  unfold attemptedBefore
  simp only [Bool.or_eq_true, decide_eq_true_eq] at hOrder ⊢
  omega

theorem ledgerOrder_total (a b : Account) : ledgerOrder a b ∨ ledgerOrder b a := by
  unfold ledgerOrder
  simp only [Bool.or_eq_true, decide_eq_true_eq]
  omega

theorem ledgerOrder_trans (hFirst : ledgerOrder a b)
    (hSecond : ledgerOrder b c) : ledgerOrder a c := by
  unfold ledgerOrder at hFirst hSecond ⊢
  simp only [Bool.or_eq_true, decide_eq_true_eq] at hFirst hSecond ⊢
  omega

theorem missStreak_eq_trailing (accounts : List Account) :
    missStreak accounts = Streak.trailing (fun account => decide (account.state = .miss))
        (fun account => decide (account.state = .success))
        (accounts.insertionSort (fun a b => ledgerOrder a b)) := by
  unfold missStreak Streak.trailing
  dsimp only
  rw [filter_map, ← map_reverse, takeWhile_map, length_map]
  congr 2
  · funext account
    rw [Function.comp_apply]
    cases account.state with
    | pending => rfl
    | awaiting_link => rfl
    | success => rfl
    | miss => rfl
    | neutral => rfl
  · congr 1
    apply filter_congr
    intro account _
    rw [Function.comp_apply]
    cases account.state with
    | pending => rfl
    | awaiting_link => rfl
    | success => rfl
    | miss => rfl
    | neutral => rfl

theorem missStreak_eq (hDistinct : (accounts.map Account.account_id).Nodup) :
    missStreak accounts = missesSinceSuccess accounts := by
  let sorted := accounts.insertionSort (fun a b => ledgerOrder a b)
  have hPerm : sorted.Perm accounts := perm_insertionSort _ accounts
  have hTotal : Std.Total fun a b : Account => ledgerOrder a b := ⟨ledgerOrder_total⟩
  have hTrans : IsTrans Account fun a b => ledgerOrder a b := ⟨fun _ _ _ => ledgerOrder_trans⟩
  have hOrdered : sorted.Pairwise fun a b => ledgerOrder a b := pairwise_insertionSort _ accounts
  have hIds : sorted.Pairwise fun a b => a.account_id ≠ b.account_id := by
    rw [← pairwise_map]
    exact (hPerm.map Account.account_id).nodup_iff.mpr hDistinct
  have hStrict : sorted.Pairwise fun a b => attemptedBefore a b :=
    (hOrdered.and hIds).imp fun h => attemptedBefore_of_ledgerOrder h.1 h.2
  rw [missStreak_eq_trailing, Streak.trailing_eq_since sorted hStrict attemptedBefore_asymm ?_]
  · exact Streak.since_perm hPerm
  · intro account hMiss
    rw [of_decide_eq_true hMiss]
    rfl

theorem ledgerLinks_perm (hPerm : accounts.Perm others)
    (hDistinct : (accounts.map Account.account_id).Nodup) :
    ledgerLinks accounts = ledgerLinks others := by
  have hOther := (hPerm.map Account.account_id).nodup_iff.mp hDistinct
  have hStreak : missStreak accounts = missStreak others := by
    rw [missStreak_eq hDistinct, missStreak_eq hOther]
    exact Streak.since_perm hPerm
  unfold ledgerLinks linkQuality Quality.links
  dsimp only
  rw [hPerm.length_eq, hStreak, hPerm.countP_eq, hPerm.countP_eq, hPerm.countP_eq, hPerm.countP_eq]

----
-- Reports On An Account
----

inductive LinkEvent where
| registered (account_id attempt_order : Int)
| eligibility (result : LinkResult)
| link (result : LinkResult)

def LinkEvent.account_id : LinkEvent → Int
| .registered account_id _ => account_id
| .eligibility result => result.account_id
| .link result => result.account_id

/- The method call that makes the report. -/
def LinkEvent.op (task_id : String) : LinkEvent → Op
| .registered account_id attempt_order => .recordRegisteredAccount task_id account_id attempt_order
| .eligibility result => .recordEligibilityResult task_id result
| .link result => .recordLinkResult task_id result

/- The state and reason that a result leaves behind. -/
def outcomeOf (env : Env) (state reason_code : String)
    (outcome : AccountState → Option AccountState) (account : Account) : Account :=
  match outcome account.state with
  | none => account
  | some next =>
    { account with
      state := next
      reason_code := truncate 128
          (lowered env (orElse reason_code state)) }

def LinkEvent.revise (env : Env) :
    LinkEvent → Account → Account
| .registered _ _, account => account
| .eligibility result, account =>
    let state := lowered env (orElse result.state "probe_failed")
    outcomeOf env state result.reason_code (eligibilityOutcome state) account
| .link result, account =>
    let state := lowered env result.state
    let reason_code := lowered env (orElse result.reason_code state)
    outcomeOf env state result.reason_code (linkOutcome state
        (technicalLinkFailure env reason_code (orElse result.message result.error))) account

/- What a report makes of the entry of its account. -/
def LinkEvent.effect (env : Env) (position : Nat) (entry : Option Account) (event : LinkEvent) :
    Option Account :=
  match event, entry with
  | .registered account_id attempt_order, none =>
    some
      { position := position, account_id := positiveInt account_id 0,
        attempt_order := positiveInt attempt_order 1, state := .pending,
        reason_code := "registration_succeeded" }
  | event, entry => entry.map (event.revise env)

/- The ledger of the item after a report. -/
def reportLedger (env : Env) (position : Nat) (accounts : List Account) (event : LinkEvent) :
    List Account :=
  let id := positiveInt event.account_id 0
  if id = 0 then accounts
  else
    match accounts.find? (fun a => a.account_id = id) with
    | none => accounts ++ (event.effect env position none).toList
    | some _ => accounts.map fun a => if a.account_id = id then event.revise env a else a

----
-- Reading A Ledger
----

variable {env : Env}

def entryOf (k : Nat) (accounts : List Account) :
    Option Account :=
  accounts.find? (fun a => a.account_id = k)

theorem entryOf_id
    (hFound : entryOf k accounts = some account) : account.account_id = k := by
  have hIs := find?_some hFound
  exact of_decide_eq_true hIs

theorem outcomeOf_account_id (env : Env) (state reason_code : String)
    (outcome : AccountState → Option AccountState) (account : Account) :
    (outcomeOf env state reason_code outcome account).account_id = account.account_id := by
  unfold outcomeOf
  split
  · rfl
  · rfl

theorem revise_account_id (event : LinkEvent) (account : Account) :
    (event.revise env account).account_id = account.account_id := by
  cases event with
  | registered account_id attempt_order => rfl
  | eligibility result => exact outcomeOf_account_id _ _ _ _ _
  | link result => exact outcomeOf_account_id _ _ _ _ _

theorem effect_none_account_id {event : LinkEvent}
    (hEffect : event.effect env position none = some account) :
    account.account_id = positiveInt event.account_id 0 := by
  cases event with
  | registered account_id attempt_order =>
    cases hEffect
    rfl
  | eligibility result => cases hEffect
  | link result => cases hEffect

theorem effect_some (event : LinkEvent) (account : Account) :
    event.effect env position (some account) = some (event.revise env account) := by
  cases event with
  | registered account_id attempt_order => rfl
  | eligibility result => rfl
  | link result => rfl

theorem entryOf_revised (event : LinkEvent) (id k : Nat) (accounts : List Account) :
    entryOf k
        (accounts.map fun a =>
          if a.account_id = id then event.revise env a
          else a) =
      (entryOf k accounts).map
        (fun a =>
          if a.account_id = id then event.revise env a
          else a) := by
  unfold entryOf
  rw [find?_map]
  congr 2
  funext a
  rw [Function.comp_apply]
  split
  · rw [revise_account_id]
  · rfl

theorem entryOf_reportLedger_self {k : Nat} (hPositive : k ≠ 0)
    (accounts : List Account) (event : LinkEvent) (hOwn : positiveInt event.account_id 0 = k) :
    entryOf k (reportLedger env position accounts event) =
      LinkEvent.effect env position (entryOf k accounts)
        event := by
  unfold reportLedger
  rw [hOwn, if_neg hPositive]
  change
    entryOf k
        (match entryOf k accounts with
        | none => accounts ++ (event.effect env position none).toList
        | some _ =>
          accounts.map fun a =>
            if a.account_id = k then event.revise env a
            else a) =
      _
  cases hFound : entryOf k accounts with
  | none =>
    unfold entryOf at hFound ⊢
    rw [find?_append, hFound, Option.none_or]
    cases hEffect : event.effect env position none with
    | none => rfl
    | some account =>
      have hId := effect_none_account_id hEffect
      rw [hOwn] at hId
      simp [hId]
  | some account =>
    rw [entryOf_revised, hFound, effect_some, Option.map_some, if_pos (entryOf_id hFound)]

theorem entryOf_reportLedger_of_ne {k : Nat} (accounts : List Account) (event : LinkEvent)
    (hOther : k = 0 ∨ positiveInt event.account_id 0 ≠ k) :
    entryOf k (reportLedger env position accounts event) = entryOf k accounts := by
  unfold reportLedger
  dsimp only
  split
  · rfl
  next hPositive =>
    have hNe : positiveInt event.account_id 0 ≠ k := by
      rcases hOther with hZero | hNe
      · rw [hZero]
        exact hPositive
      · exact hNe
    split
    · unfold entryOf
      rw [find?_append]
      cases hEffect : event.effect env position none with
      | none => simp
      | some account =>
        have hId := effect_none_account_id hEffect
        have hNone : [account].find? (fun a => a.account_id = k) = none := by
          rw [find?_eq_none]
          intro a hA hIs
          rw [mem_singleton.mp hA, hId] at hIs
          exact hNe (of_decide_eq_true hIs)
        rw [Option.toList_some, hNone, Option.or_none]
    · rw [entryOf_revised]
      cases hFound : entryOf k accounts with
      | none => rfl
      | some account =>
        rw [Option.map_some, if_neg]
        rw [entryOf_id hFound]
        exact hNe.symm

theorem reportLedger_distinct {accounts : List Account} (event : LinkEvent)
    (hDistinct : (accounts.map Account.account_id).Nodup) :
    ((reportLedger env position accounts event).map Account.account_id).Nodup := by
  unfold reportLedger
  dsimp only
  split
  · exact hDistinct
  split
  next hNone =>
    cases hEffect : event.effect env position none with
    | none =>
      rw [Option.toList_none, append_nil]
      exact hDistinct
    | some account =>
      have hId := effect_none_account_id hEffect
      rw [Option.toList_some, map_append, nodup_append]
      refine ⟨hDistinct, nodup_singleton _, ?_⟩
      intro id hOld other hNew hSame
      rcases mem_map.mp hOld with ⟨a, hA, rfl⟩
      rw [find?_eq_none] at hNone
      apply hNone a hA
      rw [hSame, mem_singleton.mp hNew, hId]
      exact decide_eq_true rfl
  · rw [map_map]
    have hIds : accounts.map
            (Account.account_id ∘ fun a =>
              if a.account_id = positiveInt event.account_id 0
              then event.revise env a else a) =
          accounts.map Account.account_id := by
      apply map_congr_left
      intro a _
      rw [Function.comp_apply]
      split
      · exact revise_account_id event a
      · rfl
    rw [hIds]
    exact hDistinct

theorem reportLedger_run_distinct (events : List LinkEvent)
    (hDistinct : (accounts.map Account.account_id).Nodup) :
    ((events.foldl (reportLedger env position) accounts).map Account.account_id).Nodup := by
  induction events generalizing accounts with
  | nil => exact hDistinct
  | cons event events ih => exact ih (reportLedger_distinct event hDistinct)

/- Reports with the same order within every account leave the same accounts behind. -/
theorem reportLedger_run_perm {events others : List LinkEvent} {accounts : List Account}
    (hDistinct : (accounts.map Account.account_id).Nodup)
    (hSame : ∀ account_id : Int, events.filter (fun e => e.account_id = account_id) =
          others.filter (fun e => e.account_id = account_id)) :
    (events.foldl (reportLedger env position) accounts).Perm
      (others.foldl (reportLedger env position) accounts) := by
  apply KeyedEvents.perm_of_find?_eq (reportLedger_run_distinct events hDistinct)
      (reportLedger_run_distinct others hDistinct)
  intro k
  change entryOf k _ = entryOf k _
  by_cases hZero : k = 0
  · have hSkip : ∀ (list : List LinkEvent) (rows : List Account),
          entryOf k (list.foldl (reportLedger env position) rows) = entryOf k rows := by
      intro list
      induction list with
      | nil => exact fun _ => rfl
      | cons event list ih =>
        intro rows
        rw [foldl_cons, ih, entryOf_reportLedger_of_ne rows event (.inl hZero)]
    rw [hSkip, hSkip]
  · have hKeys :
        ∀ event : LinkEvent, positiveInt event.account_id 0 = k ↔ event.account_id = (k : Int) := by
      intro event
      unfold positiveInt nonnegativeInt
      split
      · omega
      · omega
    have hEvents : ∀ list : List LinkEvent, list.filter
              (fun e => positiveInt e.account_id 0 = k) =
            list.filter (fun e => e.account_id = (k : Int)) := by
      intro list
      apply filter_congr
      intro event _
      exact decide_eq_decide.mpr (hKeys event)
    apply KeyedEvents.read_foldl_congr (entryOf_reportLedger_self hZero)
        (fun rows event hNe => entryOf_reportLedger_of_ne rows event (.inr hNe))
    rw [hEvents, hEvents]
    exact hSame k

----
-- Reports To A Task
----

variable {w : World} {next : Locked}

/- The tables, the ledgers and the item stay in place. -/
structure Follows (position : Nat) (s next : Locked) :
    Prop where
  self : next.self = s.self
  tasks : next.shared.task_to_group = s.shared.task_to_group
  groups : next.shared.groups = s.shared.groups
  ledgers : next.runtime.account_ledgers = s.runtime.account_ledgers
  item : ∀ item, s.item? position = some item → ∃ row, next.item? position = some row

theorem Follows.refl (position : Nat) (s : Locked) : Follows position s s :=
  ⟨rfl, rfl, rfl, rfl, fun item hItem => ⟨item, hItem⟩⟩

theorem Follows.trans (hFirst : Follows position s mid) (hSecond : Follows position mid next) :
    Follows position s next := by
  refine ⟨hSecond.self.trans hFirst.self, hSecond.tasks.trans hFirst.tasks,
      hSecond.groups.trans hFirst.groups, hSecond.ledgers.trans hFirst.ledgers, ?_⟩
  intro item hItem
  rcases hFirst.item item hItem with ⟨between, hBetween⟩
  exact hSecond.item between hBetween

theorem persist_follows (env : Env) (position : Nat) (s : Locked) :
    Follows position s (persist env s) :=
  ⟨rfl, rfl, rfl, rfl, fun item hItem => ⟨item, hItem⟩⟩

theorem edit_follows : Follows position s (s.edit position f hPosition) := by
  refine ⟨rfl, rfl, rfl, rfl, fun item hItem => ⟨f item, ?_⟩⟩
  rw [item?_edit, hItem]
  rfl

theorem markTechnicalRecovery_follows (position : Nat) (s : Locked) :
    Follows position s (markTechnicalRecovery position s) := by
  have hEdit : Follows position s (s.edit position recoverItem (fun _ => rfl)) := edit_follows
  exact ⟨rfl, rfl, rfl, rfl, hEdit.item⟩

theorem triggerQualityStop_follows (env : Env) (position : Nat) (code message : String)
    (s : Locked) : Follows position s (triggerQualityStop env position code message s) := by
  unfold triggerQualityStop
  split
  · exact Follows.refl position s
  next item _ =>
    dsimp only
    split
    · have hEdit : Follows position s
            (s.edit position (drainItem { code := code, message := truncate 1000 message })
              (fun _ => rfl)) :=
        edit_follows
      exact ⟨rfl, rfl, rfl, rfl, hEdit.item⟩
    · exact Follows.refl position s

theorem recomputeLinkQuality_follows (position : Nat) (s : Locked) :
    Follows position s (recomputeLinkQuality position s) :=
  edit_follows

theorem afterLinkOutcome_follows (env : Env) (position : Nat) (s : Locked) :
    Follows position s (afterLinkOutcome env position s) := by
  have hCounted : Follows position s (persist env (recomputeLinkQuality position s)) :=
    (recomputeLinkQuality_follows position s).trans (persist_follows env position _)
  unfold afterLinkOutcome
  dsimp only
  split
  · exact hCounted
  split
  · exact hCounted.trans (triggerQualityStop_follows env position _ _ _)
  · exact hCounted

/- The task still reports to the item of its group. -/
theorem lockTask_unlock (hSafe : w.Safe) (hTask : w.lockTask task_id = some (s, item))
    (hSelf : next.self = s.self) (hTasks : next.shared.task_to_group = s.shared.task_to_group)
    (hGroups : next.shared.groups = s.shared.groups) (hItem : next.item? item.position = some row) :
    (w.unlock next).lockTask task_id = some (next, row) := by
  have hReports := hSafe.reports_of_lockTask hTask
  have hLocks := hReports.locks
  have hShared := hLocks.shared
  have hLink : (w.unlock next).shared.task_to_group.find? (strip task_id) = some
          { task_id := strip task_id, group_id := s.snapshot.task_group_id,
            position := item.position } := by
    unfold World.unlock
    rw [hTasks]
    exact KeyedTable.find?_of_mem (mem_filter.mp hReports.link).1
  have hGroup : (w.unlock next).shared.groups.find? s.snapshot.task_group_id = some
          { group_id := s.snapshot.task_group_id, runtime := s.self } := by
    unfold World.unlock
    rw [hGroups, hShared]
    exact KeyedTable.find?_of_mem hLocks.entry
  have hRuntime := unlock_self hLocks hSelf
  unfold World.lockTask World.lockGroup
  rw [hLink]
  dsimp only
  rw [hGroup]
  dsimp only
  rw [hRuntime, Option.map_some, ← hSelf]
  change (next.item? item.position).map (fun item => (next, item)) = _
  rw [hItem]
  rfl

theorem accounts_addAccount (env : Env) (position : Nat) (account_id attempt_order : Int)
    (hPositive : positiveInt account_id 0 ≠ 0) (s : Locked) :
    (addAccount
        { position := position, account_id := positiveInt account_id 0,
          attempt_order := positiveInt attempt_order 1, state := .pending,
          reason_code := "registration_succeeded" }
        s).runtime.accounts position =
      reportLedger env position (s.runtime.accounts position)
        (.registered account_id attempt_order) := by
  unfold addAccount reportLedger LinkEvent.account_id
  dsimp only
  rw [if_neg hPositive]
  split
  next hAny =>
    rw [any_eq_true] at hAny
    rcases hAny with ⟨a, hA, hIs⟩
    split
    next hNone =>
      rw [find?_eq_none] at hNone
      exact absurd hIs (hNone a hA)
    · conv_lhs =>
        rw [← map_id (s.runtime.accounts position)]
      apply map_congr_left
      intro account _
      split
      · rfl
      · rfl
  next hNew =>
    split
    · unfold Runtime.accounts
      rw [filter_append]
      congr 1
      simp [LinkEvent.effect]
    next a hFound =>
      refine absurd ?_ hNew
      have hIs := entryOf_id hFound
      rw [any_eq_true]
      exact ⟨a, mem_of_find?_eq_some hFound, decide_eq_true hIs⟩

/- The task reports to the item, whose ledger is given. -/
def Reported (w : World) (task_id : String) (s : Locked) (item : Item)
    (accounts : List Account) : Prop :=
  ∃ next row, w.lockTask task_id = some (next, row) ∧
      next.self = s.self ∧ row.position = item.position ∧
      next.runtime.accounts item.position = accounts

theorem reported_of_follows (hSafe : w.Safe)
    (hTask : w.lockTask task_id = some (s, item)) (hFirst : Follows item.position s first)
    (hRewrites : Rewrites item.position first mid) (hFollows : Follows item.position mid next) :
    Reported (w.unlock next) task_id s item (mid.runtime.accounts item.position) := by
  have hFound := (hSafe.reports_of_lockTask hTask).found
  rcases hFirst.item item hFound with ⟨between, hBetween⟩
  have hItem : mid.item? item.position = some between := by
    rw [← hBetween]
    exact congrArg (fun snapshot : Snapshot => snapshot.items.find? item.position)
        hRewrites.snapshot
  rcases hFollows.item between hItem with ⟨row, hRow⟩
  have hSelf : next.self = s.self := hFollows.self.trans (hRewrites.self.trans hFirst.self)
  refine ⟨next, row, ?_, hSelf, (KeyedTable.mem_of_find? hRow).2, ?_⟩
  · apply lockTask_unlock hSafe hTask hSelf
    · rw [hFollows.tasks, hRewrites.shared, hFirst.tasks]
    · rw [hFollows.groups, hRewrites.shared, hFirst.groups]
    · exact hRow
  · unfold Runtime.accounts
    rw [hFollows.ledgers]

theorem recordRegisteredAccount_reported (env : Env) (account_id attempt_order : Int)
    (hSafe : w.Safe) (hTask : w.lockTask task_id = some (s, item)) :
    Reported (recordRegisteredAccount env task_id account_id attempt_order w).1 task_id s item
      (reportLedger env item.position (s.runtime.accounts item.position)
        (.registered account_id attempt_order)) := by
  unfold recordRegisteredAccount
  split
  next hZero =>
    refine ⟨s, item, hTask, rfl, rfl, ?_⟩
    unfold reportLedger LinkEvent.account_id
    rw [if_pos hZero]
  next hPositive =>
    have hLedger := accounts_addAccount env item.position account_id attempt_order hPositive
        (markTechnicalRecovery item.position s)
    have hReported := reported_of_follows hSafe hTask
        (markTechnicalRecovery_follows item.position s)
        (addAccount_rewrites
          { position := item.position, account_id := positiveInt account_id 0,
            attempt_order := positiveInt attempt_order 1, state := .pending,
            reason_code := "registration_succeeded" }
          (markTechnicalRecovery item.position s))
        ((recomputeLinkQuality_follows item.position _).trans (persist_follows env item.position _))
    rw [hLedger] at hReported
    rw [hTask]
    exact hReported

/- A result rewrites the entry of its account. -/
theorem recordOutcome_reported (env : Env) (event : LinkEvent) (state reason_code : String)
    (outcome : AccountState → Option AccountState) (hPositive : positiveInt event.account_id 0 ≠ 0)
    (hEffect : event.effect env item.position none = none) (hRevise :
      ∀ account, event.revise env account = outcomeOf env state reason_code outcome account)
    (hSafe : w.Safe) (hTallied : w.Tallied) (hTask : w.lockTask task_id = some (s, item)) :
    Reported (recordOutcome env task_id (positiveInt event.account_id 0)
        (lowered env (orElse reason_code state)) outcome w).1 task_id s item
      (reportLedger env item.position (s.runtime.accounts item.position) event) := by
  have hDistinct := (hTallied.locked (hSafe.reports_of_lockTask hTask).locks).distinct item.position
  unfold recordOutcome reportLedger
  rw [hTask, if_neg hPositive]
  dsimp only
  cases hFound : (s.runtime.accounts item.position).find?
        (fun a => a.account_id = positiveInt event.account_id 0) with
  | none =>
    refine ⟨s, item, hTask, rfl, rfl, ?_⟩
    rw [hEffect, Option.toList_none, append_nil]
  | some account =>
    dsimp only
    -- The entry is the only one that the report rewrites.
    have hOnly : ∀ a ∈ s.runtime.accounts item.position,
          a.account_id = positiveInt event.account_id 0 → a = account := by
      intro a hA hId
      have hAgain := KeyedEvents.find?_of_mem hDistinct hA
      rw [hId, hFound] at hAgain
      exact (Option.some.inj hAgain).symm
    have hAt : ∀ a ∈ s.runtime.accounts item.position, a.position = item.position :=
      fun a hA => of_decide_eq_true (mem_filter.mp hA).2
    cases hOutcome : outcome account.state with
    | none =>
      have hReported := reported_of_follows hSafe hTask (Follows.refl item.position s)
          (Rewrites.refl item.position s) (afterLinkOutcome_follows env item.position s)
      have hSame : ((s.runtime.accounts item.position).map fun a =>
              if a.account_id = positiveInt event.account_id 0 then event.revise env a
              else a) =
            s.runtime.accounts item.position := by
        conv_rhs => rw [← map_id (s.runtime.accounts item.position)]
        apply map_congr_left
        intro a hA
        split
        next hId =>
          rw [hRevise, hOnly a hA hId]
          unfold outcomeOf
          rw [hOutcome]
          rfl
        · rfl
      rw [hSame]
      exact hReported
    | some state' =>
      have hReported := reported_of_follows hSafe hTask (Follows.refl item.position s)
          (setAccountOutcome_rewrites item.position (positiveInt event.account_id 0) state'
            (lowered env (orElse reason_code state)) s)
          (afterLinkOutcome_follows env item.position _)
      rw [accounts_setAccountOutcome] at hReported
      have hSame : ((s.runtime.accounts item.position).map fun a =>
              if a.account_id = positiveInt event.account_id 0 then event.revise env a
              else a) =
            (s.runtime.accounts item.position).map
              fun a =>
                if a.position = item.position ∧ a.account_id = positiveInt event.account_id 0 then
                  { a with
                    state := state'
                    reason_code := truncate 128
                        (lowered env
                          (orElse reason_code
                            state)) }
                else a := by
        apply map_congr_left
        intro a hA
        by_cases hId : a.account_id = positiveInt event.account_id 0
        · rw [if_pos hId, if_pos ⟨hAt a hA, hId⟩, hRevise, hOnly a hA hId]
          unfold outcomeOf
          rw [hOutcome]
        · rw [if_neg hId, if_neg fun h => hId h.2]
      rw [hSame]
      exact hReported

/- Every report rewrites the ledger of its item. -/
theorem step_reportLedger (env : Env) (event : LinkEvent) (hSafe : w.Safe) (hTallied : w.Tallied)
    (hTask : w.lockTask task_id = some (s, item)) :
    Reported (step env w (event.op task_id)).1 task_id s item
      (reportLedger env item.position (s.runtime.accounts item.position) event) := by
  have hZero : positiveInt event.account_id 0 = 0 → Reported w task_id s item
          (reportLedger env item.position (s.runtime.accounts item.position) event) := by
    intro hIs
    refine ⟨s, item, hTask, rfl, rfl, ?_⟩
    unfold reportLedger
    rw [if_pos hIs]
  cases event with
  | registered account_id attempt_order =>
    exact recordRegisteredAccount_reported env account_id attempt_order hSafe hTask
  | eligibility result =>
    change Reported (recordEligibilityResult env task_id result w).1 task_id s item _
    unfold recordEligibilityResult
    dsimp only
    split
    next hIs => exact hZero hIs
    next hPositive =>
      exact recordOutcome_reported env (.eligibility result)
          (lowered env (orElse result.state "probe_failed"))
          result.reason_code _ hPositive rfl (fun _ => rfl) hSafe hTallied hTask
  | link result =>
    change Reported (recordLinkResult env task_id result w).1 task_id s item _
    unfold recordLinkResult
    dsimp only
    split
    next hIs => exact hZero hIs
    next hPositive =>
      exact recordOutcome_reported env (.link result)
          (lowered env result.state) result.reason_code _
          hPositive rfl (fun _ => rfl) hSafe hTallied hTask

----
-- Any Reports
----

theorem run_reportLedger (env : Env) (events : List LinkEvent)
    (hSafe : w.Safe) (hTallied : w.Tallied) (hTask : w.lockTask task_id = some (s, item)) :
    Reported (Machine.run (step env) w (events.map (LinkEvent.op task_id))) task_id s item
      (events.foldl (reportLedger env item.position) (s.runtime.accounts item.position)) := by
  induction events generalizing w s item with
  | nil => exact ⟨s, item, hTask, rfl, rfl, rfl⟩
  | cons event events ih =>
    rcases step_reportLedger env event hSafe hTallied hTask
      with ⟨next, row, hNext, hSelf, hPosition, hLedger⟩
    rcases ih (step_safe env (event.op task_id) hSafe).1
          (step_tallied env (event.op task_id) hSafe hTallied)
          hNext with
      ⟨last, final, hLast, hLastSelf, hLastPosition, hLastLedger⟩
    rw [hPosition] at hLastPosition hLastLedger
    rw [hLedger] at hLastLedger
    exact ⟨last, final, hLast, hLastSelf.trans hSelf, hLastPosition, hLastLedger⟩

theorem links_of_lockTask (hSafe : w.Safe) (hTallied : w.Tallied)
    (hTask : w.lockTask task_id = some (s, item)) :
    item.quality.links = ledgerLinks (s.runtime.accounts item.position) ∧
      ((s.runtime.accounts item.position).map Account.account_id).Nodup := by
  have hReports := hSafe.reports_of_lockTask hTask
  have hLocal := hTallied.locked hReports.locks
  have hLink := mem_filter.mp hReports.link
  exact ⟨hLocal.counted item.position item hReports.found
        (.inr ⟨_, hLink.1, of_decide_eq_true hLink.2, rfl⟩), hLocal.distinct item.position⟩

/- In every state of the manager a task may send any reports on its item: the counters add up, the
   streak is that of the ledger, and reports that agree on every account leave the same counters and
   streak behind. -/
theorem link_quality_of_reports (env : Env) (ops : List Op) (task_id : String)
    (events others : List LinkEvent) {s : Locked} {item : Item}
    (hTask : (run env ops).lockTask task_id = some (s, item))
    (hSame : ∀ account_id : Int, events.filter (fun e => e.account_id = account_id) =
          others.filter (fun e => e.account_id = account_id)) :
    ∃ next row next' row', (run env (ops ++ events.map (LinkEvent.op task_id))).lockTask
          task_id = some (next, row) ∧ (run env (ops ++ others.map (LinkEvent.op task_id))).lockTask
            task_id = some (next', row') ∧ (next.self = s.self ∧ row.position = item.position) ∧
        (next'.self = s.self ∧ row'.position = item.position) ∧ row.quality.links.Balanced ∧
        row.quality.link_current_miss_streak =
          missesSinceSuccess (next.runtime.accounts row.position) ∧
        row'.quality.links = row.quality.links := by
  have hSafe := run_safe env ops
  have hTallied := run_tallied env ops
  rcases run_reportLedger env events hSafe hTallied hTask with
    ⟨next, row, hNext, hSelf, hPosition, hLedger⟩
  rcases run_reportLedger env others hSafe hTallied hTask with
    ⟨next', row', hNext', hSelf', hPosition', hLedger'⟩
  have hRun : ∀ list : List LinkEvent, run env (ops ++ list.map (LinkEvent.op task_id)) =
          Machine.run (step env) (run env ops) (list.map (LinkEvent.op task_id)) :=
    fun list => Machine.run_append _ ops _
  rw [← hRun] at hNext hNext'
  have hLinks := links_of_lockTask (run_safe env _) (run_tallied env _) hNext
  have hLinks' := links_of_lockTask (run_safe env _) (run_tallied env _) hNext'
  refine
    ⟨next, row, next', row', hNext, hNext', ⟨hSelf, hPosition⟩, ⟨hSelf', hPosition'⟩, ?_, ?_, ?_⟩
  · rw [hLinks.1]
    exact ledgerLinks_balanced _
  · rw [← missStreak_eq hLinks.2]
    exact congrArg LinkCounters.link_current_miss_streak hLinks.1
  · rw [hLinks.1, hLinks'.1, hPosition, hPosition', hLedger, hLedger']
    have hPerm := @reportLedger_run_perm env item.position events others _
        (links_of_lockTask hSafe hTallied hTask).2 hSame
    rw [hPosition, hLedger] at hLinks
    exact (ledgerLinks_perm hPerm hLinks.2).symm

/- Two accounts report, one after the other or by turns. -/
theorem link_quality_of_reports_by_turns :
    ∃ next row next' row', (run plainEnv
          ([twoDomains] ++ [.registered 1 1, .link { account_id := 1 }, .registered 2 2,
              .eligibility { account_id := 2, state := "ineligible" }].map
              (LinkEvent.op "task-0"))).lockTask "task-0" = some (next, row) ∧ (run plainEnv
            ([twoDomains] ++ [.registered 2 2, .registered 1 1, .eligibility
                  { account_id := 2, state := "ineligible" }, .link { account_id := 1 }].map
                (LinkEvent.op "task-0"))).lockTask "task-0" = some (next', row') ∧
        row.quality.links.Balanced ∧ row.quality.link_current_miss_streak =
          missesSinceSuccess (next.runtime.accounts row.position) ∧
        row'.quality.links = row.quality.links := by
  have hLocks : ((run plainEnv [twoDomains]).lockTask "task-0").isSome := by decide +kernel
  rcases Option.isSome_iff_exists.mp hLocks with ⟨⟨s, item⟩, hTask⟩
  rcases link_quality_of_reports plainEnv [twoDomains] "task-0"
        [.registered 1 1, .link { account_id := 1 }, .registered 2 2, .eligibility
            { account_id := 2, state := "ineligible" }]
        [.registered 2 2, .registered 1 1, .eligibility { account_id := 2, state := "ineligible" },
          .link { account_id := 1 }]
        hTask
        (fun account_id => by
          simp only [filter_cons, filter_nil, LinkEvent.account_id]
          by_cases hOne : (1 : Int) = account_id
          · subst hOne
            rfl
          · simp [hOne])
      with
    ⟨next, row, next', row', hNext, hNext', _, _, hBalanced, hStreak, hSame⟩
  exact ⟨next, row, next', row', hNext, hNext', hBalanced, hStreak, hSame⟩

end DomainRotation
