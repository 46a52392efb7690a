import AutoGpt.EmailApi.Lines
import AutoGpt.Library.Machine
import AutoGpt.Library.KeyLease
import Mathlib.Logic.Function.Basic

/-
  The pool of e-mail API identities and the mailboxes that
  share it (`core/base_mailbox.py`, `EmailApiPool` and
  `EmailApiMailbox`).

  A call of a mailbox is several steps: the pool is changed
  under its condition, and the mailbox's own record of the
  identity is written outside of it.
-/

----
-- The Pool
----

namespace EmailApi

inductive Status where
| available
| leased
| registered
| failed
deriving DecidableEq

/- The non-empty lock keys of an item, as a set. -/
def lockKeys (item : Candidate) : Finset String := (item.lock_keys.filter (· ≠ "")).toFinset

/- The copy of an item that `acquire` hands out. -/
structure Allocated where
  item : Candidate
  pool_index : Nat
  lock_keys : Finset String
deriving DecidableEq

structure Pool where
  candidates : List Candidate
  statuses : List Status
  active_locks : Finset String

/- `EmailApiPool(candidates)`. -/
def Pool.new (candidates : List Candidate) : Pool where
  candidates := candidates
  statuses := candidates.map (fun _ => .available)
  active_locks := ∅

/- The first available item none of whose locks is active, from index `idx` on. -/
def firstFree (active_locks : Finset String) :
    Nat → List Candidate → List Status → Option (Nat × Candidate)
| idx, item :: items, status :: statuses =>
    if status = .available ∧ Disjoint (lockKeys item) active_locks then some (idx, item)
    else firstFree active_locks (idx + 1) items statuses
| _, _, _ => none

/- One pass of the loop in `acquire`, under the condition. A pass that finds nothing ends in a wait
   or in an error and leaves the pool as it was. -/
def Pool.acquire (pool : Pool) : Pool × Option Allocated :=
  match firstFree pool.active_locks 0 pool.candidates pool.statuses
  with
  | some (idx, item) => ({ pool with
          statuses := pool.statuses.set idx .leased,
          active_locks := pool.active_locks ∪ lockKeys item },
        some ⟨item, idx, lockKeys item⟩)
  | none => (pool, none)

/- `item.get("_lock_keys") or item.get("lock_keys")`, as a set. -/
def Allocated.releaseKeys (a : Allocated) : Finset String :=
  if a.lock_keys = ∅ then lockKeys a.item else a.lock_keys

/- `finalize(item, status)`. -/
def Pool.finalize (pool : Pool) (a : Allocated) (status : Status) : Pool :=
  { pool with
    statuses :=
      if pool.statuses[a.pool_index]? = some .leased then pool.statuses.set a.pool_index status
      else pool.statuses
    active_locks := pool.active_locks \ a.releaseKeys }

----
-- Mailboxes
----

/- Where a mailbox is: between calls, in `get_email` with an identity it has not stored yet, or in a
   finalisation whose identity it has not forgotten yet. -/
inductive Pc where
| idle
| acquired (a : Allocated)
| finalized
deriving DecidableEq

/- A mailbox: whether it is bound to an address and URL of its own, its `_allocated_item`, and where
   it is. -/
structure Mailbox where
  restored : Bool
  allocated_item : Option Allocated
  pc : Pc

/- The identity that the mailbox's next `finalize_*` gives back to the pool. -/
def Mailbox.due (m : Mailbox) : Option Allocated :=
  match m.pc with
  | .idle => m.allocated_item
  | .acquired a => some a
  | .finalized => none

/- The shared pool and the mailboxes, with the pool rows handed out and finalized so far. -/
structure System where
  pool : Pool
  mailboxes : Nat → Mailbox
  handed : List Nat
  finalized : List Nat

def System.initial (candidates : List Candidate) (restored : Nat → Bool) : System where
  pool := Pool.new candidates
  mailboxes i := ⟨restored i, none, .idle⟩
  handed := []
  finalized := []

def System.setMailbox (s : System) (i : Nat) (m : Mailbox) : System :=
  { s with mailboxes := Function.update s.mailboxes i m }

/- The steps of the mailboxes: a pass of the loop in `get_email`, the storing of the identity it
   got, the pool's part of `finalize_success` or `finalize_failure`, and the forgetting of the
   identity after it. -/
inductive Op where
| acquire (i : Nat)
| remember (i : Nat)
| finalize (i : Nat) (success : Bool)
| forget (i : Nat)

def Op.mailbox : Op → Nat
| .acquire i => i
| .remember i => i
| .finalize i _ => i
| .forget i => i

/- A pass of the loop in `get_email`. -/
def acquireStep (s : System) (i : Nat) : System :=
  let m := s.mailboxes i
  if m.restored ∨ m.pc ≠ .idle then s
  else
    match s.pool.acquire with
    | (pool, some a) =>
      { pool := pool, mailboxes := Function.update s.mailboxes i { m with pc := .acquired a },
        handed := a.pool_index :: s.handed, finalized := s.finalized }
    | (_, none) => s

/- `self._allocated_item = item`. -/
def rememberStep (s : System) (i : Nat) : System :=
  match (s.mailboxes i).pc with
  | .acquired a => s.setMailbox i ⟨(s.mailboxes i).restored, some a, .idle⟩
  | _ => s

/- `self._pool.finalize(self._allocated_item, status)`. -/
def finalizeStep (s : System) (i : Nat) (success : Bool) : System :=
  let m := s.mailboxes i
  match m.pc, m.allocated_item with
  | .idle, some a =>
    { pool := s.pool.finalize a (if success then .registered else .failed),
      mailboxes := Function.update s.mailboxes i { m with pc := .finalized }, handed := s.handed,
      finalized := a.pool_index :: s.finalized }
  | _, _ => s

/- `self._allocated_item = None`. -/
def forgetStep (s : System) (i : Nat) : System :=
  match (s.mailboxes i).pc with
  | .finalized => s.setMailbox i ⟨(s.mailboxes i).restored, none, .idle⟩
  | _ => s

def step (s : System) : Op → System × Unit
| .acquire i => (acquireStep s i, ())
| .remember i => (rememberStep s i, ())
| .finalize i success => (finalizeStep s i success, ())
| .forget i => (forgetStep s i, ())

/- The state that the calls of the mailboxes lead to. -/
def after (candidates : List Candidate) (restored : Nat → Bool) (ops : List Op) : System :=
  Machine.run step (System.initial candidates restored) ops

def Outstanding (s : System) (idx : Nat) : Prop := idx ∈ s.handed ∧ idx ∉ s.finalized

def rowKeys (candidates : List Candidate) (idx : Nat) : Finset String :=
  (candidates[idx]?.map lockKeys).getD ∅

----
-- What A Step Does
----

theorem firstFree_some {idx : Nat}
    (hFree : firstFree active_locks start items statuses = some (idx, item)) :
    ∃ k, idx = start + k ∧ items[k]? = some item ∧ statuses[k]? = some .available ∧
      Disjoint (lockKeys item) active_locks := by
  induction items generalizing start statuses with
  | nil =>
    cases statuses with
    | nil => cases hFree
    | cons status statuses => cases hFree
  | cons head items ih =>
    cases statuses with
    | nil => cases hFree
    | cons status statuses =>
      simp only [firstFree] at hFree
      split at hFree
      next hHead =>
        cases hFree
        exact ⟨0, rfl, rfl, by rw [hHead.1]; rfl, hHead.2⟩
      · rcases ih hFree with
          ⟨k, hIdx, hItem, hStatus, hDisjoint⟩
        refine ⟨k + 1, ?_, hItem, hStatus, hDisjoint⟩
        rw [hIdx, Nat.add_assoc, Nat.add_comm 1 k]

/- Some available row has no active lock. -/
def FreeRow (pool : Pool) : Prop := ∃ (idx : Nat) (item : Candidate),
    pool.candidates[idx]? = some item ∧ pool.statuses[idx]? = some .available ∧
      Disjoint (lockKeys item) pool.active_locks

theorem firstFree_none (hNone : firstFree active_locks start items statuses = none) {k : Nat}
    (hItem : items[k]? = some item) (hStatus : statuses[k]? = some Status.available) :
    ¬ Disjoint (lockKeys item) active_locks := by
  induction items generalizing start statuses k with
  | nil => cases hItem
  | cons head items ih =>
    cases statuses with
    | nil => cases hStatus
    | cons status statuses =>
      simp only [firstFree] at hNone
      split at hNone
      · cases hNone
      next hHead =>
        cases k with
        | zero =>
          cases hItem
          cases hStatus
          exact fun hFree => hHead ⟨rfl, hFree⟩
        | succ k => exact ih hNone hItem hStatus

/- A step leaves the pool and what is due from each mailbox alone, or hands an available row with
   free locks to a mailbox, or takes back what was due from one. -/
inductive Moves (s s' : System) (op : Op) : Prop where
| quiet
    (hNothing : ∀ i, op = .acquire i →
        (s.mailboxes i).pc = .idle → (s.mailboxes i).restored = false → ¬ FreeRow s.pool)
    (hPool : s'.pool = s.pool) (hHanded : s'.handed = s.handed)
    (hFinalized : s'.finalized = s.finalized)
    (hDue : ∀ j, (s'.mailboxes j).due = (s.mailboxes j).due)
| hands
    (i idx : Nat) (item : Candidate) (hOp : op = .acquire i) (hIdle : (s.mailboxes i).pc = .idle)
    (hShared : (s.mailboxes i).restored = false) (hItem : s.pool.candidates[idx]? = some item)
    (hStatus : s.pool.statuses[idx]? = some .available)
    (hFree : Disjoint (lockKeys item) s.pool.active_locks) (hPool : s'.pool =
        { s.pool with
          statuses := s.pool.statuses.set idx .leased,
          active_locks := s.pool.active_locks ∪ lockKeys item })
    (hHanded : s'.handed = idx :: s.handed) (hFinalized : s'.finalized = s.finalized)
    (hSelf : (s'.mailboxes i).due = some ⟨item, idx, lockKeys item⟩)
    (hOther : ∀ j, j ≠ i → (s'.mailboxes j).due = (s.mailboxes j).due)
| takes
    (i : Nat) (a : Allocated) (success : Bool) (hOp : op = .finalize i success)
    (hDue : (s.mailboxes i).due = some a)
    (hPool : s'.pool = s.pool.finalize a (if success then .registered else .failed))
    (hHanded : s'.handed = s.handed) (hFinalized : s'.finalized = a.pool_index :: s.finalized)
    (hSelf : (s'.mailboxes i).due = none)
    (hOther : ∀ j, j ≠ i → (s'.mailboxes j).due = (s.mailboxes j).due)

theorem due_setMailbox {s : System} (hSame : m.due = (s.mailboxes i).due)
    (j : Nat) : ((s.setMailbox i m).mailboxes j).due = (s.mailboxes j).due := by
  by_cases hIndex : j = i
  · simp [hIndex, System.setMailbox, hSame]
  · simp [System.setMailbox, Function.update_of_ne hIndex]

theorem moves_acquire (s : System) (i : Nat) : Moves s (acquireStep s i) (.acquire i) := by
  unfold acquireStep
  dsimp only
  split
  next hClosed =>
    refine .quiet ?_ rfl rfl rfl (fun _ => rfl)
    intro j hOp hIdle hShared _
    cases hOp
    rcases hClosed with hRestored | hBusy
    · rw [hShared] at hRestored
      cases hRestored
    · exact hBusy hIdle
  next hOpen =>
    rw [not_or, not_not, Bool.not_eq_true] at hOpen
    unfold Pool.acquire
    cases hFirst : firstFree s.pool.active_locks 0 s.pool.candidates s.pool.statuses with
    | none =>
      refine .quiet ?_ rfl rfl rfl (fun _ => rfl)
      rintro j _ _ _ ⟨idx, item, hItem, hStatus, hFree⟩
      exact firstFree_none hFirst hItem hStatus hFree
    | some found =>
      rcases found with ⟨idx, item⟩
      rcases firstFree_some hFirst with ⟨k, hIdx, hItem, hStatus, hFree⟩
      rw [Nat.zero_add] at hIdx
      rw [← hIdx] at hItem hStatus
      refine .hands i idx item rfl hOpen.2 hOpen.1 hItem hStatus hFree rfl rfl rfl ?_ ?_
      · simp [Mailbox.due]
      · intro j hNe
        simp [Function.update_of_ne hNe]

theorem moves_remember (s : System) (i : Nat) : Moves s (rememberStep s i) (.remember i) := by
  unfold rememberStep
  split
  next a hPc =>
    refine .quiet ?_ rfl rfl rfl (due_setMailbox ?_)
    · intro j hOp
      cases hOp
    · simp [Mailbox.due, hPc]
  · refine .quiet ?_ rfl rfl rfl (fun _ => rfl)
    intro j hOp
    cases hOp

theorem moves_finalize (s : System) (i : Nat) (success : Bool) :
    Moves s (finalizeStep s i success) (.finalize i success) := by
  unfold finalizeStep
  dsimp only
  split
  next a hPc hItem =>
    refine .takes i a success rfl ?_ rfl rfl rfl ?_ ?_
    · simp [Mailbox.due, hPc, hItem]
    · simp [Mailbox.due]
    · intro j hNe
      simp [Function.update_of_ne hNe]
  · refine .quiet ?_ rfl rfl rfl (fun _ => rfl)
    intro j hOp
    cases hOp

theorem moves_forget (s : System) (i : Nat) : Moves s (forgetStep s i) (.forget i) := by
  unfold forgetStep
  split
  next hPc =>
    refine .quiet ?_ rfl rfl rfl (due_setMailbox ?_)
    · intro j hOp
      cases hOp
    · simp [Mailbox.due, hPc]
  · refine .quiet ?_ rfl rfl rfl (fun _ => rfl)
    intro j hOp
    cases hOp

theorem moves (s : System) (op : Op) : Moves s (step s op).1 op := by
  cases op with
  | acquire i => exact moves_acquire s i
  | remember i => exact moves_remember s i
  | finalize i success => exact moves_finalize s i success
  | forget i => exact moves_forget s i

theorem mailbox_step (s : System) (op : Op) (hNe : op.mailbox ≠ j) :
    (step s op).1.mailboxes j = s.mailboxes j := by
  cases op with
  | acquire i =>
    simp only [step, acquireStep]
    split
    · rfl
    · split
      · exact Function.update_of_ne hNe.symm _ _
      · rfl
  | remember i =>
    simp only [step, rememberStep]
    split
    · exact Function.update_of_ne hNe.symm _ _
    · rfl
  | finalize i success =>
    simp only [step, finalizeStep]
    split
    · exact Function.update_of_ne hNe.symm _ _
    · rfl
  | forget i =>
    simp only [step, forgetStep]
    split
    · exact Function.update_of_ne hNe.symm _ _
    · rfl

end EmailApi
