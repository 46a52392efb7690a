import AutoGpt.EmailApi.Pool

/-
  What holds of the shared pool over every interleaving of
  the mailboxes' calls: the active locks are exactly those
  of the identities handed out and not yet finalized, and
  when each of these can still be finalized.

  Main theorems: `inv_after`, `pool_accounting`
-/

open KeyLease (Book Sound Step outstanding_release)
open List
open Machine

----
-- The Invariant
----

namespace EmailApi

/- The pool's records as a book of leases. -/
def System.book (s : System) : Book Nat String := ⟨s.handed, s.finalized, s.pool.active_locks⟩

/- The records agree: the book of leases is sound, a row that is available was never handed out, and
   what is due from a mailbox is an outstanding row that no other one owes. -/
structure Inv (candidates : List Candidate) (s : System) : Prop where
  rows : s.pool.candidates = candidates
  sound : Sound (rowKeys candidates) s.book
  fresh : ∀ idx, s.pool.statuses[idx]? = some .available → idx ∉ s.handed
  due_keys : ∀ i a, (s.mailboxes i).due = some a →
      rowKeys candidates a.pool_index = lockKeys a.item ∧ a.lock_keys = lockKeys a.item
  due_out : ∀ i a, (s.mailboxes i).due = some a → Outstanding s a.pool_index
  due_once : ∀ i j a b, (s.mailboxes i).due = some a →
      (s.mailboxes j).due = some b → a.pool_index = b.pool_index → i = j

variable {candidates : List Candidate}
variable {s s' : System} {op : Op}

theorem inv_initial (restored : Nat → Bool) :
    Inv candidates (System.initial candidates restored) where
  rows := rfl
  sound := KeyLease.sound_nil _
  fresh := by
    intro idx _ hMem
    cases hMem
  due_keys := by
    intro i a hDue
    cases hDue
  due_out := by
    intro i a hDue
    cases hDue
  due_once := by
    intro i j a b hDue
    cases hDue

theorem Inv.releaseKeys_eq (hInv : Inv candidates s)
    (hDue : (s.mailboxes i).due = some a) : a.releaseKeys = rowKeys candidates a.pool_index := by
  rcases hInv.due_keys i a hDue with ⟨hRow, hKeys⟩
  unfold Allocated.releaseKeys
  rw [hRow, hKeys, ite_self]

theorem book_step (hInv : Inv candidates s) (hMoves : Moves s s' op) :
    Step (rowKeys candidates) s.book s'.book := by
  cases hMoves with
  | quiet hNothing hPool hHanded hFinalized hDue =>
    apply Step.keep
    rw [System.book, System.book, hPool, hHanded, hFinalized]
  | hands i idx item hOp hIdle hShared hItem hStatus hFree hPool hHanded
      hFinalized hSelf hOther =>
      have hKeys : rowKeys candidates idx = lockKeys item := by
        rw [← hInv.rows, rowKeys, hItem]
        rfl
      refine .grant idx (hInv.fresh idx hStatus) ?_ ?_
      · rw [hKeys]
        exact hFree
      · rw [System.book, hPool, hHanded, hFinalized, hKeys]
        rfl
  | takes i a success hOp hDue hPool hHanded hFinalized hSelf
      hOther =>
      refine .release a.pool_index (hInv.due_out i a hDue) ?_
      rw [System.book, hPool, hHanded, hFinalized, ← hInv.releaseKeys_eq hDue]
      rfl

theorem available_of_set {statuses : List Status}
    (hNot : status ≠ .available) (hAvailable : (statuses.set k status)[idx]? = some .available) :
    idx ≠ k ∧ statuses[idx]? = some .available := by
  rw [getElem?_set] at hAvailable
  split at hAvailable
  next hSame =>
    split at hAvailable
    · cases hAvailable
      exact absurd rfl hNot
    · cases hAvailable
  next hNe =>
    exact ⟨fun hSame => hNe hSame.symm, hAvailable⟩

theorem fresh_step (hInv : Inv candidates s) (hMoves : Moves s s' op) :
    ∀ idx, s'.pool.statuses[idx]? = some .available → idx ∉ s'.handed := by
  intro idx hAvailable
  cases hMoves with
  | quiet hNothing hPool hHanded hFinalized hDue =>
    rw [hPool] at hAvailable
    rw [hHanded]
    exact hInv.fresh idx hAvailable
  | hands i k item hOp hIdle hShared hItem hStatus hFree hPool hHanded
      hFinalized hSelf hOther =>
      rw [hPool] at hAvailable
      rcases available_of_set (by decide) hAvailable with ⟨hNe, hOld⟩
      rw [hHanded, mem_cons, not_or]
      exact ⟨hNe, hInv.fresh idx hOld⟩
  | takes i a success hOp hDue hPool hHanded hFinalized hSelf
      hOther =>
      rw [hPool, Pool.finalize] at hAvailable
      rw [hHanded]
      split at hAvailable
      · have hNot : (if success then Status.registered
              else Status.failed) ≠ .available := by
          cases success
          · decide
          · decide
        exact hInv.fresh idx (available_of_set hNot hAvailable).2
      · exact hInv.fresh idx hAvailable

theorem due_keys_step (hInv : Inv candidates s) (hMoves : Moves s s' op)
    (hDue : (s'.mailboxes j).due = some b) :
    rowKeys candidates b.pool_index = lockKeys b.item ∧ b.lock_keys = lockKeys b.item := by
  cases hMoves with
  | quiet hNothing hPool hHanded hFinalized hSame =>
    rw [hSame j] at hDue
    exact hInv.due_keys j b hDue
  | hands i idx item hOp hIdle hShared hItem hStatus hFree hPool hHanded
      hFinalized hSelf hOther =>
      by_cases hIndex : j = i
      · rw [hIndex, hSelf] at hDue
        cases hDue
        refine ⟨?_, rfl⟩
        rw [← hInv.rows, rowKeys, hItem]
        rfl
      · rw [hOther j hIndex] at hDue
        exact hInv.due_keys j b hDue
  | takes i a success hOp hGiven hPool hHanded hFinalized hSelf
      hOther =>
      by_cases hIndex : j = i
      · rw [hIndex, hSelf] at hDue
        cases hDue
      · rw [hOther j hIndex] at hDue
        exact hInv.due_keys j b hDue

theorem due_out_step (hInv : Inv candidates s) (hMoves : Moves s s' op)
    (hDue : (s'.mailboxes j).due = some b) : Outstanding s' b.pool_index := by
  unfold Outstanding
  cases hMoves with
  | quiet hNothing hPool hHanded hFinalized hSame =>
    rw [hSame j] at hDue
    rw [hHanded, hFinalized]
    exact hInv.due_out j b hDue
  | hands i idx item hOp hIdle hShared hItem hStatus hFree hPool hHanded
      hFinalized hSelf hOther =>
      rw [hHanded, hFinalized]
      apply (KeyLease.outstanding_grant hInv.sound (hInv.fresh idx hStatus) ∅ b.pool_index).mpr
      by_cases hIndex : j = i
      · rw [hIndex, hSelf] at hDue
        cases hDue
        exact .inl rfl
      · rw [hOther j hIndex] at hDue
        exact .inr (hInv.due_out j b hDue)
  | takes i a success hOp hGiven hPool hHanded hFinalized hSelf
      hOther =>
      by_cases hIndex : j = i
      · rw [hIndex, hSelf] at hDue
        cases hDue
      · rw [hOther j hIndex] at hDue
        rw [hHanded, hFinalized]
        apply (outstanding_release (b := s.book) ∅ b.pool_index).mpr
        refine ⟨?_, hInv.due_out j b hDue⟩
        intro hSame
        exact hIndex (hInv.due_once j i b a hDue hGiven hSame)

/- No row is due from two mailboxes. -/
theorem due_once_step (hInv : Inv candidates s) (hMoves : Moves s s' op)
    (hLeft : (s'.mailboxes j).due = some b)
    (hRight : (s'.mailboxes k).due = some c) (hRow : b.pool_index = c.pool_index) : j = k := by
  cases hMoves with
  | quiet hNothing hPool hHanded hFinalized hSame =>
    rw [hSame j] at hLeft
    rw [hSame k] at hRight
    exact hInv.due_once j k b c hLeft hRight hRow
  | hands i idx item hOp hIdle hShared hItem hStatus hFree hPool hHanded
      hFinalized hSelf hOther =>
      have hNew := hInv.fresh idx hStatus
      by_cases hj : j = i
      · by_cases hk : k = i
        · rw [hj, hk]
        · rw [hj, hSelf] at hLeft
          rw [hOther k hk] at hRight
          cases hLeft
          have hOld := (hInv.due_out k c hRight).1
          rw [← hRow] at hOld
          exact absurd hOld hNew
      · rw [hOther j hj] at hLeft
        by_cases hk : k = i
        · rw [hk, hSelf] at hRight
          cases hRight
          have hOld := (hInv.due_out j b hLeft).1
          rw [hRow] at hOld
          exact absurd hOld hNew
        · rw [hOther k hk] at hRight
          exact hInv.due_once j k b c hLeft hRight hRow
  | takes i a success hOp hGiven hPool hHanded hFinalized hSelf
      hOther =>
      by_cases hj : j = i
      · rw [hj, hSelf] at hLeft
        cases hLeft
      · by_cases hk : k = i
        · rw [hk, hSelf] at hRight
          cases hRight
        · rw [hOther j hj] at hLeft
          rw [hOther k hk] at hRight
          exact hInv.due_once j k b c hLeft hRight hRow

theorem Inv.step (hInv : Inv candidates s) (hMoves : Moves s s' op) :
    Inv candidates s' where
  rows := by
    cases hMoves with
    | quiet hNothing hPool hHanded hFinalized hDue => rw [hPool, hInv.rows]
    | hands i idx item hOp hIdle hShared hItem hStatus hFree hPool hHanded
        hFinalized hSelf hOther =>
        rw [hPool, ← hInv.rows]
    | takes i a success hOp hDue hPool hHanded hFinalized hSelf
        hOther =>
        rw [hPool, ← hInv.rows]
        rfl
  sound := hInv.sound.step (book_step hInv hMoves)
  fresh := fresh_step hInv hMoves
  due_keys := fun _ _ hDue => due_keys_step hInv hMoves hDue
  due_out := fun _ _ hDue => due_out_step hInv hMoves hDue
  due_once := fun _ _ _ _ hLeft hRight hRow => due_once_step hInv hMoves hLeft hRight hRow

theorem inv_after (candidates : List Candidate) (restored : Nat → Bool) (ops : List Op) :
    Inv candidates (after candidates restored ops) :=
  run_induction (fun s op hInv => hInv.step (moves s op)) (inv_initial restored) ops

----
-- Accounts Of The Pool
----

/- No row is handed out twice, outstanding rows share no lock key, and the active locks are exactly
   theirs. -/
structure Accounted (candidates : List Candidate) (s : System) : Prop where
  handed_once : s.handed.Nodup
  apart : ∀ idx idx', Outstanding s idx → Outstanding s idx' →
      idx ≠ idx' → Disjoint (rowKeys candidates idx) (rowKeys candidates idx')
  active_iff : ∀ k, k ∈ s.pool.active_locks ↔ ∃ idx, Outstanding s idx ∧ k ∈ rowKeys candidates idx

/- Rows handed out have different e-mails, and outstanding ones have different URLs and different
   Gmail roots. -/
def DistinctIdentities (candidates : List Candidate) (s : System) : Prop :=
  ∀ idx idx' c c', idx ∈ s.handed → idx' ∈ s.handed → idx ≠ idx' → candidates[idx]? = some c →
        candidates[idx']? = some c' → c.email ≠ c'.email ∧ (Outstanding s idx → Outstanding s idx' →
              c.api_url ≠ c'.api_url ∧ (c.gmail_root ≠ "" → c.gmail_root ≠ c'.gmail_root))

/- A finalisation does nothing, or it finalizes an outstanding row: exactly the keys of this row are
   released, and every other outstanding row keeps its keys. -/
def ReleasesOwn (candidates : List Candidate) (s : System) (i : Nat) (success : Bool) : Prop :=
  let s' := finalizeStep s i success
  s' = s ∨ ∃ a, (s.mailboxes i).allocated_item = some a ∧ Outstanding s a.pool_index ∧
      s'.finalized = a.pool_index :: s.finalized ∧ (∀ k, k ∈ s'.pool.active_locks ↔
        k ∈ s.pool.active_locks ∧ k ∉ rowKeys candidates a.pool_index) ∧
      ∀ idx, Outstanding s idx → idx ≠ a.pool_index →
        Outstanding s' idx ∧ rowKeys candidates idx ⊆ s'.pool.active_locks

/- Every active lock is one of an identity that some mailbox
still gives back with its next finalisation. -/
def NoLockLost (s : System) : Prop :=
  ∀ k ∈ s.pool.active_locks, ∃ i a, (s.mailboxes i).due = some a ∧ k ∈ lockKeys a.item

/- The step is not a pass of `get_email` that finds a free row while the mailbox still has an
   identity with locks to finalize. -/
def Careful (s : System) (op : Op) : Prop := ∀ i a, op = .acquire i → (s.mailboxes i).pc = .idle →
        (s.mailboxes i).restored = false →
          (s.mailboxes i).allocated_item = some a → lockKeys a.item ≠ ∅ → ¬ FreeRow s.pool

----
-- When No Lock Is Lost
----

/- Every outstanding row with locks is due from a mailbox. -/
def Covered (candidates : List Candidate) (s : System) : Prop := ∀ idx, Outstanding s idx →
    rowKeys candidates idx = ∅ ∨ ∃ i a, (s.mailboxes i).due = some a ∧ a.pool_index = idx

/- A careful step keeps the outstanding rows covered. -/
theorem covered_step (hInv : Inv candidates s) (hCovered : Covered candidates s)
    (hMoves : Moves s s' op) (hCareful : Careful s op) : Covered candidates s' := by
  intro idx hOut
  unfold Outstanding at hOut
  cases hMoves with
  | quiet hNothing hPool hHanded hFinalized hSame =>
    rw [hHanded, hFinalized] at hOut
    rcases hCovered idx hOut with hEmpty | ⟨j, b, hDue, hRow⟩
    · exact .inl hEmpty
    · refine .inr ⟨j, b, ?_, hRow⟩
      rw [hSame j, hDue]
  | hands i new item hOp hIdle hShared hItem hStatus hFree
      hPool hHanded hFinalized hSelf hOther =>
      rw [hHanded, hFinalized] at hOut
      have hOut' := (KeyLease.outstanding_grant hInv.sound (hInv.fresh new hStatus) ∅ idx).mp hOut
      rcases hOut' with hNew | hOld
      · exact .inr ⟨i, _, hSelf, hNew.symm⟩
      · rcases hCovered idx hOld with
          hEmpty | ⟨j, b, hDue, hRow⟩
        · exact .inl hEmpty
        · by_cases hIndex : j = i
          · left
            rw [hIndex] at hDue
            have hHeld := hDue
            rw [Mailbox.due, hIdle] at hHeld
            rw [← hRow, (hInv.due_keys i b hDue).1]
            by_contra hKeys
            exact hCareful i b hOp hIdle hShared hHeld hKeys ⟨new, item, hItem, hStatus, hFree⟩
          · refine .inr ⟨j, b, ?_, hRow⟩
            rw [hOther j hIndex, hDue]
  | takes i a success hOp hGiven hPool hHanded hFinalized hSelf
      hOther =>
      rw [hHanded, hFinalized] at hOut
      have hOut' := (outstanding_release (b := s.book) ∅ idx).mp hOut
      rcases hCovered idx hOut'.2 with hEmpty | ⟨j, b, hDue, hRow⟩
      · exact .inl hEmpty
      · by_cases hIndex : j = i
        · rw [hIndex, hGiven] at hDue
          cases hDue
          exact absurd hRow.symm hOut'.1
        · refine .inr ⟨j, b, ?_, hRow⟩
          rw [hOther j hIndex, hDue]

theorem noLockLost_of_covered (hInv : Inv candidates s) (hCovered : Covered candidates s) :
    NoLockLost s := by
  intro k hActive
  rcases (hInv.sound.active_iff k).mp hActive with ⟨idx, hOut, hKey⟩
  rcases hCovered idx hOut with hEmpty | ⟨i, a, hDue, hRow⟩
  · rw [hEmpty] at hKey
    cases hKey
  · refine ⟨i, a, hDue, ?_⟩
    rw [← (hInv.due_keys i a hDue).1, hRow]
    exact hKey

/- A step that is not careful loses a lock: the identity that the mailbox had stays outstanding and
   is due from nobody. -/
theorem careful_of_noLockLost (hInv : Inv candidates s) (hMoves : Moves s s' op)
    (hNext : Inv candidates s') (hLost : NoLockLost s') : Careful s op := by
  intro i a hOp hIdle hShared hHeld hKeys hRow
  have hDue : (s.mailboxes i).due = some a := by rw [Mailbox.due, hIdle, hHeld]
  cases hMoves with
  | quiet hNothing hPool hHanded hFinalized hSame => exact hNothing i hOp hIdle hShared hRow
  | takes j b success hOp' hGiven hPool hHanded hFinalized
      hSelf hOther =>
      rw [hOp] at hOp'
      cases hOp'
  | hands j new item hOp' hIdle' hShared' hItem hStatus
      hFree hPool hHanded hFinalized hSelf hOther =>
      rw [hOp] at hOp'
      cases hOp'
      have hOut := hInv.due_out i a hDue
      have hNew := hInv.fresh new hStatus
      have hOut' : Outstanding s' a.pool_index := by
        unfold Outstanding
        rw [hHanded, hFinalized]
        exact ⟨mem_cons_of_mem _ hOut.1, hOut.2⟩
      rcases Finset.nonempty_iff_ne_empty.mpr hKeys with ⟨k, hKey⟩
      rw [← (hInv.due_keys i a hDue).1] at hKey
      have hActive : k ∈ s'.pool.active_locks := (hNext.sound.active_iff k).mpr ⟨_, hOut', hKey⟩
      rcases hLost k hActive with ⟨j, b, hDue', hKey'⟩
      rw [← (hNext.due_keys j b hDue').1] at hKey'
      have hSame : b.pool_index = a.pool_index := by
        by_contra hNe
        exact Finset.disjoint_left.mp (hNext.sound.apart _ _ (hNext.due_out j b hDue') hOut' hNe)
            hKey' hKey
      by_cases hIndex : j = i
      · rw [hIndex, hSelf] at hDue'
        cases hDue'
        rw [show new = a.pool_index from hSame] at hNew
        exact hNew hOut.1
      · rw [hOther j hIndex] at hDue'
        exact hIndex (hInv.due_once j i b a hDue' hDue hSame)

----
-- The Accounts Over All Runs
----

theorem accounted_of_inv (hInv : Inv candidates s) :
    Accounted candidates s where
  handed_once := hInv.sound.granted_nodup
  apart := hInv.sound.apart
  active_iff := hInv.sound.active_iff

/- A finalisation releases the keys of its own row only. -/
theorem releasesOwn_of_inv (hInv : Inv candidates s) (i : Nat) (success : Bool) :
    ReleasesOwn candidates s i success := by
  unfold ReleasesOwn
  have hNext : Inv candidates (finalizeStep s i success) :=
    hInv.step (moves s (.finalize i success))
  by_cases hIdle : (s.mailboxes i).pc = .idle
  · cases hItem : (s.mailboxes i).allocated_item with
    | none =>
      left
      simp only [finalizeStep, hIdle, hItem]
    | some a =>
      right
      have hDue : (s.mailboxes i).due = some a := by rw [Mailbox.due, hIdle, hItem]
      have hOut := hInv.due_out i a hDue
      have hFinalized : (finalizeStep s i success).finalized = a.pool_index :: s.finalized := by
        simp only [finalizeStep, hIdle, hItem]
      have hHanded : (finalizeStep s i success).handed = s.handed := by
        simp only [finalizeStep, hIdle, hItem]
      have hActive : (finalizeStep s i success).pool.active_locks =
            s.pool.active_locks \ rowKeys candidates a.pool_index := by
        simp only [finalizeStep, hIdle, hItem, Pool.finalize, hInv.releaseKeys_eq hDue]
      refine ⟨a, rfl, hOut, hFinalized, ?_, ?_⟩
      · intro k
        rw [hActive, Finset.mem_sdiff]
      · intro idx hOther hNe
        have hOut' : Outstanding (finalizeStep s i success) idx := by
          unfold Outstanding
          rw [hHanded, hFinalized]
          exact (outstanding_release (b := s.book) ∅ idx).mpr ⟨hNe, hOther⟩
        exact ⟨hOut', hNext.sound.active_of_outstanding hOut'⟩
  · left
    simp [finalizeStep, hIdle]

theorem mem_rowKeys_of_parsed (hRow : (parse_email_api_lines env lines).candidates[idx]? = some c) :
    "api:" ++ c.api_url ∈ rowKeys (parse_email_api_lines env lines).candidates idx ∧
      (c.gmail_root ≠ "" → "gmail:" ++ c.gmail_root ∈ rowKeys
            (parse_email_api_lines env lines).candidates idx) := by
  have hKeys := (parsed_sound lines).keys c (mem_of_getElem? hRow)
  have hUrl : "api:" ++ c.api_url ≠ "" := by simp
  have hRoot : "gmail:" ++ c.gmail_root ≠ "" := by simp
  rw [rowKeys, hRow, Option.map_some, Option.getD_some, lockKeys, hKeys, lock_keys]
  constructor
  · split <;> simp [hUrl]
  · intro hGmail
    simp [hGmail, hRoot]

theorem mailbox_after (candidates : List Candidate) (restored : Nat → Bool) (ops : List Op)
    (hNoCall : ∀ op ∈ ops, op.mailbox ≠ j) :
    (after candidates restored ops).mailboxes j = ⟨restored j, none, .idle⟩ := by
  exact run_induction_of_steps
      (P := fun s : System => s.mailboxes j = ⟨restored j, none, .idle⟩)
      (fun s op hState hNe => by
        rw [mailbox_step s op hNe]
        exact hState)
      rfl
      (steps_of_forall_mem hNoCall _)

theorem distinct_of_parsed (hParsed : candidates = (parse_email_api_lines env lines).candidates)
    (hInv : Inv candidates s) : DistinctIdentities candidates s := by
  subst hParsed
  intro idx idx' c c' _ _ hNe hRow hRow'
  refine ⟨?_, ?_⟩
  · intro hEmail
    apply hNe
    have hNodup := (@parsed_sound env lines).nodup
    have hLength := (List.getElem?_eq_some_iff.mp hRow).1
    apply (getElem?_inj (by simpa using hLength) hNodup).mp
    rw [getElem?_map, getElem?_map, hRow, hRow', Option.map_some, Option.map_some, hEmail]
  · intro hOut hOut'
    have hApart := hInv.sound.apart idx idx' hOut hOut' hNe
    rcases mem_rowKeys_of_parsed hRow with ⟨hUrl, hRoot⟩
    rcases mem_rowKeys_of_parsed hRow' with ⟨hUrl', hRoot'⟩
    constructor
    · intro hSame
      rw [hSame] at hUrl
      exact Finset.disjoint_left.mp hApart hUrl hUrl'
    · intro hGmail hSame
      have hKey := hRoot hGmail
      rw [hSame] at hKey hGmail
      exact Finset.disjoint_left.mp hApart hKey (hRoot' hGmail)

/- After every run of calls the accounts of the pool are in order and a finalisation releases its
   own locks only; and no lock is lost at any moment of a run exactly when no step of it gives a
   mailbox a new identity over one that it has not finalized. -/
theorem pool_accounting (candidates : List Candidate) (restored : Nat → Bool) (ops : List Op) :
    Accounted candidates (after candidates restored ops) ∧ (∀ env lines,
        candidates = (parse_email_api_lines env lines).candidates →
        DistinctIdentities candidates (after candidates restored ops)) ∧
      (∀ i success, ReleasesOwn candidates (after candidates restored ops) i success) ∧
      ((∀ before, before <+: ops → NoLockLost (after candidates restored before)) ↔
        Machine.Steps step Careful (System.initial candidates restored) ops) := by
  have hInv := inv_after candidates restored
  refine ⟨accounted_of_inv (hInv ops),
      fun env lines hParsed => distinct_of_parsed hParsed (hInv ops),
      releasesOwn_of_inv (hInv ops), ?_⟩
  constructor
  · intro hKept
    rw [steps_iff_forall_split]
    intro before op rest hSplit
    have hStep : after candidates restored (before ++ [op]) =
          (step (after candidates restored before) op).1 := by
      unfold after
      rw [run_append]
      rfl
    have hPrefix : before ++ [op] <+: ops := by
      rw [hSplit]
      exact ⟨rest, by simp⟩
    have hNext := hInv (before ++ [op])
    have hLost := hKept (before ++ [op]) hPrefix
    rw [hStep] at hNext hLost
    exact careful_of_noLockLost (hInv before) (moves _ op) hNext hLost
  · rintro hCareful before ⟨rest, hSplit⟩
    rw [← hSplit, steps_append] at hCareful
    have hBoth : Inv candidates (after candidates restored before) ∧
          Covered candidates (after candidates restored before) := by
      refine run_induction_of_steps (P := fun s => Inv candidates s ∧ Covered candidates s)
          ?_ ?_ hCareful.1
      · intro s op hState hStep
        exact ⟨hState.1.step (moves s op), covered_step hState.1 hState.2 (moves s op) hStep⟩
      · refine ⟨inv_initial restored, ?_⟩
        intro idx hOut
        cases hOut.1
    exact noLockLost_of_covered hBoth.1 hBoth.2

def twoRows : List Candidate :=
  [{ email := "a@x.io", source_email := "a@x.io", gmail_root := "", api_url := "https://api/1",
     variant := "original", line := 1, lock_keys := lock_keys "https://api/1" "" },
   { email := "b@x.io", source_email := "b@x.io", gmail_root := "", api_url := "https://api/2",
     variant := "original", line := 2, lock_keys := lock_keys "https://api/2" "" }]

/- `get_email` twice on one mailbox, then a success. -/
def twice : List Op :=
  [.acquire 0, .remember 0, .acquire 0, .remember 0, .finalize 0 true, .forget 0]

/- A mailbox that gets a second e-mail forgets the first one: its URL stays locked, and no mailbox
   can release it. -/
theorem second_email_loses_lock :
    "api:https://api/1" ∈ (after twoRows (fun _ => false) twice).pool.active_locks ∧
      ¬ NoLockLost (after twoRows (fun _ => false) twice) := by
  have hActive :
      "api:https://api/1" ∈ (after twoRows (fun _ => false) twice).pool.active_locks := by
    decide +kernel
  have hZero : ∀ op ∈ twice, op.mailbox = 0 := by decide
  refine ⟨hActive, ?_⟩
  intro hKept
  rcases hKept _ hActive with ⟨i, a, hDue, _⟩
  by_cases hIndex : i = 0
  · have hNone : ((after twoRows (fun _ => false) twice).mailboxes 0).due = none := by
      decide +kernel
    rw [hIndex, hNone] at hDue
    cases hDue
  · have hNoCall : ∀ op ∈ twice, op.mailbox ≠ i := by
      intro op hOp hSame
      exact hIndex (by rw [← hSame, hZero op hOp])
    rw [mailbox_after twoRows (fun _ => false) twice hNoCall] at hDue
    cases hDue

end EmailApi
