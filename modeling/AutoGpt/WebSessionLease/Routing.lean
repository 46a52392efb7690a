import AutoGpt.WebSessionLease.Manager

/-
  The routing authority of the manager: an active lease is
  the one that the account index names. The index is written
  from snapshots, so a snapshot that is delivered late can
  point it back at a finished lease, and the next creation
  then succeeds next to the active lease. Interleavings
  without such a delivery keep the authority.

  Main declarations:
    * `WebSessionLease.RoutingInv`
    * `WebSessionLease.NoStaleDelivery`
    * `WebSessionLease.ManagerMove`
-/

open KeyedTable (eq_of_mem_of_key_eq find?_of_mem lt_nextId mem_of_find? mem_rows_updateKey
  rows_insertNew)
open List
open Option
open Machine

----
-- Invariant And Moves
----

namespace WebSessionLease

/- At most one lease per account id is active. -/
def OneActivePerAccount (m : Manager) : Prop := ∀ lease ∈ m.leases.rows, ∀ other ∈ m.leases.rows,
    lease.account_id = other.account_id →
    lease.status.isActive →
    other.status.isActive →
    lease.lease_id = other.lease_id

instance (m : Manager) :
    Decidable (OneActivePerAccount m) :=
  inferInstanceAs (Decidable (∀ lease ∈ _, ∀ other ∈ _, _))

/- An active lease is registered and named by the index, a pending terminal snapshot belongs to a
   finished lease, and every pending snapshot to a lease of its account. -/
structure RoutingInv (m : Manager) : Prop where
  routed : ∀ lease ∈ m.leases.rows, lease.status.isActive →
      lease.lease_id ∈ m.registered ∧ m.active_by_account lease.account_id = some lease.lease_id
  settled : ∀ snapshot, Call.deliver snapshot ∈ m.calls → snapshot.status.isTerminal →
      ∀ lease ∈ m.leases.rows, lease.lease_id = snapshot.lease_id → lease.status.isTerminal
  owned : ∀ snapshot, Call.deliver snapshot ∈ m.calls → ∃ lease ∈ m.leases.rows,
        lease.lease_id = snapshot.lease_id ∧ lease.account_id = snapshot.account_id

/- The step delivers no snapshot with an active status while another lease of the account is active.
   -/
def NoStaleDelivery (m : Manager) : Op → Prop
| .resume i =>
    ∀ snapshot, m.calls[i]? = some (.deliver snapshot) → snapshot.status.isActive →
      ∀ lease ∈ m.leases.rows, lease.account_id = snapshot.account_id →
        lease.status.isActive → lease.lease_id = snapshot.lease_id
| _ => True

instance (m : Manager) :
    ∀ op, Decidable (NoStaleDelivery m op)
| .resume i =>
    match hCall : m.calls[i]? with
    | some (.deliver snapshot) =>
        decidable_of_iff (snapshot.status.isActive → ∀ lease ∈ m.leases.rows,
              lease.account_id = snapshot.account_id → lease.status.isActive →
              lease.lease_id = snapshot.lease_id) (by simp [NoStaleDelivery, hCall])
    | some (.release _ _) => isTrue (by simp [NoStaleDelivery, hCall])
    | some (.notify _) => isTrue (by simp [NoStaleDelivery, hCall])
    | none => isTrue (by simp [NoStaleDelivery, hCall])
| .create _ _ _ _ => isTrue trivial
| .transition _ _ _ _ => isTrue trivial
| .requestRelease _ _ => isTrue trivial
| .updateGcashStatus _ _ _ => isTrue trivial
| .tabChanged _ _ _ => isTrue trivial
| .touch _ _ => isTrue trivial

/- The pending snapshots of `next` are pending in `m`. -/
def NoNewDelivery (m next : Manager) : Prop :=
  ∀ snapshot, Call.deliver snapshot ∈ next.calls → Call.deliver snapshot ∈ m.calls

/- What one atomic part does to the leases and the index. -/
inductive ManagerMove (m next : Manager) : Prop where
| kept
    (hLeases : next.leases = m.leases) (hRegistered : next.registered = m.registered)
    (hIndex : next.active_by_account = m.active_by_account) (hCalls : NoNewDelivery m next)
| wrote
    (lease_id : Nat) (f : Lease → Lease) (hId : ∀ lease, (f lease).lease_id = lease.lease_id)
    (hAccount : ∀ lease, (f lease).account_id = lease.account_id)
    (hActive : ∀ lease, m.leases.find? lease_id = some lease → (f lease).status.isActive →
        lease.status.isActive)
    (hLeases : next.leases = m.leases.updateKey lease_id f hId)
    (hRegistered : next.registered = m.registered)
    (hIndex : next.active_by_account = m.active_by_account) (hCalls : NoNewDelivery m next)
| created
    (lease : Lease) (hNew : m.leases.find? lease.lease_id = none)
    (hFree : ∀ active, routed lease.account_id m = some active → active.status.isActive = false)
    (hLeases : next.leases = m.leases.insertNew lease) (hRegistered :
      next.registered = trimHistory m.max_history next.leases (m.registered ++ [lease.lease_id]))
    (hIndex : next.active_by_account = fun account =>
        if account = lease.account_id then some lease.lease_id
        else m.active_by_account account)
    (hCalls : NoNewDelivery m next)
| observed
    (lease : Lease) (hLease : lease ∈ m.leases.rows) (hLeases : next.leases = m.leases)
    (hRegistered : next.registered = m.registered)
    (hIndex : next.active_by_account = m.active_by_account)
    (hCalls : ∀ snapshot, Call.deliver snapshot ∈ next.calls →
        Call.deliver snapshot ∈ m.calls ∨ snapshot = lease)
| delivered
    (snapshot : Lease) (hPending : Call.deliver snapshot ∈ m.calls)
    (hFresh : snapshot.status.isActive → ∀ lease ∈ m.leases.rows,
          lease.account_id = snapshot.account_id → lease.status.isActive →
          lease.lease_id = snapshot.lease_id)
    (hLeases : next.leases = m.leases) (hRegistered : next.registered = m.registered)
    (hIndex : next.active_by_account = (leaseChanged snapshot m).active_by_account)
    (hCalls : NoNewDelivery m next)

----
-- Every Atomic Part Is A Move
----

variable {m next : Manager}

theorem isActive_eq_false_iff {status : LeaseStatus} :
    status.isActive = false ↔ status.isTerminal := by
  simp [LeaseStatus.isActive]

theorem isActive_iff {status : LeaseStatus} :
    status.isActive ↔ status.isTerminal = false := by
  simp [LeaseStatus.isActive]

theorem noNewDelivery_append (hCall : ∀ snapshot, call ≠ .deliver snapshot)
    (hSub : ∀ snapshot, Call.deliver snapshot ∈ calls → Call.deliver snapshot ∈ m.calls)
    (hCalls : next.calls = calls ++ [call]) : NoNewDelivery m next := by
  intro snapshot hMem
  rw [hCalls, mem_append, mem_singleton] at hMem
  rcases hMem with hOld | hLast
  · exact hSub snapshot hOld
  · exact absurd hLast.symm (hCall snapshot)

theorem active_of_moved {lease : Lease} {status : LeaseStatus} (error now : String)
    (hAccepted : lease.refuses status = false)
    (hActive : (lease.moved status error now).status.isActive) :
    lease.status.isActive := by
  change status.isActive at hActive
  rw [isActive_iff] at hActive ⊢
  by_contra hFinished
  rw [Bool.not_eq_false] at hFinished
  have hNe : status ≠ lease.status := by
    intro hSame
    rw [hSame, hFinished] at hActive
    cases hActive
  simp [Lease.refuses, hFinished, hNe] at hAccepted

/- `transition` from a state that differs in its calls only by a finished call. -/
theorem transition_move (lease_id : Nat) (status : LeaseStatus)
    (error now : String) (hLeases : rest.leases = m.leases)
    (hRegistered : rest.registered = m.registered)
    (hIndex : rest.active_by_account = m.active_by_account) (hCalls : NoNewDelivery m rest) :
    ManagerMove m (transition lease_id status error now rest).1 := by
  unfold transition
  split
  · exact .kept hLeases hRegistered hIndex hCalls
  next lease hFind =>
    split
    · exact .kept hLeases hRegistered hIndex hCalls
    next hAccepted =>
      rw [Bool.not_eq_true] at hAccepted
      refine .wrote lease_id (Lease.moved status error now)
        (fun _ => rfl) (fun _ => rfl) ?_ ?_ hRegistered hIndex ?_
      · intro old hOld hActive
        rw [hLeases, hOld, some.injEq] at hFind
        rw [hFind] at hActive ⊢
        exact active_of_moved error now hAccepted hActive
      · simp only [Manager.write, hLeases]
      · exact noNewDelivery_append (fun _ h => by cases h) hCalls
            rfl

theorem write_move (hAccount : ∀ lease, (f lease).account_id = lease.account_id)
    (hStatus : ∀ lease, (f lease).status = lease.status)
    (hCall : ∀ snapshot, call ≠ .deliver snapshot) :
    ManagerMove m (m.write lease_id f hId (m.calls ++ [call])) := by
  refine .wrote lease_id f hId hAccount ?_ rfl rfl rfl ?_
  · intro lease _ hActive
    rwa [hStatus] at hActive
  · exact noNewDelivery_append hCall (fun _ h => h) rfl

theorem create_move (task_id : String) (account_id : Int) (email now : String) :
    ManagerMove m (create task_id account_id email now m).1 := by
  unfold create
  split
  · exact .kept rfl rfl rfl (fun _ h => h)
  next hFree =>
    refine .created
      { lease_id := m.leases.nextId, task_id := task_id, account_id := account_id,
        email := PyText.strip email, created_at := now, updated_at := now }
      m.leases.find?_nextId ?_ rfl rfl rfl ?_
    · intro active hRouted
      rw [hRouted, filter_eq_none_iff] at hFree
      rw [← Bool.not_eq_true]
      exact hFree active rfl
    · exact noNewDelivery_append (fun _ h => by cases h) (fun _ h => h) rfl

theorem resume_move (i : Nat) (hFresh : NoStaleDelivery m (.resume i)) :
    ManagerMove m (resume i m).1 := by
  have hRest : NoNewDelivery m { m with calls := m.calls.eraseIdx i } := by
    intro snapshot hMem
    exact mem_of_mem_eraseIdx hMem
  unfold resume
  dsimp only
  split
  · exact .kept rfl rfl rfl (fun _ h => h)
  · exact transition_move _ _ _ _ rfl rfl rfl hRest
  · split
    · exact .kept rfl rfl rfl hRest
    next lease hFind =>
      refine .observed lease (mem_of_find? hFind).1 rfl rfl rfl ?_
      intro snapshot hMem
      rw [mem_append, mem_singleton] at hMem
      rcases hMem with hOld | hLast
      · exact .inl (hRest snapshot hOld)
      · cases hLast
        exact .inr rfl
  next snapshot hCall =>
    have hPending := mem_of_getElem? hCall
    refine .delivered snapshot hPending (hFresh snapshot hCall) ?_ ?_ ?_ ?_
    all_goals
      unfold leaseChanged
      split
      · split <;> first | rfl | exact hRest
      · first | rfl | exact hRest

theorem step_move (op : Op) (hFresh : NoStaleDelivery m op) : ManagerMove m (step m op).1 := by
  cases op with
  | create task_id account_id email now => exact create_move task_id account_id email now
  | transition lease_id status error now =>
      exact transition_move lease_id status error now rfl rfl
        rfl (fun _ h => h)
  | requestRelease lease_id now =>
      simp only [step, requestRelease]
      split
      · exact .kept rfl rfl rfl (fun _ h => h)
      · split
        · exact .kept rfl rfl rfl (fun _ h => h)
        · exact write_move (fun _ => rfl) (fun _ => rfl) (fun _ h => by cases h)
  | updateGcashStatus lease_id update now =>
      simp only [step, updateGcashStatus]
      split
      · exact .kept rfl rfl rfl (fun _ h => h)
      · split
        · exact .kept rfl rfl rfl (fun _ h => h)
        · exact write_move (fun _ => rfl) (fun _ => rfl) (fun _ h => by cases h)
  | tabChanged lease_id state now =>
      exact write_move (fun _ => rfl) (fun _ => rfl) (fun _ h => by cases h)
  | touch lease_id now =>
      exact .wrote lease_id (Lease.touched now) (fun _ => rfl)
        (fun _ => rfl) (fun _ _ h => h) rfl rfl rfl (fun _ h => h)
  | resume i => exact resume_move i hFresh

----
-- Moves Keep The Routing Authority
----

variable {lease snapshot : Lease}

theorem mem_trimHistory (hLease : lease ∈ leases.rows) (hActive : lease.status.isActive)
    (hMem : lease.lease_id ∈ registered) :
    lease.lease_id ∈ trimHistory max_history leases registered := by
  unfold trimHistory
  split
  · exact hMem
  · dsimp only
    rw [mem_filter]
    refine ⟨hMem, ?_⟩
    rw [decide_eq_true_eq]
    intro hDropped
    rcases mem_map.mp hDropped with ⟨old, hTaken, hSame⟩
    have hSorted := mem_of_mem_take hTaken
    rw [mem_insertionSort, mem_filter] at hSorted
    rcases mem_filterMap.mp hSorted.1 with ⟨id, _, hFind⟩
    have hEq := eq_of_mem_of_key_eq (mem_of_find? hFind).1 hLease hSame
    rw [isActive_iff, ← hEq, hSorted.2] at hActive
    cases hActive

theorem routed_of_active (hInv : RoutingInv m) (hLease : lease ∈ m.leases.rows)
    (hActive : lease.status.isActive) : routed lease.account_id m = some lease := by
  rcases hInv.routed lease hLease hActive with ⟨hRegistered, hIndex⟩
  unfold routed
  rw [hIndex]
  simp only [hRegistered, if_true]
  exact find?_of_mem hLease

theorem ne_of_settled (hInv : RoutingInv m) (hPending : Call.deliver snapshot ∈ m.calls)
    (hTerminal : snapshot.status.isTerminal) (hLease : lease ∈ m.leases.rows)
    (hActive : lease.status.isActive) : lease.lease_id ≠ snapshot.lease_id := by
  intro hSame
  have hFinished := hInv.settled snapshot hPending hTerminal lease hLease hSame
  rw [isActive_iff, hFinished] at hActive
  cases hActive

theorem index_of_delivered (hInv : RoutingInv m) (hPending : Call.deliver snapshot ∈ m.calls)
    (hFresh : snapshot.status.isActive → ∀ lease ∈ m.leases.rows,
          lease.account_id = snapshot.account_id → lease.status.isActive →
          lease.lease_id = snapshot.lease_id)
    (hLease : lease ∈ m.leases.rows) (hActive : lease.status.isActive) :
    (leaseChanged snapshot m).active_by_account lease.account_id = some lease.lease_id := by
  have hIndex := (hInv.routed lease hLease hActive).2
  unfold leaseChanged
  by_cases hTerminal : snapshot.status.isTerminal
  · rw [if_pos hTerminal]
    split
    next hNamed =>
      have hNe := ne_of_settled hInv hPending hTerminal hLease hActive
      have hAccount : lease.account_id ≠ snapshot.account_id := by
        intro hSame
        rw [hSame, hNamed, some.injEq] at hIndex
        exact hNe hIndex.symm
      simp only [hAccount, if_false, hIndex]
    · exact hIndex
  · rw [if_neg hTerminal]
    by_cases hAccount : lease.account_id = snapshot.account_id
    · have hSnapshot : snapshot.status.isActive := by
        rw [isActive_iff]
        simpa using hTerminal
      have hSame := hFresh hSnapshot lease hLease hAccount hActive
      simp only [hAccount, if_true, hSame]
    · simp only [hAccount, if_false, hIndex]

/- Every move keeps the routing authority. -/
theorem routingInv_of_move (hInv : RoutingInv m) (hMove : ManagerMove m next) :
    RoutingInv next := by
  cases hMove with
  | kept hLeases hRegistered hIndex hCalls =>
      constructor
      · rw [hLeases, hRegistered, hIndex]
        exact hInv.routed
      · intro snapshot hMem
        rw [hLeases]
        exact hInv.settled snapshot (hCalls snapshot hMem)
      · intro snapshot hMem
        rw [hLeases]
        exact hInv.owned snapshot (hCalls snapshot hMem)
  | wrote lease_id f hId hAccount hActive hLeases hRegistered
      hIndex hCalls =>
      constructor
      · intro row hRow hRowActive
        rw [hLeases] at hRow
        rw [hRegistered, hIndex]
        rcases mem_rows_updateKey hRow with ⟨old, hOld, hSelf⟩ | ⟨_, hOld⟩
        · rw [hSelf] at hRowActive ⊢
          rw [hId, hAccount]
          exact hInv.routed old (mem_of_find? hOld).1 (hActive old hOld hRowActive)
        · exact hInv.routed row hOld hRowActive
      · intro snapshot hMem hTerminal row hRow hSame
        rw [hLeases] at hRow
        have hSettled := hInv.settled snapshot (hCalls snapshot hMem) hTerminal
        rcases mem_rows_updateKey hRow with ⟨old, hOld, hSelf⟩ | ⟨_, hOld⟩
        · rw [hSelf] at hSame ⊢
          rw [hId] at hSame
          have hFinished := hSettled old (mem_of_find? hOld).1 hSame
          rw [← isActive_eq_false_iff] at hFinished ⊢
          rw [← Bool.not_eq_true] at hFinished ⊢
          exact fun h => hFinished (hActive old hOld h)
        · exact hSettled row hOld hSame
      · intro snapshot hMem
        rcases hInv.owned snapshot (hCalls snapshot hMem) with ⟨old, hOld, hOldId, hOldAccount⟩
        rw [hLeases]
        refine ⟨_, KeyedTable.exists_mem_updateKey lease_id hId hOld, ?_⟩
        split
        · rw [hId, hAccount]
          exact ⟨hOldId, hOldAccount⟩
        · exact ⟨hOldId, hOldAccount⟩
  | created lease hNew hFree hLeases hRegistered hIndex
      hCalls =>
      have hRows := rows_insertNew _ hNew
      constructor
      · intro row hRow hRowActive
        have hTrim : row.lease_id ∈ m.registered ++ [lease.lease_id] →
            row.lease_id ∈ next.registered := by
          rw [hRegistered]
          exact mem_trimHistory hRow hRowActive
        rw [hLeases, hRows, mem_append, mem_singleton] at hRow
        rcases hRow with hOld | hFresh
        · rcases hInv.routed row hOld hRowActive with
            ⟨hOldRegistered, hOldIndex⟩
          have hAccount : row.account_id ≠ lease.account_id := by
            intro hSame
            have hRouted := routed_of_active hInv hOld hRowActive
            rw [hSame] at hRouted
            rw [hFree row hRouted] at hRowActive
            cases hRowActive
          refine ⟨hTrim (mem_append_left _ hOldRegistered), ?_⟩
          rw [hIndex]
          simp only [hAccount, if_false, hOldIndex]
        · rw [hFresh] at hTrim ⊢
          refine ⟨hTrim (by simp), ?_⟩
          rw [hIndex]
          simp only [if_true]
      · intro snapshot hMem hTerminal row hRow hSame
        have hPending := hCalls snapshot hMem
        rw [hLeases, hRows, mem_append, mem_singleton] at hRow
        rcases hRow with hOld | hFresh
        · exact hInv.settled snapshot hPending hTerminal row hOld hSame
        · rcases hInv.owned snapshot hPending with
            ⟨old, hOld, hOldId, _⟩
          rw [hFresh, ← hOldId] at hSame
          exact absurd hSame.symm (KeyedTable.find?_eq_none_iff.mp hNew old hOld)
      · intro snapshot hMem
        rcases hInv.owned snapshot (hCalls snapshot hMem) with ⟨old, hOld, hOwned⟩
        rw [hLeases, hRows]
        exact ⟨old, mem_append_left _ hOld, hOwned⟩
  | observed lease hLease hLeases hRegistered hIndex hCalls =>
      constructor
      · rw [hLeases, hRegistered, hIndex]
        exact hInv.routed
      · intro snapshot hMem hTerminal row hRow hSame
        rw [hLeases] at hRow
        rcases hCalls snapshot hMem with hOld | hTaken
        · exact hInv.settled snapshot hOld hTerminal row hRow hSame
        · rw [hTaken] at hTerminal hSame
          rw [eq_of_mem_of_key_eq hRow hLease hSame]
          exact hTerminal
      · intro snapshot hMem
        rw [hLeases]
        rcases hCalls snapshot hMem with hOld | hTaken
        · exact hInv.owned snapshot hOld
        · rw [hTaken]
          exact ⟨lease, hLease, rfl, rfl⟩
  | delivered snapshot hPending hFresh hLeases hRegistered
      hIndex hCalls =>
      constructor
      · intro row hRow hRowActive
        rw [hLeases] at hRow
        rw [hRegistered, hIndex]
        exact ⟨(hInv.routed row hRow hRowActive).1,
            index_of_delivered hInv hPending hFresh hRow hRowActive⟩
      · intro other hMem
        rw [hLeases]
        exact hInv.settled other (hCalls other hMem)
      · intro other hMem
        rw [hLeases]
        exact hInv.owned other (hCalls other hMem)

theorem routingInv_new (max_history : Nat) : RoutingInv (Manager.new max_history) := by
  constructor
  · intro lease hLease
    cases hLease
  · intro snapshot hMem
    cases hMem
  · intro snapshot hMem
    cases hMem

theorem oneActive_of_routingInv (hInv : RoutingInv m) : OneActivePerAccount m := by
  intro lease hLease other hOther hAccount hActive hOtherActive
  have hIndex := (hInv.routed lease hLease hActive).2
  have hOtherIndex := (hInv.routed other hOther hOtherActive).2
  rw [hAccount, hOtherIndex, some.injEq] at hIndex
  exact hIndex.symm

----
-- Interleavings
----

theorem create_of_routed_inactive (task_id : String) (account_id : Int) (email now : String)
    (hRouted : ∀ lease, routed account_id m = some lease → lease.status.isActive = false) :
    ∃ lease, (create task_id account_id email now m).1.leases.rows = m.leases.rows ++ [lease] ∧
      lease.lease_id = m.leases.nextId ∧ lease.account_id = account_id ∧
      lease.status.isActive := by
  have hNone : (routed account_id m).filter (fun lease => lease.status.isActive) = none := by
    rw [filter_eq_none_iff]
    intro lease hLease
    rw [hRouted lease hLease]
    exact Bool.false_ne_true
  unfold create
  rw [hNone]
  refine ⟨_, rows_insertNew _ m.leases.find?_nextId, rfl, rfl, rfl⟩

/- A stale delivery hands the account of an active lease to a finished one, so that the next
   creation succeeds and two leases of the account are active. -/
theorem second_lease_after_stale_delivery (hInv : RoutingInv m) {i : Nat}
    (hStale : ¬ NoStaleDelivery m (.resume i)) (task_id email now : String) :
    ∃ account_id,
      ¬ OneActivePerAccount (run m [.resume i, .create task_id account_id email now]) := by
  simp only [NoStaleDelivery, not_forall] at hStale
  rcases hStale with ⟨snapshot, hCall, hSnapshot, lease, hLease, hAccount, hActive, hOther⟩
  rcases hInv.owned snapshot (mem_of_getElem? hCall) with ⟨old, hOld, hOldId, hOldAccount⟩
  -- The lease of the snapshot is finished: an active one
  -- would be what the index names instead of `lease`.
  have hFinished : old.status.isActive = false := by
    rw [← Bool.not_eq_true]
    intro hOldActive
    have hRouted := routed_of_active hInv hLease hActive
    have hOldRouted := routed_of_active hInv hOld hOldActive
    rw [hOldAccount, ← hAccount, hRouted, some.injEq] at hOldRouted
    rw [hOldRouted] at hOther
    exact hOther hOldId
  let stale := (resume i m).1
  have hStep : stale.leases = m.leases ∧
        stale.active_by_account snapshot.account_id = some snapshot.lease_id := by
    rw [isActive_iff] at hSnapshot
    simp only [stale, resume, hCall, leaseChanged, hSnapshot,
      Bool.false_eq_true, if_false, if_true, and_self]
  refine ⟨snapshot.account_id, ?_⟩
  intro hOne
  rcases create_of_routed_inactive (m := stale) task_id
      snapshot.account_id email now
      (by
        intro found hFound
        unfold routed at hFound
        rw [hStep.2] at hFound
        dsimp only at hFound
        split at hFound
        · rw [hStep.1, ← hOldId, find?_of_mem hOld, some.injEq] at hFound
          rw [← hFound]
          exact hFinished
        · cases hFound) with
    ⟨fresh, hRows, hFreshId, hFreshAccount, hFreshActive⟩
  have hSame := hOne lease
      (by
        change lease ∈ (create task_id snapshot.account_id email now stale).1.leases.rows
        rw [hRows, hStep.1]
        exact mem_append_left _ hLease)
      fresh
      (by
        change fresh ∈ (create task_id snapshot.account_id email now stale).1.leases.rows
        rw [hRows]
        simp)
      (by rw [hAccount, hFreshAccount]) hActive hFreshActive
  have hLt := lt_nextId hLease
  rw [hSame, hFreshId, hStep.1] at hLt
  omega

theorem routingInv_run (max_history : Nat)
    (hFresh : Machine.Steps step NoStaleDelivery (Manager.new max_history) ops) :
    RoutingInv (run (Manager.new max_history) ops) :=
  run_induction_of_steps (C := NoStaleDelivery)
    (fun _ op hInv hOp => routingInv_of_move hInv (step_move op hOp))
    (routingInv_new max_history) hFresh

/- In every interleaving from a new manager whose deliveries are never stale, every state reached
   has at most one active lease per account; and the first stale delivery of an interleaving can be
   followed by a creation that leaves two. -/
theorem one_active_lease_per_account (max_history : Nat) (ops : List Op)
    (hFresh : Machine.Steps step NoStaleDelivery (Manager.new max_history) ops) :
    (∀ before after, ops = before ++ after →
      OneActivePerAccount (run (Manager.new max_history) before)) ∧
    (∀ i task_id email now, ¬ NoStaleDelivery (run (Manager.new max_history) ops) (.resume i) →
      ∃ account_id, ¬ OneActivePerAccount (run (Manager.new max_history)
            (ops ++ [.resume i, .create task_id account_id email now]))) := by
  constructor
  · rintro before after rfl
    rw [steps_append] at hFresh
    exact oneActive_of_routingInv (routingInv_run max_history hFresh.1)
  · intro i task_id email now hStale
    rcases second_lease_after_stale_delivery
        (routingInv_run max_history hFresh) hStale task_id
        email now with
      ⟨account_id, hTwo⟩
    refine ⟨account_id, ?_⟩
    rw [run, run_append]
    exact hTwo

/- An operator's release request has taken its snapshot of the first lease when the owner thread
   finishes the lease; the snapshot arrives after a second lease was created. -/
def lateSnapshotOps : List Op := [.create "t1" 7 "a@b" "1", .resume 0, .resume 0,
    .requestRelease 1 "2", .resume 0, .resume 0,
    .transition 1 .released "" "3", .resume 1, .resume 1,
    .create "t2" 7 "a@b" "4", .resume 0,
    .create "t3" 7 "a@b" "5"]

/- The second and the third lease are both active. -/
theorem two_active_leases_after_late_snapshot :
    ¬ ∀ max_history ops, OneActivePerAccount (run (Manager.new max_history) ops) := by
  intro hAll
  have hOne := hAll 500 lateSnapshotOps
  revert hOne
  decide

/- The same threads with the snapshot delivered in time. -/
def inOrderOps : List Op := [.create "t1" 7 "a@b" "1", .resume 0, .resume 0,
    .requestRelease 1 "2", .resume 0, .resume 0,
    .resume 0, .transition 1 .released "" "3",
    .resume 0, .resume 0, .create "t2" 7 "a@b" "4"]

/- They leave the second lease the only active one. -/
theorem one_active_lease_in_order : OneActivePerAccount (run (Manager.new 500) inOrderOps) := by
  have hBoth := one_active_lease_per_account 500 inOrderOps (by decide)
  exact hBoth.1 inOrderOps [] (append_nil _).symm

end WebSessionLease
