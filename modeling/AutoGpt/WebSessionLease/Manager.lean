import AutoGpt.Library.KeyedTable
import AutoGpt.Library.Machine
import AutoGpt.Library.PyText
import Mathlib.Data.List.Sort

/-
  The browser leases of
  `services/chatgpt_core/web_session_lease.py` and the
  manager that routes accounts to them.

  Threads interleave between the atomic parts of a method:
  a status change happens under the lock of the lease, the
  snapshot for the manager is taken under that lock later,
  and the manager handles the snapshot under its own lock
  later still. What a thread has yet to do is a pending call
  of the state, and a step runs one atomic part.
-/

open PyText (orElse strip)

----
-- Leases
----

namespace WebSessionLease

/- `ACTIVE_LEASE_STATUSES`, then `TERMINAL_LEASE_STATUSES`. -/
inductive LeaseStatus where
| reserved
| waitingCapacity
| authenticating
| refreshingSession
| readyHolding
| releasing
| released
| stopped
| failed
| interrupted
deriving DecidableEq

/- Membership in `TERMINAL_LEASE_STATUSES`. -/
def LeaseStatus.isTerminal : LeaseStatus → Bool
| .released => true
| .stopped => true
| .failed => true
| .interrupted => true
| _ => false

/- Membership in `ACTIVE_LEASE_STATUSES`. -/
def LeaseStatus.isActive (status : LeaseStatus) : Bool := !status.isTerminal

/- `GCASH_REMOTE_STATES`. -/
inductive GcashState where
| notRequested
| submitting
| queued
| running
| succeeded
| failed
| interrupted
deriving DecidableEq

/- The values of `gcash_tab_state`. -/
inductive TabState where
| notRequested
| opening
| ready
| timedOut
| failed
| cancelled
| closed
deriving DecidableEq

/- A `WebSessionLease`. The dictionary of `snapshot` is a copy of these fields, so a snapshot is a
   lease record. -/
structure Lease where
  lease_id : Nat
  task_id : String
  account_id : Int
  email : String
  status : LeaseStatus := .reserved
  created_at : String
  updated_at : String
  ready_at : String := ""
  released_at : String := ""
  last_heartbeat_at : String := ""
  last_error : String := ""
  release_requested : Bool := false
  gcash_state : GcashState := .notRequested
  gcash_error : String := ""
  gcash_remote_request_id : String := ""
  gcash_remote_job_id : String := ""
  gcash_link_expires_at : Option Int := none
  gcash_qr_expires_at : Option Int := none
  gcash_tab_state : TabState := .notRequested
  gcash_tab_updated_at : String := ""

/- The guard of `transition`: a finished lease keeps its status, and a lease under release goes only
   forward. -/
def Lease.refuses (lease : Lease) (status : LeaseStatus) : Bool :=
  (lease.status.isTerminal && status ≠ lease.status) ||
    (lease.release_requested && lease.status = .releasing &&
      !(status = .releasing || status.isTerminal))

/- The fields that `transition` writes. -/
def Lease.moved (status : LeaseStatus) (error now : String) (lease : Lease) : Lease :=
  let holding := decide (status = .readyHolding)
  { lease with
    status := status
    updated_at := now
    ready_at :=
      if holding then orElse lease.ready_at now
      else lease.ready_at
    last_heartbeat_at := if holding then now else lease.last_heartbeat_at
    released_at := if status.isTerminal then now else lease.released_at
    last_error := orElse error (if holding then "" else lease.last_error) }

/- The fields that `request_release` writes at once. -/
def Lease.releaseRequested (now : String) (lease : Lease) : Lease :=
  { lease with release_requested := true, updated_at := now }

/- `str(value or "").strip()[:256]`. -/
def shortId (value : String) : String := String.ofList ((strip value).toList.take 256)

/- The arguments of `update_gcash_status`; the error is the text that `_safe_gcash_error` leaves of
   it. -/
structure GcashUpdate where
  state : GcashState
  error : String := ""
  remote_request_id : String := ""
  remote_job_id : String := ""
  link_expires_at : Option Int := none
  gcash_qr_expires_at : Option Int := none

/- `_optional_expiry` accepts no expiry that is not positive. -/
def GcashUpdate.valid (update : GcashUpdate) : Bool :=
  update.link_expires_at.all (fun e => 0 < e) && update.gcash_qr_expires_at.all (fun e => 0 < e)

/- The fields that `update_gcash_status` writes. -/
def Lease.gcashUpdated (update : GcashUpdate) (now : String) (lease : Lease) : Lease :=
  { lease with
    gcash_remote_request_id :=
      orElse (shortId update.remote_request_id) lease.gcash_remote_request_id
    gcash_remote_job_id := orElse (shortId update.remote_job_id) lease.gcash_remote_job_id
    gcash_link_expires_at := update.link_expires_at.orElse (fun _ => lease.gcash_link_expires_at)
    gcash_qr_expires_at := update.gcash_qr_expires_at.orElse (fun _ => lease.gcash_qr_expires_at)
    gcash_state := update.state
    gcash_error := update.error
    updated_at := now }

/- The fields that the owner thread writes about a tab. -/
def Lease.tabChanged (state : TabState) (now : String) (lease : Lease) : Lease :=
  { lease with gcash_tab_state := state, gcash_tab_updated_at := now, updated_at := now }

/- The fields that `touch` writes. -/
def Lease.touched (now : String) (lease : Lease) : Lease :=
  { lease with updated_at := now, last_heartbeat_at := now }

----
-- The Manager
----

/- What a thread has yet to do: store `releasing` after the release request, take the snapshot of a
   changed lease, or hand a taken snapshot to the manager. -/
inductive Call where
| release (lease_id : Nat) (now : String)
| notify (lease_id : Nat)
| deliver (snapshot : Lease)

/- The manager and its leases. Threads keep a lease they work on after the history dropped it, so
   `leases` has every lease and `registered` the keys of `_leases`. A new lease id differs from all
   others. -/
structure Manager where
  max_history : Nat
  leases : KeyedTable Lease Nat Lease.lease_id
  registered : List Nat
  active_by_account : Int → Option Nat
  calls : List Call

/- `WebSessionLeaseManager()`. -/
def Manager.new (max_history : Nat) : Manager where
  max_history := max max_history 20
  leases := KeyedTable.empty
  registered := []
  active_by_account := fun _ => none
  calls := []

inductive Answer where
| created (lease_id : Nat)
| conflict (snapshot : Lease)
| snapshot (lease : Lease)
| notFound
| invalid
| done

/- Write the fields of one lease under its lock. -/
def Manager.write (m : Manager) (lease_id : Nat) (f : Lease → Lease)
    (hId : ∀ lease, (f lease).lease_id = lease.lease_id) (calls : List Call) : Manager :=
  { m with leases := m.leases.updateKey lease_id f hId, calls := calls }

/- The locked part of `transition`, which leaves a snapshot to be taken unless the transition is
   refused. -/
def transition (lease_id : Nat) (status : LeaseStatus) (error now : String)
    (m : Manager) : Manager × Answer :=
  match m.leases.find? lease_id with
  | none => (m, .notFound)
  | some lease =>
    if lease.refuses status then (m, .snapshot lease)
    else
      (m.write lease_id (Lease.moved status error now)
        (fun _ => rfl) (m.calls ++ [.notify lease_id]), .done)

/- The locked part of `request_release` of a lease. -/
def requestRelease (lease_id : Nat) (now : String) (m : Manager) : Manager × Answer :=
  match m.leases.find? lease_id with
  | none => (m, .notFound)
  | some lease =>
    if lease.status.isTerminal then (m, .snapshot lease)
    else
      (m.write lease_id (Lease.releaseRequested now)
        (fun _ => rfl) (m.calls ++ [.release lease_id now]), .done)

/- The locked part of `update_gcash_status`. -/
def updateGcashStatus (lease_id : Nat) (update : GcashUpdate) (now : String)
    (m : Manager) : Manager × Answer :=
  if update.valid = false then (m, .invalid)
  else
    match m.leases.find? lease_id with
    | none => (m, .notFound)
    | some _ => (m.write lease_id (Lease.gcashUpdated update now)
          (fun _ => rfl) (m.calls ++ [.notify lease_id]), .done)

/- The owner thread stores a tab state and notifies. -/
def tabChanged (lease_id : Nat) (state : TabState) (now : String)
    (m : Manager) : Manager × Answer :=
  (m.write lease_id (Lease.tabChanged state now)
    (fun _ => rfl) (m.calls ++ [.notify lease_id]), .done)

/- `touch` of the owner thread. -/
def touch (lease_id : Nat) (now : String) (m : Manager) : Manager × Answer :=
  (m.write lease_id (Lease.touched now) (fun _ => rfl) m.calls, .done)

/- `_lease_changed`. -/
def leaseChanged (snapshot : Lease) (m : Manager) : Manager :=
  if snapshot.status.isTerminal then
    if m.active_by_account snapshot.account_id = some snapshot.lease_id then
      { m with
        active_by_account := fun account =>
          if account = snapshot.account_id then none
          else m.active_by_account account }
    else m
  else
    { m with
      active_by_account := fun account =>
        if account = snapshot.account_id then some snapshot.lease_id
        else m.active_by_account account }

/- The keys that `_trim_history_locked` keeps. -/
def trimHistory (max_history : Nat) (leases : KeyedTable Lease Nat Lease.lease_id)
    (registered : List Nat) : List Nat :=
  if registered.length ≤ max_history then registered
  else
    let terminal :=
      (registered.filterMap leases.find?).filter (fun lease => lease.status.isTerminal)
    let sorted := terminal.insertionSort (fun a b => a.created_at ≤ b.created_at)
    let dropped := (sorted.take (registered.length - max_history)).map Lease.lease_id
    registered.filter (fun id => id ∉ dropped)

/- The lease that the index names for an account. -/
def routed (account_id : Int) (m : Manager) : Option Lease :=
  match m.active_by_account account_id with
  | none => none
  | some id => if id ∈ m.registered then m.leases.find? id else none

/- The locked part of `create`. -/
def create (task_id : String) (account_id : Int) (email now : String)
    (m : Manager) : Manager × Answer :=
  match (routed account_id m).filter (fun lease => lease.status.isActive) with
  | some active => (m, .conflict active)
  | none =>
    let lease : Lease :=
      { lease_id := m.leases.nextId, task_id := task_id, account_id := account_id,
        email := strip email, created_at := now, updated_at := now }
    let leases := m.leases.insertNew lease
    ({ m with
       leases := leases
       registered := trimHistory m.max_history leases (m.registered ++ [lease.lease_id])
       active_by_account := fun account =>
         if account = account_id then some lease.lease_id
         else m.active_by_account account
       calls := m.calls ++ [.notify lease.lease_id] },
      .created lease.lease_id)

/- A thread goes on with its pending call. -/
def resume (i : Nat) (m : Manager) : Manager × Answer :=
  let rest := { m with calls := m.calls.eraseIdx i }
  match m.calls[i]? with
  | none => (m, .done)
  | some (.release lease_id now) => transition lease_id .releasing "" now rest
  | some (.notify lease_id) =>
    match m.leases.find? lease_id with
    | none => (rest, .notFound)
    | some lease => ({ rest with calls := rest.calls ++ [.deliver lease] }, .snapshot lease)
  | some (.deliver snapshot) => (leaseChanged snapshot rest, .done)

----
-- Interleavings
----

inductive Op where
| create (task_id : String) (account_id : Int)
    (email now : String)
| transition (lease_id : Nat) (status : LeaseStatus)
    (error now : String)
| requestRelease (lease_id : Nat) (now : String)
| updateGcashStatus (lease_id : Nat) (update : GcashUpdate)
    (now : String)
| tabChanged (lease_id : Nat) (state : TabState)
    (now : String)
| touch (lease_id : Nat) (now : String)
| resume (i : Nat)

def step (m : Manager) : Op → Manager × Answer
| .create task_id account_id email now => create task_id account_id email now m
| .transition lease_id status error now => transition lease_id status error now m
| .requestRelease lease_id now => requestRelease lease_id now m
| .updateGcashStatus lease_id update now => updateGcashStatus lease_id update now m
| .tabChanged lease_id state now => tabChanged lease_id state now m
| .touch lease_id now => touch lease_id now m
| .resume i => resume i m

abbrev run (m : Manager) (ops : List Op) : Manager := Machine.run step m ops

end WebSessionLease
