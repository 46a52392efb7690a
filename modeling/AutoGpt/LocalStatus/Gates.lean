import AutoGpt.Library.Machine
import Mathlib.Data.List.Sort
import Mathlib.Data.String.Basic
import Mathlib.Logic.Function.Basic

/-
  The gates in front of a probe of `local_status_refresh.py`:
  one lock for each identity key, kept in a registry while
  somebody refers to it, and the capacity slots of the
  process, granted in order of arrival.
-/

----
-- Identity Keys
----

namespace LocalStatus

/- `_local_status_identity_keys` of an account. -/
def identityKeys (account_id : Nat) (signature : String) :
    List String :=
  ((if 0 < account_id then ["account:" ++ toString account_id]
    else []) ++
    [if signature = "" then "fingerprint:legacy_default"
      else "fingerprint:" ++ signature]).insertionSort
    (· ≤ ·)

----
-- The Registry
----

/- An entry of `_LOCAL_STATUS_IDENTITY_GATES`. -/
structure Gate where
  locked : Bool := false
  references : Nat := 0

/- A key with the entry that a thread has looked up; entries
   are objects, named by the order of their creation. -/
structure Entry where
  key : String
  gate : Nat

/- All entries ever created, and those found under a key. -/
structure Registry where
  gates : List Gate := []
  registry : String → Option Nat := fun _ => none

/- The references of an entry after a change. -/
def Gate.refer (change : Nat → Nat) (gate : Gate) : Gate :=
  { gate with references := change gate.references }

def Gate.lock (locked : Bool) (gate : Gate) : Gate := { gate with locked := locked }

/- One turn of the first loop of `local_status_identity_slot`. -/
def Registry.registerKey (r : Registry) (key : String) :
    Registry × Entry :=
  match r.registry key with
  | some gate =>
    ({ r with gates := r.gates.modify gate (Gate.refer (· + 1)) }, { key := key, gate := gate })
  | none =>
    ({ gates := r.gates ++ [{ references := 1 }]
       registry := Function.update r.registry key
           (some r.gates.length) },
      { key := key, gate := r.gates.length })

def Registry.register (r : Registry) :
    List String → Registry × List Entry
| [] => (r, [])
| key :: keys =>
    let next := r.registerKey key
    let rest := next.1.register keys
    (rest.1, next.2 :: rest.2)

def Registry.dropEntry (r : Registry) (entry : Entry) :
    Registry :=
  let gates := r.gates.modify entry.gate (Gate.refer (· - 1))
  match gates[entry.gate]? with
  | some { references := 0, .. } =>
    { gates := gates, registry := Function.update r.registry entry.key none }
  | _ => { r with gates := gates }

/- Whether somebody has acquired the lock of an entry. -/
def Registry.isLocked (r : Registry) (gate : Nat) : Bool := r.gates[gate]?.any Gate.locked

def Registry.setLock (r : Registry) (gate : Nat) (locked : Bool) : Registry :=
  { r with gates := r.gates.modify gate (Gate.lock locked) }

----
-- Threads
----

/- Where a thread is in `local_status_identity_slot`. -/
inductive Stage where
| out
| acquiring
| inside
| leaving
deriving DecidableEq

/- Where it is in `local_status_capacity_slot`; a waiter is
   named by the number of arrivals before it. -/
inductive Capacity where
| out
| waiting (waiter : Nat)
| holding
deriving DecidableEq

/- A thread, with the locals `entries` and `acquired` of the identity slot. -/
structure Thread where
  stage : Stage := .out
  entries : List Entry := []
  acquired : List Entry := []
  capacity : Capacity := .out

def Thread.next? (thread : Thread) : Option Entry :=
  if thread.stage = .acquiring then thread.entries[thread.acquired.length]?
  else none

structure Gates where
  registry : Registry := {}
  active : Nat := 0
  limit : Nat := 1
  waiters : List Nat := []
  arrivals : Nat := 0
  threads : List Thread := []

/- `_normalize_local_status_concurrency` of a number, or of a text that is none. -/
def normalizeConcurrency (value : Option Int) : Nat := (max 1 (min (value.getD 1) 10)).toNat

/- What can happen next; a flag says whether `stop_check` raises. The identity slot is entered
   first, and the capacity slot inside of it or alone. -/
inductive GateOp where
| spawn
| enter (t account_id : Nat) (signature : String)
| acquire (t : Nat) (stop : Bool)
| leave (t : Nat)
| release (t : Nat)
| queue (t : Nat)
| wake (t : Nat) (stop : Bool)
| give (t : Nat)
| configure (value : Option Int)

def Gates.setThread (s : Gates) (t : Nat) (thread : Thread) : Gates :=
  { s with threads := s.threads.set t thread }

def enterSlot (s : Gates) (t : Nat) (thread : Thread) (keys : List String) : Gates :=
  if thread.stage = .out ∧ thread.capacity = .out then
    let registered := s.registry.register keys
    { s with registry := registered.1 }.setThread t
      { thread with stage := .acquiring, entries := registered.2, acquired := [] }
  else s

/- `gate.acquire` of the next lock, until all are acquired; then the body begins. -/
def acquireGate (s : Gates) (t : Nat) (thread : Thread) (stop : Bool) :
    Gates :=
  if thread.stage = .acquiring then
    match thread.next? with
    | none => s.setThread t { thread with stage := if stop then .leaving else .inside }
    | some entry =>
      if s.registry.isLocked entry.gate then
        if stop then s.setThread t { thread with stage := .leaving }
        else s
      else
        { s with
          registry := s.registry.setLock entry.gate true
        }.setThread t { thread with acquired := thread.acquired ++ [entry] }
  else s

/- The end of the body, by an exception or not. -/
def leaveSlot (s : Gates) (t : Nat) (thread : Thread) : Gates :=
  if thread.stage = .inside ∧ thread.capacity = .out then
    s.setThread t { thread with stage := .leaving }
  else s

/- The `finally` block: the locks in reversed order, then the references. -/
def releaseGate (s : Gates) (t : Nat) (thread : Thread) : Gates :=
  if thread.stage = .leaving then
    match thread.acquired.getLast? with
    | some entry =>
      { s with
        registry := s.registry.setLock entry.gate false
      }.setThread t { thread with acquired := thread.acquired.dropLast }
    | none =>
      { s with
        registry := thread.entries.foldl Registry.dropEntry s.registry
      }.setThread t {}
  else s

def queueWaiter (s : Gates) (t : Nat) (thread : Thread) : Gates :=
  if (thread.stage = .out ∨ thread.stage = .inside) ∧ thread.capacity = .out then
    { s with
      waiters := s.waiters ++ [s.arrivals]
      arrivals := s.arrivals + 1
    }.setThread t { thread with capacity := .waiting s.arrivals }
  else s

/- One turn of the loop of the capacity slot, with the number of the waiter if it is granted. -/
def wakeWaiter (s : Gates) (t : Nat) (thread : Thread) (stop : Bool) :
    Gates × Option Nat :=
  match thread.capacity with
  | .waiting waiter =>
    if stop then
      ({ s with waiters := s.waiters.erase waiter
        }.setThread t { thread with capacity := .out },
        none)
    else if s.waiters.head? = some waiter ∧ s.active < s.limit then
      ({ s with
         waiters := s.waiters.tail
         active := s.active + 1
        }.setThread t { thread with capacity := .holding },
        some waiter)
    else (s, none)
  | _ => (s, none)

/- The `finally` block of the capacity slot. -/
def giveSlot (s : Gates) (t : Nat) (thread : Thread) : Gates :=
  if thread.capacity = .holding then
    { s with active := s.active - 1 }.setThread t { thread with capacity := .out }
  else s

def onThread (s : Gates) (t : Nat) (f : Thread → Gates) :
    Gates × Option Nat :=
  match s.threads[t]? with
  | none => (s, none)
  | some thread => (f thread, none)

/- One step; it answers with the waiter that it grants. -/
def gateStep (s : Gates) : GateOp → Gates × Option Nat
| .spawn => ({ s with threads := s.threads ++ [{}] }, none)
| .enter t account_id signature => onThread s t fun thread =>
      enterSlot s t thread (identityKeys account_id signature)
| .acquire t stop => onThread s t fun thread => acquireGate s t thread stop
| .leave t => onThread s t fun thread => leaveSlot s t thread
| .release t => onThread s t fun thread => releaseGate s t thread
| .queue t => onThread s t fun thread => queueWaiter s t thread
| .wake t stop =>
    match s.threads[t]? with
    | none => (s, none)
    | some thread => wakeWaiter s t thread stop
| .give t => onThread s t fun thread => giveSlot s t thread
| .configure value => ({ s with limit := normalizeConcurrency value }, none)

abbrev gatesAfter (ops : List GateOp) : Gates := Machine.run gateStep {} ops

----
-- Who Waits For Whom
----

def HoldsGate (s : Gates) (t : Nat) (key : String) : Prop :=
  ∃ thread, s.threads[t]? = some thread ∧ ∃ entry ∈ thread.acquired, entry.key = key

/- A thread waits in the line for capacity. -/
def Waits (s : Gates) (t waiter : Nat) : Prop :=
  ∃ thread, s.threads[t]? = some thread ∧ thread.capacity = .waiting waiter

def holders (s : Gates) : Nat := s.threads.countP fun thread => decide (thread.capacity = .holding)

/- A thread cannot go on before somebody else does: the lock that it acquires next is locked, or it
   is not its turn in the line, or there is no slot. -/
def Blocked (s : Gates) (t : Nat) : Prop := ∃ thread, s.threads[t]? = some thread ∧
    ((∃ entry, thread.next? = some entry ∧ s.registry.isLocked entry.gate) ∨
      ∃ waiter, thread.capacity = .waiting waiter ∧
        ¬ (s.waiters.head? = some waiter ∧ s.active < s.limit))

/- A blocked thread waits for another one: for the holder of the lock, for those before it in the
   line, or for those that hold a slot. -/
def WaitsFor (s : Gates) (t u : Nat) : Prop := ∃ thread other, s.threads[t]? = some thread ∧
    s.threads[u]? = some other ∧
    ((∃ entry, thread.next? = some entry ∧ s.registry.isLocked entry.gate ∧
        ∃ held ∈ other.acquired, held.gate = entry.gate) ∨
      ∃ waiter, thread.capacity = .waiting waiter ∧
        ((∃ before < waiter, other.capacity = .waiting before) ∨
          (s.limit ≤ s.active ∧ other.capacity = .holding)))

end LocalStatus
