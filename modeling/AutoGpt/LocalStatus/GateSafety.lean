import AutoGpt.LocalStatus.IdentityGates

/-
  The probe gates under all interleavings: no two threads
  hold the gate of one key, the capacity counter is right,
  slots are granted in order of arrival within the limit, and
  no threads wait for each other in a circle.

  Main theorems:
    * `LocalStatus.gates_hold`
-/

open List
open Option

----
-- The Line
----

namespace LocalStatus

/- The counter counts the holders, and the line has the waiting threads in the order of their
   arrival. -/
structure Line (active limit : Nat) (waiters : List Nat) (arrivals : Nat)
    (caps : List Capacity) : Prop where
  active_eq : active = caps.countP fun capacity => decide (capacity = .holding)
  limit_pos : 1 ≤ limit
  listed : ∀ waiter, waiter ∈ waiters ↔ ∃ t : Nat, caps[t]? = some (.waiting waiter)
  alone : ∀ (t u : Nat) (waiter : Nat), caps[t]? = some (.waiting waiter) →
      caps[u]? = some (.waiting waiter) → t = u
  sorted : waiters.Pairwise (· < ·)
  fresh : ∀ waiter ∈ waiters, waiter < arrivals

theorem getElem?_set_cases {α : Type} {l : List α} {t u : Nat} {old next found : α}
    (hOld : l[t]? = some old) (hFound : (l.set t next)[u]? = some found) :
    (u = t ∧ found = next) ∨ (u ≠ t ∧ l[u]? = some found) := by
  have hLt := (List.getElem?_eq_some_iff.mp hOld).1
  by_cases hSame : t = u
  · rw [← hSame, List.getElem?_set_self hLt] at hFound
    exact .inl ⟨hSame.symm, (some.inj hFound).symm⟩
  · rw [List.getElem?_set_ne hSame] at hFound
    exact .inr ⟨Ne.symm hSame, hFound⟩

variable {caps : List Capacity}

theorem countP_set_add {t : Nat} {old : Capacity} (next : Capacity) (hOld : caps[t]? = some old) :
    (caps.set t next).countP (fun c => decide (c = .holding)) + (if old = .holding then 1 else 0) =
      caps.countP (fun c => decide (c = .holding)) + (if next = .holding then 1 else 0) := by
  induction caps generalizing t with
  | nil => cases hOld
  | cons c caps ih =>
      cases t with
      | zero =>
          rw [getElem?_cons_zero] at hOld
          rw [some.inj hOld, set_cons_zero, countP_cons, countP_cons]
          simp only [decide_eq_true_eq]
          omega
      | succ t =>
          rw [getElem?_cons_succ] at hOld
          have hTail := ih hOld
          rw [List.set_cons_succ, List.countP_cons, countP_cons]
          omega

/- A thread that is outside joins the line at its end. -/
theorem Line.queue {t : Nat} (hLine : Line active limit waiters arrivals caps)
    (hOut : caps[t]? = some .out) :
    Line active limit (waiters ++ [arrivals]) (arrivals + 1) (caps.set t (.waiting arrivals)) := by
  have hLt := (List.getElem?_eq_some_iff.mp hOut).1
  have hNew : arrivals ∉ waiters := by
    intro hMem
    have hFresh := hLine.fresh _ hMem
    omega
  constructor
  · have hCount := countP_set_add (.waiting arrivals) hOut
    have hActive := hLine.active_eq
    simp only [reduceCtorEq, if_false] at hCount
    omega
  · exact hLine.limit_pos
  · intro waiter
    rw [mem_append, mem_singleton, hLine.listed]
    constructor
    · rintro (⟨u, hU⟩ | hIs)
      · refine ⟨u, ?_⟩
        have hNe : t ≠ u := by
          intro hSame
          rw [← hSame, hOut] at hU
          cases hU
        rw [getElem?_set_ne hNe]
        exact hU
      · rw [hIs]
        exact ⟨t, getElem?_set_self hLt⟩
    · rintro ⟨u, hU⟩
      rcases getElem?_set_cases hOut hU with ⟨_, hIs⟩ | ⟨_, hOld⟩
      · right
        exact Capacity.waiting.inj hIs
      · exact .inl ⟨u, hOld⟩
  · have hOld : ∀ u : Nat, caps[u]? ≠ some (.waiting arrivals) := by
      intro u hU
      exact hNew ((hLine.listed arrivals).mpr ⟨u, hU⟩)
    intro u v waiter hU hV
    rcases getElem?_set_cases hOut hU with ⟨hIsU, hWaiterU⟩ | ⟨_, hOldU⟩
    · rcases getElem?_set_cases hOut hV with
        ⟨hIsV, _⟩ | ⟨_, hOldV⟩
      · rw [hIsU, hIsV]
      · rw [hWaiterU] at hOldV
        exact absurd hOldV (hOld v)
    · rcases getElem?_set_cases hOut hV with
        ⟨_, hWaiterV⟩ | ⟨_, hOldV⟩
      · rw [hWaiterV] at hOldU
        exact absurd hOldU (hOld u)
      · exact hLine.alone u v waiter hOldU hOldV
  · rw [pairwise_append]
    refine ⟨hLine.sorted, pairwise_singleton _ _, ?_⟩
    intro waiter hMem other hOther
    rw [mem_singleton.mp hOther]
    exact hLine.fresh waiter hMem
  · intro waiter hMem
    rcases mem_append.mp hMem with hOld | hIs
    · have hFresh := hLine.fresh waiter hOld
      omega
    · rw [mem_singleton.mp hIs]
      omega

/- A waiting thread gets out of the line, to go on or not. -/
theorem Line.remove {t waiter : Nat} (next : Capacity)
    (hLine : Line active limit waiters arrivals caps) (hWaits : caps[t]? = some (.waiting waiter))
    (hNext : ∀ other, next ≠ .waiting other) :
    Line (active + if next = .holding then 1 else 0) limit
      (waiters.erase waiter) arrivals (caps.set t next) := by
  have hNodup : waiters.Nodup := hLine.sorted.imp fun hLt => ne_of_lt hLt
  constructor
  · have hCount := countP_set_add next hWaits
    have hActive := hLine.active_eq
    simp only [reduceCtorEq, if_false] at hCount
    omega
  · exact hLine.limit_pos
  · intro other
    rw [hNodup.mem_erase_iff, hLine.listed]
    constructor
    · rintro ⟨hNe, u, hU⟩
      refine ⟨u, ?_⟩
      have hNeT : t ≠ u := by
        intro hSame
        rw [← hSame, hWaits] at hU
        exact hNe (Capacity.waiting.inj (some.inj hU)).symm
      rw [getElem?_set_ne hNeT]
      exact hU
    · rintro ⟨u, hU⟩
      rcases getElem?_set_cases hWaits hU with ⟨_, hIs⟩ | ⟨hNe, hOld⟩
      · exact absurd hIs.symm (hNext other)
      · refine ⟨?_, u, hOld⟩
        intro hSame
        rw [hSame] at hOld
        exact hNe (hLine.alone u t waiter hOld hWaits)
  · intro u v other hU hV
    rcases getElem?_set_cases hWaits hU with ⟨_, hIs⟩ | ⟨_, hOldU⟩
    · exact absurd hIs.symm (hNext other)
    · rcases getElem?_set_cases hWaits hV with
        ⟨_, hIs⟩ | ⟨_, hOldV⟩
      · exact absurd hIs.symm (hNext other)
      · exact hLine.alone u v other hOldU hOldV
  · exact hLine.sorted.sublist erase_sublist
  · intro other hMem
    exact hLine.fresh other (mem_of_mem_erase hMem)

theorem Line.give {t : Nat} (hLine : Line active limit waiters arrivals caps)
    (hHolds : caps[t]? = some .holding) :
    Line (active - 1) limit waiters arrivals (caps.set t .out) := by
  have hNoWaiter : ∀ (u waiter : Nat), (caps.set t Capacity.out)[u]? = some (.waiting waiter) ↔
          caps[u]? = some (.waiting waiter) := by
    intro u waiter
    by_cases hSame : t = u
    · have hLt := (List.getElem?_eq_some_iff.mp hHolds).1
      rw [← hSame, getElem?_set_self hLt, hHolds]
      constructor <;> intro hFalse <;> cases hFalse
    · rw [getElem?_set_ne hSame]
  constructor
  · have hCount := countP_set_add .out hHolds
    have hActive := hLine.active_eq
    simp only [reduceCtorEq, if_false, if_true] at hCount
    omega
  · exact hLine.limit_pos
  · intro waiter
    rw [hLine.listed]
    constructor
    · rintro ⟨u, hU⟩
      exact ⟨u, (hNoWaiter u waiter).mpr hU⟩
    · rintro ⟨u, hU⟩
      exact ⟨u, (hNoWaiter u waiter).mp hU⟩
  · intro u v waiter hU hV
    exact hLine.alone u v waiter ((hNoWaiter u waiter).mp hU) ((hNoWaiter v waiter).mp hV)
  · exact hLine.sorted
  · exact hLine.fresh

theorem Line.spawn (hLine : Line active limit waiters arrivals caps) :
    Line active limit waiters arrivals (caps ++ [Capacity.out]) := by
  have hSame : ∀ (u waiter : Nat), (caps ++ [Capacity.out])[u]? = some (.waiting waiter) ↔
          caps[u]? = some (.waiting waiter) := by
    intro u waiter
    rw [getElem?_append]
    split
    · exact Iff.rfl
    · next hNot =>
        rw [getElem?_eq_none (l := caps) (by omega)]
        constructor
        · intro hFound
          have hIs := mem_singleton.mp (mem_of_getElem? hFound)
          cases hIs
        · intro hFalse
          cases hFalse
  constructor
  · rw [countP_append]
    exact hLine.active_eq
  · exact hLine.limit_pos
  · intro waiter
    rw [hLine.listed]
    constructor
    · rintro ⟨u, hU⟩
      exact ⟨u, (hSame u waiter).mpr hU⟩
    · rintro ⟨u, hU⟩
      exact ⟨u, (hSame u waiter).mp hU⟩
  · intro u v waiter hU hV
    exact hLine.alone u v waiter ((hSame u waiter).mp hU) ((hSame v waiter).mp hV)
  · exact hLine.sorted
  · exact hLine.fresh

theorem Line.configure (value : Option Int) (hLine : Line active limit waiters arrivals caps) :
    Line active (normalizeConcurrency value) waiters arrivals caps where
  active_eq := hLine.active_eq
  limit_pos := by
    unfold normalizeConcurrency
    omega
  listed := hLine.listed
  alone := hLine.alone
  sorted := hLine.sorted
  fresh := hLine.fresh

----
-- Invariants
----

/- The capacity slot is used inside the identity slot or
   without it, and outside of it a thread has no entries. -/
structure Thread.Shape (thread : Thread) : Prop where
  out : thread.stage = .out → thread.entries = [] ∧ thread.acquired = []
  capacity : thread.capacity ≠ .out → thread.stage = .out ∨ thread.stage = .inside

structure GateSound (s : Gates) : Prop where
  identity : Identity s.registry (s.threads.map Thread.slot)
  line : Line s.active s.limit s.waiters s.arrivals (s.threads.map Thread.capacity)
  shape : ∀ thread ∈ s.threads, thread.Shape

variable {s : Gates} {t : Nat} {thread next : Thread}

theorem set_eq_self {α : Type} {l : List α} {a : α} (hFound : l[t]? = some a) : l.set t a = l := by
  apply ext_getElem?
  intro u
  by_cases hSame : t = u
  · have hLt := (List.getElem?_eq_some_iff.mp hFound).1
    rw [← hSame, getElem?_set_self hLt, hFound]
  · rw [getElem?_set_ne hSame]

theorem GateSound.shape_set (hSound : GateSound s) (hShape : next.Shape) :
    ∀ other ∈ s.threads.set t next, other.Shape := by
  intro other hMem
  rcases mem_or_eq_of_mem_set hMem with hOld | hIs
  · exact hSound.shape other hOld
  · rw [hIs]
    exact hShape

theorem GateSound.slot_at (hThread : s.threads[t]? = some thread) :
    (s.threads.map Thread.slot)[t]? = some thread.slot := by
  rw [getElem?_map, hThread]
  rfl

theorem GateSound.capacity_at (hThread : s.threads[t]? = some thread) :
    (s.threads.map Thread.capacity)[t]? = some thread.capacity := by
  rw [getElem?_map, hThread]
  rfl

theorem GateSound.identity_step (registry : Registry) (next : Thread) (hSound : GateSound s)
    (hThread : s.threads[t]? = some thread)
    (hIdentity : Identity registry ((s.threads.map Thread.slot).set t next.slot))
    (hCapacity : next.capacity = thread.capacity) (hShape : next.Shape) :
    GateSound ({ s with registry := registry }.setThread t next) where
  identity := by
    show Identity registry ((s.threads.set t next).map _)
    rw [map_set]
    exact hIdentity
  line := by
    show Line _ _ _ _ ((s.threads.set t next).map _)
    rw [map_set, hCapacity, set_eq_self (GateSound.capacity_at hThread)]
    exact hSound.line
  shape := hSound.shape_set hShape

theorem GateSound.line_step (next : Thread) (hSound : GateSound s)
    (hThread : s.threads[t]? = some thread) (hLine :
      Line active s.limit waiters arrivals ((s.threads.map Thread.capacity).set t next.capacity))
    (hSlot : next.slot = thread.slot) (hShape : next.Shape) :
    GateSound
      ({ s with active := active, waiters := waiters, arrivals := arrivals }.setThread t next) where
  identity := by
    show Identity _ ((s.threads.set t next).map _)
    rw [map_set, hSlot, set_eq_self (GateSound.slot_at hThread)]
    exact hSound.identity
  line := by
    show Line _ _ _ _ ((s.threads.set t next).map _)
    rw [map_set]
    exact hLine
  shape := hSound.shape_set hShape

theorem identityKeys_sorted (account_id : Nat) (signature : String) :
    (identityKeys account_id signature).Pairwise (· < ·) := by
  have hSorted : (identityKeys account_id signature).Pairwise (· ≤ ·) := pairwise_insertionSort _ _
  have hNodup : (identityKeys account_id signature).Nodup := by
    apply (perm_insertionSort _ _).nodup_iff.mpr
    have hApart : ∀ a b : String, "account:" ++ a ≠ "fingerprint:" ++ b := by
      intro a b hSame
      have hChars := congrArg String.toList hSame
      rw [String.toList_append, String.toList_append] at hChars
      simp at hChars
    by_cases hId : 0 < account_id
    · rw [if_pos hId]
      apply nodup_cons.mpr
      refine ⟨?_, nodup_singleton _⟩
      intro hMem
      have hSame := mem_singleton.mp hMem
      by_cases hEmpty : signature = ""
      · rw [if_pos hEmpty] at hSame
        exact hApart _ "legacy_default" hSame
      · rw [if_neg hEmpty] at hSame
        exact hApart _ _ hSame
    · rw [if_neg hId]
      exact nodup_singleton _
  apply (hSorted.and hNodup).imp
  intro a b hBoth
  exact lt_of_le_of_ne hBoth.1 hBoth.2

----
-- Steps
----

theorem enterSlot_sound (hSound : GateSound s) (hThread : s.threads[t]? = some thread) :
    GateSound (enterSlot s t thread (identityKeys account_id signature)) := by
  unfold enterSlot
  split
  · next hOut =>
      have hShape := hSound.shape _ (mem_of_getElem? hThread)
      have hNone := hShape.out hOut.1
      apply hSound.identity_step _ _ hThread
      · exact hSound.identity.register (GateSound.slot_at hThread)
            hNone.1 hNone.2 (identityKeys_sorted _ _)
      · rfl
      · constructor
        · intro hStage
          cases hStage
        · intro hCapacity
          exact absurd hOut.2 hCapacity
  · exact hSound

theorem GateSound.move {stage : Stage} (hSound : GateSound s)
    (hThread : s.threads[t]? = some thread) (hStage : stage ≠ .out)
    (hCapacity : thread.capacity = .out) :
    GateSound (s.setThread t { thread with stage := stage }) := by
  apply hSound.identity_step s.registry { thread with stage := stage } hThread
  · show Identity _ ((s.threads.map Thread.slot).set t thread.slot)
    rw [set_eq_self (GateSound.slot_at hThread)]
    exact hSound.identity
  · rfl
  · constructor
    · intro hOut
      exact absurd hOut hStage
    · intro hNot
      exact absurd hCapacity hNot

theorem GateSound.capacity_out (hSound : GateSound s) (hThread : s.threads[t]? = some thread)
    (hOut : thread.stage ≠ .out) (hInside : thread.stage ≠ .inside) : thread.capacity = .out := by
  by_cases hCapacity : thread.capacity = .out
  · exact hCapacity
  · have hShape := hSound.shape _ (mem_of_getElem? hThread)
    rcases hShape.capacity hCapacity with hIs | hIs
    · exact absurd hIs hOut
    · exact absurd hIs hInside

theorem acquireGate_sound (hSound : GateSound s)
    (hThread : s.threads[t]? = some thread) : GateSound (acquireGate s t thread stop) := by
  unfold acquireGate
  split
  · next hStage =>
      have hCapacity : thread.capacity = .out := by
        apply hSound.capacity_out hThread
        · rw [hStage]
          nofun
        · rw [hStage]
          nofun
      split
      · apply hSound.move hThread
        · cases stop <;> nofun
        · exact hCapacity
      · next entry hNext =>
          rw [Thread.next?, if_pos hStage] at hNext
          split
          · split
            · apply hSound.move hThread
              · nofun
              · exact hCapacity
            · exact hSound
          · next hFree =>
              apply hSound.identity_step _ { thread with acquired := thread.acquired ++ [entry] }
                  hThread
              · exact hSound.identity.acquire (GateSound.slot_at hThread) hNext
                    (by simpa using hFree)
              · rfl
              · constructor
                · intro hOut
                  rw [hStage] at hOut
                  cases hOut
                · intro hNot
                  exact absurd hCapacity hNot
  · exact hSound

theorem leaveSlot_sound (hSound : GateSound s) (hThread : s.threads[t]? = some thread) :
    GateSound (leaveSlot s t thread) := by
  unfold leaveSlot
  split
  · next hInside =>
      apply hSound.move hThread
      · nofun
      · exact hInside.2
  · exact hSound

theorem releaseGate_sound (hSound : GateSound s) (hThread : s.threads[t]? = some thread) :
    GateSound (releaseGate s t thread) := by
  unfold releaseGate
  split
  · next hStage =>
      have hCapacity : thread.capacity = .out := by
        apply hSound.capacity_out hThread
        · rw [hStage]
          nofun
        · rw [hStage]
          nofun
      split
      · next entry hLast =>
          apply hSound.identity_step _ { thread with acquired := thread.acquired.dropLast } hThread
          · exact hSound.identity.release (GateSound.slot_at hThread) hLast
          · rfl
          · constructor
            · intro hOut
              rw [hStage] at hOut
              cases hOut
            · intro hNot
              exact absurd hCapacity hNot
      · next hNone =>
          apply hSound.identity_step _ {} hThread
          · exact hSound.identity.unregister (GateSound.slot_at hThread)
                (getLast?_eq_none_iff.mp hNone)
          · exact hCapacity.symm
          · constructor
            · intro _
              exact ⟨rfl, rfl⟩
            · intro hNot
              exact absurd rfl hNot
  · exact hSound

theorem Thread.Shape.capacity_step {capacity : Capacity} (hShape : thread.Shape)
    (hStage : thread.stage = .out ∨ thread.stage = .inside) :
    ({ thread with capacity := capacity } : Thread).Shape where
  out := hShape.out
  capacity := fun _ => hStage

theorem queueWaiter_sound (hSound : GateSound s) (hThread : s.threads[t]? = some thread) :
    GateSound (queueWaiter s t thread) := by
  unfold queueWaiter
  split
  · next hOut =>
      have hShape := hSound.shape _ (mem_of_getElem? hThread)
      have hAt := GateSound.capacity_at hThread
      rw [hOut.2] at hAt
      exact hSound.line_step { thread with capacity := .waiting s.arrivals }
          hThread (hSound.line.queue hAt) rfl (hShape.capacity_step hOut.1)
  · exact hSound

theorem wakeWaiter_sound {stop : Bool} (hSound : GateSound s)
    (hThread : s.threads[t]? = some thread) : GateSound (wakeWaiter s t thread stop).1 := by
  have hShape := hSound.shape _ (mem_of_getElem? hThread)
  have hAt := GateSound.capacity_at hThread
  unfold wakeWaiter
  split
  · next waiter hWaits =>
      have hStage := hShape.capacity (by rw [hWaits]; nofun)
      rw [hWaits] at hAt
      split
      · have hLine := hSound.line.remove .out hAt nofun
        exact hSound.line_step { thread with capacity := .out } hThread
            hLine rfl (hShape.capacity_step hStage)
      · split
        · next hTurn =>
            have hLine := hSound.line.remove .holding hAt nofun
            have hTail : s.waiters.erase waiter = s.waiters.tail := by
              cases hList : s.waiters with
              | nil =>
                  rw [hList] at hTurn
                  cases hTurn.1
              | cons first rest =>
                  rw [hList] at hTurn
                  rw [← some.inj hTurn.1]
                  exact erase_cons_head _ _
            rw [hTail] at hLine
            exact hSound.line_step { thread with capacity := .holding }
                hThread hLine rfl (hShape.capacity_step hStage)
        · exact hSound
  · exact hSound

theorem giveSlot_sound (hSound : GateSound s) (hThread : s.threads[t]? = some thread) :
    GateSound (giveSlot s t thread) := by
  unfold giveSlot
  split
  · next hHolds =>
      have hShape := hSound.shape _ (mem_of_getElem? hThread)
      have hAt := GateSound.capacity_at hThread
      have hStage := hShape.capacity (by rw [hHolds]; nofun)
      rw [hHolds] at hAt
      exact hSound.line_step { thread with capacity := .out } hThread (hSound.line.give hAt) rfl
          (hShape.capacity_step hStage)
  · exact hSound

theorem onThread_sound (hSound : GateSound s)
    (hStep : ∀ thread, s.threads[t]? = some thread → GateSound (f thread)) :
    GateSound (onThread s t f).1 := by
  unfold onThread
  cases hThread : s.threads[t]? with
  | none => exact hSound
  | some thread => exact hStep thread hThread

/- The step lemma. -/
theorem gateStep_sound (s : Gates) (op : GateOp) (hSound : GateSound s) :
    GateSound (gateStep s op).1 := by
  cases op with
  | spawn =>
      constructor
      · show Identity _ ((s.threads ++ [({} : Thread)]).map _)
        rw [map_append]
        exact hSound.identity.spawn
      · show Line _ _ _ _ ((s.threads ++ [({} : Thread)]).map _)
        rw [map_append]
        exact hSound.line.spawn
      · intro thread hMem
        rcases mem_append.mp hMem with hOld | hNew
        · exact hSound.shape thread hOld
        · rw [mem_singleton.mp hNew]
          exact ⟨fun _ => ⟨rfl, rfl⟩, fun hNot => absurd rfl hNot⟩
  | enter t account_id signature =>
      exact onThread_sound hSound fun _ hThread => enterSlot_sound hSound hThread
  | acquire t stop => exact onThread_sound hSound fun _ hThread => acquireGate_sound hSound hThread
  | leave t => exact onThread_sound hSound fun _ hThread => leaveSlot_sound hSound hThread
  | release t => exact onThread_sound hSound fun _ hThread => releaseGate_sound hSound hThread
  | queue t => exact onThread_sound hSound fun _ hThread => queueWaiter_sound hSound hThread
  | wake t stop =>
      simp only [gateStep]
      cases hThread : s.threads[t]? with
      | none => exact hSound
      | some thread => exact wakeWaiter_sound hSound hThread
  | give t => exact onThread_sound hSound fun _ hThread => giveSlot_sound hSound hThread
  | configure value =>
      exact
        { identity := hSound.identity, line := hSound.line.configure value, shape := hSound.shape }

theorem gatesAfter_sound (ops : List GateOp) : GateSound (gatesAfter ops) := by
  apply Machine.run_induction gateStep_sound
  constructor
  · constructor
    · constructor
      · intro e hMem
        cases hMem
      · intro k k' gate hK
        cases hK
      · intro k gate hK
        cases hK
    · intro slot hMem
      cases hMem
    · intro gate hLocked
      cases hLocked
    · intro slot hMem
      cases hMem
    · intro t u a b hA
      cases hA
  · constructor
    · rfl
    · exact Nat.le_refl 1
    · intro waiter
      constructor
      · intro hMem
        cases hMem
      · rintro ⟨u, hU⟩
        cases hU
    · intro t u waiter hT
      cases hT
    · exact List.Pairwise.nil
    · intro waiter hMem
      cases hMem
  · intro thread hMem
    cases hMem

----
-- Waiting
----

/- Where a thread is on its way: before the gate of a key, in the line, or on its own. -/
inductive Rank where
| gate (key : String)
| queued (waiter : Nat)
| running

/- Later on the way; those before in the line are later. -/
def Rank.before : Rank → Rank → Prop
| .gate key, .gate key' => key < key'
| .gate _, _ => True
| .queued waiter, .queued waiter' => waiter' < waiter
| .queued _, .running => True
| _, _ => False

theorem Rank.before_irrefl (a : Rank) : ¬ a.before a := by
  cases a with
  | gate key => exact lt_irrefl key
  | queued waiter => exact Nat.lt_irrefl waiter
  | running => exact id

theorem Rank.before_trans {a b c : Rank} (hAB : a.before b) (hBC : b.before c) : a.before c := by
  cases a with
  | gate key =>
      cases b with
      | gate key' =>
          cases c with
          | gate key'' => exact lt_trans hAB hBC
          | queued waiter => exact trivial
          | running => exact trivial
      | queued waiter =>
          cases c with
          | gate key'' => exact hBC.elim
          | queued waiter' => exact trivial
          | running => exact trivial
      | running => exact hBC.elim
  | queued waiter =>
      cases b with
      | gate key' => exact hAB.elim
      | queued waiter' =>
          cases c with
          | gate key'' => exact hBC.elim
          | queued waiter'' => exact Nat.lt_trans hBC hAB
          | running => exact trivial
      | running => exact hBC.elim
  | running => exact hAB.elim

def Thread.rank (thread : Thread) : Rank :=
  match thread.next? with
  | some entry => .gate entry.key
  | none =>
      match thread.capacity with
      | .waiting waiter => .queued waiter
      | _ => .running

def Gates.rank (s : Gates) (t : Nat) : Rank :=
  match s.threads[t]? with
  | none => .running
  | some thread => thread.rank

theorem GateSound.next_none (hSound : GateSound s) (hThread : s.threads[t]? = some thread)
    (hCapacity : thread.capacity ≠ .out) : thread.next? = none := by
  have hShape := hSound.shape _ (mem_of_getElem? hThread)
  unfold Thread.next?
  rw [if_neg]
  intro hStage
  rcases hShape.capacity hCapacity with hOut | hInside
  · rw [hStage] at hOut
    cases hOut
  · rw [hStage] at hInside
    cases hInside

theorem GateSound.key_lt_next (hSound : GateSound s)
    (hThread : s.threads[t]? = some thread) (hHeld : held ∈ thread.acquired)
    (hNext : thread.next? = some entry) : held.key < entry.key := by
  have hOrdered := hSound.identity.ordered thread.slot (mem_of_getElem? (GateSound.slot_at hThread))
  have hAt : thread.entries[thread.acquired.length]? = some entry := by
    unfold Thread.next? at hNext
    split at hNext
    · exact hNext
    · cases hNext
  rcases hOrdered.first with ⟨rest, hRest⟩
  have hSplit : thread.acquired ++ rest = thread.entries := hRest
  have hKeys := hOrdered.keys
  rw [← hRest, pairwise_append] at hKeys
  apply hKeys.2.2 held hHeld entry
  rw [← hSplit, getElem?_append_right (by omega)] at hAt
  exact mem_of_getElem? hAt

/- Whoever is waited for is further on the way. -/
theorem WaitsFor.rank_before {u : Nat} (hSound : GateSound s) (hWaits : WaitsFor s t u) :
    (s.rank t).before (s.rank u) := by
  rcases hWaits with ⟨thread, other, hThread, hOther, hWhy⟩
  simp only [Gates.rank, hThread, hOther]
  rcases hWhy with ⟨entry, hNext, _, held, hHeld, hGate⟩ | ⟨waiter, hWaiting, hLine⟩
  · have hMem := mem_of_getElem? (GateSound.slot_at hThread)
    have hMemO := mem_of_getElem? (GateSound.slot_at hOther)
    have hEntry : entry ∈ thread.slot.entries := by
      unfold Thread.next? at hNext
      split at hNext
      · exact mem_of_getElem? hNext
      · cases hNext
    have hHeldIn : held ∈ other.slot.entries := (hSound.identity.ordered _ hMemO).mem hHeld
    have hKey : held.key = entry.key := hSound.identity.counts.key_eq
        (Identity.mem_users hMemO hHeldIn) (Identity.mem_users hMem hEntry) hGate
    have hRank : thread.rank = .gate entry.key := by simp only [Thread.rank, hNext]
    rw [hRank]
    cases hNextO : other.next? with
    | some entry' =>
        have hLater := hSound.key_lt_next hOther hHeld hNextO
        have hRankO : other.rank = .gate entry'.key := by simp only [Thread.rank, hNextO]
        rw [hRankO, ← hKey]
        exact hLater
    | none =>
        simp only [Thread.rank, hNextO]
        split <;> exact trivial
  · have hNone := hSound.next_none hThread (by rw [hWaiting]; nofun)
    have hRank : thread.rank = .queued waiter := by simp only [Thread.rank, hNone, hWaiting]
    rw [hRank]
    rcases hLine with ⟨before, hLt, hIs⟩ | ⟨_, hIs⟩
    · have hNoneO := hSound.next_none hOther (by rw [hIs]; nofun)
      have hRankO : other.rank = .queued before := by simp only [Thread.rank, hNoneO, hIs]
      rw [hRankO]
      exact hLt
    · have hNoneO := hSound.next_none hOther (by rw [hIs]; nofun)
      have hRankO : other.rank = .running := by simp only [Thread.rank, hNoneO, hIs]
      rw [hRankO]
      exact trivial

theorem GateSound.acyclic (hSound : GateSound s) (t : Nat) :
    ¬ Relation.TransGen (WaitsFor s) t t := by
  intro hCircle
  have hBefore : ∀ u, Relation.TransGen (WaitsFor s) t u → (s.rank t).before (s.rank u) := by
    intro u hPath
    induction hPath with
    | single hStep => exact hStep.rank_before hSound
    | tail _ hStep ih => exact Rank.before_trans ih (hStep.rank_before hSound)
  exact Rank.before_irrefl _ (hBefore t hCircle)

/- A blocked thread waits for some thread. -/
theorem GateSound.waitsFor_of_blocked (hSound : GateSound s) (hBlocked : Blocked s t) :
    ∃ u, WaitsFor s t u := by
  rcases hBlocked with ⟨thread, hThread, hWhy⟩
  rcases hWhy with ⟨entry, hNext, hLocked⟩ | ⟨waiter, hWaiting, hNot⟩
  · rcases hSound.identity.locked entry.gate hLocked with
      ⟨u, slot, hSlot, held, hHeld, hGate⟩
    rw [getElem?_map] at hSlot
    rcases map_eq_some_iff.mp hSlot with ⟨other, hOther, hIs⟩
    rw [← hIs] at hHeld
    exact ⟨u, thread, other, hThread, hOther, .inl ⟨entry, hNext, hLocked, held, hHeld, hGate⟩⟩
  · have hAt := GateSound.capacity_at hThread
    rw [hWaiting] at hAt
    have hMem : waiter ∈ s.waiters := (hSound.line.listed waiter).mpr ⟨t, hAt⟩
    cases hList : s.waiters with
    | nil =>
        rw [hList] at hMem
        cases hMem
    | cons first rest =>
        by_cases hFirst : first = waiter
        · -- its turn, but there is no slot
          have hFull : s.limit ≤ s.active := by
            have hHead : s.waiters.head? = some waiter := by
              rw [hList, hFirst]
              rfl
            have hNotLt : ¬ s.active < s.limit := fun hLt => hNot ⟨hHead, hLt⟩
            omega
          have hPos := hSound.line.limit_pos
          have hActive := hSound.line.active_eq
          have hSome : ∃ c ∈ s.threads.map Thread.capacity, c = .holding := by
            rcases countP_pos_iff.mp
                (by omega :
                  0 < (s.threads.map Thread.capacity).countP fun c => decide (c = .holding)) with
              ⟨c, hC, hIs⟩
            exact ⟨c, hC, of_decide_eq_true hIs⟩
          rcases hSome with ⟨c, hC, hHolding⟩
          rcases mem_map.mp hC with ⟨other, hOther, hIs⟩
          rcases getElem?_of_mem hOther with ⟨u, hU⟩
          exact ⟨u, thread, other, hThread, hU,
              .inr ⟨waiter, hWaiting, .inr ⟨hFull, hIs.trans hHolding⟩⟩⟩
        · -- the first one in the line is before it
          have hSorted := hSound.line.sorted
          rw [hList] at hMem hSorted
          have hTail : waiter ∈ rest := by
            rcases mem_cons.mp hMem with hIs | hTail
            · exact absurd hIs.symm hFirst
            · exact hTail
          have hLt := (pairwise_cons.mp hSorted).1 waiter hTail
          have hFirstMem : first ∈ s.waiters := by
            rw [hList]
            exact mem_cons_self
          rcases (hSound.line.listed first).mp hFirstMem with ⟨u, hU⟩
          rw [getElem?_map] at hU
          rcases map_eq_some_iff.mp hU with ⟨other, hOther, hIs⟩
          exact
            ⟨u, thread, other, hThread, hOther, .inr ⟨waiter, hWaiting, .inl ⟨first, hLt, hIs⟩⟩⟩

----
-- Promises
----

/- What the gates promise of a state: one holder for each key, a right counter, a line of all
   waiting threads in order of arrival; whoever is blocked is so by a thread that is still there,
   and there is no circle. -/
structure GatesKept (s : Gates) : Prop where
  exclusive : ∀ t u key, HoldsGate s t key → HoldsGate s u key → t = u
  counted : s.active = holders s
  arrival_order : s.waiters.Pairwise (· < ·)
  listed : ∀ waiter, waiter ∈ s.waiters ↔ ∃ t, Waits s t waiter
  blocked : ∀ t, Blocked s t → ∃ u, WaitsFor s t u
  acyclic : ∀ t, ¬ Relation.TransGen (WaitsFor s) t t

/- What they promise of a step: a slot is granted only while fewer than the limit are held, to the
   one that arrived first of all that wait; whoever waits and is not blocked gets one when it wakes
   up, and no step takes the place of another thread in the line. -/
structure GrantsInTurn (s : Gates) (op : GateOp) : Prop where
  granted : ∀ waiter, (gateStep s op).2 = some waiter →
      holders s < s.limit ∧ ∀ u other, Waits s u other → waiter ≤ other
  served :
    ∀ t waiter, Waits s t waiter → ¬ Blocked s t → (gateStep s (.wake t false)).2 = some waiter
  places :
    ∀ u waiter, Waits s u waiter → (∀ stop, op ≠ .wake u stop) → Waits (gateStep s op).1 u waiter

theorem waits_iff :
    Waits s t waiter ↔ (s.threads.map Thread.capacity)[t]? = some (.waiting waiter) := by
  rw [getElem?_map, map_eq_some_iff]
  exact Iff.rfl

theorem GateSound.kept (hSound : GateSound s) : GatesKept s := by
  refine ⟨?_, ?_, hSound.line.sorted, ?_, ?_, hSound.acyclic⟩
  · rintro t u key ⟨a, hA, e, hE, hKey⟩ ⟨b, hB, e', hE', hKey'⟩
    exact hSound.identity.exclusive (GateSound.slot_at hA)
        (GateSound.slot_at hB) hE hE' (hKey.trans hKey'.symm)
  · have hActive := hSound.line.active_eq
    rw [countP_map] at hActive
    exact hActive
  · intro waiter
    rw [hSound.line.listed]
    constructor
    · rintro ⟨t, hT⟩
      exact ⟨t, waits_iff.mpr hT⟩
    · rintro ⟨t, hT⟩
      exact ⟨t, waits_iff.mp hT⟩
  · intro t hBlocked
    exact hSound.waitsFor_of_blocked hBlocked

/- A waiting thread is still waiting after a change of another thread. -/
theorem waits_setThread {s' : Gates} (hWaits : Waits s u waiter) (hThreads : s'.threads = s.threads)
    (hNe : t ≠ u) : Waits (s'.setThread t next) u waiter := by
  rcases hWaits with ⟨thread, hThread, hIs⟩
  refine ⟨thread, ?_, hIs⟩
  show (s'.threads.set t next)[u]? = _
  rw [hThreads, getElem?_set_ne hNe]
  exact hThread

/- A step of a waiting thread other than its wake-up does nothing. -/
theorem waits_onThread {f : Thread → Gates} (hWaits : Waits s u waiter)
    (hSelf : ∀ thread, s.threads[u]? = some thread →
        thread.capacity = .waiting waiter → t = u → f thread = s)
    (hOther : ∀ thread, t ≠ u → Waits (f thread) u waiter) : Waits (onThread s t f).1 u waiter := by
  unfold onThread
  cases hThread : s.threads[t]? with
  | none => exact hWaits
  | some thread =>
      by_cases hSame : t = u
      · rcases hWaits with ⟨own, hOwn, hIs⟩
        have hOwnIs : thread = own := by
          rw [hSame, hOwn] at hThread
          exact (some.inj hThread).symm
        rw [hOwnIs]
        show Waits (f own) u waiter
        rw [hSelf own hOwn hIs hSame]
        exact ⟨own, hOwn, hIs⟩
      · exact hOther thread hSame

theorem GateSound.places (hSound : GateSound s) (hWaits : Waits s u waiter)
    (hOp : ∀ stop, op ≠ .wake u stop) : Waits (gateStep s op).1 u waiter := by
  -- a waiting thread is at no gate
  have hStage : ∀ thread, s.threads[u]? = some thread → thread.capacity = .waiting waiter →
          thread.stage ≠ .acquiring ∧ thread.stage ≠ .leaving := by
    intro thread hThread hIs
    have hShape := hSound.shape _ (mem_of_getElem? hThread)
    rcases hShape.capacity (by rw [hIs]; nofun) with hOut | hInside
    · rw [hOut]
      exact ⟨nofun, nofun⟩
    · rw [hInside]
      exact ⟨nofun, nofun⟩
  cases op with
  | spawn =>
      rcases hWaits with ⟨thread, hThread, hIs⟩
      have hLt := (List.getElem?_eq_some_iff.mp hThread).1
      refine ⟨thread, ?_, hIs⟩
      show (s.threads ++ [({} : Thread)])[u]? = _
      rw [getElem?_append_left hLt]
      exact hThread
  | enter t account_id signature =>
      apply waits_onThread hWaits
      · intro thread _ hIs _
        unfold enterSlot
        rw [if_neg]
        rintro ⟨_, hOut⟩
        rw [hIs] at hOut
        cases hOut
      · intro thread hNe
        unfold enterSlot
        split
        · exact waits_setThread hWaits rfl hNe
        · exact hWaits
  | acquire t stop =>
      apply waits_onThread hWaits
      · intro thread hThread hIs _
        unfold acquireGate
        rw [if_neg (hStage thread hThread hIs).1]
      · intro thread hNe
        unfold acquireGate
        split
        · split
          · exact waits_setThread hWaits rfl hNe
          · split
            · split
              · exact waits_setThread hWaits rfl hNe
              · exact hWaits
            · exact waits_setThread hWaits rfl hNe
        · exact hWaits
  | leave t =>
      apply waits_onThread hWaits
      · intro thread _ hIs _
        unfold leaveSlot
        rw [if_neg]
        rintro ⟨_, hOut⟩
        rw [hIs] at hOut
        cases hOut
      · intro thread hNe
        unfold leaveSlot
        split
        · exact waits_setThread hWaits rfl hNe
        · exact hWaits
  | release t =>
      apply waits_onThread hWaits
      · intro thread hThread hIs _
        unfold releaseGate
        rw [if_neg (hStage thread hThread hIs).2]
      · intro thread hNe
        unfold releaseGate
        split
        · split <;> exact waits_setThread hWaits rfl hNe
        · exact hWaits
  | queue t =>
      apply waits_onThread hWaits
      · intro thread _ hIs _
        unfold queueWaiter
        rw [if_neg]
        rintro ⟨_, hOut⟩
        rw [hIs] at hOut
        cases hOut
      · intro thread hNe
        unfold queueWaiter
        split
        · exact waits_setThread hWaits rfl hNe
        · exact hWaits
  | wake t stop =>
      have hNe : t ≠ u := by
        intro hSame
        exact hOp stop (by rw [hSame])
      simp only [gateStep]
      cases hThread : s.threads[t]? with
      | none => exact hWaits
      | some thread =>
          simp only [wakeWaiter]
          split
          · split
            · exact waits_setThread hWaits rfl hNe
            · split
              · exact waits_setThread hWaits rfl hNe
              · exact hWaits
          · exact hWaits
  | give t =>
      apply waits_onThread hWaits
      · intro thread _ hIs _
        unfold giveSlot
        rw [if_neg]
        intro hHolds
        rw [hIs] at hHolds
        cases hHolds
      · intro thread hNe
        unfold giveSlot
        split
        · exact waits_setThread hWaits rfl hNe
        · exact hWaits
  | configure value => exact hWaits

theorem granted_cases (hGranted : (gateStep s op).2 = some waiter) :
    s.waiters.head? = some waiter ∧ s.active < s.limit := by
  have hNone : ∀ (t : Nat) (f : Thread → Gates), (onThread s t f).2 = none := by
    intro t f
    unfold onThread
    split <;> rfl
  cases op with
  | spawn => cases hGranted
  | configure value => cases hGranted
  | enter t account_id signature => exact absurd hGranted (by simp [gateStep, hNone])
  | acquire t stop => exact absurd hGranted (by simp [gateStep, hNone])
  | leave t => exact absurd hGranted (by simp [gateStep, hNone])
  | release t => exact absurd hGranted (by simp [gateStep, hNone])
  | queue t => exact absurd hGranted (by simp [gateStep, hNone])
  | give t => exact absurd hGranted (by simp [gateStep, hNone])
  | wake t stop =>
      simp only [gateStep] at hGranted
      split at hGranted
      · cases hGranted
      · simp only [wakeWaiter] at hGranted
        split at hGranted
        · split at hGranted
          · cases hGranted
          · split at hGranted
            · next hTurn =>
                rw [← some.inj hGranted]
                exact hTurn
            · cases hGranted
        · cases hGranted

theorem GateSound.grants (hSound : GateSound s) (op : GateOp) : GrantsInTurn s op := by
  constructor
  · intro waiter hGranted
    rcases granted_cases hGranted with ⟨hHead, hLt⟩
    refine ⟨hSound.kept.counted ▸ hLt, ?_⟩
    intro u other hWaits
    have hMem : other ∈ s.waiters := (hSound.kept.listed other).mpr ⟨u, hWaits⟩
    have hSorted := hSound.line.sorted
    cases hList : s.waiters with
    | nil =>
        rw [hList] at hHead
        cases hHead
    | cons first rest =>
        rw [hList] at hHead hMem hSorted
        have hFirst : first = waiter := some.inj hHead
        rcases mem_cons.mp hMem with hIs | hTail
        · rw [hIs, hFirst]
        · have hLater := (pairwise_cons.mp hSorted).1 other hTail
          omega
  · rintro t waiter ⟨thread, hThread, hIs⟩ hNot
    have hTurn : s.waiters.head? = some waiter ∧ s.active < s.limit := by
      by_contra hNotTurn
      exact hNot ⟨thread, hThread, .inr ⟨waiter, hIs, hNotTurn⟩⟩
    simp only [gateStep, hThread, wakeWaiter, hIs]
    simp [hTurn]
  · intro u waiter hWaits hOp
    exact hSound.places hWaits hOp

end LocalStatus
