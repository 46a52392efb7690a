import AutoGpt.LocalStatus.Gates

/-
  The identity gates. While threads refer to a key, all of
  them have the same entry, so that no two threads hold the
  gate of one key, although entries are dropped and created
  again.

  The rules used by clients are:
    * `LocalStatus.Identity.acquire`
    * `LocalStatus.Identity.release`
    * `LocalStatus.Identity.unregister`
-/

open List
open Option

----
-- References
----

namespace LocalStatus

/- The registry counts the entries in use: each of them is the one found under its key, no entry has
   two keys, and its references are its uses. -/
structure Registry.Counts (r : Registry) (users : List Entry) :
    Prop where
  own : ∀ e ∈ users, r.registry e.key = some e.gate
  one_key : ∀ k k' gate, r.registry k = some gate → r.registry k' = some gate → k = k'
  count : ∀ k gate, r.registry k = some gate → ∃ entry, r.gates[gate]? = some entry ∧
        entry.references = users.countP fun e => decide (e.gate = gate)

namespace Registry

variable {r : Registry}

theorem Counts.perm (hPerm : users.Perm others) (hCounts : r.Counts users) :
    r.Counts others where
  own := fun e hMem => hCounts.own e (hPerm.mem_iff.mpr hMem)
  one_key := hCounts.one_key
  count := by
    intro k gate hFound
    rcases hCounts.count k gate hFound with ⟨entry, hGate, hIs⟩
    exact ⟨entry, hGate, hIs.trans (hPerm.countP_eq _)⟩

theorem Counts.lt {e : Entry} (hCounts : r.Counts users) (hMem : e ∈ users) :
    e.gate < r.gates.length := by
  rcases hCounts.count e.key e.gate (hCounts.own e hMem) with ⟨entry, hGate, _⟩
  exact (List.getElem?_eq_some_iff.mp hGate).1

theorem Counts.key_eq {e e' : Entry} (hCounts : r.Counts users) (hMem : e ∈ users)
    (hMem' : e' ∈ users) (hGate : e.gate = e'.gate) : e.key = e'.key := by
  apply hCounts.one_key e.key e'.key e.gate
  · exact hCounts.own e hMem
  · rw [hGate]
    exact hCounts.own e' hMem'

/- One more reference of an entry, or a new entry. -/
theorem Counts.registerKey (hCounts : r.Counts users) (key : String) :
    (r.registerKey key).1.Counts ((r.registerKey key).2 :: users) := by
  unfold Registry.registerKey
  cases hFound : r.registry key with
  | some gate =>
    constructor
    · intro e hMem
      rcases mem_cons.mp hMem with hNew | hOld
      · rw [hNew]
        exact hFound
      · exact hCounts.own e hOld
    · exact hCounts.one_key
    · intro k g hK
      rcases hCounts.count k g hK with ⟨entry, hGate, hIs⟩
      by_cases hSame : gate = g
      · refine ⟨entry.refer (· + 1), ?_, ?_⟩
        · rw [← hSame, getElem?_modify_eq, hSame, hGate]
          rfl
        · rw [countP_cons_of_pos (by simp [hSame])]
          exact congrArg (· + 1) hIs
      · refine ⟨entry, ?_, ?_⟩
        · rw [getElem?_modify_ne _ _ hSame]
          exact hGate
        · rw [countP_cons_of_neg (by simp [hSame])]
          exact hIs
  | none =>
    constructor
    · intro e hMem
      rcases mem_cons.mp hMem with hNew | hOld
      · rw [hNew]
        exact Function.update_self _ _ _
      · have hOwn := hCounts.own e hOld
        have hNe : e.key ≠ key := by
          intro hSame
          rw [hSame, hFound] at hOwn
          cases hOwn
        show Function.update r.registry key _ e.key = _
        rw [Function.update_of_ne hNe]
        exact hOwn
    · have hOldGate : ∀ k, r.registry k ≠ some r.gates.length := by
        intro k hK
        rcases hCounts.count k _ hK with ⟨entry, hGate, _⟩
        have hLt := (List.getElem?_eq_some_iff.mp hGate).1
        omega
      intro k k' g hK hK'
      simp only [Function.update_apply] at hK hK'
      split at hK
      · split at hK'
        · next hIs hIs' => rw [hIs, hIs']
        · rw [← some.inj hK] at hK'
          exact absurd hK' (hOldGate k')
      · split at hK'
        · rw [← some.inj hK'] at hK
          exact absurd hK (hOldGate k)
        · exact hCounts.one_key k k' g hK hK'
    · intro k g hK
      simp only [Function.update_apply] at hK
      split at hK
      · have hG := some.inj hK
        refine ⟨{ references := 1 }, ?_, ?_⟩
        · rw [← hG]
          exact getElem?_concat_length
        · rw [countP_cons_of_pos (by simp [hG])]
          have hZero : users.countP (fun e => decide (e.gate = g)) = 0 := by
            apply countP_eq_zero.mpr
            intro e hMem hIs
            have hLt := hCounts.lt hMem
            have hSame := of_decide_eq_true hIs
            omega
          rw [hZero]
      · rcases hCounts.count k g hK with ⟨entry, hGate, hIs⟩
        have hLt := (List.getElem?_eq_some_iff.mp hGate).1
        refine ⟨entry, ?_, ?_⟩
        · rw [getElem?_append_left hLt]
          exact hGate
        · rw [countP_cons_of_neg (by simp; omega)]
          exact hIs

theorem Counts.register (keys : List String) (hCounts : r.Counts users) :
    (r.register keys).1.Counts ((r.register keys).2 ++ users) := by
  induction keys generalizing r users with
  | nil => exact hCounts
  | cons key keys ih =>
    have hRest := ih (hCounts.registerKey key)
    exact hRest.perm perm_middle

/- One reference less of an entry, which is dropped with its last one. -/
theorem Counts.dropEntry {e : Entry} (hCounts : r.Counts (e :: users)) :
    (r.dropEntry e).Counts users := by
  have hOwnE := hCounts.own e mem_cons_self
  rcases hCounts.count e.key e.gate hOwnE with ⟨entry, hGate, hIs⟩
  rw [countP_cons_of_pos (by simp)] at hIs
  have hAfter :
      (r.gates.modify e.gate (Gate.refer (· - 1)))[e.gate]? = some (entry.refer (· - 1)) := by
    rw [getElem?_modify_eq, hGate]
    rfl
  -- the references of each entry that is still found
  have hCount : ∀ k gate, r.registry k = some gate → ∃ entry,
          (r.gates.modify e.gate (Gate.refer (· - 1)))[gate]? = some entry ∧
          entry.references = users.countP fun e => decide (e.gate = gate) := by
    intro k gate hK
    by_cases hSame : e.gate = gate
    · rw [← hSame]
      refine ⟨_, hAfter, ?_⟩
      show entry.references - 1 = _
      omega
    · rcases hCounts.count k gate hK with ⟨other, hOther, hIsO⟩
      rw [countP_cons_of_neg (by simp [hSame])] at hIsO
      refine ⟨other, ?_, hIsO⟩
      rw [getElem?_modify_ne _ _ hSame]
      exact hOther
  unfold Registry.dropEntry
  simp only [hAfter]
  split
  · next hZero =>
      have hNone : entry.references - 1 = 0 := by
        have hBoth := congrArg Gate.references (some.inj hZero)
        exact hBoth
      have hUnused : ∀ other ∈ users, other.gate ≠ e.gate := by
        have hCountZero : users.countP (fun o => decide (o.gate = e.gate)) = 0 := by omega
        intro other hMem hSame
        exact countP_eq_zero.mp hCountZero other hMem (decide_eq_true hSame)
      constructor
      · intro other hMem
        have hOwn := hCounts.own other (mem_cons_of_mem _ hMem)
        have hNe : other.key ≠ e.key := by
          intro hSame
          rw [hSame, hOwnE] at hOwn
          exact hUnused other hMem (some.inj hOwn).symm
        show Function.update r.registry e.key none other.key = _
        rw [Function.update_of_ne hNe]
        exact hOwn
      · intro k k' g hK hK'
        simp only [Function.update_apply] at hK hK'
        split at hK
        · cases hK
        · split at hK'
          · cases hK'
          · exact hCounts.one_key k k' g hK hK'
      · intro k g hK
        simp only [Function.update_apply] at hK
        split at hK
        · cases hK
        · exact hCount k g hK
  · exact
      { own := fun other hMem => hCounts.own other (mem_cons_of_mem _ hMem),
        one_key := hCounts.one_key, count := hCount }

theorem Counts.dropAll (hCounts : r.Counts (entries ++ users)) :
    (entries.foldl Registry.dropEntry r).Counts users := by
  induction entries generalizing r with
  | nil => exact hCounts
  | cons e entries ih => exact ih hCounts.dropEntry

----
-- Locks
----

theorem isLocked_modify_refer (change : Nat → Nat) (gate g : Nat) :
    (r.gates.modify gate (Gate.refer change))[g]?.any Gate.locked = r.isLocked g := by
  unfold isLocked
  by_cases hSame : gate = g
  · rw [hSame, getElem?_modify_eq]
    cases r.gates[g]? <;> rfl
  · rw [getElem?_modify_ne _ _ hSame]

theorem isLocked_registerKey (key : String) (g : Nat) :
    (r.registerKey key).1.isLocked g = r.isLocked g := by
  unfold registerKey
  cases r.registry key with
  | some gate => exact isLocked_modify_refer _ gate g
  | none =>
    unfold isLocked
    by_cases hLt : g < r.gates.length
    · rw [getElem?_append_left hLt]
    · rw [getElem?_eq_none (l := r.gates) (by omega)]
      rw [getElem?_append_right (by omega)]
      cases g - r.gates.length <;> rfl

theorem isLocked_register (keys : List String) (g : Nat) :
    (r.register keys).1.isLocked g = r.isLocked g := by
  induction keys generalizing r with
  | nil => rfl
  | cons key keys ih => exact ih.trans (isLocked_registerKey key g)

theorem isLocked_dropEntry (e : Entry) (g : Nat) : (r.dropEntry e).isLocked g = r.isLocked g := by
  unfold dropEntry
  simp only
  split <;> exact isLocked_modify_refer _ e.gate g

theorem isLocked_dropAll (entries : List Entry) (g : Nat) :
    (entries.foldl dropEntry r).isLocked g = r.isLocked g := by
  induction entries generalizing r with
  | nil => rfl
  | cons e entries ih => exact ih.trans (isLocked_dropEntry e g)

theorem isLocked_setLock_of_ne (locked : Bool) (hNe : gate ≠ g) :
    (r.setLock gate locked).isLocked g = r.isLocked g := by
  unfold isLocked setLock
  rw [getElem?_modify_ne _ _ hNe]

theorem isLocked_setLock (locked : Bool) (hLt : gate < r.gates.length) :
    (r.setLock gate locked).isLocked gate = locked := by
  unfold isLocked setLock
  rw [getElem?_modify_eq, getElem?_eq_getElem hLt]
  rfl

theorem Counts.setLock (gate : Nat) (locked : Bool) (hCounts : r.Counts users) :
    (r.setLock gate locked).Counts users where
  own := hCounts.own
  one_key := hCounts.one_key
  count := by
    intro k g hK
    rcases hCounts.count k g hK with ⟨entry, hGate, hIs⟩
    unfold Registry.setLock
    by_cases hSame : gate = g
    · refine ⟨entry.lock locked, ?_, hIs⟩
      rw [hSame, getElem?_modify_eq, hGate]
      rfl
    · refine ⟨entry, ?_, hIs⟩
      rw [getElem?_modify_ne _ _ hSame]
      exact hGate

theorem keys_register (keys : List String) : (r.register keys).2.map Entry.key = keys := by
  induction keys generalizing r with
  | nil => rfl
  | cons key keys ih =>
    have hKey : (r.registerKey key).2.key = key := by
      unfold registerKey
      cases r.registry key <;> rfl
    exact congrArg₂ List.cons hKey ih

end Registry

----
-- Slots
----

structure Slot where
  entries : List Entry := []
  acquired : List Entry := []

def Thread.slot (thread : Thread) : Slot where
  entries := thread.entries
  acquired := thread.acquired

/- The entries are in the order of their keys, and acquired from the first one on. -/
structure Slot.Ordered (slot : Slot) : Prop where
  keys : slot.entries.Pairwise fun a b => a.key < b.key
  first : slot.acquired <+: slot.entries

/- The registry counts what the threads have registered; a lock is locked exactly if one thread has
   acquired it. -/
structure Identity (r : Registry) (slots : List Slot) :
    Prop where
  counts : r.Counts (slots.flatMap Slot.entries)
  ordered : ∀ slot ∈ slots, slot.Ordered
  locked : ∀ gate, r.isLocked gate →
      ∃ (t : Nat) (slot : Slot), slots[t]? = some slot ∧ ∃ e ∈ slot.acquired, e.gate = gate
  held : ∀ slot ∈ slots, ∀ e ∈ slot.acquired, r.isLocked e.gate
  one : ∀ (t u : Nat) (a b : Slot), slots[t]? = some a → slots[u]? = some b →
      ∀ e ∈ a.acquired, ∀ e' ∈ b.acquired, e.gate = e'.gate → t = u

variable {t : Nat} {old slot : Slot}

theorem perm_flatMap_set {slots : List Slot} (next : Slot) (hOld : slots[t]? = some old) :
    (old.entries ++ (slots.set t next).flatMap Slot.entries).Perm
      (next.entries ++ slots.flatMap Slot.entries) := by
  induction slots generalizing t with
  | nil => cases hOld
  | cons slot slots ih =>
    cases t with
    | zero =>
      rw [getElem?_cons_zero] at hOld
      rw [some.inj hOld, set_cons_zero, flatMap_cons, flatMap_cons]
      exact (perm_append_comm_assoc _ _ _)
    | succ t =>
      rw [getElem?_cons_succ] at hOld
      rw [set_cons_succ, flatMap_cons, flatMap_cons]
      calc
        (old.entries ++ (slot.entries ++ (slots.set t next).flatMap Slot.entries)).Perm
          (slot.entries ++ (old.entries ++ (slots.set t next).flatMap Slot.entries)) :=
          perm_append_comm_assoc _ _ _
        _ |>.Perm (slot.entries ++ (next.entries ++ slots.flatMap Slot.entries)) :=
          (ih hOld).append_left _
        _ |>.Perm _ := perm_append_comm_assoc _ _ _

variable {slots : List Slot}

theorem Identity.mem_users (hSlot : slot ∈ slots) (hMem : e ∈ slot.entries) :
    e ∈ slots.flatMap Slot.entries :=
  mem_flatMap.mpr ⟨slot, hSlot, hMem⟩

theorem Slot.Ordered.mem (hOrdered : slot.Ordered) (hMem : e ∈ slot.acquired) : e ∈ slot.entries :=
  hOrdered.first.subset hMem

/- No two threads hold the gate of one key: they would have acquired the same entry. -/
theorem Identity.exclusive (hIdentity : Identity r slots)
    (hA : slots[t]? = some a) (hB : slots[u]? = some b) (hE : e ∈ a.acquired)
    (hE' : e' ∈ b.acquired) (hKey : e.key = e'.key) : t = u := by
  have hMemA := mem_of_getElem? hA
  have hMemB := mem_of_getElem? hB
  have hOwn :=
    hIdentity.counts.own e (Identity.mem_users hMemA ((hIdentity.ordered a hMemA).mem hE))
  have hOwn' :=
    hIdentity.counts.own e' (Identity.mem_users hMemB ((hIdentity.ordered b hMemB).mem hE'))
  rw [hKey, hOwn'] at hOwn
  exact hIdentity.one t u a b hA hB e hE e' hE' (some.inj hOwn).symm

theorem Slot.ordered_empty : ({} : Slot).Ordered where
  keys := List.Pairwise.nil
  first := prefix_refl []

theorem Identity.spawn (hIdentity : Identity r slots) : Identity r (slots ++ [({} : Slot)]) := by
  constructor
  · have hSame : (slots ++ [({} : Slot)]).flatMap Slot.entries = slots.flatMap Slot.entries := by
      simp
    rw [hSame]
    exact hIdentity.counts
  · intro slot hMem
    rcases mem_append.mp hMem with hOld | hNew
    · exact hIdentity.ordered slot hOld
    · rw [mem_singleton.mp hNew]
      exact Slot.ordered_empty
  · intro gate hLocked
    rcases hIdentity.locked gate hLocked with ⟨t, slot, hSlot, hHolds⟩
    have hLt := (List.getElem?_eq_some_iff.mp hSlot).1
    refine ⟨t, slot, ?_, hHolds⟩
    rw [getElem?_append_left hLt]
    exact hSlot
  · intro slot hMem e hE
    rcases mem_append.mp hMem with hOld | hNew
    · exact hIdentity.held slot hOld e hE
    · rw [mem_singleton.mp hNew] at hE
      cases hE
  · have hOld : ∀ (t : Nat) (a : Slot) (e : Entry),
          (slots ++ [({} : Slot)])[t]? = some a → e ∈ a.acquired → slots[t]? = some a := by
      intro t a e hA hE
      rw [getElem?_append] at hA
      split at hA
      · exact hA
      · have hIs := mem_singleton.mp (mem_of_getElem? hA)
        rw [hIs] at hE
        cases hE
    intro t u a b hA hB e hE e' hE'
    exact hIdentity.one t u a b (hOld t a e hA hE) (hOld u b e' hB hE') e hE e' hE'

/- A change of one slot and of the registry. The new slot has acquired what is locked now, and
   nothing of the others. -/
theorem Identity.set {next : Slot} (hIdentity : Identity r slots)
    (hOld : slots[t]? = some old) (hCounts : r'.Counts ((slots.set t next).flatMap Slot.entries))
    (hOrdered : next.Ordered)
    (hLocked : ∀ gate, r'.isLocked gate ↔ (∃ e ∈ next.acquired, e.gate = gate) ∨
          (r.isLocked gate ∧ ∀ e ∈ old.acquired, e.gate ≠ gate))
    (hNew : ∀ e ∈ next.acquired, ∀ gate, e.gate = gate →
        r.isLocked gate → ∃ e' ∈ old.acquired, e'.gate = gate) :
    Identity r' (slots.set t next) := by
  have hLt := (List.getElem?_eq_some_iff.mp hOld).1
  have hCases : ∀ (u : Nat) (b : Slot), (slots.set t next)[u]? = some b →
        (u = t ∧ b = next) ∨ (u ≠ t ∧ slots[u]? = some b) := by
    intro u b hB
    by_cases hSame : t = u
    · rw [← hSame, List.getElem?_set_self hLt] at hB
      exact .inl ⟨hSame.symm, (some.inj hB).symm⟩
    · rw [List.getElem?_set_ne hSame] at hB
      exact .inr ⟨Ne.symm hSame, hB⟩
  -- what another thread has acquired is not in this slot
  have hApart : ∀ (u : Nat) (b : Slot), u ≠ t → slots[u]? = some b →
        ∀ e' ∈ b.acquired, ∀ e ∈ next.acquired, e.gate ≠ e'.gate := by
    intro u b hNe hB e' hE' e hE hGate
    have hHeld := hIdentity.held b (mem_of_getElem? hB) e' hE'
    rcases hNew e hE e'.gate hGate hHeld with ⟨before, hBefore, hIs⟩
    exact hNe (hIdentity.one u t b old hB hOld e' hE' before hBefore hIs.symm)
  refine ⟨hCounts, ?_, ?_, ?_, ?_⟩
  · intro slot hMem
    rcases mem_or_eq_of_mem_set hMem with hBefore | hIs
    · exact hIdentity.ordered slot hBefore
    · rw [hIs]
      exact hOrdered
  · intro gate hGate
    rcases (hLocked gate).mp hGate with hMine | ⟨hWas, hNot⟩
    · exact ⟨t, next, getElem?_set_self hLt, hMine⟩
    · rcases hIdentity.locked gate hWas with
        ⟨u, slot, hSlot, e, hE, hIs⟩
      have hNe : t ≠ u := by
        intro hSame
        rw [← hSame, hOld] at hSlot
        rw [← some.inj hSlot] at hE
        exact hNot e hE hIs
      refine ⟨u, slot, ?_, e, hE, hIs⟩
      rw [getElem?_set_ne hNe]
      exact hSlot
  · intro slot hMem e hE
    rcases getElem?_of_mem hMem with ⟨u, hSlot⟩
    apply (hLocked e.gate).mpr
    rcases hCases u slot hSlot with ⟨_, hIs⟩ | ⟨hNe, hBefore⟩
    · rw [hIs] at hE
      exact .inl ⟨e, hE, rfl⟩
    · right
      refine ⟨hIdentity.held slot (mem_of_getElem? hBefore) e hE, ?_⟩
      intro before hBeforeMem hGate
      exact hNe (hIdentity.one u t slot old hBefore hOld e hE before hBeforeMem hGate.symm)
  · intro u v a b hA hB e hE e' hE' hGate
    rcases hCases u a hA with ⟨hU, hIsA⟩ | ⟨hU, hBeforeA⟩
    · rcases hCases v b hB with ⟨hV, _⟩ | ⟨hV, hBeforeB⟩
      · rw [hU, hV]
      · rw [hIsA] at hE
        exact absurd hGate (hApart v b hV hBeforeB e' hE' e hE)
    · rcases hCases v b hB with ⟨hV, hIsB⟩ | ⟨hV, hBeforeB⟩
      · rw [hIsB] at hE'
        exact absurd hGate.symm (hApart u a hU hBeforeA e hE e' hE')
      · exact hIdentity.one u v a b hBeforeA hBeforeB e hE e' hE' hGate

theorem Identity.register {keys : List String} (hIdentity : Identity r slots)
    (hOld : slots[t]? = some old) (hEntries : old.entries = []) (hAcquired : old.acquired = [])
    (hKeys : keys.Pairwise (· < ·)) :
    Identity (r.register keys).1 (slots.set t { entries := (r.register keys).2 }) := by
  apply hIdentity.set hOld
  · apply (hIdentity.counts.register keys).perm
    have hPerm := perm_flatMap_set { entries := (r.register keys).2 } hOld
    rw [hEntries, nil_append] at hPerm
    exact hPerm.symm
  · constructor
    · apply pairwise_map.mp
      rw [Registry.keys_register]
      exact hKeys
    · exact nil_prefix
  · intro gate
    rw [Registry.isLocked_register, hAcquired]
    simp
  · intro e hE
    cases hE

/- It acquires the first lock that it has not acquired. -/
theorem Identity.acquire (hIdentity : Identity r slots) (hSlot : slots[t]? = some slot)
    (hNext : slot.entries[slot.acquired.length]? = some e) (hFree : r.isLocked e.gate = false) :
    Identity (r.setLock e.gate true)
      (slots.set t { slot with acquired := slot.acquired ++ [e] }) := by
  have hMem := mem_of_getElem? hSlot
  have hOrdered := hIdentity.ordered slot hMem
  have hUser : e ∈ slots.flatMap Slot.entries := Identity.mem_users hMem (mem_of_getElem? hNext)
  have hLt := hIdentity.counts.lt hUser
  apply hIdentity.set hSlot
  · apply (hIdentity.counts.setLock e.gate true).perm
    apply List.Perm.symm
    exact (perm_append_left_iff slot.entries).mp
        (perm_flatMap_set { slot with acquired := slot.acquired ++ [e] } hSlot)
  · refine ⟨hOrdered.keys, ?_⟩
    rcases hOrdered.first with ⟨rest, hRest⟩
    have hHead : rest[0]? = some e := by
      rw [← hRest, getElem?_append_right (by omega), Nat.sub_self] at hNext
      exact hNext
    cases rest with
    | nil => cases hHead
    | cons first rest =>
      rw [getElem?_cons_zero] at hHead
      refine ⟨rest, ?_⟩
      rw [← hRest, ← some.inj hHead, append_assoc]
      rfl
  · intro gate
    by_cases hSame : e.gate = gate
    · rw [← hSame, Registry.isLocked_setLock true hLt]
      refine ⟨fun _ => .inl ?_, fun _ => rfl⟩
      exact ⟨e, mem_append_right _ (by simp), rfl⟩
    · rw [Registry.isLocked_setLock_of_ne true hSame]
      constructor
      · intro hWas
        by_cases hMine : ∃ e' ∈ slot.acquired, e'.gate = gate
        · rcases hMine with ⟨e', hE', hIs⟩
          exact .inl ⟨e', mem_append_left _ hE', hIs⟩
        · right
          refine ⟨hWas, ?_⟩
          intro e' hE' hIs
          exact hMine ⟨e', hE', hIs⟩
      · rintro (⟨e', hE', hIs⟩ | ⟨hWas, _⟩)
        · rcases mem_append.mp hE' with hOld | hNew
          · rw [← hIs]
            exact hIdentity.held slot hMem e' hOld
          · rw [mem_singleton.mp hNew] at hIs
            exact absurd hIs hSame
        · exact hWas
  · intro e' hE' gate hIs hWas
    rcases mem_append.mp hE' with hOld | hNew
    · exact ⟨e', hOld, hIs⟩
    · rw [← hIs, mem_singleton.mp hNew, hFree] at hWas
      cases hWas

theorem Slot.Ordered.eq_of_key (hOrdered : slot.Ordered) (hE : e ∈ slot.entries)
    (hE' : e' ∈ slot.entries) (hKey : e.key = e'.key) : e = e' := by
  have hNodup : (slot.entries.map Entry.key).Nodup := by
    apply pairwise_map.mpr
    exact hOrdered.keys.imp fun hLt => ne_of_lt hLt
  exact inj_on_of_nodup_map hNodup hE hE' hKey

/- It releases the lock that it has acquired last. -/
theorem Identity.release (hIdentity : Identity r slots) (hSlot : slots[t]? = some slot)
    (hLast : slot.acquired.getLast? = some e) :
    Identity (r.setLock e.gate false)
      (slots.set t { slot with acquired := slot.acquired.dropLast }) := by
  have hMem := mem_of_getElem? hSlot
  have hOrdered := hIdentity.ordered slot hMem
  have hE : e ∈ slot.acquired := mem_of_getLast? hLast
  have hUser : e ∈ slots.flatMap Slot.entries := Identity.mem_users hMem (hOrdered.mem hE)
  have hLt := hIdentity.counts.lt hUser
  have hSplit : slot.acquired = slot.acquired.dropLast ++ [e] := by
    rcases getLast?_eq_some_iff.mp hLast with ⟨ys, hYs⟩
    rw [hYs, dropLast_concat]
  -- no other lock of the thread is this one
  have hOthers : ∀ e' ∈ slot.acquired.dropLast, e'.gate ≠ e.gate := by
    intro e' hE' hGate
    have hMemE' : e' ∈ slot.acquired := dropLast_subset _ hE'
    have hKey := hIdentity.counts.key_eq (Identity.mem_users hMem (hOrdered.mem hMemE')) hUser hGate
    have hSame := hOrdered.eq_of_key (hOrdered.mem hMemE') (hOrdered.mem hE) hKey
    have hPairwise : slot.acquired.Pairwise fun a b => a.key < b.key :=
      hOrdered.keys.sublist hOrdered.first.sublist
    rw [hSplit, pairwise_append] at hPairwise
    have hBefore := hPairwise.2.2 e' hE' e (mem_singleton_self e)
    rw [hSame] at hBefore
    exact lt_irrefl _ hBefore
  apply hIdentity.set hSlot
  · apply (hIdentity.counts.setLock e.gate false).perm
    apply List.Perm.symm
    exact (perm_append_left_iff slot.entries).mp (perm_flatMap_set
          { slot with acquired := slot.acquired.dropLast } hSlot)
  · exact ⟨hOrdered.keys, ( dropLast_prefix _).trans hOrdered.first⟩
  · intro gate
    by_cases hSame : e.gate = gate
    · rw [← hSame, Registry.isLocked_setLock false hLt]
      constructor
      · intro hFalse
        cases hFalse
      · rintro (⟨e', hE', hIs⟩ | ⟨_, hNot⟩)
        · exact absurd hIs (hOthers e' hE')
        · exact absurd rfl (hNot e hE)
    · rw [Registry.isLocked_setLock_of_ne false hSame]
      constructor
      · intro hWas
        by_cases hMine : ∃ e' ∈ slot.acquired, e'.gate = gate
        · rcases hMine with ⟨e', hE', hIs⟩
          left
          refine ⟨e', ?_, hIs⟩
          rw [hSplit] at hE'
          rcases mem_append.mp hE' with hOld | hNew
          · exact hOld
          · rw [mem_singleton.mp hNew] at hIs
            exact absurd hIs hSame
        · right
          refine ⟨hWas, ?_⟩
          intro e' hE' hIs
          exact hMine ⟨e', hE', hIs⟩
      · rintro (⟨e', hE', hIs⟩ | ⟨hWas, _⟩)
        · rw [← hIs]
          exact hIdentity.held slot hMem e' (dropLast_subset _ hE')
        · exact hWas
  · intro e' hE' gate hIs _
    exact ⟨e', dropLast_subset _ hE', hIs⟩

theorem Identity.unregister (hIdentity : Identity r slots) (hSlot : slots[t]? = some slot)
    (hAcquired : slot.acquired = []) :
    Identity (slot.entries.foldl Registry.dropEntry r) (slots.set t {}) := by
  apply hIdentity.set hSlot
  · apply Registry.Counts.dropAll
    apply hIdentity.counts.perm
    have hPerm := perm_flatMap_set {} hSlot
    exact hPerm.symm
  · exact Slot.ordered_empty
  · intro gate
    rw [Registry.isLocked_dropAll, hAcquired]
    simp
  · intro e hE
    cases hE

end LocalStatus
