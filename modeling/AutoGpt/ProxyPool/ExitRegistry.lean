import AutoGpt.Library.KeyedTable
import AutoGpt.Library.Machine
import AutoGpt.Library.PyIpAddress
import AutoGpt.Library.PyText
import Mathlib.Algebra.Order.Ring.Rat
import Mathlib.Order.Lattice

/-
  The registry of registration exits
  (`core/chatgpt_register_exit_ip_registry.py`): which owner
  an exit is leased to, and how long a released one cools
  down. A call reads the clock before it takes the lock, so
  the readings of the calls may be out of order.

  Main theorems: `exits_exclusive`, `cooldown_kept`,
  `refreshes_keep`
-/

open Machine (run)
open PyIpAddress (ipAddress ipv4Str masked)
open PyText (strip)

----
-- Leases
----

namespace ExitRegistry

/- `normalize_register_exit_ip(value)`. The network of an IPv6 address without host bits keeps its
   scope. -/
def normalize_register_exit_ip (lower : String → String) (value : String) : String :=
  let text := strip value
  if text = "" then ""
  else
    match ipAddress text with
    | none => lower text
    | some (.v4 ip) => ipv4Str ip
    | some (.v6 ip scope_id) =>
      let first := masked ip 64
      (PyIpAddress.Address.v6 first (if first = ip then scope_id else none)).str ++ "/64"

inductive LeaseState where
| active
| cooldown
deriving DecidableEq

def LeaseState.text : LeaseState → String
| .active => "active"
| .cooldown => "cooldown"

/- `_ExitIPLease`, under its key. -/
structure Lease where
  key : String
  owner : String
  state : LeaseState
  expires_at : ℚ
deriving DecidableEq

/- An active lease of the owner. -/
def Lease.isOwn (owner : String) (l : Lease) : Bool := l.state == .active && l.owner == owner

abbrev Leases := KeyedTable Lease String Lease.key

structure ExitIPClaim where
  claimed : Bool
  key : String
  holder : String := ""
  state : String := ""
  expires_in_seconds : ℚ := 0
deriving DecidableEq

variable (now : ℚ) (t : Leases)

/- `_prune_locked(now)`. -/
def prune : Leases := t.deleteWhere fun l => decide (l.expires_at ≤ now)

/- The part of `claim` that holds the lock. -/
def claim_locked (key owner_key : String) (active_ttl_seconds : ℚ) : Leases × ExitIPClaim :=
  let granted := (prune now t).put
    { key := key, owner := owner_key, state := .active,
      expires_at := now + max active_ttl_seconds 1 }
  let answer := { claimed := true, key := key, holder := owner_key, state := "active" }
  match (prune now t).find? key with
  | none => (granted, answer)
  | some current =>
    if current.isOwn owner_key then (granted, answer)
    else
      (prune now t,
        { claimed := false, key := key, holder := current.owner, state := current.state.text,
          expires_in_seconds := max (current.expires_at - now) 0 })

/- `claim(exit_ip, owner=..., active_ttl_seconds=...)`. -/
def claim (lower : String → String) (exit_ip owner : String) (active_ttl_seconds : ℚ) :
    Leases × ExitIPClaim :=
  let key := normalize_register_exit_ip lower exit_ip
  if key = "" ∨ strip owner = "" then (t, { claimed := false, key := key, state := "invalid" })
  else claim_locked now t key (strip owner) active_ttl_seconds

/- `release_owner(owner, cooldown_seconds=...)`. -/
def release_owner (owner : String) (cooldown_seconds : ℚ) : Leases × Nat :=
  let owner_key := strip owner
  if owner_key = "" then (t, 0)
  else
    let cooldown := max cooldown_seconds 0
    let own := Lease.isOwn owner_key
    (if cooldown ≤ 0 then (prune now t).deleteWhere own
      else
        (prune now t).updateWhere own
          (fun l =>
            { l with
              owner := "cooldown:" ++ owner_key
              state := .cooldown
              expires_at := now + cooldown })
          fun _ => rfl,
      (prune now t).rows.countP own)

/- `refresh_owner(owner, active_ttl_seconds=...)`. -/
def refresh_owner (owner : String) (active_ttl_seconds : ℚ) : Leases × Nat :=
  let owner_key := strip owner
  if owner_key = "" then (t, 0)
  else
    ((prune now t).updateWhere (Lease.isOwn owner_key)
      (fun l => { l with expires_at := now + max active_ttl_seconds 1 }) fun _ => rfl,
      (prune now t).rows.countP (Lease.isOwn owner_key))

----
-- Calls
----

inductive Call where
| claim (exit_ip owner : String) (active_ttl_seconds : ℚ)
| release_owner (owner : String) (cooldown_seconds : ℚ)
| refresh_owner (owner : String) (active_ttl_seconds : ℚ)

def Call.owner : Call → String
| .claim _ owner _ => owner
| .release_owner owner _ => owner
| .refresh_owner owner _ => owner

variable (lower : String → String)

def Call.leases : Call → Leases
| .claim exit_ip owner ttl => (ExitRegistry.claim now t lower exit_ip owner ttl).1
| .release_owner owner cooldown => (ExitRegistry.release_owner now t owner cooldown).1
| .refresh_owner owner ttl => (ExitRegistry.refresh_owner now t owner ttl).1

/- The leases after calls, each with its reading of the clock. -/
def leasesAfter (calls : List (ℚ × Call)) : Leases :=
  calls.foldl (fun t call => call.2.leases call.1 t lower) t

end ExitRegistry

----
-- Exclusion
----

namespace ExitRegistry

variable {t : Leases} {l : Lease}

theorem find?_prune : (prune now t).find? key =
    (t.find? key).filter fun l => now < l.expires_at := by
  unfold prune
  rw [KeyedTable.find?_deleteWhere]
  simp only [← decide_not, not_le]

/- A claim of an exit that somebody else holds is refused. -/
theorem claim_locked_of_held (hPruned : (prune now t).find? key = some l)
    (hOther : l.isOwn owner_key = false) :
    (claim_locked now t key owner_key ttl).1 = prune now t ∧
      (claim_locked now t key owner_key ttl).2.claimed = false := by
  unfold claim_locked
  rw [hPruned]
  dsimp only
  rw [if_neg (by simp [hOther])]
  exact ⟨rfl, rfl⟩

theorem claim_locked_key : (claim_locked now t key owner_key ttl).2.key = key := by
  unfold claim_locked
  dsimp only
  split
  · rfl
  · split <;> rfl

theorem kept_claim_locked (hPruned : (prune now t).find? key = some l)
    (hOther : l.isOwn owner_key = false) :
    (claim_locked now t exit_key owner_key ttl).1.find? key = some l := by
  by_cases hKey : exit_key = key
  · rw [hKey, (claim_locked_of_held hPruned hOther).1, hPruned]
  · have hPut : ∀ granted : Lease, granted.key = exit_key →
        ((prune now t).put granted).find? key = some l := by
      intro granted hGranted
      rw [KeyedTable.find?_put, if_neg (hGranted ▸ hKey), hPruned]
    unfold claim_locked
    dsimp only
    split
    · exact hPut _ rfl
    · split
      · exact hPut _ rfl
      · exact hPruned

/- A lease that has not run out stays through a call of an owner that does not hold it. -/
theorem kept_call (hLease : t.find? key = some l) (hLive : now < l.expires_at) {call : Call}
    (hOther : l.isOwn (strip call.owner) = false) :
    (call.leases now t lower).find? key = some l := by
  have hPruned : (prune now t).find? key = some l := by
    rw [find?_prune, hLease, Option.filter_some, if_pos (decide_eq_true hLive)]
  cases call with
  | claim exit_ip owner ttl =>
    dsimp only [Call.leases, ExitRegistry.claim]
    split
    · exact hLease
    · exact kept_claim_locked hPruned hOther
  | release_owner owner cooldown =>
    have hNot : l.isOwn (strip owner) = false := hOther
    dsimp only [Call.leases, ExitRegistry.release_owner]
    split
    · exact hLease
    · dsimp only
      split
      · rw [KeyedTable.find?_deleteWhere, hPruned, Option.filter_some, hNot]
        rfl
      · rw [KeyedTable.find?_updateWhere, hPruned, Option.map_some, hNot]
        rfl
  | refresh_owner owner ttl =>
    have hNot : l.isOwn (strip owner) = false := hOther
    dsimp only [Call.leases, ExitRegistry.refresh_owner]
    split
    · exact hLease
    · rw [KeyedTable.find?_updateWhere, hPruned, Option.map_some, hNot]
      rfl

theorem kept_calls {calls : List (ℚ × Call)} (hLease : t.find? key = some l)
    (hOther : ∀ call ∈ calls, l.isOwn (strip call.2.owner) = false)
    (hLive : ∀ call ∈ calls, call.1 < l.expires_at) :
    (leasesAfter t lower calls).find? key = some l := by
  induction calls generalizing t with
  | nil => exact hLease
  | cons call calls ih =>
    rw [List.forall_mem_cons] at hOther hLive
    exact ih (kept_call hLease hLive.1 hOther.1) hOther.2 hLive.2

/- No claim of another owner is granted before the end of a lease. -/
theorem ended_of_granted (hClaim : (claim now t lower exit_ip owner ttl).2 = answer)
    (hGranted : answer.claimed) (hLease : t.find? answer.key = some l)
    (hOther : l.isOwn (strip owner) = false) : l.expires_at ≤ now := by
  by_contra hNot
  have hPruned : (prune now t).find? answer.key = some l := by
    rw [find?_prune, hLease, Option.filter_some, if_pos (decide_eq_true (not_le.mp hNot))]
  unfold claim at hClaim
  dsimp only at hClaim
  split at hClaim
  · subst hClaim
    cases hGranted
  · have hSame : answer.key = _ := hClaim ▸ claim_locked_key
    rw [hSame] at hPruned
    have hRefused : (claim_locked now t _ (strip owner) ttl).2.claimed = false :=
      (claim_locked_of_held hPruned hOther).2
    rw [hClaim, hGranted] at hRefused
    cases hRefused

/- A lease ends by a reading of the clock before the exit is granted to anybody else. -/
theorem ended_of_granted_after {calls : List (ℚ × Call)} {answer : ExitIPClaim}
    (hOther : ∀ call ∈ calls, l.isOwn (strip call.2.owner) = false)
    (hClaim : (claim now (leasesAfter t lower calls) lower exit_ip owner ttl).2 = answer)
    (hGranted : answer.claimed) (hLease : t.find? answer.key = some l)
    (hNot : l.isOwn (strip owner) = false) :
    ∃ reading ∈ now :: calls.map Prod.fst, l.expires_at ≤ reading := by
  by_contra hNone
  have hLive : ∀ reading ∈ now :: calls.map Prod.fst, reading < l.expires_at :=
    fun reading hMem => not_le.mp fun hLe => hNone ⟨reading, hMem, hLe⟩
  have hKept : (leasesAfter t lower calls).find? answer.key = some l :=
    kept_calls hLease hOther fun call hMem =>
      hLive _ (List.mem_cons_of_mem _ (List.mem_map_of_mem hMem))
  exact absurd (ended_of_granted hClaim hGranted hKept hNot)
    (not_le.mpr (hLive now List.mem_cons_self))

theorem claim_locked_granted
    (hGranted : (claim_locked now t key owner_key ttl).2.claimed) :
    (claim_locked now t key owner_key ttl).1.find? key =
      some { key := key, owner := owner_key, state := .active, expires_at := now + max ttl 1 } := by
  unfold claim_locked at hGranted ⊢
  dsimp only at hGranted ⊢
  split at hGranted
  · rw [KeyedTable.find?_put, if_pos rfl]
  · split at hGranted
    next hOwn =>
      rw [if_pos hOwn, KeyedTable.find?_put, if_pos rfl]
    next => cases hGranted

/- An exit that is granted to one owner is not granted to another one before a reading of the clock
   at which the first grant has ended, unless the first owner makes a call. -/
theorem exits_exclusive {calls : List (ℚ × Call)} {first second : ExitIPClaim}
    (hFirst : (claim now t lower exit_ip owner ttl).2 = first) (hGranted : first.claimed)
    (hOthers : ∀ call ∈ calls, strip call.2.owner ≠ strip owner)
    (hSecond : (claim later (leasesAfter (claim now t lower exit_ip owner ttl).1 lower calls) lower
      other_ip other other_ttl).2 = second) (hTaken : second.claimed)
    (hKey : second.key = first.key) (hOther : strip other ≠ strip owner) :
    ∃ reading ∈ later :: calls.map Prod.fst, now + max ttl 1 ≤ reading := by
  have hLease : (claim now t lower exit_ip owner ttl).1.find? first.key =
      some { key := first.key, owner := strip owner, state := .active,
             expires_at := now + max ttl 1 } := by
    unfold claim at hFirst ⊢
    dsimp only at hFirst ⊢
    split at hFirst
    · subst hFirst
      cases hGranted
    next hText =>
      have hSame : first.key = _ := hFirst ▸ claim_locked_key
      rw [if_neg hText, hSame]
      exact claim_locked_granted (hFirst ▸ hGranted)
  have hHeld : ∀ name, strip name ≠ strip owner →
      Lease.isOwn (strip name) { key := first.key, owner := strip owner, state := .active,
                                 expires_at := now + max ttl 1 } = false := by
    intro name hNe
    simp [Lease.isOwn, Ne.symm hNe]
  rw [← hKey] at hLease hHeld
  exact ended_of_granted_after (fun call hMem => hHeld _ (hOthers call hMem)) hSecond hTaken hLease
    (hHeld _ hOther)

/- An exit that is released with a cooldown is granted to nobody before its end. -/
theorem cooldown_kept {calls : List (ℚ × Call)} {answer : ExitIPClaim}
    (hLease : t.find? answer.key = some l) (hOwn : l.isOwn (strip owner))
    (hLive : now < l.expires_at)
    (hOwner : strip owner ≠ "") (hCooldown : 0 < cooldown)
    (hClaim : (claim later (leasesAfter (release_owner now t owner cooldown).1 lower calls) lower
      exit_ip other ttl).2 = answer) (hGranted : answer.claimed) :
    ∃ reading ∈ later :: calls.map Prod.fst, now + cooldown ≤ reading := by
  have hReleased : (release_owner now t owner cooldown).1.find? answer.key =
      some { l with owner := "cooldown:" ++ strip owner, state := .cooldown,
                    expires_at := now + cooldown } := by
    unfold release_owner
    rw [if_neg hOwner, max_eq_left hCooldown.le]
    dsimp only
    rw [if_neg (not_le.mpr hCooldown), KeyedTable.find?_updateWhere, find?_prune, hLease,
      Option.filter_some, if_pos (decide_eq_true hLive), Option.map_some, if_pos hOwn]
  exact ended_of_granted_after (fun _ _ => rfl) hClaim hGranted hReleased rfl

/- Two tasks claim one exit in turn. -/
theorem exits_exclusive_second_task : ∃ reading ∈ [(60 : ℚ)], 0 + max 60 1 ≤ reading := by
  have hFirst : (claim 0 KeyedTable.empty id "203.0.113.8" "a" 60).2 =
      { claimed := true, key := "203.0.113.8", holder := "a", state := "active" } := by
    decide +kernel
  have hSecond : (claim 60 (leasesAfter (claim 0 KeyedTable.empty id "203.0.113.8" "a" 60).1 id [])
      id "203.0.113.8" "b" 60).2 =
        { claimed := true, key := "203.0.113.8", holder := "b", state := "active" } := by
    decide +kernel
  have hOthers : ∀ call ∈ ([] : List (ℚ × Call)), strip call.2.owner ≠ strip "a" := nofun
  have hOther : strip "b" ≠ strip "a" := by decide +kernel
  exact exits_exclusive hFirst rfl hOthers hSecond rfl rfl hOther

/- A task releases its exit, and the next one waits. -/
theorem cooldown_kept_next_task : ∃ reading ∈ [(31 : ℚ)], 1 + 30 ≤ reading := by
  let l : Lease := ⟨"203.0.113.9", "a", .active, 60⟩
  have hClaim : (claim 31 (leasesAfter (release_owner 1 (KeyedTable.empty.put l) "a" 30).1 id [])
      id "203.0.113.9" "b" 60).2 =
        { claimed := true, key := "203.0.113.9", holder := "b", state := "active" } := by
    decide +kernel
  have hOwner : strip "a" = "a" := by decide +kernel
  exact cooldown_kept (l := l) rfl (by rw [hOwner]; rfl) (by decide) (by rw [hOwner]; decide)
    (by decide) hClaim rfl

----
-- Refreshes
----

/- When the lease of the owner ends after calls that all come before its end, if the owner only
   refreshes it. -/
def endAfter (owner_key : String) (ends : ℚ) : List (ℚ × Call) → Option ℚ
| [] => some ends
| (now, call) :: calls =>
  if ends ≤ now then none
  else if strip call.owner ≠ owner_key then endAfter owner_key ends calls
  else
    match call with
    | .refresh_owner _ ttl => endAfter owner_key (now + max ttl 1) calls
    | _ => none

theorem refreshed_lease (hLease : t.find? key = some l) (hOwn : l.isOwn (strip owner))
    (hLive : now < l.expires_at) (hOwner : strip owner ≠ "") :
    (refresh_owner now t owner ttl).1.find? key =
      some { l with expires_at := now + max ttl 1 } := by
  unfold refresh_owner
  rw [if_neg hOwner, KeyedTable.find?_updateWhere, find?_prune, hLease, Option.filter_some,
    if_pos (decide_eq_true hLive), Option.map_some, if_pos hOwn]

theorem lease_after {calls : List (ℚ × Call)} {owner_key : String} (hLease : t.find? key = some l)
    (hOwn : l.isOwn owner_key) (hOwner : owner_key ≠ "")
    (hEnds : endAfter owner_key l.expires_at calls = some ends) :
    (leasesAfter t lower calls).find? key = some { l with expires_at := ends } := by
  induction calls generalizing t l with
  | nil =>
    cases hEnds
    exact hLease
  | cons call calls ih =>
    rcases call with ⟨now, call⟩
    unfold endAfter at hEnds
    split at hEnds
    · cases hEnds
    next hLive =>
      have hBefore : now < l.expires_at := not_le.mp hLive
      split at hEnds
      next hOther =>
        have hNot : l.isOwn (strip call.owner) = false := by
          simp only [Lease.isOwn, Bool.and_eq_true, beq_iff_eq] at hOwn
          simp [Lease.isOwn, hOwn.2, Ne.symm hOther]
        exact ih (kept_call hLease hBefore hNot) hOwn hEnds
      next hSame =>
        have hName : strip call.owner = owner_key := not_not.mp hSame
        cases call with
        | refresh_owner owner ttl =>
          have hStored : (refresh_owner now t owner ttl).1.find? key =
              some { l with expires_at := now + max ttl 1 } :=
            refreshed_lease hLease (hName.symm ▸ hOwn) hBefore (hName.symm ▸ hOwner)
          exact ih (l := { l with expires_at := now + max ttl 1 }) hStored hOwn hEnds
        | claim exit_ip owner ttl => cases hEnds
        | release_owner owner cooldown => cases hEnds

/- An owner that refreshes its lease in time keeps every exit it holds from the others. -/
theorem refreshes_keep {calls : List (ℚ × Call)} {owner_key : String} {answer : ExitIPClaim}
    (hLease : t.find? answer.key = some l) (hOwn : l.isOwn owner_key) (hOwner : owner_key ≠ "")
    (hEnds : endAfter owner_key l.expires_at calls = some ends) (hTime : now < ends)
    (hOther : strip other ≠ owner_key)
    (hClaim : (claim now (leasesAfter t lower calls) lower exit_ip other ttl).2 = answer) :
    answer.claimed = false := by
  by_contra hNot
  have hGranted : answer.claimed := (Bool.eq_false_or_eq_true _).resolve_right hNot
  have hStored : (leasesAfter t lower calls).find? answer.key =
      some { l with expires_at := ends } := lease_after hLease hOwn hOwner hEnds
  have hNotOwn : ({ l with expires_at := ends } : Lease).isOwn (strip other) = false := by
    simp only [Lease.isOwn, Bool.and_eq_true, beq_iff_eq] at hOwn
    simp [Lease.isOwn, hOwn.2, Ne.symm hOther]
  exact absurd (ended_of_granted hClaim hGranted hStored hNotOwn) (not_le.mpr hTime)

/- A task refreshes its lease of ten seconds after five of them, for another twenty. -/
theorem refreshes_keep_one_refresh :
    (⟨false, "203.0.113.11", "a", "active", 1⟩ : ExitIPClaim).claimed = false := by
  let l : Lease := ⟨"203.0.113.11", "a", .active, 10⟩
  have hClaim : (claim 24 (leasesAfter (KeyedTable.empty.put l) id [(5, .refresh_owner "a" 20)])
      id "203.0.113.11" "b" 60).2 = ⟨false, "203.0.113.11", "a", "active", 1⟩ := by
    decide +kernel
  have hEnds : endAfter "a" 10 [(5, .refresh_owner "a" 20)] = some 25 := by decide +kernel
  have hOther : strip "b" ≠ "a" := by decide +kernel
  exact refreshes_keep (l := l) rfl rfl (by decide) hEnds (by decide) hOther hClaim

end ExitRegistry
