import AutoGpt.AccessTokens.Effects

/-
  The response of one claim request: it holds no account and
  no access token twice. The scans go through the accounts by
  increasing id, and the fingerprints of the tokens sent so
  far are kept.

  The main theorems are:
    * `AccessTokens.scanAccounts_sorted`
    * `AccessTokens.distinct_step`
    * `AccessTokens.known_step`
-/

open List
open KeyedTable

----
-- Rounds
----

namespace AccessTokens

/- The items of a claim request so far, and the accounts that are still ahead of it. -/
structure Round.Distinct (env : Env) (r : Round) (ahead : List Nat) : Prop where
  accounts : (r.claimed.map Item.account_id).Nodup
  tokens : (r.claimed.map Item.access_token).Nodup
  seen : ∀ item ∈ r.claimed, item.account_id ≤ r.last_seen_id
  before : ∀ item ∈ r.claimed, ∀ account_id ∈ ahead, item.account_id < account_id
  sent : ∀ item ∈ r.claimed, fingerprintToken env item.access_token ∈ r.sent_fingerprints
  sorted : ahead.Pairwise (fun a b => a < b)

/- A claim request that handles an account. -/
def Round.Handles (env : Env) (r : Round) (account_id : Nat) (ahead : List Nat) : Prop :=
  r.Distinct env (account_id :: ahead) ∧ account_id ≤ r.last_seen_id

/- A token that no item holds, with its fingerprint. -/
def Round.Sends (env : Env) (r : Round) (access_token : String) : Prop :=
  fingerprintToken env access_token ∈ r.sent_fingerprints ∧
    ∀ item ∈ r.claimed, item.access_token ≠ access_token

/- The items of a request and of its response. -/
def Job.Distinct (env : Env) : Job → Prop
| .scan r => r.Distinct env []
| .visit r batch => r.Distinct env batch.ids
| .reserve r account batch => r.Handles env account.id batch.ids
| .insert r account ids => r.Handles env account.id ids
| .preflight r claim ids => r.Handles env claim.account_id ids
| .probe r claim _ _ ids => r.Handles env claim.account_id ids
| .reread r claim _ ids => r.Handles env claim.account_id ids
| .record r claim _ access_token ids =>
    r.Handles env claim.account_id ids ∧ ∀ token, access_token = some token → r.Sends env token
| .finished (.items items) =>
    (items.map Item.account_id).Nodup ∧ (items.map Item.access_token).Nodup
| _ => True

variable {r : Round}

theorem Round.Distinct.handle (hDistinct : r.Distinct env (account_id :: ahead)) :
    Round.Handles env
      { r with last_seen_id := max r.last_seen_id account_id }
      account_id ahead := by
  refine ⟨⟨hDistinct.accounts, hDistinct.tokens, ?_,
    hDistinct.before, hDistinct.sent, hDistinct.sorted⟩, ?_⟩
  · intro item hItem
    have hSeen := hDistinct.seen item hItem
    dsimp only
    omega
  · dsimp only
    omega

theorem Round.Handles.skip (hHandles : r.Handles env account_id ahead) :
    r.Distinct env ahead where
  accounts := hHandles.1.accounts
  tokens := hHandles.1.tokens
  seen := hHandles.1.seen
  before := fun item hItem id hId => hHandles.1.before item hItem id (mem_cons_of_mem _ hId)
  sent := hHandles.1.sent
  sorted := (pairwise_cons.mp hHandles.1.sorted).2

theorem Round.Distinct.stop (hDistinct : r.Distinct env ahead) :
    r.Distinct env [] where
  accounts := hDistinct.accounts
  tokens := hDistinct.tokens
  seen := hDistinct.seen
  before := nofun
  sent := hDistinct.sent
  sorted := .nil

/- The token of an item is sent. -/
theorem Round.Handles.send (hHandles : r.Handles env account_id ahead)
    (hAccount : item.account_id = account_id) (hSends : r.Sends env item.access_token) :
    Round.Distinct env { r with claimed := r.claimed ++ [item] }
      ahead := by
  have hSkip := hHandles.skip
  have hSorted := pairwise_cons.mp hHandles.1.sorted
  constructor
  · rw [map_append, nodup_append]
    refine ⟨hSkip.accounts, by simp, ?_⟩
    intro a ha b hb hSame
    rcases mem_map.mp ha with ⟨old, hOld, hId⟩
    have hLess := hHandles.1.before old hOld account_id mem_cons_self
    simp only [map_cons, map_nil, mem_singleton] at hb
    omega
  · rw [map_append, nodup_append]
    refine ⟨hSkip.tokens, by simp, ?_⟩
    intro a ha b hb hSame
    rcases mem_map.mp ha with ⟨old, hOld, hToken⟩
    simp only [map_cons, map_nil, mem_singleton] at hb
    exact hSends.2 old hOld (hToken.trans (hSame.trans hb))
  · intro other hOther
    rcases mem_append.mp hOther with hOld | hNew
    · exact hSkip.seen other hOld
    · rw [mem_singleton.mp hNew, hAccount]
      exact hHandles.2
  · intro other hOther id hId
    rcases mem_append.mp hOther with hOld | hNew
    · exact hSkip.before other hOld id hId
    · rw [mem_singleton.mp hNew, hAccount]
      exact hSorted.1 id hId
  · intro other hOther
    rcases mem_append.mp hOther with hOld | hNew
    · exact hSkip.sent other hOld
    · rw [mem_singleton.mp hNew]
      exact hSends.1
  · exact hSkip.sorted

end AccessTokens

----
-- Scans
----

namespace AccessTokens

theorem scanAccounts_sorted (last_seen_id : Nat) (accounts : Accounts) :
    ((scanAccounts last_seen_id accounts).map Account.id).Pairwise (fun a b => a < b) := by
  rw [pairwise_map]
  apply List.Pairwise.sublist (take_sublist _ _)
  generalize
    hWanted : (accounts.rows.filter fun account => decide (account.platform = "chatgpt") &&
          decide (account.status ∉ excludedStatuses) &&
          decide (last_seen_id < account.id)) = wanted
  have hSorted : (wanted.mergeSort fun a b =>
        decide (a.id ≤ b.id)).Pairwise (fun a b => decide (a.id ≤ b.id)) := by
    apply pairwise_mergeSort
    · intro a b c hab hbc
      simp only [decide_eq_true_eq] at hab hbc ⊢
      omega
    · intro a b
      simp only [Bool.or_eq_true, decide_eq_true_eq]
      omega
  have hNodup : (wanted.map Account.id).Nodup := by
    rw [← hWanted]
    exact accounts.keys_nodup.sublist (filter_sublist.map Account.id)
  have hDiffer := ((mergeSort_perm wanted
      (fun a b => decide (a.id ≤ b.id))).map Account.id).nodup_iff.mpr hNodup
  refine (hSorted.and (pairwise_map.mp hDiffer)).imp ?_
  intro a b hBoth
  have hLe := of_decide_eq_true hBoth.1
  have hNe := hBoth.2
  omega

theorem mem_scanAccounts (hMem : account ∈ scanAccounts last_seen_id accounts) :
    account ∈ accounts.rows ∧ last_seen_id < account.id := by
  have hWanted := mem_filter.mp (mem_mergeSort.mp (mem_of_mem_take hMem))
  simp only [Bool.and_eq_true, decide_eq_true_eq] at hWanted
  exact ⟨hWanted.1, hWanted.2.2⟩

end AccessTokens

----
-- Steps
----

namespace AccessTokens

theorem visitAccount_distinct {r : Round} (hDistinct : r.Distinct env (account.id :: rest.ids)) :
    (visitAccount env r account rest s).2.Distinct env := by
  have hHandles := hDistinct.handle
  unfold visitAccount
  dsimp only
  generalize locallySendable env account r.now = sendable
  split
  · exact hHandles.skip.stop
  · split
    · exact hHandles
    · exact hHandles.skip

theorem visit_distinct {r : Round} (hDistinct : r.Distinct env batch.ids) :
    (visit env r batch s).2.Distinct env := by
  cases batch with
  | loaded accounts =>
    cases accounts with
    | nil => exact hDistinct
    | cons account rest => exact visitAccount_distinct hDistinct
  | expired ids =>
    cases ids with
    | nil => exact hDistinct
    | cons id rest =>
      cases hFound : s.accounts.find? id with
      | none =>
        simp only [visit, hFound]
        exact trivial
      | some account =>
        have hId := (mem_of_find? hFound).2
        simp only [visit, hFound]
        apply visitAccount_distinct
        rw [hId]
        exact hDistinct

theorem fingerprintToken_ne_empty (hToken : access_token ≠ "")
    (hStrip : PyText.strip access_token = access_token) :
    fingerprintToken env access_token ≠ "" := by
  intro hEmpty
  unfold fingerprintToken at hEmpty
  dsimp only at hEmpty
  rw [hStrip, if_neg hToken] at hEmpty
  have hList := congrArg String.toList hEmpty
  rw [String.toList_append] at hList
  have hParts := (append_eq_nil_iff.mp hList).1
  revert hParts
  decide

theorem reread_distinct {r : Round}
    (hSound : answer.Sound env) (hHandles : r.Handles env claim.account_id ids) :
    (reread r claim answer ids s).2.Distinct env := by
  unfold reread
  split
  next _ => trivial
  next account hAccount =>
    cases answer with
    | rejected status reason auth_state plan => exact ⟨hHandles, nofun⟩
    | ready access_token token_source token_fingerprint
        auth_state plan =>
        rcases hSound with ⟨hToken, hStrip, hFingerprint⟩
        dsimp only
        split
        next _ => exact ⟨hHandles, nofun⟩
        next hNew =>
          have hUnsent : fingerprintToken env access_token ∉ r.sent_fingerprints := by
            intro hMem
            rw [hFingerprint] at hNew
            exact hNew ⟨fingerprintToken_ne_empty hToken hStrip, hMem⟩
          refine ⟨⟨⟨hHandles.1.accounts, hHandles.1.tokens, hHandles.1.seen, hHandles.1.before, ?_,
            hHandles.1.sorted⟩, hHandles.2⟩, ?_⟩
          · intro item hItem
            exact mem_cons_of_mem _ (hHandles.1.sent item hItem)
          · intro token hSome
            rw [← Option.some.inj hSome]
            constructor
            · rw [hFingerprint]
              exact mem_cons_self
            · intro item hItem hSame
              apply hUnsent
              rw [← hSame]
              exact hHandles.1.sent item hItem

/- No step repeats an account or a token. -/
theorem distinct_step (draw : Draw) (hLinked : job.Linked env s) (hDistinct : job.Distinct env) :
    (stepJob env draw s job).2.Distinct env := by
  cases job with
  | expire request config => exact ⟨.nil, .nil, nofun, nofun, nofun, .nil⟩
  | scan r =>
    simp only [stepJob, scan]
    split
    · exact ⟨hDistinct.accounts, hDistinct.tokens⟩
    · split
      next _ => exact ⟨hDistinct.accounts, hDistinct.tokens⟩
      next accounts _ =>
        refine ⟨hDistinct.accounts, hDistinct.tokens, hDistinct.seen, ?_, hDistinct.sent,
          scanAccounts_sorted r.last_seen_id s.accounts⟩
        intro item hItem account_id hId
        rcases mem_map.mp hId with ⟨account, hMem, hSame⟩
        have hSeen := hDistinct.seen item hItem
        have hAhead := (mem_scanAccounts hMem).2
        omega
  | visit r batch => exact visit_distinct hDistinct
  | reserve r account batch =>
    simp only [stepJob, reserve]
    split
    · exact hDistinct.skip
    · exact hDistinct
  | insert r account ids =>
    simp only [stepJob, insert]
    split
    · exact hDistinct.skip
    · exact hDistinct
  | preflight r claim ids =>
    simp only [stepJob, preflight]
    split
    · exact trivial
    · exact hDistinct
  | probe r claim account now ids =>
    simp only [stepJob, probe]
    split
    · exact trivial
    · exact hDistinct
  | reread r claim answer ids => exact reread_distinct hLinked.2 hDistinct
  | record r claim account access_token ids =>
    simp only [stepJob, record]
    split
    · exact trivial
    · cases access_token with
      | none => exact hDistinct.1.skip
      | some token => exact hDistinct.1.send hLinked.2.1 (hDistinct.2 token rfl)
  | find claim_id purpose =>
    simp only [stepJob, find]
    split <;> exact trivial
  | findAccount row purpose =>
    simp only [stepJob, findAccount]
    repeat' split
    all_goals exact trivial
  | release row account reason =>
    simp only [stepJob, release, commitClaim]
    split <;> exact trivial
  | result row account claim_id request status =>
    simp only [stepJob, result, commitClaim]
    split <;> exact trivial
  | finished answer => exact hDistinct

end AccessTokens

----
-- Known Accounts
----

namespace AccessTokens

/- The accounts that a claim request is about to handle. -/
def Job.ahead : Job → List Nat
| .visit _ batch => batch.ids
| .reserve _ account batch => account.id :: batch.ids
| .insert _ account ids => account.id :: ids
| .preflight _ claim ids => claim.account_id :: ids
| .probe _ claim _ _ ids => claim.account_id :: ids
| .reread _ claim _ ids => claim.account_id :: ids
| .record _ claim _ _ ids => claim.account_id :: ids
| _ => []

def Job.Known (s : Shared) (job : Job) : Prop :=
  ∀ account_id ∈ job.ahead, (s.accounts.find? account_id).isSome

theorem find?_persistAccount (account loaded : Account) (accounts : Accounts) (account_id : Nat) :
    (persistAccount account loaded accounts).find? account_id =
      if account_id = account.id then (accounts.find? account.id).map (account.writtenTo loaded)
      else accounts.find? account_id := by
  by_cases hSame : account_id = account.id
  · rw [if_pos hSame, hSame]
    exact find?_updateKey_self accounts _ _ _
  · rw [if_neg hSame]
    exact find?_updateKey_of_ne accounts _ _ hSame

theorem isSome_persistAccount (account loaded : Account) (accounts : Accounts) (account_id : Nat) :
    ((persistAccount account loaded accounts).find? account_id).isSome =
      (accounts.find? account_id).isSome := by
  rw [find?_persistAccount]
  split
  next hSame => rw [Option.isSome_map, hSame]
  next _ => rfl

theorem Effect.account_isSome (hEffect : Effect env draw s job s') (account_id : Nat) :
    (s'.accounts.find? account_id).isSome = (s.accounts.find? account_id).isSome := by
  cases hEffect with
  | quiet _ => rfl
  | expired request config => rfl
  | inserted r account ids claims hInsert => rfl
  | probed r claim account now ids checked result hCheck => exact isSome_persistAccount _ _ _ _
  | recorded r claim account access_token ids claims hUpdate => exact isSome_persistAccount _ _ _ _
  | released row account reason claims hUpdate => exact isSome_persistAccount _ _ _ _
  | resulted row account stored claim_id request status claims
      hUpdate hId hClaim =>
      exact isSome_persistAccount _ _ _ _

theorem visitAccount_ahead {r : Round} {account_id : Nat}
    (hAhead : account_id ∈ (visitAccount env r account rest s).2.ahead) :
    account_id ∈ account.id :: rest.ids := by
  unfold visitAccount at hAhead
  dsimp only at hAhead
  generalize locallySendable env account r.now = sendable at hAhead
  split at hAhead
  · cases hAhead
  · split at hAhead
    · exact hAhead
    · exact mem_cons_of_mem _ hAhead

/- A step goes on with accounts that it knows. -/
theorem stepJob_ahead {account_id : Nat} (hAhead : account_id ∈ (stepJob env draw s job).2.ahead) :
    account_id ∈ job.ahead ∨ (s.accounts.find? account_id).isSome := by
  cases job with
  | scan r =>
    simp only [stepJob, scan] at hAhead
    split at hAhead
    · cases hAhead
    · split at hAhead
      next _ => cases hAhead
      next accounts _ =>
        right
        rcases mem_map.mp hAhead with ⟨account, hMem, hSame⟩
        rw [← hSame, find?_of_mem (mem_scanAccounts hMem).1]
        rfl
  | visit r batch =>
    left
    cases batch with
    | loaded accounts =>
      cases accounts with
      | nil => cases hAhead
      | cons account rest => exact visitAccount_ahead hAhead
    | expired ids =>
      cases ids with
      | nil => cases hAhead
      | cons id rest =>
        simp only [stepJob, visit] at hAhead
        split at hAhead
        next _ => cases hAhead
        next account hFound =>
          have hId := (mem_of_find? hFound).2
          have hOwn := visitAccount_ahead hAhead
          rw [hId] at hOwn
          exact hOwn
  | reserve r account batch =>
    left
    simp only [stepJob, reserve] at hAhead
    split at hAhead
    · exact mem_cons_of_mem _ hAhead
    · exact hAhead
  | insert r account ids =>
    left
    simp only [stepJob, insert] at hAhead
    split at hAhead
    · exact mem_cons_of_mem _ hAhead
    · exact hAhead
  | preflight r claim ids =>
    left
    simp only [stepJob, preflight] at hAhead
    split at hAhead
    · cases hAhead
    · exact hAhead
  | probe r claim account now ids =>
    left
    simp only [stepJob, probe] at hAhead
    split at hAhead
    · cases hAhead
    · exact hAhead
  | reread r claim answer ids =>
    left
    simp only [stepJob, reread] at hAhead
    split at hAhead
    · cases hAhead
    · split at hAhead
      · exact hAhead
      · split at hAhead
        · exact hAhead
        · exact hAhead
  | record r claim account access_token ids =>
    left
    simp only [stepJob, record] at hAhead
    split at hAhead
    · cases hAhead
    · exact mem_cons_of_mem _ hAhead
  | find claim_id purpose =>
    simp only [stepJob, find] at hAhead
    split at hAhead <;> cases hAhead
  | findAccount row purpose =>
    simp only [stepJob, findAccount] at hAhead
    repeat' split at hAhead
    all_goals cases hAhead
  | release row account reason =>
    simp only [stepJob, release, commitClaim] at hAhead
    split at hAhead <;> cases hAhead
  | result row account claim_id request status =>
    simp only [stepJob, result, commitClaim] at hAhead
    split at hAhead <;> cases hAhead
  | expire request config => cases hAhead
  | finished answer => cases hAhead

theorem known_step (draw : Draw) (hKnown : job.Known s) :
    (stepJob env draw s job).2.Known (stepJob env draw s job).1 := by
  intro account_id hAhead
  have hEffect : Effect env draw s job (stepJob env draw s job).1 := stepJob_effect job
  rw [hEffect.account_isSome account_id]
  rcases stepJob_ahead hAhead with hOld | hStored
  · exact hKnown account_id hOld
  · exact hStored

end AccessTokens
