import AutoGpt.AccountFixedGroups.Model

/-
  What one replacement does to the member table: the resolved
  accounts are the group's members, and the rows of the other
  accounts of other groups stay.

  Main theorems: `replace_ok`, `mem_fixed_group_member_ids`
-/

open KeyedTable (find?_deleteWhere find?_of_mem mem_of_find?)
open List

----
-- Requested Accounts
----

namespace AccountFixedGroups

theorem normalizeLoop_nodup (limit : Nat) (values : List RawId) (result : List Int)
    (hResult : result.Nodup) : (normalizeLoop limit values result).Nodup := by
  induction values generalizing result with
  | nil => exact hResult
  | cons value values ih =>
    cases value with
    | bool value => exact ih result hResult
    | other parsed =>
      cases parsed with
      | none => exact ih result hResult
      | some account_id =>
        unfold normalizeLoop
        by_cases hSkip : account_id ≤ 0 ∨ account_id ∈ result
        · rw [if_pos hSkip]
          exact ih result hResult
        · have hNew : (result ++ [account_id]).Nodup := by
            rw [nodup_append_comm]
            exact nodup_cons.mpr ⟨fun hMem => hSkip (.inr hMem), hResult⟩
          rw [if_neg hSkip]
          split
          · exact hNew
          · exact ih _ hNew

theorem normalize_account_ids_nodup (values : List RawId) (limit : Nat) :
    (normalize_account_ids values limit).Nodup :=
  normalizeLoop_nodup limit values [] nodup_nil

theorem resolvedIds_nodup (db : Db) (values : List RawId) (limit : Nat) :
    (resolvedIds db values limit).Nodup :=
  (normalize_account_ids_nodup values limit).filter _

theorem account_of_resolved {db : Db} (hMem : account_id ∈ resolvedIds db values limit) :
    ∃ account, db.accountById account_id = some account :=
  Option.isSome_iff_exists.mp (mem_filter.mp hMem).2

----
-- The Assignment Loop
----

variable {env : Env} {db : Db}
variable {existing : Members} {group_id now : String}

/- The row of an account that a replacement resolves. -/
def newRow (env : Env) (db : Db) (existing : Members) (group_id now : String) (account_id : Int) :
    Option Member :=
  match db.accountById account_id, existing.find? account_id with
  | none, row => row
  | some account, none => some (Member.assign env group_id account now
          { account_id := account_id, fixed_group_id := group_id })
  | some account, some row =>
    if row.fixed_group_id ≠ group_id ∨ identityChanged env account row then
      some (Member.assign env group_id account now row)
    else some row

theorem find?_assignOne {progress : Progress} {account_id : Int}
    (hStored : progress.members.find? account_id = existing.find? account_id) (other : Int) :
    (assignOne env db existing group_id now progress
        account_id).members.find? other =
      if other = account_id then newRow env db existing group_id now account_id
      else progress.members.find? other := by
  unfold assignOne newRow
  cases hAccount : db.accountById account_id with
  | none =>
    dsimp only
    split
    next hSame =>
      rw [hSame, hStored]
    · rfl
  | some account =>
    cases hRow : existing.find? account_id with
    | none =>
      rw [hRow] at hStored
      rw [KeyedTable.find?_insertNew _ hStored, Member.assign_id]
      by_cases hSame : other = account_id
      · rw [if_pos hSame, if_pos hSame.symm]
      · rw [if_neg hSame, if_neg (Ne.symm hSame)]
    | some row =>
      rw [hRow] at hStored
      dsimp only
      by_cases hWrites : row.fixed_group_id ≠ group_id ∨ identityChanged env account row
      · rw [if_pos hWrites, if_pos hWrites]
        by_cases hSame : other = account_id
        · rw [if_pos hSame, hSame, KeyedTable.find?_updateKey_self, hStored]
          rfl
        · rw [if_neg hSame, KeyedTable.find?_updateKey_of_ne _ _ _ hSame]
      · rw [if_neg hWrites, if_neg hWrites]
        split
        next hSame =>
          rw [hSame, hStored]
        · rfl

theorem find?_assign_all {ids : List Int} {progress : Progress} (hNodup : ids.Nodup)
    (hStored : ∀ account_id ∈ ids, progress.members.find? account_id = existing.find? account_id)
    (other : Int) :
    (ids.foldl (assignOne env db existing group_id now)
        progress).members.find? other =
      if other ∈ ids then newRow env db existing group_id now other
      else progress.members.find? other := by
  induction ids generalizing progress with
  | nil => rw [if_neg not_mem_nil]; rfl
  | cons account_id ids ih =>
    rcases nodup_cons.mp hNodup with ⟨hFresh, hRest⟩
    have hFirst := @find?_assignOne env db existing group_id now progress
        account_id (hStored account_id mem_cons_self)
    have hNext : ∀ later ∈ ids, (assignOne env db existing group_id now progress
              account_id).members.find? later =
            existing.find? later := by
      intro later hLater
      have hNe : later ≠ account_id := fun hSame => hFresh (hSame ▸ hLater)
      rw [hFirst later, if_neg hNe]
      exact hStored later (mem_cons_of_mem _ hLater)
    rw [foldl_cons, ih hRest hNext, hFirst other]
    by_cases hLater : other ∈ ids
    · rw [if_pos hLater, if_pos (mem_cons_of_mem _ hLater)]
    · rw [if_neg hLater]
      by_cases hSame : other = account_id
      · rw [if_pos hSame, if_pos (mem_cons.mpr (.inl hSame)), hSame]
      · rw [if_neg hSame, if_neg (fun hMem => (mem_cons.mp hMem).elim hSame hLater)]

----
-- Silent Replacements
----

structure Progress.Quiet (progress : Progress) : Prop where
  added : progress.added_ids = []
  moved : progress.moved_ids = []
  rebound : progress.rebound_ids = []

theorem Progress.Quiet.of_assignOne
    (hQuiet : (assignOne env db existing group_id now progress account_id).Quiet) :
    progress.Quiet ∧
      newRow env db existing group_id now account_id = existing.find? account_id := by
  rcases hQuiet with ⟨hAdded, hMoved, hRebound⟩
  unfold assignOne at hAdded hMoved hRebound
  unfold newRow
  cases hAccount : db.accountById account_id with
  | none =>
    rw [hAccount] at hAdded hMoved hRebound
    exact ⟨⟨hAdded, hMoved, hRebound⟩, rfl⟩
  | some account =>
    rw [hAccount] at hAdded hMoved hRebound
    cases hRow : existing.find? account_id with
    | none =>
      rw [hRow] at hAdded
      exact absurd hAdded (append_ne_nil_of_right_ne_nil _ (cons_ne_nil _ _))
    | some row =>
      rw [hRow] at hAdded hMoved hRebound
      dsimp only at hAdded hMoved hRebound ⊢
      by_cases hMoves : row.fixed_group_id ≠ group_id
      · rw [if_pos hMoves] at hMoved
        exact absurd hMoved (append_ne_nil_of_right_ne_nil _ (cons_ne_nil _ _))
      · rw [if_neg hMoves] at hMoved
        by_cases hChanged : identityChanged env account row
        · rw [if_pos hChanged] at hRebound
          exact absurd hRebound (append_ne_nil_of_right_ne_nil _ (cons_ne_nil _ _))
        · rw [if_neg hChanged] at hRebound
          rw [if_neg (not_or.mpr ⟨hMoves, hChanged⟩)]
          exact ⟨⟨hAdded, hMoved, hRebound⟩, rfl⟩

theorem Progress.Quiet.of_assign_all {ids : List Int}
    (hQuiet : (ids.foldl (assignOne env db existing group_id now) progress).Quiet) :
    progress.Quiet ∧ ∀ account_id ∈ ids,
        newRow env db existing group_id now account_id = existing.find? account_id := by
  induction ids generalizing progress with
  | nil => exact ⟨hQuiet, fun _ hMem => absurd hMem not_mem_nil⟩
  | cons account_id ids ih =>
    rw [foldl_cons] at hQuiet
    rcases ih hQuiet with ⟨hNext, hRest⟩
    rcases Progress.Quiet.of_assignOne hNext with ⟨hFirst, hSame⟩
    refine ⟨hFirst, ?_⟩
    intro other hMem
    rcases mem_cons.mp hMem with hHead | hTail
    · rw [hHead]
      exact hSame
    · exact hRest other hTail

end AccountFixedGroups

----
-- The Whole Replacement
----

namespace AccountFixedGroups

variable {env : Env} {db : Db} {group : Group}
variable {account_ids : List RawId} {move_conflicts : Bool}
variable {max_members : Nat} {now : String}

def Unchanged (members members' : Members) : Prop :=
  ∀ account_id, members'.find? account_id = members.find? account_id

structure ReplaceEffect (env : Env) (db : Db) (group : Group) (now : String)
    (ids : List Int) (next : Db) (result : Replaced) :
    Prop where
  accounts : next.accounts = db.accounts
  resolved : result.account_ids = ids
  rows : ∀ account_id, next.members.find? account_id =
        if account_id ∈ ids then newRow env db db.members group.id now account_id
        else (db.members.find? account_id).filter (fun row => row.fixed_group_id != group.id)
  revision : next.groups = db.groups.updateKey group.id (Group.bump now) (Group.bump_id now) ∨
      next.groups = db.groups ∧ Unchanged db.members next.members

/- The removed rows are the group's rows of other accounts. -/
def removes (group_id : String) (ids : List Int) (row : Member) :
    Bool :=
  row.fixed_group_id == group_id && !decide (row.account_id ∈ ids)

theorem find?_removed (members : Members) (group_id : String) (ids : List Int) (account_id : Int) :
    (members.deleteWhere (removes group_id ids)).find?
        account_id =
      if account_id ∈ ids then members.find? account_id
      else (members.find? account_id).filter (fun row => row.fixed_group_id != group_id) := by
  rw [find?_deleteWhere]
  cases hRow : members.find? account_id with
  | none => rw [Option.filter_none, Option.filter_none, ite_self]
  | some row =>
    have hKey := (mem_of_find? hRow).2
    unfold removes
    rw [Option.filter_some, Option.filter_some, hKey]
    by_cases hMem : account_id ∈ ids
    · simp [hMem]
    · simp [hMem]

theorem unchanged_of_removed_nil {group_id : String}
    (hRemoved : (members.rows.filter (removes group_id ids)).map (·.account_id) = []) :
    Unchanged members (members.deleteWhere (removes group_id ids)) := by
  intro account_id
  rw [find?_deleteWhere]
  cases hRow : members.find? account_id with
  | none => rfl
  | some row =>
    have hKept : removes group_id ids row = false := by
      rw [map_eq_nil_iff, filter_eq_nil_iff] at hRemoved
      exact Bool.eq_false_iff.mpr (hRemoved row (mem_of_find? hRow).1)
    rw [Option.filter_some, hKept]
    rfl

theorem replace_ok {next : Db}
    (hOk : replace_fixed_group_members env db group account_ids
        move_conflicts max_members now = .ok (next, result)) :
    ReplaceEffect env db group now (resolvedIds db account_ids max_members) next result ∧
      (conflictingIds db group.id (resolvedIds db account_ids max_members) = [] ∨
        move_conflicts) := by
  unfold replace_fixed_group_members at hOk
  dsimp only at hOk
  split at hOk
  · cases hOk
  split at hOk
  · cases hOk
  split at hOk
  · cases hOk
  rename_i hConflict
  have hAllowed : conflictingIds db group.id
          (resolvedIds db account_ids max_members) = [] ∨
        move_conflicts := by
    by_cases hNone : conflictingIds db group.id (resolvedIds db account_ids max_members) = []
    · exact .inl hNone
    · right
      exact Bool.eq_true_of_not_eq_false (fun hMove => hConflict ⟨hNone, hMove⟩)
  refine ⟨?_, hAllowed⟩
  have hNodup := resolvedIds_nodup db account_ids max_members
  generalize resolvedIds db account_ids max_members = ids at hOk hNodup ⊢
  have hStart : ∀ account_id ∈ ids, (db.members.deleteWhere
            (removes group.id ids)).find? account_id =
          db.members.find? account_id := by
    intro account_id hMem
    rw [find?_removed, if_pos hMem]
  have hRows := @find?_assign_all env db db.members group.id now ids
      { members := db.members.deleteWhere (removes group.id ids) } hNodup hStart
  rw [Except.ok.injEq, Prod.mk.injEq] at hOk
  rcases hOk with ⟨hNext, hResult⟩
  subst hNext hResult
  constructor
  · rfl
  · rfl
  · intro account_id
    refine (hRows account_id).trans ?_
    by_cases hMem : account_id ∈ ids
    · rw [if_pos hMem, if_pos hMem]
    · rw [if_neg hMem, if_neg hMem]
      exact (find?_removed _ _ _ _).trans (if_neg hMem)
  · dsimp only
    split
    · exact .inl rfl
    next hSilent =>
      right
      simp only [not_or, not_not] at hSilent
      rcases hSilent with ⟨hAdded, hMoved, hRemoved, hRebound⟩
      refine ⟨rfl, ?_⟩
      have hQuiet := Progress.Quiet.of_assign_all (Progress.Quiet.mk hAdded hMoved hRebound)
      intro account_id
      refine (hRows account_id).trans ?_
      by_cases hMem : account_id ∈ ids
      · rw [if_pos hMem]
        exact hQuiet.2 account_id hMem
      · rw [if_neg hMem]
        exact unchanged_of_removed_nil hRemoved account_id

/- A replacement with accounts and no conflict, or leave to move, succeeds. -/
theorem replace_succeeds (hResolved : resolvedIds db account_ids max_members ≠ [])
    (hAllowed : conflictingIds db group.id (resolvedIds db account_ids max_members) = [] ∨
        move_conflicts) :
    ∃ next result, replace_fixed_group_members env db group account_ids
        move_conflicts max_members now = .ok (next, result) := by
  have hRequested : normalize_account_ids account_ids max_members ≠ [] := by
    intro hNone
    unfold resolvedIds at hResolved
    rw [hNone] at hResolved
    exact hResolved rfl
  have hFree : ¬ (conflictingIds db group.id
            (resolvedIds db account_ids max_members) ≠ [] ∧
          move_conflicts = false) := by
    rintro ⟨hSome, hMove⟩
    rcases hAllowed with hNone | hMoves
    · exact hSome hNone
    · rw [hMoves] at hMove
      cases hMove
  unfold replace_fixed_group_members
  rw [if_neg hRequested, if_neg hResolved, if_neg hFree]
  exact ⟨_, _, rfl⟩

----
-- Membership
----

def HasRow (db : Db) (group_id : String) (account_id : Int) :
    Prop :=
  ∃ row ∈ db.members.rows, row.account_id = account_id ∧ row.fixed_group_id = group_id

theorem hasRow_iff {group_id : String} :
    HasRow db group_id account_id ↔
      ∃ row, db.members.find? account_id = some row ∧ row.fixed_group_id = group_id := by
  constructor
  · rintro ⟨row, hRow, hAccount, hGroup⟩
    refine ⟨row, ?_, hGroup⟩
    rw [← hAccount]
    exact find?_of_mem hRow
  · rintro ⟨row, hRow, hGroup⟩
    rcases mem_of_find? hRow with ⟨hMem, hAccount⟩
    exact ⟨row, hMem, hAccount, hGroup⟩

theorem id_of_accountById
    (hAccount : db.accountById account_id = some account) : account.id = account_id := by
  unfold Db.accountById at hAccount
  rw [Option.filter_eq_some_iff] at hAccount
  exact (mem_of_find? hAccount.1).2

theorem memberAccount_eq_some (hJoin : memberAccount env db member = some (row, account)) :
    row = member ∧ db.accountById member.account_id = some account ∧
      identityChanged env account member = false := by
  unfold memberAccount at hJoin
  split at hJoin
  · cases hJoin
  next found hFound =>
    split at hJoin
    next hIdentity =>
      rw [Option.some.injEq, Prod.mk.injEq] at hJoin
      rcases hJoin with ⟨hRow, hAccount⟩
      subst hRow hAccount
      refine ⟨rfl, hFound, ?_⟩
      unfold identityChanged
      rw [hIdentity.1, hIdentity.2, bne_self_eq_false, bne_self_eq_false]
      rfl
    · cases hJoin

theorem memberAccount_of_identity (hAccount : db.accountById member.account_id = some account)
    (hSame : identityChanged env account member = false) :
    memberAccount env db member = some (member, account) := by
  unfold identityChanged at hSame
  rw [Bool.or_eq_false_iff, bne_eq_false_iff_eq, bne_eq_false_iff_eq] at hSame
  unfold memberAccount
  rw [hAccount]
  exact if_pos ⟨hSame.1.symm, hSame.2.symm⟩

/- The listed members are the accounts that their rows still identify. -/
theorem mem_fixed_group_member_ids {group_id : String} :
    account_id ∈ fixed_group_member_ids env db group_id ↔ ∃ row account,
        db.members.find? account_id = some row ∧ row.fixed_group_id = PyText.strip group_id ∧
          db.accountById account_id = some account ∧ identityChanged env account row = false := by
  unfold fixed_group_member_ids fixed_group_members
  rw [mem_map]
  constructor
  · rintro ⟨⟨row, account⟩, hMem, hId⟩
    rw [mem_mergeSort, mem_filterMap] at hMem
    rcases hMem with ⟨member, hMember, hJoin⟩
    rcases memberAccount_eq_some hJoin with ⟨hRow, hAccount, hIdentity⟩
    subst hRow
    rw [mem_filter, beq_iff_eq] at hMember
    have hKey : row.account_id = account_id := (id_of_accountById hAccount).symm.trans hId
    rw [hKey] at hAccount
    refine ⟨row, account, ?_, hMember.2, hAccount, hIdentity⟩
    rw [← hKey]
    exact find?_of_mem hMember.1
  · rintro ⟨row, account, hRow, hGroup, hAccount, hIdentity⟩
    rcases mem_of_find? hRow with ⟨hMem, hKey⟩
    refine ⟨(row, account), ?_, id_of_accountById hAccount⟩
    rw [mem_mergeSort, mem_filterMap]
    refine ⟨row, ?_, ?_⟩
    · rw [mem_filter, beq_iff_eq]
      exact ⟨hMem, hGroup⟩
    · rw [← hKey] at hAccount
      exact memberAccount_of_identity hAccount hIdentity

theorem identityChanged_assign (group_id : String) (account : Account) (now : String)
    (row : Member) : identityChanged env account (row.assign env group_id account now) = false := by
  unfold identityChanged Member.assign account_created_at_identity
  rw [env.lower_again, PyText.strip_strip, bne_self_eq_false, bne_self_eq_false]
  rfl

/- The row of a resolved account is in the group and identifies the account. -/
theorem newRow_spec {existing : Members} {group_id now : String}
    {account_id : Int} {account : Account} (hAccount : db.accountById account_id = some account) :
    ∃ row, newRow env db existing group_id now account_id = some row ∧
        row.fixed_group_id = group_id ∧ identityChanged env account row = false := by
  unfold newRow
  rw [hAccount]
  cases hRow : existing.find? account_id with
  | none => exact ⟨_, rfl, rfl, identityChanged_assign _ _ _ _⟩
  | some row =>
    dsimp only
    split
    · exact ⟨_, rfl, rfl, identityChanged_assign _ _ _ _⟩
    next hKeeps =>
      rcases not_or.mp hKeeps with ⟨hGroup, hIdentity⟩
      exact ⟨row, rfl, not_not.mp hGroup, Bool.eq_false_iff.mpr hIdentity⟩

end AccountFixedGroups
