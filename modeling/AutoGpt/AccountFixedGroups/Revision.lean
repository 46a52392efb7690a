import AutoGpt.AccountFixedGroups.Replace

/-
  The revision of a fixed group against its member set, over
  any sequence of operations. A replacement raises the
  revision of its own group; a group that loses members to it
  keeps the old one.

  Main theorems: `op_sound_iff`, `fixed_groups_sound_iff`
-/

open PyText (strip)
open KeyedTable (find?_deleteWhere find?_updateKey_self mem_of_find?)
open Machine (Steps run)
open Option

----
-- Statements
----

namespace AccountFixedGroups

/- The group has the same rows and lists the same members. -/
def SameMembers (env : Env) (db next : Db) (group_id : String) : Prop :=
  (∀ account_id, HasRow db group_id account_id ↔ HasRow next group_id account_id) ∧
  ∀ account_id, account_id ∈ fixed_group_member_ids env db group_id ↔
      account_id ∈ fixed_group_member_ids env next group_id

/- A scope of the group, with the revision that it shows. -/
def TakenOf (env : Env) (group : Group) (source : FilterSource) :
    Prop :=
  normalize_secondary_scope env source.secondary_scope = "fixed" ∧
    strip source.fixed_group_id = group.id ∧ source.fixed_group_revision = some group.shownRevision

/- The operation creates a group of the id. -/
def Creates (group_id : String) : GroupOp → Prop
| .create_fixed_group new_id _ _ _ _ _ => strip new_id = group_id
| _ => False

/- If the operation changes the members of a group, then it raises the group's revision if it leaves
   it, and a scope that was taken before is rejected from then on. A new group under the same id
   would be another group. -/
def RevisionRaised (env : Env) (db : Db) (op : GroupOp) :
    Prop :=
  ∀ group_id group, db.groups.find? group_id = some group →
    ¬ SameMembers env db (groupStep env db op).1 group_id →
    (∀ group', (groupStep env db op).1.groups.find? group_id = some group' →
        group.revision < group'.revision) ∧
    ∀ source, TakenOf env group source → ∀ later, (∀ op' ∈ later, ¬ Creates group_id op') → ∃ error,
          validate_account_filter_scope env
              (run (groupStep env) (groupStep env db op).1 later) source = .error error

/- After a replacement the group has the rows and the members that the request resolves to. -/
def ReplacedExactly (env : Env) (db : Db) : GroupOp → Prop
| .replace_fixed_group_members group_id account_ids
    move_conflicts max_members now =>
    let after := groupStep env db
        (.replace_fixed_group_members group_id account_ids move_conflicts max_members now)
    ∀ result, after.2 = .replaced result → result.account_ids =
          resolvedIds db account_ids max_members ∧ ∀ account_id,
          (HasRow after.1 (strip group_id) account_id ↔ account_id ∈ result.account_ids) ∧
          (account_id ∈ fixed_group_member_ids env after.1 group_id ↔
            account_id ∈ result.account_ids)
| _ => True

def OneGroup (env : Env) (db : Db) : Prop := ∀ account_id group_id group_id',
    (HasRow db group_id account_id → HasRow db group_id' account_id → group_id = group_id') ∧
    (account_id ∈ fixed_group_member_ids env db group_id →
      account_id ∈ fixed_group_member_ids env db group_id' → strip group_id = strip group_id')

/- The operation moves a requested account out of another group. -/
def TakesMembers (db : Db) : GroupOp → Prop
| .replace_fixed_group_members group_id account_ids
    move_conflicts max_members _ =>
    move_conflicts ∧ (get_fixed_group db group_id).isSome ∧
      ∃ account_id ∈ resolvedIds db account_ids max_members,
        ∃ row, db.members.find? account_id = some row ∧ row.fixed_group_id ≠ strip group_id ∧
          (db.groups.find? row.fixed_group_id).isSome
| _ => False

----
-- Equal Members
----

variable {env : Env} {db next : Db} {group_id : String}

def SameRows (db next : Db) (group_id : String) : Prop :=
  ∀ account_id row, row.fixed_group_id = group_id → (db.members.find? account_id = some row ↔
      next.members.find? account_id = some row)

/- A group with its rows and its accounts keeps its members. -/
theorem SameRows.members (hStripped : strip group_id = group_id)
    (hAccounts : next.accounts = db.accounts) (hRows : SameRows db next group_id) :
    SameMembers env db next group_id := by
  have hAccount : ∀ account_id, next.accountById account_id = db.accountById account_id := by
    intro account_id
    unfold Db.accountById
    rw [hAccounts]
  constructor
  · intro account_id
    rw [hasRow_iff, hasRow_iff]
    constructor
    · rintro ⟨row, hRow, hGroup⟩
      exact ⟨row, (hRows account_id row hGroup).mp hRow, hGroup⟩
    · rintro ⟨row, hRow, hGroup⟩
      exact ⟨row, (hRows account_id row hGroup).mpr hRow, hGroup⟩
  · intro account_id
    rw [mem_fixed_group_member_ids, mem_fixed_group_member_ids, hStripped]
    constructor
    · rintro ⟨row, account, hRow, hGroup, hFound, hIdentity⟩
      rw [← hAccount] at hFound
      exact ⟨row, account, (hRows account_id row hGroup).mp hRow, hGroup, hFound, hIdentity⟩
    · rintro ⟨row, account, hRow, hGroup, hFound, hIdentity⟩
      rw [hAccount] at hFound
      exact ⟨row, account, (hRows account_id row hGroup).mpr hRow, hGroup, hFound, hIdentity⟩

theorem SameRows.of_unchanged (hUnchanged : Unchanged db.members next.members) :
    SameRows db next group_id := by
  intro account_id row _
  rw [hUnchanged account_id]

theorem stripped_of_find? (hGroup : db.groups.find? group_id = some group) :
    strip group_id = group_id := by
  rw [← (mem_of_find? hGroup).2]
  exact group.id_stripped

theorem one_group (env : Env) (db : Db) : OneGroup env db := by
  intro account_id first second
  constructor
  · rw [hasRow_iff, hasRow_iff]
    rintro ⟨row, hRow, hGroup⟩ ⟨row', hRow', hGroup'⟩
    rw [hRow, some.injEq] at hRow'
    rw [← hGroup, ← hGroup', hRow']
  · rw [mem_fixed_group_member_ids, mem_fixed_group_member_ids]
    rintro ⟨row, _, hRow, hGroup, _⟩ ⟨row', _, hRow', hGroup', _⟩
    rw [hRow, some.injEq] at hRow'
    rw [← hGroup, ← hGroup', hRow']

----
-- Stale Scopes
----

/- The group is gone, or its revision is above the bound. -/
def Above (bound : Int) (group_id : String) (db : Db) : Prop :=
  ∀ group, db.groups.find? group_id = some group → bound < group.revision

theorem shownRevision_ge (group : Group) : group.revision ≤ group.shownRevision := by
  unfold Group.shownRevision
  split
  next hZero =>
    omega
  · exact le_rfl

theorem bump_gt (now : String) (group : Group) :
    group.shownRevision < (group.bump now).revision := by
  have hMax := Int.le_max_right 1 group.shownRevision
  unfold Group.bump
  dsimp only
  omega

theorem bump_revision_gt (now : String) (group : Group) :
    group.revision < (group.bump now).revision :=
  Int.lt_of_le_of_lt (shownRevision_ge group) (bump_gt now group)

theorem rejected_of_above
    (hTaken : TakenOf env group source) (hAbove : Above group.shownRevision group.id db) :
    ∃ error, validate_account_filter_scope env db source = .error error := by
  rcases hTaken with ⟨hFixed, hGroup, hRevision⟩
  unfold validate_account_filter_scope
  dsimp only
  rw [if_pos hFixed, hGroup]
  split
  · exact ⟨_, rfl⟩
  · cases hFind : db.groups.find? group.id with
    | none => exact ⟨_, rfl⟩
    | some current =>
      have hLt := hAbove current hFind
      have hShown := shownRevision_ge current
      have hOther : group.shownRevision ≠ current.shownRevision := by omega
      dsimp only
      split
      · exact ⟨_, rfl⟩
      · rw [hRevision]
        dsimp only
        rw [if_pos hOther]
        exact ⟨_, rfl⟩

/- What an operation may do to the table of groups. -/
inductive GroupsEffect (db next : Db) (op : GroupOp) : Prop
where
| same (hGroups : next.groups = db.groups)
| updated
    (group_id : String) (f : Group → Group) (hKey : ∀ group, (f group).id = group.id)
    (hRises : ∀ group, group.revision ≤ (f group).revision)
    (hGroups : next.groups = db.groups.updateKey group_id f hKey)
| deleted
    (p : Group → Bool) (hGroups : next.groups = db.groups.deleteWhere p)
| created
    (group : Group) (hNew : db.groups.find? group.id = none) (hCreates : Creates group.id op)
    (hGroups : next.groups = db.groups.insertNew group)

theorem create_groups (hCreated :
      create_fixed_group db new_id parent_preset_id name description pinned now = some next) :
    ∃ group : Group, group.id = strip new_id ∧ db.groups.find? group.id = none ∧
      next.groups = db.groups.insertNew group ∧
      next.members = db.members ∧
      next.accounts = db.accounts := by
  unfold create_fixed_group at hCreated
  dsimp only at hCreated
  split at hCreated
  · cases hCreated
  next hFree =>
    rw [some.injEq] at hCreated
    subst hCreated
    refine ⟨_, ?_, ?_, rfl, rfl, rfl⟩
    · rfl
    · exact not_isSome_iff_eq_none.mp (fun hTaken => hFree (.inl hTaken))

theorem update_groups
    (hUpdated : update_fixed_group_meta db group name description pinned now = some next) :
    next =
      { db with
        groups := db.groups.updateKey group.id
            (Group.withMeta name description pinned now)
            (Group.withMeta_id name description pinned
              now) } := by
  unfold update_fixed_group_meta at hUpdated
  split at hUpdated
  · cases hUpdated
  · exact (some.inj hUpdated).symm

theorem withMeta_revision (name description : String) (pinned : Bool) (now : String)
    (group : Group) : group.revision ≤ (group.withMeta name description pinned now).revision :=
  le_rfl

theorem groups_effect (env : Env) (db : Db) (op : GroupOp) :
    GroupsEffect db (groupStep env db op).1 op := by
  cases op with
  | create_fixed_group new_id parent_preset_id name description
      pinned now =>
      unfold groupStep
      dsimp only
      split
      · exact .same rfl
      next next hCreated =>
        rcases create_groups hCreated with ⟨group, hId, hNew, hGroups, _⟩
        exact .created group hNew hId.symm hGroups
  | update_fixed_group_meta changed name description pinned
      now =>
      unfold groupStep
      dsimp only
      split
      · exact .same rfl
      · split
        · exact .same rfl
        next next hUpdated =>
          rw [update_groups hUpdated]
          exact .updated _ _
              (Group.withMeta_id name description pinned now)
              (withMeta_revision name description pinned now)
              rfl
  | replace_fixed_group_members changed account_ids
      move_conflicts max_members now =>
      unfold groupStep
      dsimp only
      split
      · exact .same rfl
      · split
        · exact .same rfl
        next next result hReplaced =>
          rcases (replace_ok hReplaced).1.revision with hBumped | ⟨hGroups, _⟩
          · exact .updated _ _ _ (fun group => Int.le_of_lt (bump_revision_gt now group)) hBumped
          · exact .same hGroups
  | delete_fixed_group deleted =>
    unfold groupStep
    dsimp only
    split
    · exact .same rfl
    · exact .deleted _ rfl
  | save_account account => exact .same rfl
  | delete_account account_id => exact .same rfl

/- A group that the operation does not create was there, with no higher revision. -/
theorem group_of_step (hCreates : ¬ Creates group_id op)
    (hAfter : (groupStep env db op).1.groups.find? group_id = some group') :
    ∃ group, db.groups.find? group_id = some group ∧ group.revision ≤ group'.revision := by
  cases groups_effect env db op with
  | same hGroups =>
    rw [hGroups] at hAfter
    exact ⟨group', hAfter, le_rfl⟩
  | updated changed f hKey hRises hGroups =>
    rw [hGroups] at hAfter
    by_cases hHere : group_id = changed
    · rw [hHere, find?_updateKey_self] at hAfter
      rcases map_eq_some_iff.mp hAfter with ⟨group, hGroup, hEq⟩
      refine ⟨group, hHere ▸ hGroup, ?_⟩
      rw [← hEq]
      exact hRises group
    · rw [KeyedTable.find?_updateKey_of_ne _ _ _ hHere]
        at hAfter
      exact ⟨group', hAfter, le_rfl⟩
  | deleted p hGroups =>
    rw [hGroups, find?_deleteWhere, filter_eq_some_iff] at hAfter
    exact ⟨group', hAfter.1, le_rfl⟩
  | created group hNew hCreated hGroups =>
    have hOther : group.id ≠ group_id := by
      intro hSame
      rw [hSame] at hCreated
      exact hCreates hCreated
    rw [hGroups, KeyedTable.find?_insertNew _ hNew, if_neg hOther] at hAfter
    exact ⟨group', hAfter, le_rfl⟩

theorem Above.run (hAbove : Above bound group_id db)
    (hLater : ∀ op ∈ later, ¬ Creates group_id op) :
    Above bound group_id (run (groupStep env) db later) := by
  have hStep : ∀ db op, Above bound group_id db →
        ¬ Creates group_id op → Above bound group_id (groupStep env db op).1 := by
    intro db op hHere hCreates group' hAfter
    rcases group_of_step hCreates hAfter with ⟨group, hGroup, hLe⟩
    exact Int.lt_of_lt_of_le (hHere group hGroup) hLe
  exact @Machine.run_induction_of_steps _ _ _ (groupStep env) (Above bound group_id)
      (fun _ op => ¬ Creates group_id op) hStep db hAbove later
      (Machine.steps_of_forall_mem hLater db)

----
-- One Operation
----

/- Every changed group is gone or has a higher revision. -/
def KeptOrAbove (env : Env) (db next : Db) : Prop :=
  ∀ group_id group, db.groups.find? group_id = some group →
    SameMembers env db next group_id ∨ Above group.shownRevision group_id next

theorem KeptOrAbove.raised (hKept : KeptOrAbove env db (groupStep env db op).1) :
    RevisionRaised env db op := by
  intro group_id group hGroup hChanged
  rcases hKept group_id group hGroup with hSame | hAbove
  · exact absurd hSame hChanged
  · constructor
    · intro group' hAfter
      exact Int.lt_of_le_of_lt (shownRevision_ge group) (hAbove group' hAfter)
    · intro source hTaken later hLater
      have hId := (mem_of_find? hGroup).2
      rw [← hId] at hAbove hLater
      exact rejected_of_above hTaken (hAbove.run hLater)

theorem KeptOrAbove.of_unchanged (hAccounts : next.accounts = db.accounts)
    (hUnchanged : Unchanged db.members next.members) : KeptOrAbove env db next :=
  fun _ _ hGroup =>
    .inl ((SameRows.of_unchanged hUnchanged).members (stripped_of_find? hGroup) hAccounts)

theorem KeptOrAbove.refl (env : Env) (db : Db) : KeptOrAbove env db db :=
  .of_unchanged rfl (fun _ => rfl)

theorem get_fixed_group_eq_some (hGroup : get_fixed_group db group_id = some group) :
    db.groups.find? (strip group_id) = some group ∧ group.id = strip group_id := by
  unfold get_fixed_group at hGroup
  dsimp only at hGroup
  split at hGroup
  · cases hGroup
  · exact ⟨hGroup, (mem_of_find? hGroup).2⟩

theorem hasRow_replaced
    (hEffect : ReplaceEffect env db group now (resolvedIds db values max_members) next result) :
    next.members.find? account_id = some row ↔
      if account_id ∈ resolvedIds db values max_members then
        newRow env db db.members group.id now account_id = some row
      else db.members.find? account_id = some row ∧ row.fixed_group_id ≠ group.id := by
  rw [hEffect.rows]
  split
  · exact Iff.rfl
  · rw [filter_eq_some_iff, bne_iff_ne]

theorem replaced_kept (hGroup : get_fixed_group db group_id = some group)
    (hOk : replace_fixed_group_members env db group values
        move_conflicts max_members now = .ok (next, result))
    (hNone : ¬ TakesMembers db
        (.replace_fixed_group_members group_id values move_conflicts max_members now)) :
    KeptOrAbove env db next := by
  rcases replace_ok hOk with ⟨hEffect, hAllowed⟩
  rcases get_fixed_group_eq_some hGroup with ⟨hFind, hId⟩
  rcases hEffect.revision with hBumped | ⟨_, hUnchanged⟩
  · intro changed current hCurrent
    by_cases hHere : changed = group.id
    · right
      intro after hAfter
      rw [hBumped, hHere, find?_updateKey_self,
        hId, hFind, map_some, some.injEq] at hAfter
      rw [hHere, hId, hFind, some.injEq] at hCurrent
      rw [← hAfter, ← hCurrent]
      exact bump_gt now group
    · left
      refine SameRows.members (stripped_of_find? hCurrent) hEffect.accounts ?_
      intro account_id row hRowGroup
      rw [hasRow_replaced hEffect]
      have hElsewhere : row.fixed_group_id ≠ group.id := by
        rw [hRowGroup]
        exact hHere
      by_cases hMem : account_id ∈ resolvedIds db values max_members
      · rw [if_pos hMem]
        rcases account_of_resolved hMem with ⟨account, hAccount⟩
        constructor
        · intro hRow
          have hConflict :
              account_id ∈ conflictingIds db group.id (resolvedIds db values max_members) := by
            unfold conflictingIds
            rw [List.mem_filter, hRow, any_some, bne_iff_ne]
            exact ⟨hMem, hElsewhere⟩
          have hMoves : move_conflicts := by
            rcases hAllowed with hEmpty | hMoves
            · rw [hEmpty] at hConflict
              exact absurd hConflict List.not_mem_nil
            · exact hMoves
          refine (hNone ⟨hMoves, ?_, ?_⟩).elim
          · rw [hGroup]
            rfl
          · refine ⟨account_id, hMem, row, hRow, ?_, ?_⟩
            · rw [← hId]
              exact hElsewhere
            · rw [hRowGroup, hCurrent]
              rfl
        · intro hRow
          rcases @newRow_spec env _ db.members group.id now _ _
              hAccount with
            ⟨written, hWritten, hWrittenGroup, _⟩
          rw [hWritten, some.injEq] at hRow
          rw [hRow] at hWrittenGroup
          exact absurd hWrittenGroup hElsewhere
      · rw [if_neg hMem]
        exact ⟨fun hRow => ⟨hRow, hElsewhere⟩, fun h => h.1⟩
  · exact .of_unchanged hEffect.accounts hUnchanged

theorem deleted_kept (env : Env) (db : Db) (group : Group) :
    KeptOrAbove env db (delete_fixed_group db group).1 := by
  intro changed current hCurrent
  by_cases hHere : changed = group.id
  · right
    intro after hAfter
    unfold delete_fixed_group at hAfter
    dsimp only at hAfter
    rw [find?_deleteWhere, filter_eq_some_iff] at hAfter
    rcases hAfter with ⟨hFind, hOther⟩
    have hId := (mem_of_find? hFind).2
    rw [hId, hHere, beq_self_eq_true] at hOther
    cases hOther
  · left
    refine SameRows.members (stripped_of_find? hCurrent) rfl ?_
    intro account_id row hRowGroup
    unfold delete_fixed_group
    rw [find?_deleteWhere, filter_eq_some_iff, hRowGroup, beq_false_of_ne hHere]
    exact ⟨fun hRow => ⟨hRow, rfl⟩, fun h => h.1⟩

theorem kept_of_not_takes (hOp : op.onGroups) (hNone : ¬ TakesMembers db op) :
    KeptOrAbove env db (groupStep env db op).1 := by
  cases op with
  | create_fixed_group new_id parent_preset_id name description
      pinned now =>
      unfold groupStep
      dsimp only
      split
      · exact .refl env db
      next next hCreated =>
        rcases create_groups hCreated with ⟨_, _, _, _, hMembers, hAccounts⟩
        refine .of_unchanged hAccounts ?_
        intro account_id
        rw [hMembers]
  | update_fixed_group_meta changed name description pinned
      now =>
      unfold groupStep
      dsimp only
      split
      · exact .refl env db
      · split
        · exact .refl env db
        next next hUpdated =>
          rw [update_groups hUpdated]
          exact .of_unchanged rfl (fun _ => rfl)
  | replace_fixed_group_members changed account_ids
      move_conflicts max_members now =>
      unfold groupStep
      dsimp only
      split
      · exact .refl env db
      next group hGroup =>
        split
        · exact .refl env db
        next next result hReplaced =>
          exact replaced_kept hGroup hReplaced hNone
  | delete_fixed_group deleted =>
    unfold groupStep
    dsimp only
    split
    · exact .refl env db
    · exact deleted_kept env db _
  | save_account account => cases hOp
  | delete_account account_id => cases hOp

/- The rows and members of the group after a replacement. -/
theorem replaced_members (hGroup : get_fixed_group db group_id = some group)
    (hOk : replace_fixed_group_members env db group values
        move_conflicts max_members now = .ok (next, result)) :
    result.account_ids = resolvedIds db values max_members ∧ ∀ account_id,
        (HasRow next (strip group_id) account_id ↔ account_id ∈ result.account_ids) ∧
        (account_id ∈ fixed_group_member_ids env next group_id ↔
          account_id ∈ result.account_ids) := by
  have hEffect := (replace_ok hOk).1
  have hId := (get_fixed_group_eq_some hGroup).2
  refine ⟨hEffect.resolved, ?_⟩
  intro account_id
  rw [hEffect.resolved, hasRow_iff, mem_fixed_group_member_ids]
  have hIn : ∀ {row : Member}, next.members.find? account_id = some row →
        row.fixed_group_id = strip group_id → account_id ∈ resolvedIds db values max_members := by
    intro row hRow hRowGroup
    rw [hasRow_replaced hEffect] at hRow
    by_cases hMem : account_id ∈ resolvedIds db values max_members
    · exact hMem
    · rw [if_neg hMem] at hRow
      exact absurd (hRowGroup.trans hId.symm) hRow.2
  have hOut : account_id ∈ resolvedIds db values max_members → ∃ row account,
          next.members.find? account_id = some row ∧ row.fixed_group_id = strip group_id ∧
            next.accountById account_id = some account ∧
            identityChanged env account row = false := by
    intro hMem
    rcases account_of_resolved hMem with ⟨account, hAccount⟩
    rcases @newRow_spec env _ db.members group.id now _ _
        hAccount with
      ⟨row, hRow, hRowGroup, hIdentity⟩
    refine ⟨row, account, ?_, hRowGroup.trans hId, ?_, hIdentity⟩
    · rw [hasRow_replaced hEffect, if_pos hMem]
      exact hRow
    · unfold Db.accountById at hAccount ⊢
      rw [hEffect.accounts]
      exact hAccount
  constructor
  · constructor
    · rintro ⟨row, hRow, hRowGroup⟩
      exact hIn hRow hRowGroup
    · intro hMem
      rcases hOut hMem with ⟨row, _, hRow, hRowGroup, _⟩
      exact ⟨row, hRow, hRowGroup⟩
  · constructor
    · rintro ⟨row, account, hRow, hRowGroup, _⟩
      exact hIn hRow hRowGroup
    · exact hOut

theorem replaced_exactly (env : Env) (db : Db) (op : GroupOp) : ReplacedExactly env db op := by
  cases op with
  | replace_fixed_group_members group_id account_ids
      move_conflicts max_members now =>
      intro result hAnswer
      cases hGroup : get_fixed_group db group_id with
      | none =>
        simp only [groupStep, hGroup] at hAnswer
        cases hAnswer
      | some group =>
        cases hReplaced : replace_fixed_group_members env db group
              account_ids move_conflicts max_members now with
        | error error =>
          simp only [groupStep, hGroup, hReplaced] at hAnswer
          cases hAnswer
        | ok changed =>
          rcases changed with ⟨next, replaced⟩
          simp only [groupStep, hGroup, hReplaced] at hAnswer ⊢
          cases hAnswer
          exact replaced_members hGroup hReplaced
  | create_fixed_group _ _ _ _ _ _ => trivial
  | update_fixed_group_meta _ _ _ _ _ => trivial
  | delete_fixed_group _ => trivial
  | save_account _ => trivial
  | delete_account _ => trivial

----
-- Runs
----

/- A taken member leaves a group whose revision stays. -/
theorem not_raised_of_takes {env : Env} {db : Db} {op : GroupOp} (hTakes : TakesMembers db op) :
    ¬ RevisionRaised env db op := by
  cases op with
  | replace_fixed_group_members group_id account_ids
      move_conflicts max_members now =>
      rcases hTakes with ⟨hMoves, hSome, account_id, hMem, row, hRow, hOther, hLosing⟩
      rcases isSome_iff_exists.mp hSome with ⟨group, hGroup⟩
      rcases isSome_iff_exists.mp hLosing with ⟨losing, hFind⟩
      have hId := (get_fixed_group_eq_some hGroup).2
      rcases @replace_succeeds env db group _ _ _ now
          (List.ne_nil_of_mem hMem) (.inr hMoves) with
        ⟨next, result, hOk⟩
      have hStep : (groupStep env db
            (.replace_fixed_group_members group_id account_ids
              move_conflicts max_members now)).1 = next := by
        simp only [groupStep, hGroup, hOk]
      have hEffect := (replace_ok hOk).1
      intro hRaised
      have hChanged : ¬ SameMembers env db next row.fixed_group_id := by
        intro hSame
        have hStill := (hSame.1 account_id).mp (hasRow_iff.mpr ⟨row, hRow, rfl⟩)
        have hNow := (((replaced_members hGroup hOk).2 account_id).1).mpr
            (by rw [hEffect.resolved]; exact hMem)
        exact hOther ((one_group env next account_id _ _).1 hStill hNow)
      have hAfter : next.groups.find? row.fixed_group_id = some losing := by
        rcases hEffect.revision with hBumped | ⟨hGroups, _⟩
        · rw [hBumped, KeyedTable.find?_updateKey_of_ne _ _ _ (by rw [hId]; exact hOther)]
          exact hFind
        · rw [hGroups]
          exact hFind
      have hHigher := (hRaised row.fixed_group_id losing hFind (by rw [hStep]; exact hChanged)).1
          losing (by rw [hStep]; exact hAfter)
      exact Int.lt_irrefl _ hHigher
  | create_fixed_group _ _ _ _ _ _ => exact hTakes.elim
  | update_fixed_group_meta _ _ _ _ _ => exact hTakes.elim
  | delete_fixed_group _ => exact hTakes.elim
  | save_account _ => exact hTakes.elim
  | delete_account _ => exact hTakes.elim

/- A group operation keeps the rules exactly when it takes no account from another group. -/
theorem op_sound_iff (hOp : op.onGroups) :
    RevisionRaised env db op ∧ ReplacedExactly env db op ↔ ¬ TakesMembers db op := by
  constructor
  · exact fun hSound hTakes => not_raised_of_takes hTakes hSound.1
  · exact fun hNone => ⟨(kept_of_not_takes hOp hNone).raised, replaced_exactly env db op⟩

theorem onGroups_of_takes (hTakes : TakesMembers db op) : op.onGroups := by
  cases op with
  | replace_fixed_group_members _ _ _ _ _ => rfl
  | create_fixed_group _ _ _ _ _ _ => exact hTakes.elim
  | update_fixed_group_meta _ _ _ _ _ => exact hTakes.elim
  | delete_fixed_group _ => exact hTakes.elim
  | save_account _ => exact hTakes.elim
  | delete_account _ => exact hTakes.elim

/- Over any sequence of operations no account is in two groups and every group operation keeps the
   rules, exactly when no replacement moves an account out of another group. -/
theorem fixed_groups_sound_iff (env : Env) (db : Db) (ops : List GroupOp) :
    (∀ before after, ops = before ++ after → OneGroup env (run (groupStep env) db before)) ∧
      (∀ before op after, ops = before ++ op :: after → op.onGroups → RevisionRaised env
              (run (groupStep env) db before) op ∧
            ReplacedExactly env (run (groupStep env) db before) op) ↔
      Steps (groupStep env) (fun db op => ¬ TakesMembers db op) db ops := by
  rw [Machine.steps_iff_forall_split]
  constructor
  · intro hSound before op after hSplit hTakes
    exact (op_sound_iff (onGroups_of_takes hTakes)).mp
        (hSound.2 before op after hSplit (onGroups_of_takes hTakes)) hTakes
  · intro hNone
    constructor
    · exact fun _ _ _ => one_group env _
    · intro before op after hSplit hOp
      exact (op_sound_iff hOp).mpr (hNone before op after hSplit)

def sampleEnv : Env where
  lower := id
  lower_again := PyText.strip_strip

def sampleDb : Db where
  accounts :=
    { rows := [{ id := 1, email := "a@example.com" }, { id := 2, email := "b@example.com" }]
      keys_nodup := by decide }
  groups :=
    { rows :=
        [{ id := "fixed_1", id_stripped := by decide, parent_preset_id := "preset_1",
           name := "first", revision := 2 },
          { id := "fixed_2", id_stripped := by decide, parent_preset_id := "preset_1",
            name := "second" }]
      keys_nodup := by decide }
  members :=
    { rows := [{ account_id := 1, fixed_group_id := "fixed_1", account_email := "a@example.com" },
          { account_id := 2, fixed_group_id := "fixed_1", account_email := "b@example.com" }]
      keys_nodup := by decide }

/- The second group takes an account from the first one, whose revision stays 2. -/
theorem losing_group_keeps_revision :
    ¬ ∀ (env : Env) (db : Db) (op : GroupOp), op.onGroups → RevisionRaised env db op := by
  intro hRaised
  refine @not_raised_of_takes sampleEnv sampleDb
      (.replace_fixed_group_members "fixed_2" [.other (some 2)] true 5000 "t1")
      ?_ (hRaised sampleEnv sampleDb _ rfl)
  refine ⟨rfl, by decide, 2, by decide, ?_⟩
  exact ⟨_, rfl, by decide, by decide⟩

end AccountFixedGroups
