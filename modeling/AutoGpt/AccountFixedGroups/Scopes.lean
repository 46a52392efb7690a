import AutoGpt.AccountFixedGroups.Revision

/-
  The accounts that a filter scope selects in the account list
  (`account_filtered_query`) beside the accounts that the groups
  report as their members.

  Main theorems: `scopes_agree_iff`
-/

open PyText (strip strip_strip)
open Option
open KeyedTable

----
-- Selected Accounts
----

namespace AccountFixedGroups

/- SQLite's `lower(text)`, which knows ASCII letters only. -/
def sql_lower (s : String) : String := String.ofList (s.toList.map Char.toLower)

/- The conditions of `stable_membership`; `replace(cast(created_at), ' ', 'T')` is the UTC text. -/
def stable_membership (account : Account) (member : Member) : Bool :=
  member.account_id == account.id && sql_lower member.account_email == sql_lower account.email &&
    member.account_created_at == account_created_at_identity account.created_at

/- The condition that the scope of a filter adds, for ChatGPT accounts. -/
def scopeSelects (env : Env) (db : Db) (source : FilterSource) (account : Account) : Bool :=
  let secondary_scope := normalize_secondary_scope env source.secondary_scope
  let primary_preset_id := strip source.primary_preset_id
  let stable := db.members.rows.filter (stable_membership account)
  if secondary_scope = "fixed" then
    stable.any (fun member => member.fixed_group_id == strip source.fixed_group_id)
  else if secondary_scope = "unassigned" ∧ primary_preset_id ≠ "" then
    !stable.any (fun member => (db.groups.find? member.fixed_group_id).any
      (fun group => group.parent_preset_id == primary_preset_id))
  else !stable.any (fun _ => true)

/- The ids of `account_filtered_query` without other filters. -/
def account_filtered_query (env : Env) (db : Db) (source : FilterSource) : List Int :=
  ((db.accounts.rows.filter (fun account => account.platform == "chatgpt")).filter
    (scopeSelects env db source)).map Account.id

/- The two readings of a member row agree: texts equal up to the case of ASCII letters as they are
   stored, or equal after stripping and lowering under a group id without spaces. -/
def StableAlike (env : Env) (account : Account) (member : Member) : Prop :=
  (sql_lower member.account_email = sql_lower account.email ∧
      member.account_created_at = account_created_at_identity account.created_at) ↔
    (env.lower (strip account.email) = env.lower (strip member.account_email) ∧
      account_created_at_identity account.created_at = strip member.account_created_at) ∧
      strip member.fixed_group_id = member.fixed_group_id

variable {env : Env} {db : Db}

theorem accountById_of_mem (hMem : account ∈ db.accounts.rows)
    (hPlatform : account.platform = "chatgpt") : db.accountById account.id = some account := by
  unfold Db.accountById
  rw [find?_of_mem hMem]
  simp [Option.filter, hPlatform]

theorem mem_account_filtered_query :
    account_id ∈ account_filtered_query env db source ↔
      ∃ account, db.accountById account_id = some account ∧
        scopeSelects env db source account := by
  unfold account_filtered_query
  simp only [List.mem_map, List.mem_filter, beq_iff_eq]
  constructor
  · rintro ⟨account, ⟨⟨hMem, hPlatform⟩, hSelects⟩, rfl⟩
    exact ⟨account, accountById_of_mem hMem hPlatform, hSelects⟩
  · rintro ⟨account, hAccount, hSelects⟩
    have hId := id_of_accountById hAccount
    unfold Db.accountById at hAccount
    rw [filter_eq_some_iff, beq_iff_eq] at hAccount
    exact ⟨account, ⟨⟨(mem_of_find? hAccount.1).1, hAccount.2⟩, hSelects⟩, hId⟩

theorem any_stable :
    (db.members.rows.filter (stable_membership account)).any p ↔
      ∃ member, db.members.find? account.id = some member ∧
        (sql_lower member.account_email = sql_lower account.email ∧
          member.account_created_at = account_created_at_identity account.created_at) ∧
        p member := by
  simp only [List.any_eq_true, List.mem_filter, stable_membership, Bool.and_eq_true, beq_iff_eq]
  constructor
  · rintro ⟨member, ⟨hMem, ⟨hKey, hEmail⟩, hCreated⟩, hHolds⟩
    exact ⟨member, hKey ▸ find?_of_mem hMem, ⟨hEmail, hCreated⟩, hHolds⟩
  · rintro ⟨member, hFound, hSame, hHolds⟩
    rcases mem_of_find? hFound with ⟨hMem, hKey⟩
    exact ⟨member, ⟨hMem, ⟨hKey, hSame.1⟩, hSame.2⟩, hHolds⟩

theorem identityChanged_eq_false :
    identityChanged env account member = false ↔
      env.lower (strip account.email) = env.lower (strip member.account_email) ∧
        account_created_at_identity account.created_at = strip member.account_created_at := by
  unfold identityChanged
  rw [Bool.or_eq_false_iff, bne_eq_false_iff_eq, bne_eq_false_iff_eq]
  exact and_congr eq_comm eq_comm

/- An account is a reported member of some group. -/
theorem reported_iff (hAccount : db.accountById account.id = some account) :
    (∃ group_id, account.id ∈ fixed_group_member_ids env db group_id) ↔
      ∃ member, db.members.find? account.id = some member ∧
        identityChanged env account member = false ∧
        strip member.fixed_group_id = member.fixed_group_id := by
  simp only [mem_fixed_group_member_ids]
  constructor
  · rintro ⟨group_id, member, found, hMember, hGroup, hFound, hSame⟩
    rw [hAccount, some.injEq] at hFound
    subst hFound
    refine ⟨member, hMember, hSame, ?_⟩
    rw [hGroup, strip_strip]
  · rintro ⟨member, hMember, hSame, hStripped⟩
    exact ⟨member.fixed_group_id, member, account, hMember, hStripped.symm, hAccount, hSame⟩

/- The scope of a group selects the members it reports, and the scope of unassigned accounts selects
   those that no group reports, just when the query and the groups read each member row of a ChatGPT
   account alike. -/
theorem scopes_agree_iff (env : Env) (db : Db) (hSmall : env.lower "unassigned" = "unassigned") :
    ((∀ source, normalize_secondary_scope env source.secondary_scope = "fixed" →
        ∀ account_id, account_id ∈ account_filtered_query env db source ↔
          account_id ∈ fixed_group_member_ids env db source.fixed_group_id) ∧
      ∀ source, normalize_secondary_scope env source.secondary_scope = "unassigned" →
        strip source.primary_preset_id = "" →
          ∀ account_id, account_id ∈ account_filtered_query env db source ↔
            (db.accountById account_id).isSome ∧
              ∀ group_id, account_id ∉ fixed_group_member_ids env db group_id) ↔
      ∀ account member, db.accountById account.id = some account →
        db.members.find? account.id = some member → StableAlike env account member := by
  have hUnassigned {source : FilterSource}
      (hScope : normalize_secondary_scope env source.secondary_scope = "unassigned")
      (hPrimary : strip source.primary_preset_id = "") (account : Account) :
      scopeSelects env db source account ↔
        ¬ ∃ member, db.members.find? account.id = some member ∧
          (sql_lower member.account_email = sql_lower account.email ∧
            member.account_created_at = account_created_at_identity account.created_at) := by
    unfold scopeSelects
    rw [hScope, hPrimary, if_neg (by decide), if_neg (by simp), Bool.not_eq_true',
      ← Bool.not_eq_true, any_stable]
    simp
  constructor
  · rintro ⟨_, hFree⟩ account member hAccount hMember
    have hScope : normalize_secondary_scope env "unassigned" = "unassigned" := by
      have hStrip : strip "unassigned" = "unassigned" := by decide +kernel
      unfold normalize_secondary_scope
      rw [hStrip, hSmall]
      decide +kernel
    have hBlank : strip "" = "" := by decide +kernel
    have hSelects := @hUnassigned { secondary_scope := "unassigned" } hScope hBlank account
    have hReported := @reported_iff env _ _ hAccount
    have hIff := hFree { secondary_scope := "unassigned" } hScope hBlank account.id
    rw [mem_account_filtered_query, hAccount] at hIff
    simp only [some.injEq, exists_eq_left', hSelects, isSome_some, true_and,
      ← not_exists, hReported, not_iff_not] at hIff
    simp only [hMember, some.injEq, exists_eq_left', identityChanged_eq_false] at hIff
    exact hIff
  · intro hAlike
    constructor
    · intro source hScope account_id
      have hStripped : strip (strip source.fixed_group_id) =
          strip source.fixed_group_id := strip_strip _
      rw [mem_account_filtered_query, mem_fixed_group_member_ids]
      constructor
      · rintro ⟨account, hAccount, hSelects⟩
        have hId := id_of_accountById hAccount
        unfold scopeSelects at hSelects
        rw [if_pos hScope, any_stable] at hSelects
        rcases hSelects with ⟨member, hMember, hSame, hGroup⟩
        rw [← hId] at hAccount ⊢
        have hRead := (hAlike account member hAccount hMember).mp hSame
        exact ⟨member, account, hMember, beq_iff_eq.mp hGroup, hAccount,
          identityChanged_eq_false.mpr hRead.1⟩
      · rintro ⟨member, account, hMember, hGroup, hAccount, hSame⟩
        have hId := id_of_accountById hAccount
        rw [← hId] at hAccount hMember ⊢
        refine ⟨account, hAccount, ?_⟩
        unfold scopeSelects
        rw [if_pos hScope, any_stable]
        refine ⟨member, hMember, (hAlike account member hAccount hMember).mpr
          ⟨identityChanged_eq_false.mp hSame, ?_⟩, beq_iff_eq.mpr hGroup⟩
        rw [hGroup, hStripped]
    · intro source hScope hPrimary account_id
      rw [mem_account_filtered_query]
      cases hAccount : db.accountById account_id with
      | none => simp
      | some account =>
        have hId := id_of_accountById hAccount
        rw [← hId] at hAccount ⊢
        have hReported := @reported_iff env _ _ hAccount
        simp only [some.injEq, exists_eq_left', hUnassigned hScope hPrimary,
          isSome_some, true_and, ← not_exists, hReported, not_iff_not]
        refine exists_congr fun member => and_congr_right fun hMember => ?_
        rw [identityChanged_eq_false]
        exact hAlike account member hAccount hMember

theorem sample_scopes_agree :
    ((∀ source, normalize_secondary_scope sampleEnv source.secondary_scope = "fixed" →
        ∀ account_id, account_id ∈ account_filtered_query sampleEnv sampleDb source ↔
          account_id ∈ fixed_group_member_ids sampleEnv sampleDb source.fixed_group_id) ∧
      ∀ source, normalize_secondary_scope sampleEnv source.secondary_scope = "unassigned" →
        strip source.primary_preset_id = "" →
          ∀ account_id, account_id ∈ account_filtered_query sampleEnv sampleDb source ↔
            (sampleDb.accountById account_id).isSome ∧
              ∀ group_id, account_id ∉ fixed_group_member_ids sampleEnv sampleDb group_id) ↔
      ∀ account member, sampleDb.accountById account.id = some account →
        sampleDb.members.find? account.id = some member → StableAlike sampleEnv account member :=
  scopes_agree_iff sampleEnv sampleDb rfl

/- An account whose stored address has a blank in front. -/
def paddedDb : Db :=
  { sampleDb with
    accounts := { rows := [{ id := 1, email := " a@example.com" }], keys_nodup := by decide } }

/- The group reports the account, its scope does not select it. -/
theorem padded_member_not_selected :
    ¬ ∀ (db : Db) (source : FilterSource) (account_id : Int),
      normalize_secondary_scope sampleEnv source.secondary_scope = "fixed" →
        (account_id ∈ account_filtered_query sampleEnv db source ↔
          account_id ∈ fixed_group_member_ids sampleEnv db source.fixed_group_id) := by
  intro hAll
  have hReported : 1 ∈ fixed_group_member_ids sampleEnv paddedDb "fixed_1" :=
    mem_fixed_group_member_ids.mpr ⟨_, _, rfl, by decide +kernel, rfl, by decide +kernel⟩
  have hSelected := (hAll paddedDb { secondary_scope := "fixed", fixed_group_id := "fixed_1" } 1
    (by decide +kernel)).mpr hReported
  exact absurd hSelected (by decide +kernel)

end AccountFixedGroups
