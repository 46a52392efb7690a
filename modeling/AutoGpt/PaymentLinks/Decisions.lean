import AutoGpt.PaymentLinks.Import

/-
  The decisions of a plan: what a planned record says about
  its source row, and which parts of the snapshots a decision
  depends on.

  Main theorems: `plan_source_ok`, `latest_max`, `match_account_congr`
-/

open List

----
-- Planned Records
----

namespace PaymentLinks

/- What a record says of the generation it was given. -/
def DecidedBy (s : SourceLink) (r : PlannedRecord) : Prop :=
  (r.existing_generation = none ∧ r.generation_action = .insert) ∨ ∃ g,
      r.existing_generation = some g ∧ generation_matches_account_identity g r.account ∧
        g.account_id = r.account.account_id ∧
        r.generation_action =
          if generation_is_current g s then .existing
          else .update

theorem plan_generation_ok (hPlan : plan_generation s a e = .ok r) :
    r.source = s ∧ r.account = a ∧ r.existing_generation = e ∧ DecidedBy s r := by
  unfold plan_generation at hPlan
  cases e with
  | none =>
    cases hPlan
    exact ⟨rfl, rfl, rfl, .inl ⟨rfl, rfl⟩⟩
  | some g =>
    dsimp only at hPlan
    split at hPlan
    · cases hPlan
    next hIdentity =>
      split at hPlan
      · cases hPlan
      next hAccount =>
        rw [Bool.not_eq_false] at hIdentity
        rw [ne_eq, not_not] at hAccount
        split at hPlan
        next hCurrent =>
          cases hPlan
          exact ⟨rfl, rfl, rfl, .inr ⟨g, rfl, hIdentity, hAccount, (if_pos hCurrent).symm⟩⟩
        next hCurrent =>
          cases hPlan
          exact ⟨rfl, rfl, rfl, .inr ⟨g, rfl, hIdentity, hAccount, (if_neg hCurrent).symm⟩⟩

theorem plan_generation_some (hIdentity : generation_matches_account_identity g a)
    (hAccount : g.account_id = a.account_id) : ∃ r, plan_generation s a (some g) = .ok r := by
  unfold plan_generation
  dsimp only
  rw [if_neg (by simp [hIdentity]), if_neg (by simp [hAccount])]
  split
  · exact ⟨_, rfl⟩
  · exact ⟨_, rfl⟩

theorem plan_source_ok (hPlan : plan_source targets s = .ok r) :
    match_account targets s = .ok r.account ∧
      match_generation targets s r.account = .ok r.existing_generation ∧
      r.source = s ∧ DecidedBy s r := by
  unfold plan_source at hPlan
  cases hAccount : match_account targets s with
  | error e =>
    rw [hAccount] at hPlan
    cases hPlan
  | ok a =>
    rw [hAccount] at hPlan
    dsimp only at hPlan
    cases hGeneration : match_generation targets s a with
    | error e =>
      rw [hGeneration] at hPlan
      cases hPlan
    | ok e =>
      rw [hGeneration] at hPlan
      have hOk := plan_generation_ok hPlan
      rw [hOk.2.1, hOk.2.2.1]
      exact ⟨rfl, hGeneration, hOk.1, hOk.2.2.2⟩

theorem plan_source_of_matches (hAccount : match_account targets s = .ok a)
    (hGeneration : match_generation targets s a = .ok e) :
    plan_source targets s = plan_generation s a e := by
  unfold plan_source
  rw [hAccount]
  dsimp only
  rw [hGeneration]

theorem mem_plan_records :
    r ∈ plan_records targets sources d ↔
      ∃ s ∈ sources, plan_source targets s = .ok r ∧ r.account.database = d := by
  unfold plan_records
  rw [mem_filterMap]
  constructor
  · rintro ⟨s, hs, hSome⟩
    rw [Option.filter_eq_some_iff] at hSome
    refine ⟨s, hs, ?_, by simpa using hSome.2⟩
    cases hPlan : plan_source targets s with
    | error e =>
      rw [hPlan] at hSome
      cases hSome.1
    | ok r' =>
      rw [hPlan] at hSome
      cases hSome.1
      rfl
  · rintro ⟨s, hs, hPlan, hDatabase⟩
    refine ⟨s, hs, ?_⟩
    rw [hPlan, Option.filter_eq_some_iff]
    exact ⟨rfl, by simpa using hDatabase⟩

theorem DecidedBy.insert_iff (hDecided : DecidedBy s r) :
    r.generation_action = .insert ↔ r.existing_generation = none := by
  rcases hDecided with ⟨hNone, hInsert⟩ | ⟨g, hSome, _, _, hAct⟩
  · simp [hNone, hInsert]
  · rw [hAct, hSome]
    split <;> simp

theorem DecidedBy.of_some (hDecided : DecidedBy s r) (hSome : r.existing_generation = some g) :
    generation_matches_account_identity g r.account ∧ g.account_id = r.account.account_id ∧
      r.generation_action = if generation_is_current g s then .existing else .update := by
  rcases hDecided with ⟨hNone, _⟩ | ⟨x, hx, hGiven⟩
  · rw [hSome] at hNone
    cases hNone
  · rw [hSome] at hx
    cases hx
    exact hGiven

end PaymentLinks

----
-- The Latest Source Row
----

namespace PaymentLinks

variable {s a b : SourceLink}
theorem foldl_latestOf_mem (rs : List PlannedRecord)
    (hLatest : rs.foldl latestOf init = some s) : init = some s ∨ ∃ r ∈ rs, r.source = s := by
  induction rs generalizing init with
  | nil => exact .inl hLatest
  | cons r rs ih =>
    rcases ih hLatest with hInit | ⟨r', hr', hs⟩
    · unfold latestOf at hInit
      cases init with
      | none =>
        right
        exact ⟨r, mem_cons_self, Option.some.inj hInit⟩
      | some l =>
        dsimp only at hInit
        split at hInit
        · right
          exact ⟨r, mem_cons_self, Option.some.inj hInit⟩
        · exact .inl hInit
    · exact .inr ⟨r', mem_cons_of_mem _ hr', hs⟩

theorem completed_le_of_not_laterThan (hNot : ¬ a.laterThan b) :
    a.completed_at ≤ b.completed_at := by
  unfold SourceLink.laterThan at hNot
  rw [decide_eq_true_eq, not_or] at hNot
  omega

theorem completed_le_of_laterThan (hLater : a.laterThan b) :
    b.completed_at ≤ a.completed_at := by
  unfold SourceLink.laterThan at hLater
  rw [decide_eq_true_eq] at hLater
  omega

theorem foldl_latestOf_some (rs : List PlannedRecord) (l : SourceLink) :
    ∃ s, rs.foldl latestOf (some l) = some s ∧ l.completed_at ≤ s.completed_at := by
  induction rs generalizing l with
  | nil => exact ⟨l, rfl, le_refl _⟩
  | cons r rs ih =>
    rw [foldl_cons]
    unfold latestOf
    dsimp only
    split
    next hLater =>
      rcases ih r.source with ⟨s, hs, hLe⟩
      have hFirst := completed_le_of_laterThan hLater
      exact ⟨s, hs, le_trans hFirst hLe⟩
    · exact ih l

theorem foldl_latestOf_max {rs : List PlannedRecord} (hr : r ∈ rs) (init : Option SourceLink) :
    ∃ s, rs.foldl latestOf init = some s ∧ r.source.completed_at ≤ s.completed_at := by
  induction rs generalizing init with
  | nil => cases hr
  | cons r' rs ih =>
    rcases mem_cons.mp hr with hHead | hTail
    · subst hHead
      rw [foldl_cons]
      unfold latestOf
      cases init with
      | none => exact foldl_latestOf_some rs r.source
      | some l =>
        dsimp only
        split
        · exact foldl_latestOf_some rs r.source
        next hNot =>
          rcases foldl_latestOf_some rs l with ⟨s, hs, hLe⟩
          have hFirst := completed_le_of_not_laterThan hNot
          exact ⟨s, hs, le_trans hFirst hLe⟩
    · exact ih hTail _

theorem latest_mem {id : Nat} (hLatest : latest_by_account records id = some s) :
    ∃ r ∈ records, r.account.account_id = id ∧ r.source = s := by
  rcases foldl_latestOf_mem _ hLatest with hBad | ⟨r, hr, hs⟩
  · cases hBad
  · have hMem := mem_filter.mp hr
    exact ⟨r, hMem.1, by simpa using hMem.2, hs⟩

theorem latest_max (hr : r ∈ records) :
    ∃ s, latest_by_account records r.account.account_id = some s ∧
        r.source.completed_at ≤ s.completed_at :=
  foldl_latestOf_max (mem_filter.mpr ⟨hr, by simp⟩) none

----
-- Accounts Of Two Snapshots
----

/- An account row without its `extra_json`. -/
def AccountRow.plain (a : AccountRow) : AccountRow := { a with extra := none }

/- The columns of a generation that no import writes. -/
def GenerationRow.core (g : GenerationRow) :
    String × Nat × Nat × String × String :=
  (g.database, g.generation_id, g.account_id, g.request_id, g.remote_job_id)

/- Snapshots of the same databases with the same accounts, up to their `extra_json`. -/
def SameAccounts (sns sns' : List Snapshot) : Prop := List.Forall₂
    (fun sn sn' => sn'.database = sn.database ∧
        sn'.accounts.map AccountRow.plain = sn.accounts.map AccountRow.plain)
    sns sns'

def accountAt (targets : List Snapshot) (database : String) (id : Nat) : Option AccountRow :=
  (targets.find? (fun sn => sn.database = database)).bind (fun sn => sn.account id)

variable {sn sn' : Snapshot}
variable {l : List AccountRow}

theorem account_plain (hSame : sn'.accounts.map AccountRow.plain = sn.accounts.map AccountRow.plain)
    (id : Nat) : (sn'.account id).map AccountRow.plain = (sn.account id).map AccountRow.plain := by
  have hFind : ∀ l : List AccountRow, (l.find? (fun a => decide (a.account_id = id))).map
            AccountRow.plain =
          (l.map AccountRow.plain).find? (fun a => decide (a.account_id = id)) := by
    intro l
    rw [find?_map]
    rfl
  unfold Snapshot.account
  rw [hFind, hFind, hSame]

theorem accountAt_plain (hSame : SameAccounts sns sns') (database : String) (id : Nat) :
    (accountAt sns' database id).map AccountRow.plain =
      (accountAt sns database id).map AccountRow.plain := by
  unfold accountAt
  unfold SameAccounts at hSame
  induction hSame with
  | nil => rfl
  | @cons sn sn' sns sns' hOne _ ih =>
    rw [find?_cons, find?_cons, hOne.1]
    by_cases hDatabase : sn.database = database
    · simp only [hDatabase, decide_true]
      exact account_plain hOne.2 id
    · simp only [hDatabase, decide_false]
      exact ih

theorem email_index_plain
    (hSame : sn'.accounts.map AccountRow.plain = sn.accounts.map AccountRow.plain)
    (email : String) :
    (sn'.email_index email).map AccountRow.plain = (sn.email_index email).map AccountRow.plain := by
  have hFilter : ∀ l : List AccountRow, (l.filter (fun a =>
            decide (a.email ≠ "" ∧ a.email = email))).map
            AccountRow.plain =
          (l.map AccountRow.plain).filter (fun a => decide (a.email ≠ "" ∧ a.email = email)) := by
    intro l
    rw [filter_map]
    rfl
  unfold Snapshot.email_index
  rw [hFilter, hFilter, hSame]

theorem global_email_index_plain (hSame : SameAccounts sns sns') (email : String) :
    (global_email_index sns' email).map AccountRow.plain =
      (global_email_index sns email).map AccountRow.plain := by
  unfold global_email_index
  unfold SameAccounts at hSame
  induction hSame with
  | nil => rfl
  | cons hOne _ ih => rw [flatMap_cons, flatMap_cons,
        map_append, map_append, ih, email_index_plain hOne.2]

theorem foldl_addAccount_plain (l acc : List AccountRow) :
    (l.foldl addAccount acc).map AccountRow.plain =
      (l.map AccountRow.plain).foldl addAccount (acc.map AccountRow.plain) := by
  induction l generalizing acc with
  | nil => rfl
  | cons a l ih =>
    rw [foldl_cons, ih, map_cons, foldl_cons]
    congr 1
    unfold addAccount
    rw [any_map]
    have hSame : ((fun b : AccountRow =>
            decide (b.database = a.plain.database ∧ b.account_id = a.plain.account_id)) ∘
            AccountRow.plain) =
          fun b => decide (b.database = a.database ∧ b.account_id = a.account_id) := rfl
    rw [hSame]
    split
    · rfl
    · rw [map_append]
      rfl

theorem foldl_addAccount_prefix (l acc : List AccountRow) :
    ∃ rest, l.foldl addAccount acc = acc ++ rest := by
  induction l generalizing acc with
  | nil => exact ⟨[], (append_nil _).symm⟩
  | cons a l ih =>
    rcases ih (addAccount acc a) with ⟨rest, hRest⟩
    rw [foldl_cons, hRest]
    unfold addAccount
    split
    · exact ⟨rest, rfl⟩
    · exact ⟨a :: rest, by simp⟩

theorem mem_foldl_addAccount {a : AccountRow}
    (hMem : a ∈ l.foldl addAccount acc) : a ∈ acc ∨ a ∈ l := by
  induction l generalizing acc with
  | nil => exact .inl hMem
  | cons b l ih =>
    rcases ih hMem with hAcc | hTail
    · unfold addAccount at hAcc
      split at hAcc
      · exact .inl hAcc
      · rcases mem_append.mp hAcc with hOld | hNew
        · exact .inl hOld
        · right
          rw [mem_singleton.mp hNew]
          exact mem_cons_self
    · exact .inr (mem_cons_of_mem _ hTail)

theorem unique_accounts_plain (hSame : SameAccounts sns sns')
    (hRows : rows'.map GenerationRow.core = rows.map GenerationRow.core) :
    (unique_accounts sns' rows').map AccountRow.plain =
      (unique_accounts sns rows).map AccountRow.plain := by
  have hCore : ∀ (sns : List Snapshot) (rows : List GenerationRow),
        (rows.filterMap (generation_account sns)).map AccountRow.plain =
          (rows.map GenerationRow.core).filterMap
            (fun c => (accountAt sns c.1 c.2.2.1).map AccountRow.plain) := by
    intro sns rows
    rw [map_filterMap, filterMap_map]
    rfl
  have hAt : (fun c : String × Nat × Nat × String × String =>
          (accountAt sns' c.1 c.2.2.1).map AccountRow.plain) =
        fun c => (accountAt sns c.1 c.2.2.1).map AccountRow.plain :=
    funext fun c => accountAt_plain hSame _ _
  unfold unique_accounts
  rw [foldl_addAccount_plain, foldl_addAccount_plain, hCore, hCore, hRows, hAt]

theorem map_eq_cases (hMap : l'.map AccountRow.plain = l.map AccountRow.plain) :
    (l = [] ∧ l' = []) ∨ (∃ a a', l = [a] ∧ l' = [a'] ∧ a'.plain = a.plain) ∨
      (∃ a b t a' b' t', l = a :: b :: t ∧ l' = a' :: b' :: t') := by
  cases l with
  | nil =>
    left
    exact ⟨rfl, by simpa using hMap⟩
  | cons a l =>
    cases l' with
    | nil => simp at hMap
    | cons a' l' =>
      simp only [map_cons, cons.injEq] at hMap
      cases l with
      | nil =>
        have hNil : l' = [] := by simpa using hMap.2
        subst hNil
        exact .inr (.inl ⟨a, a', rfl, rfl, hMap.1⟩)
      | cons b t =>
        cases l' with
        | nil => simp at hMap
        | cons b' t' => exact .inr (.inr ⟨a, b, t, a', b', t', rfl, rfl⟩)

/- A source row is matched with the same account in snapshots with the same accounts and the same
   rows of its job. -/
theorem match_account_congr (hSame : SameAccounts sns sns')
    (hRows : (remote_job_index sns' s.job_id).map GenerationRow.core =
        (remote_job_index sns s.job_id).map GenerationRow.core) :
    (match_account sns' s).map AccountRow.plain = (match_account sns s).map AccountRow.plain := by
  have hEmpty : remote_job_index sns' s.job_id = [] ↔ remote_job_index sns s.job_id = [] := by
    rw [← map_eq_nil_iff (f := GenerationRow.core), hRows, map_eq_nil_iff]
  have hUnique := unique_accounts_plain hSame hRows
  have hEmails := global_email_index_plain hSame s.account_email
  unfold match_account
  dsimp only
  rcases map_eq_cases hUnique with
    ⟨hNil, hNil'⟩ |
    ⟨a, a', hOne, hOne', hPlain⟩ |
    ⟨a, b, t, a', b', t', hMany, hMany'⟩
  · rw [hNil, hNil']
    by_cases hNone : remote_job_index sns s.job_id = []
    · have hLeft : ¬ remote_job_index sns' s.job_id ≠ [] := fun hBad => hBad (hEmpty.mpr hNone)
      have hRight : ¬ remote_job_index sns s.job_id ≠ [] := fun hBad => hBad hNone
      rw [if_neg hLeft, if_neg hRight]
      rcases map_eq_cases hEmails with
        ⟨hNil, hNil'⟩ |
        ⟨a, a', hOne, hOne', hPlain⟩ |
        ⟨a, b, t, a', b', t', hMany, hMany'⟩
      · rw [hNil, hNil']
      · rw [hOne, hOne']
        dsimp only [Except.map]
        rw [hPlain]
      · rw [hMany, hMany']
    · rw [if_pos hNone, if_pos (fun hBad => hNone (hEmpty.mp hBad))]
  · have hEmail : a'.plain.email = a.plain.email := congrArg AccountRow.email hPlain
    change a'.email = a.email at hEmail
    rw [hOne, hOne']
    dsimp only
    rw [hEmail]
    split
    · rfl
    · dsimp only [Except.map]
      rw [hPlain]
  · rw [hMany, hMany']

end PaymentLinks
