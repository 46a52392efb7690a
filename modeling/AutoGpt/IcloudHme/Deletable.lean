import AutoGpt.IcloudHme.AutoDelete

/-
  Deletion is safe: an alias is deleted at Apple only while it
  is neither registering nor in stock and all its accounts are
  invalid and were found dead. The worker looks at the tables
  once, before its first candidate, and one dead account
  decides for the others that were not found dead.

  The main theorems are:
    * `IcloudHme.stillDead_of_mem_list`
    * `IcloudHme.StillDead.updateAccount`
    * `IcloudHme.StillDead.retireAlias`
-/

open PyText (strip)
open List
open Option
open KeyedTable
open Bool

----
-- Guarantees And Conditions
----

namespace IcloudHme

variable (env : Env)

/- The emails by which accounts match an alias now; an alias
   without a row has the email of its listing. -/
def aliasEmails (tables : Tables) (cand : Candidate) :
    List String :=
  match tables.aliases.find? cand.anonymous_id with
  | some row => row.matchEmails env
  | none => [normAliasEmail env cand.hme].filter fun email => decide (email ≠ "")

def matching (tables : Tables) (cand : Candidate) :
    List Account :=
  matchedAccounts env tables.accounts (aliasEmails env tables cand)

/- The alias is neither registering nor in stock. -/
def Idle (config : Config) (tables : Tables) (cand : Candidate) :
    Prop :=
  ∀ row ∈ tables.aliases.find? cand.anonymous_id,
    row.inFlight = false ∧ row.readyStock config.purpose config.bound_service = false

/- It may still be deleted, as far as the tables say: its accounts are among these, and invalid. -/
def StillDead (config : Config) (tables : Tables) (cand : Candidate) (ids : List Nat) : Prop :=
  Idle config tables cand ∧
    ∀ account ∈ matching env tables cand, account.alive env = false ∧ account.id ∈ ids

def ConfirmedDead (checked : List (Nat × Verdict)) (account_id : Nat) : Prop :=
  (account_id, Verdict.dead) ∈ checked ∧ ∀ entry ∈ checked, entry.1 = account_id → entry.2 = .dead

def Safe (tables : Tables) (p : Probe) : Prop := Idle p.run.config tables p.cand ∧
    ∀ account ∈ matching env tables p.cand,
      account.alive env = false ∧ ConfirmedDead p.checked account.id

/- Whenever `client.delete` is called for an alias and rechecks are on, the alias may be deleted. -/
def DeletesSafely (st : State) (op : Op) : Prop := ∀ anonymous_id,
    (step env st op).2 = .calledDelete anonymous_id →
    ∃ p, st.job = .delete p ∧ p.cand.anonymous_id = anonymous_id ∧
      (p.run.config.recheck_before_delete → Safe env st.tables p)

def Probe.AllDead (p : Probe) : Prop := ∀ entry ∈ p.checked, entry.2 = .dead

instance (p : Probe) : Decidable p.AllDead :=
  inferInstanceAs (Decidable (∀ entry ∈ p.checked, entry.2 = .dead))

/- A candidate that may still be deleted while its accounts are
   checked, with the accounts that it may have. -/
def Probe.own (p : Probe) (left : List Nat) :
    List (Candidate × List Nat) :=
  if p.AllDead then [(p.cand, left ++ p.checked.map Prod.fst)]
  else []

/- The probe account, unless it was revived. -/
def Probe.tempAccount (p : Probe) : Option Nat :=
  if .alive ∈ p.checked.map Prod.snd then none else p.temp

/- The accounts of a candidate; an orphan has none. -/
def Candidate.ids (cand : Candidate) : List Nat :=
  match cand.kind with
  | .orphan => []
  | .boundInvalid => cand.account_ids

/- The candidates that are not reached yet. -/
def Run.pending (run : Run) (temp : Option Nat) :
    List (Candidate × List Nat) :=
  run.rest.map fun cand => (cand, cand.ids ++ temp.toList)

/- The candidates that a run may still delete. -/
def Job.pending : Job → List (Candidate × List Nat)
| .next run => run.pending none
| .probe p left => p.own left ++ p.run.pending p.tempAccount
| .login p account_id _ left => p.own (account_id :: left) ++ p.run.pending p.tempAccount
| .cleanup p _ _ => p.own [] ++ p.run.pending p.tempAccount
| .deactivate p => p.own [] ++ p.run.pending none
| .delete p => p.own [] ++ p.run.pending none
| .retire p => p.run.pending none
| _ => []

def Job.run? : Job → Option Run
| .idle => none
| .list run => some run
| .next run => some run
| .probe p _ => some p.run
| .login p _ _ _ => some p.run
| .cleanup p _ _ => some p.run
| .deactivate p => some p.run
| .delete p => some p.run
| .retire p => some p.run
| .finish run => some run

def Login.revives : Login → Bool
| .session _ => true
| _ => false

/- No candidate has a dead account next to one without a verdict, and no recheck revives an account
   of a later candidate. -/
def Job.KeepsDead (tables : Tables) (draw : Draw) : Job → Prop
| .probe p [] =>
    .keep ∈ p.checked.map Prod.snd →
    .dead ∈ p.checked.map Prod.snd →
    .alive ∈ p.checked.map Prod.snd
| .login p account_id _ _ =>
    draw.login.revives →
    ∀ account ∈ tables.accounts.find? account_id,
      ∀ cand ∈ p.run.rest, account ∉ matching env tables cand
| _ => True

/- While rechecks are on, this holds of the steps of the worker, and what other workers change
   leaves every candidate that may still be deleted dead. -/
def KeepsDead (st : State) (op : Op) : Prop := ∀ run ∈ st.job.run?,
    run.config.recheck_before_delete →
    match op with
    | .change tables => ∀ entry ∈ st.job.pending, StillDead env run.config tables entry.1 entry.2
    | .step draw => st.job.KeepsDead env st.tables draw
    | _ => True

instance (config : Config) (tables : Tables) (cand : Candidate) :
    Decidable (Idle config tables cand) := by
  unfold Idle
  infer_instance

instance
    (config : Config) (tables : Tables) (cand : Candidate) (ids : List Nat) :
    Decidable (StillDead env config tables cand ids) := by
  unfold StillDead
  infer_instance

instance (tables : Tables) (p : Probe) :
    Decidable (Safe env tables p) := by
  unfold Safe ConfirmedDead
  infer_instance

instance (tables : Tables) (draw : Draw) (job : Job) :
    Decidable (job.KeepsDead env tables draw) := by
  unfold Job.KeepsDead
  split <;> infer_instance

instance (st : State) (op : Op) :
    Decidable (KeepsDead env st op) := by
  apply @Option.decidableForallMem _ _ ?_ _
  intro run
  apply @instDecidableForall _ _ _ ?_
  split <;> infer_instance

end IcloudHme

----
-- Matching Accounts
----

namespace IcloudHme

theorem mem_matchedAccounts :
    account ∈ matchedAccounts env accounts emails ↔ account ∈ accounts.rows ∧
        account.platform = "chatgpt" ∧ normAliasEmail env account.email ∈ emails := by
  unfold matchedAccounts
  simp only [mem_flatMap, mem_filter, and_eq_true, decide_eq_true_eq]
  constructor
  · rintro ⟨email, hEmail, hMem, hPlatform, hSame⟩
    rw [← hSame] at hEmail
    exact ⟨hMem, hPlatform, hEmail⟩
  · rintro ⟨hMem, hPlatform, hEmail⟩
    exact ⟨_, hEmail, hMem, hPlatform, rfl⟩

theorem mem_matching :
    account ∈ matching env tables cand ↔ account ∈ tables.accounts.rows ∧
        account.platform = "chatgpt" ∧
        normAliasEmail env account.email ∈ aliasEmails env tables cand :=
  mem_matchedAccounts

theorem aliasEmails_of_row {row : Alias}
    (hFound : tables.aliases.find? cand.anonymous_id = some row) :
    aliasEmails env tables cand = row.matchEmails env := by
  unfold aliasEmails
  rw [hFound]

/- Matching accounts that are invalid have been so, and are among the ids. -/
theorem StillDead.of_accounts (tables' : Tables)
    (hDead : StillDead env config tables cand ids) (hAliases : tables'.aliases = tables.aliases)
    (hAccounts : ∀ account' ∈ matching env tables' cand, ∃ account ∈ matching env tables cand,
          account'.id = account.id ∧ (account.alive env = false → account'.alive env = false) ∧
            (account'.id ∈ ids → account'.id ∈ ids')) :
    StillDead env config tables' cand ids' := by
  constructor
  · have hIdle := hDead.1
    unfold Idle at hIdle ⊢
    rw [hAliases]
    exact hIdle
  · intro account' hMem'
    rcases hAccounts account' hMem' with ⟨account, hMem, hId, hAlive, hIds⟩
    have hOld := hDead.2 account hMem
    refine ⟨hAlive hOld.1, hIds ?_⟩
    rw [hId]
    exact hOld.2

theorem StillDead.mono (hDead : StillDead env config tables cand ids)
    (hIds : ∀ id ∈ ids, id ∈ ids') : StillDead env config tables cand ids' :=
  ⟨hDead.1, fun account hMem => ⟨(hDead.2 account hMem).1, hIds _ (hDead.2 account hMem).2⟩⟩

----
-- The Listing
----

/- A classification by accounts is one of an alias that is neither registering nor in stock. -/
theorem classify_deletable (hClassify : classify env purpose bound_service tables row = disposition)
    (hKind : (∃ confirmed, disposition = .orphan confirmed) ∨
        ∃ account_ids confirmed, disposition = .boundInvalid account_ids confirmed) :
    row.inFlight = false ∧ row.readyStock purpose bound_service = false ∧ ∃ confirmed,
        classifyAccounts env (matchedAccounts env tables.accounts
              (row.matchEmails env)) confirmed = disposition := by
  have hNot : disposition ≠ .retired ∧ disposition ≠ .inFlight ∧ disposition ≠ .readyStock ∧
        disposition ≠ .recheckNotConfirmed := by
    rcases hKind with ⟨_, hIs⟩ | ⟨_, _, hIs⟩
    · rw [hIs]
      exact ⟨nofun, nofun, nofun, nofun⟩
    · rw [hIs]
      exact ⟨nofun, nofun, nofun, nofun⟩
  unfold classify at hClassify
  split at hClassify
  next _ => exact absurd hClassify.symm hNot.1
  next _ =>
    split at hClassify
    next _ => exact absurd hClassify.symm hNot.2.1
    next hFlight =>
      split at hClassify
      next _ => exact absurd hClassify.symm hNot.2.2.1
      next hReady =>
        dsimp only at hClassify
        split at hClassify
        next _ => exact absurd hClassify.symm hNot.2.2.2
        next _ => exact ⟨eq_false_iff.mpr hFlight, eq_false_iff.mpr hReady, _, hClassify⟩

theorem classifyAccounts_orphan (hClassify : classifyAccounts env matched confirmed = .orphan r) :
    matched = [] := by
  unfold classifyAccounts at hClassify
  split at hClassify
  next hNone => exact hNone
  next _ => split at hClassify <;> cases hClassify

theorem classifyAccounts_boundInvalid
    (hClassify : classifyAccounts env matched confirmed = .boundInvalid account_ids r) :
    ∀ account ∈ matched,
      account.alive env = false ∧ (0 < account.id → account.id ∈ account_ids) := by
  unfold classifyAccounts at hClassify
  split at hClassify
  next _ => cases hClassify
  next _ =>
    split at hClassify
    next _ => cases hClassify
    next hAlive =>
      injection hClassify with hIds _
      intro account hMem
      constructor
      · by_contra hNot
        rw [not_eq_false] at hNot
        exact hAlive (any_eq_true.mpr ⟨account, hMem, hNot⟩)
      · intro hPositive
        rw [← hIds, mem_insertionSort, mem_dedup, mem_filter]
        refine ⟨mem_map_of_mem hMem, ?_⟩
        simp only [decide_eq_true_eq]
        omega

/- The candidate of a row of the table may be deleted. -/
theorem stillDead_of_candidate (hRow : row ∈ tables.aliases.rows)
    (hCand : candidate? env config.purpose config.bound_service tables row = some cand) :
    StillDead env config tables cand cand.ids := by
  unfold candidate? at hCand
  have hStripped := tables.stripped row hRow
  have hFound := find?_of_mem hRow
  have hIdle : cand.anonymous_id = strip row.anonymous_id → row.inFlight = false →
      row.readyStock config.purpose config.bound_service = false →
      Idle config tables cand ∧ aliasEmails env tables cand = row.matchEmails env := by
    intro hId hFlight hReady
    have hOwn : tables.aliases.find? cand.anonymous_id = some row := by
      rw [hId, hStripped]
      exact hFound
    refine ⟨?_, aliasEmails_of_row hOwn⟩
    intro other hOther
    rw [hOwn] at hOther
    rw [← some.inj hOther]
    exact ⟨hFlight, hReady⟩
  split at hCand
  next confirmed hClassify =>
    rcases classify_deletable hClassify
        (.inl ⟨confirmed, rfl⟩) with
      ⟨hFlight, hReady, _, hAccounts⟩
    have hIs := some.inj hCand
    have hBoth := hIdle (by rw [← hIs]) hFlight hReady
    refine ⟨hBoth.1, ?_⟩
    intro account hMem
    unfold matching at hMem
    rw [hBoth.2, classifyAccounts_orphan hAccounts] at hMem
    cases hMem
  next account_ids confirmed hClassify =>
    rcases classify_deletable hClassify
        (.inr ⟨account_ids, confirmed, rfl⟩) with
      ⟨hFlight, hReady, _, hAccounts⟩
    have hIs := some.inj hCand
    have hBoth := hIdle (by rw [← hIs]) hFlight hReady
    have hIds : cand.ids = account_ids := by
      rw [← hIs]
      rfl
    refine ⟨hBoth.1, ?_⟩
    intro account hMem
    have hStored := (mem_matching.mp hMem).1
    unfold matching at hMem
    rw [hBoth.2] at hMem
    have hDead := classifyAccounts_boundInvalid hAccounts account hMem
    rw [hIds]
    exact ⟨hDead.1, hDead.2 (tables.positive account hStored)⟩
  next _ => cases hCand

theorem stillDead_of_mem_list
    (hMem : cand ∈ listDeletionCandidates env config.purpose config.bound_service tables) :
    StillDead env config tables cand cand.ids := by
  have hFound : cand ∈ tables.aliases.rows.filterMap
          (candidate? env config.purpose config.bound_service tables) := by
    rcases mem_append.mp hMem with hOrphan | hBound
    · exact mem_of_mem_filter (mem_of_mem_filter hOrphan)
    · exact mem_of_mem_filter (mem_of_mem_filter hBound)
  rcases mem_filterMap.mp hFound with ⟨row, hRow, hCand⟩
  exact stillDead_of_candidate hRow hCand

----
-- Changes By The Worker
----

/- A matching account after an update of one account, which keeps its email. -/
theorem matching_updateAccount (hEmail : ∀ account, (f account).email = account.email)
    (hPlatform : ∀ account, (f account).platform = account.platform)
    (hMem : account' ∈ matching env (tables.updateAccount account_id f hKey) cand) :
    (account' ∈ matching env tables cand ∧ account'.id ≠ account_id) ∨
      ∃ account ∈ matching env tables cand,
        tables.accounts.find? account_id = some account ∧ account' = f account := by
  rcases mem_matching.mp hMem with ⟨hStored, hChatgpt, hMatch⟩
  have hRow : account' ∈ (tables.accounts.updateKey account_id f hKey).rows := hStored
  rcases mem_rows_updateKey hRow with ⟨account, hFound, hIs⟩ | ⟨hOther, hOld⟩
  · right
    rw [hIs, hPlatform] at hChatgpt
    rw [hIs, hEmail] at hMatch
    refine ⟨account, mem_matching.mpr ⟨?_, hChatgpt, hMatch⟩, hFound, hIs⟩
    exact (mem_of_find? hFound).1
  · left
    exact ⟨mem_matching.mpr ⟨hOld, hChatgpt, hMatch⟩, hOther⟩

theorem StillDead.updateAccount (hDead : StillDead env config tables cand ids)
    (hEmail : ∀ account, (f account).email = account.email)
    (hPlatform : ∀ account, (f account).platform = account.platform)
    (hAlive : ∀ account, account.alive env = false → (f account).alive env = false) :
    StillDead env config (tables.updateAccount account_id f hKey) cand ids := by
  refine StillDead.of_accounts _ hDead rfl ?_
  intro account' hMem
  rcases matching_updateAccount hEmail hPlatform hMem with ⟨hOld, _⟩ | ⟨account, hOld, _, hIs⟩
  · exact ⟨account', hOld, rfl, id, id⟩
  · refine ⟨account, hOld, ?_, ?_, id⟩
    · rw [hIs, hKey]
    · rw [hIs]
      exact hAlive account

theorem StillDead.revive {temp : Option Nat}
    (hDead : StillDead env config tables cand (ids ++ temp.toList))
    (hEmail : ∀ account, (f account).email = account.email)
    (hPlatform : ∀ account, (f account).platform = account.platform)
    (hOther : ∀ account ∈ tables.accounts.find? account_id, account ∉ matching env tables cand)
    (hTemp : ∀ id ∈ temp, account_id = id) :
    StillDead env config (tables.updateAccount account_id f hKey) cand ids := by
  refine StillDead.of_accounts _ hDead rfl ?_
  intro account' hMem
  rcases matching_updateAccount hEmail hPlatform hMem with ⟨hOld, hNot⟩ | ⟨account, hOld, hFound, _⟩
  · refine ⟨account', hOld, rfl, id, ?_⟩
    intro hId
    rcases mem_append.mp hId with hOwn | hIs
    · exact hOwn
    · rw [mem_toList] at hIs
      exact absurd (hTemp _ hIs).symm hNot
  · exact absurd hOld (hOther account hFound)

theorem recheckFailed_alive (original_status error_code : String) (account : Account)
    (hDead : account.alive env = false) :
    (account.recheckFailed env original_status error_code).alive env = false := by
  have hStrip : strip "invalid" = "invalid" := by decide
  have hEmpty : strip "" = "" := by decide
  unfold Account.alive at hDead ⊢
  simp only [ne_eq, decide_not, not_eq_false', decide_eq_true_eq] at hDead ⊢
  have hStatus : account.status ≠ "" := by
    intro hNone
    rw [hNone, hEmpty, env.lower_empty] at hDead
    exact absurd hDead (by decide)
  unfold Account.recheckFailed PyText.orElse
  rw [if_neg hStatus]
  split
  · rw [hStrip, env.lower_invalid]
  · rw [hDead, hStrip, env.lower_invalid]

theorem StillDead.createProbeAccount (email : String)
    (hDead : StillDead env config tables cand ids) :
    StillDead env config (tables.createProbeAccount email) cand
      (ids ++ [tables.accounts.nextId]) := by
  constructor
  · exact hDead.1
  · intro account hMem
    rcases mem_matching.mp hMem with ⟨hStored, hChatgpt, hMatch⟩
    have hNew : tables.accounts.find? (probeAccount email tables.accounts.nextId).id = none :=
      find?_nextId tables.accounts
    have hRow :
        account ∈ (tables.accounts.insertNew (probeAccount email tables.accounts.nextId)).rows :=
      hStored
    rw [rows_insertNew tables.accounts hNew] at hRow
    rcases mem_append.mp hRow with hOld | hProbe
    · have hWas := hDead.2 account (mem_matching.mpr ⟨hOld, hChatgpt, hMatch⟩)
      exact ⟨hWas.1, mem_append_left _ hWas.2⟩
    · rw [mem_singleton.mp hProbe]
      constructor
      · have hStrip : strip "invalid" = "invalid" := by
          decide
        simp [Account.alive, probeAccount, hStrip, env.lower_invalid]
      · exact mem_append_right _ (mem_singleton.mpr rfl)

theorem StillDead.deleteAccount (temp : Option Nat) (account_id : Nat)
    (hDead : StillDead env config tables cand (ids ++ temp.toList))
    (hTemp : ∀ id ∈ temp, id = account_id) :
    StillDead env config (tables.deleteAccount account_id) cand
      ids := by
  refine StillDead.of_accounts _ hDead rfl ?_
  intro account hMem
  rcases mem_matching.mp hMem with ⟨hStored, hChatgpt, hMatch⟩
  have hRow : account ∈ (tables.accounts.deleteWhere fun account =>
          decide (account.id = account_id)).rows :=
    hStored
  have hBoth := mem_filter.mp hRow
  refine ⟨account, mem_matching.mpr ⟨hBoth.1, hChatgpt, hMatch⟩, rfl, id, ?_⟩
  intro hId
  rcases mem_append.mp hId with hOwn | hIs
  · exact hOwn
  · rw [mem_toList] at hIs
    have hNot := hBoth.2
    simp only [not_eq_true', decide_eq_false_iff_not] at hNot
    exact absurd (hTemp _ hIs) hNot

/- A retired alias is neither registering nor in stock, and it keeps its emails. -/
theorem StillDead.retireAlias (anonymous_id reason : String)
    (hDead : StillDead env config tables cand ids) :
    StillDead env config (tables.retireAlias anonymous_id reason) cand ids := by
  have hFind : (tables.retireAlias anonymous_id reason).aliases.find?
          cand.anonymous_id =
        if cand.anonymous_id = strip anonymous_id then
          (tables.aliases.find? cand.anonymous_id).map (Alias.retire reason)
        else tables.aliases.find? cand.anonymous_id := by
    by_cases hSame : cand.anonymous_id = strip anonymous_id
    · rw [if_pos hSame, hSame]
      exact find?_updateKey_self tables.aliases
          (strip anonymous_id) (Alias.retire reason) (fun _ => rfl)
    · rw [if_neg hSame]
      exact
        find?_updateKey_of_ne tables.aliases (Alias.retire reason) (fun _ => rfl) hSame
  have hEmails : aliasEmails env (tables.retireAlias anonymous_id reason)
          cand =
        aliasEmails env tables cand := by
    unfold aliasEmails
    rw [hFind]
    by_cases hSame : cand.anonymous_id = strip anonymous_id
    · rw [if_pos hSame]
      cases tables.aliases.find? cand.anonymous_id with
      | none => rfl
      | some row => rfl
    · rw [if_neg hSame]
  constructor
  · intro row' hRow'
    rw [hFind] at hRow'
    split at hRow'
    next _ =>
      rcases map_eq_some_iff.mp hRow' with ⟨row, _, hIs⟩
      have hStrip : strip "retired" = "retired" := by decide
      rw [← hIs]
      simp [Alias.inFlight, Alias.readyStock, Alias.retire, hStrip]
    next _ => exact hDead.1 row' hRow'
  · intro account hMem
    apply hDead.2 account
    unfold matching at hMem ⊢
    rw [hEmails] at hMem
    exact hMem

end IcloudHme
