import AutoGpt.Library.JobPool
import AutoGpt.Library.KeyedTable
import AutoGpt.LocalStatus.AuthMaterial

/-
  The writers of an account's row: saves of credentials, the
  persist phase of probes, and the metadata updates of the
  refresh queue. Each reads the row and commits later the
  columns that it has changed; `extra_json` is one column. The
  stored tokens are those of the last committed save, or of a
  probe's update made from them, at every commit that finds
  the tokens that its session has read.

  Main theorems:
    * `LocalStatus.tokens_current`
    * `LocalStatus.tokens_put_back`
-/

open JobPool (Holds OnJob Op State run step)

----
-- Rows And Tokens
----

namespace LocalStatus

/- The tokens in `extra_json`. -/
structure ExtraTokens where
  access_token : String
  accessToken : String
  refresh_token : String
  refreshToken : String
  id_token : String
deriving DecidableEq

structure Tokens where
  token : String
  extra : ExtraTokens
deriving DecidableEq

def AuthExtra.tokens (extra : AuthExtra) : ExtraTokens where
  access_token := extra.access_token
  accessToken := extra.accessToken
  refresh_token := extra.refresh_token
  refreshToken := extra.refreshToken
  id_token := extra.id_token

def Account.tokens (account : Account) : Tokens where
  token := account.token
  extra := account.extra.tokens

/- The tokens with those of a probe's update. -/
def Tokens.updated (tokens : Tokens) (update : CredentialUpdate) : Tokens :=
  let access := PyText.strip update.access_token
  let refresh := PyText.strip update.refresh_token
  { token := if access = "" then tokens.token else access
    extra :=
      { tokens.extra with
        access_token :=
          if access = "" then tokens.extra.access_token
          else access
        refresh_token :=
          if refresh = "" then tokens.extra.refresh_token
          else refresh } }

/- The refresh token of some tokens, as the revision of an account has it. -/
def Tokens.revisionToken (tokens : Tokens) : String :=
  firstText [tokens.extra.refresh_token, tokens.extra.refreshToken]

/- The row; `rest` is what else is in `extra_json`: probes,
   the metadata of the refresh queue, histories. -/
structure CredentialRow where
  account : Account
  rest : String := ""
deriving DecidableEq

/- `extra_json`. -/
abbrev CredentialRow.extra_json (row : CredentialRow) :
    AuthExtra × String :=
  (row.account.extra, row.rest)

/- A commit writes the columns that differ from what its session has loaded. -/
def CredentialRow.committed (new loaded current : CredentialRow) : CredentialRow :=
  let extra_json := Column.written new.extra_json loaded.extra_json current.extra_json
  { account :=
      { identity := current.account.identity
        token := Column.written new.account.token loaded.account.token current.account.token
        user_id := Column.written new.account.user_id loaded.account.user_id current.account.user_id
        extra := extra_json.1 }
    rest := extra_json.2 }

----
-- Saves
----

/- The account that `save_account` stores, with its browser fingerprint merged. -/
structure SavedAccount where
  token : String := ""
  user_id : String := ""
  extra : AuthExtra := {}
  registered_auth_pending : Bool := false
deriving DecidableEq

/- `_is_chatgpt_registered_auth_pending`. -/
def SavedAccount.authPending (saved : SavedAccount) : Bool := saved.registered_auth_pending &&
    decide (firstText [saved.extra.access_token, saved.extra.accessToken, saved.token] = "")

/- `_has_chatgpt_auth_material`. -/
def Account.hasAuthMaterial (account : Account) : Bool := decide
    (firstText [account.extra.access_token, account.extra.accessToken, account.extra.refresh_token,
        account.extra.refreshToken, account.token] ≠ "")

/- `preserve_existing_auth`. -/
def SavedAccount.preserves (saved : SavedAccount) (existing : CredentialRow) : Bool :=
  saved.authPending && existing.account.hasAuthMaterial

/- The row that a save sets: a pending registration is only
   recorded beside the credentials that are there. -/
def SavedAccount.row (saved : SavedAccount) (rest : String)
    (existing : CredentialRow) : CredentialRow :=
  if saved.preserves existing then { existing with rest := rest }
  else
    { account :=
        { existing.account with
          token := saved.token, user_id := saved.user_id,
          extra := saved.extra }
      rest := rest }

def SavedAccount.tokens (saved : SavedAccount) : Tokens where
  token := saved.token
  extra := saved.extra.tokens

----
-- Writers
----

/- The row, and the tokens that should be stored: those of the
   last committed save, or a probe's update of them. -/
structure WriterState where
  row : CredentialRow
  expected : Tokens

/- What a writer does next, with what it has read. The commit of
   `_enqueue_local_status_refresh_job`, of `_mark_local_status_refresh_schedule_failure` and of
   `_update_refresh_job_state` are one writer of metadata. -/
inductive WriterJob where
| saveRead (saved : SavedAccount)
| saveWrite (saved : SavedAccount) (loaded : CredentialRow)
| probeRead
| probing (attempt : Nat) (snapshot : ProbeAccount)
| persistRead (attempt : Nat) (snapshot : ProbeAccount)
    (update : Option CredentialUpdate)
| persistWrite (snapshot : ProbeAccount)
    (update : Option CredentialUpdate) (loaded : CredentialRow)
| metaRead
| metaWrite (loaded : CredentialRow)
| finished
deriving DecidableEq

/- What comes from outside a writer: how a probe ends (`none`
   if it raises), and the rest of the new `extra_json`. -/
structure WriterDraw where
  probe : Option (Option CredentialUpdate) := none
  rest : String := ""

def persistedAccount (update : Option CredentialUpdate) (account : Account) :
    Account :=
  match update with
  | none => account
  | some update => account.updated update

/- The write session of a probe up to its commit. -/
def persistRead (attempt : Nat) (snapshot : ProbeAccount)
    (update : Option CredentialUpdate) (row : CredentialRow) : WriterJob :=
  if row.account.identity ≠ snapshot.identity then .finished
  else if snapshot.revision = row.account.revision then .persistWrite snapshot update row
  else if attempt < 2 then .probing (attempt + 1) (buildProbeAccount row.account)
  else .finished

/- The tokens that should be stored after a probe: its update,
   if it was made from those that should be there. -/
def expectedAfterProbe (snapshot : ProbeAccount)
    (update : Option CredentialUpdate) (expected : Tokens) : Tokens :=
  match update with
  | none => expected
  | some update =>
    if snapshot.revision.head? = some expected.revisionToken then expected.updated update
    else expected

def WriterJob.advance (draw : WriterDraw) (s : WriterState) :
    WriterJob → WriterState × WriterJob
| .saveRead saved => (s, .saveWrite saved s.row)
| .saveWrite saved loaded =>
    ({ row := (saved.row draw.rest loaded).committed loaded s.row
       expected :=
         if saved.preserves loaded then s.expected
         else saved.tokens },
      .finished)
| .probeRead => (s, .probing 1 (buildProbeAccount s.row.account))
| .probing attempt snapshot =>
    match draw.probe with
    | none => (s, .finished)
    | some update => (s, .persistRead attempt snapshot update)
| .persistRead attempt snapshot update => (s, LocalStatus.persistRead attempt snapshot update s.row)
| .persistWrite snapshot update loaded =>
    ({ row := CredentialRow.committed
           { account := persistedAccount update loaded.account, rest := draw.rest }
           loaded s.row
       expected := expectedAfterProbe snapshot update s.expected },
      .finished)
| .metaRead => (s, .metaWrite s.row)
| .metaWrite loaded =>
    ({ s with
       row := CredentialRow.committed
           { loaded with rest := draw.rest } loaded s.row },
      .finished)
| .finished => (s, .finished)

inductive WriterRequest where
| save (saved : SavedAccount)
| probe
| refreshMeta

def WriterRequest.job : WriterRequest → WriterJob
| .save saved => .saveRead saved
| .probe => .probeRead
| .refreshMeta => .metaRead

/- The writers of an account as a pool of jobs. -/
def writers :
    JobPool.Program WriterState WriterJob WriterRequest WriterDraw where
  start := WriterRequest.job
  advance := WriterJob.advance
  done := fun job => decide (job = .finished)
  ended := .finished

abbrev WriterOp := Op WriterRequest WriterDraw

abbrev writersOf (row : CredentialRow) : WriterState where
  row := row
  expected := row.account.tokens

abbrev writerRun (row : CredentialRow) (ops : List WriterOp) :
    State WriterState WriterJob :=
  run writers (writersOf row) ops

----
-- Commits
----

/- The condition on a step: the commit of a probe, of metadata or of a pending registration finds
   the tokens that it has read, and the commit of a save finds those unchanged that it has found
   equal to its own. -/
def FindsTokens (st : State WriterState WriterJob) (draw : WriterDraw) : WriterJob → Prop
| .saveWrite saved loaded =>
    let current := st.shared.row.account
    let new := saved.row draw.rest loaded
    (saved.preserves loaded = false →
      new.account.token = loaded.account.token → current.token = loaded.account.token) ∧
    (new.extra_json = loaded.extra_json ∨ saved.preserves loaded →
      current.extra.tokens = loaded.account.extra.tokens)
| .persistWrite _ _ loaded => st.shared.row.account.tokens = loaded.account.tokens
| .metaWrite loaded => st.shared.row.account.extra.tokens = loaded.account.extra.tokens
| _ => True

instance
    (st : State WriterState WriterJob) (draw : WriterDraw) (job : WriterJob) :
    Decidable (FindsTokens st draw job) := by
  unfold FindsTokens
  split <;> infer_instance

/- The tokens after a commit whose columns hold new tokens, written or still there. -/
theorem tokens_committed (new loaded current : CredentialRow)
    (hToken :
      new.account.token = loaded.account.token → current.account.token = loaded.account.token)
    (hExtra : new.extra_json = loaded.extra_json →
        current.account.extra.tokens = loaded.account.extra.tokens) :
    (new.committed loaded current).account.tokens = new.account.tokens := by
  have hTokenIs : Column.written new.account.token loaded.account.token
          current.account.token =
        new.account.token := by
    unfold Column.written
    split
    · next hSame => rw [hToken hSame, hSame]
    · rfl
  have hExtraIs : (Column.written new.extra_json loaded.extra_json
          current.extra_json).1.tokens =
        new.account.extra.tokens := by
    unfold Column.written
    split
    · next hSame =>
        have hParts : new.account.extra = loaded.account.extra := congrArg Prod.fst hSame
        rw [hParts]
        exact hExtra hSame
    · rfl
  simp only [CredentialRow.committed, Account.tokens, hTokenIs, hExtraIs]

/- A commit that writes no token and the extra tokens that are there. -/
theorem tokens_committed_same (new loaded current : CredentialRow)
    (hToken : new.account.token = loaded.account.token)
    (hNew : new.account.extra.tokens = loaded.account.extra.tokens)
    (hExtra : current.account.extra.tokens = loaded.account.extra.tokens) :
    (new.committed loaded current).account.tokens = current.account.tokens := by
  have hTokenIs : Column.written new.account.token loaded.account.token
          current.account.token =
        current.account.token :=
    if_pos hToken
  have hExtraIs : (Column.written new.extra_json loaded.extra_json
          current.extra_json).1.tokens =
        current.account.extra.tokens := by
    unfold Column.written
    split
    · rfl
    · rw [hExtra]
      exact hNew
  simp only [CredentialRow.committed, Account.tokens, hTokenIs, hExtraIs]

theorem tokens_updated (account : Account) (update : CredentialUpdate) :
    (account.updated update).tokens = account.tokens.updated update := by
  simp only [Account.updated, Account.tokens, Tokens.updated, AuthExtra.tokens]

theorem head_revision (account : Account) :
    account.revision.head? = some account.tokens.revisionToken := by
  have hLast : PyText.orElse "" "" = "" := by decide
  show some (firstText [account.extra.refresh_token, account.extra.refreshToken, ""]) = _
  simp only [firstText, Tokens.revisionToken, Account.tokens, AuthExtra.tokens, List.foldr, hLast]

----
-- Runs
----

attribute [local irreducible] Account.revision
  ProbeAccount.revision

/- The stored tokens are those that should be there. -/
def TokensCurrent (s : WriterState) : Prop := s.row.account.tokens = s.expected

/- A probe that is to be committed was compared with what its session has loaded. -/
def WriterJob.Compared : WriterJob → Prop
| .persistWrite snapshot _ loaded => snapshot.revision = loaded.account.revision
| _ => True

theorem compared_persistRead (attempt : Nat) (snapshot : ProbeAccount)
    (update : Option CredentialUpdate) (row : CredentialRow) :
    (persistRead attempt snapshot update row).Compared := by
  unfold persistRead
  split
  · exact trivial
  · split
    · next hSame => exact hSame
    · split
      · exact trivial
      · exact trivial

theorem compared_advance (draw : WriterDraw) (s : WriterState) (job : WriterJob) :
    (job.advance draw s).2.Compared := by
  cases job with
  | saveRead saved => exact trivial
  | saveWrite saved loaded => exact trivial
  | probeRead => exact trivial
  | probing attempt snapshot =>
    simp only [WriterJob.advance]
    split
    · exact trivial
    · exact trivial
  | persistRead attempt snapshot update => exact compared_persistRead attempt snapshot update s.row
  | persistWrite snapshot update loaded => exact trivial
  | metaRead => exact trivial
  | metaWrite loaded => exact trivial
  | finished => exact trivial

variable {st : State WriterState WriterJob}
theorem tokensCurrent_save (hCurrent : TokensCurrent st.shared)
    (hFinds : FindsTokens st draw (.saveWrite saved loaded)) :
    TokensCurrent (WriterJob.advance draw st.shared (.saveWrite saved loaded)).1 := by
  rcases hFinds with ⟨hToken, hExtra⟩
  simp only [WriterJob.advance]
  cases hPreserves : saved.preserves loaded with
  | true =>
    have hRow : saved.row draw.rest loaded = { loaded with rest := draw.rest } := by
      rw [SavedAccount.row, hPreserves, if_pos rfl]
    rw [hRow, if_pos rfl]
    exact (tokens_committed_same { loaded with rest := draw.rest } loaded st.shared.row rfl rfl
        (hExtra (.inr hPreserves))).trans hCurrent
  | false =>
    have hRow : (saved.row draw.rest loaded).account.tokens = saved.tokens := by
      rw [SavedAccount.row, hPreserves, if_neg Bool.false_ne_true]
      rfl
    rw [if_neg Bool.false_ne_true, ← hRow]
    exact tokens_committed _ _ _ (hToken hPreserves) (fun hSame => hExtra (.inl hSame))

theorem tokensCurrent_persist
    (hCurrent : TokensCurrent st.shared) (hCompared : snapshot.revision = loaded.account.revision)
    (hFinds : st.shared.row.account.tokens = loaded.account.tokens) :
    TokensCurrent (WriterJob.advance draw st.shared (.persistWrite snapshot update loaded)).1 := by
  have hToken : st.shared.row.account.token = loaded.account.token := congrArg Tokens.token hFinds
  have hExtra : st.shared.row.account.extra.tokens = loaded.account.extra.tokens :=
    congrArg Tokens.extra hFinds
  have hExpected : st.shared.expected = loaded.account.tokens := hCurrent.symm.trans hFinds
  have hStored := tokens_committed
      { account := persistedAccount update loaded.account, rest := draw.rest }
      loaded st.shared.row (fun _ => hToken) (fun _ => hExtra)
  unfold TokensCurrent
  simp only [WriterJob.advance]
  rw [hStored, hExpected]
  cases update with
  | none => rfl
  | some update =>
    have hMade : snapshot.revision.head? = some loaded.account.tokens.revisionToken := by
      rw [hCompared]
      exact head_revision loaded.account
    simp only [expectedAfterProbe, if_pos hMade]
    exact tokens_updated loaded.account update

theorem tokensCurrent_advance (hCurrent : TokensCurrent st.shared)
    (hCompared : job.Compared) (hFinds : FindsTokens st draw job) :
    TokensCurrent (job.advance draw st.shared).1 := by
  cases job with
  | saveRead saved => exact hCurrent
  | saveWrite saved loaded => exact tokensCurrent_save hCurrent hFinds
  | probeRead => exact hCurrent
  | probing attempt snapshot =>
    simp only [WriterJob.advance]
    split
    · exact hCurrent
    · exact hCurrent
  | persistRead attempt snapshot update => exact hCurrent
  | persistWrite snapshot update loaded => exact tokensCurrent_persist hCurrent hCompared hFinds
  | metaRead => exact hCurrent
  | metaWrite loaded => exact (tokens_committed_same { loaded with rest := draw.rest } loaded
          st.shared.row rfl rfl hFinds).trans hCurrent
  | finished => exact hCurrent

/- In every state of a run whose steps meet the condition, the tokens are those of the last save, or
   of a probe's update made from them. -/
theorem tokens_current (row : CredentialRow) (ops : List WriterOp)
    (hSteps : Machine.Steps (step writers) (OnJob writers FindsTokens)
        { shared := writersOf row } ops) :
    (writerRun row ops).shared.row.account.tokens = (writerRun row ops).shared.expected := by
  have hHolds : Holds TokensCurrent
        (fun _ job => WriterJob.Compared job)
        (writerRun row ops) := by
    apply JobPool.run_holds_of_steps (C := FindsTokens)
    · intro s request _
      cases request <;> exact trivial
    · intro s _
      exact trivial
    · intro draw st job hHolds hJob _ hFinds
      refine ⟨?_, compared_advance draw st.shared job, ?_⟩
      · exact tokensCurrent_advance hHolds.shared (hHolds.jobs job hJob) hFinds
      · intro other hMem
        exact hHolds.jobs other hMem
    · refine ⟨rfl, ?_⟩
      intro job hMem
      cases hMem
    · exact hSteps
  exact hHolds.shared

----
-- Stale Tokens
----

def rowWith (token : String) : CredentialRow where
  account :=
    { identity :=
        { id := 1, email := "a@example.com", created_at := "2024-01-01 00:00:00" }
      token := token
      extra := { access_token := token, refresh_token := token } }

def savedWith (token : String) : SavedAccount where
  token := token
  extra := { access_token := token, refresh_token := token }

/- A save that arrives as the second writer and commits. -/
def savedMeanwhile (token : String) : List WriterOp :=
  [.arrive (.save (savedWith token)), .advance 1 {}, .advance 1 {}]

/- A probe that ends without or with an update. -/
def probedWith (update : Option CredentialUpdate) :
    WriterDraw where
  probe := some update
  rest := "probed"

/- A probe commits its update after a save. -/
def savedThenProbed : List WriterOp := .arrive .refreshMeta :: savedMeanwhile "t-2" ++
    [.arrive .probe, .advance 2 {}, .advance 2
        (probedWith (some { access_token := "t-3", refresh_token := "t-3" })),
      .advance 2 {}, .advance 2 { rest := "probed" }]

theorem tokens_current_probed :
    (writerRun (rowWith "t-1") savedThenProbed).shared.row.account.tokens =
      (writerRun (rowWith "t-1") savedThenProbed).shared.expected :=
  tokens_current (rowWith "t-1") savedThenProbed (by decide +kernel)

/- A save commits between the read of a probe and its commit. -/
def savedInProbe : List WriterOp := [.arrive .probe, .advance 0 {}, .advance 0 (probedWith none),
      .advance 0 {}] ++
    savedMeanwhile "t-2" ++ [.advance 0 { rest := "probed" }]

/- A save commits between the read of a metadata update and its commit. -/
def savedInMeta : List WriterOp := [.arrive .refreshMeta, .advance 0 {}] ++
    savedMeanwhile "t-2" ++ [.advance 0 { rest := "pending" }]

/- The probe and the metadata update put the old tokens back. -/
theorem tokens_put_back :
    (writerRun (rowWith "t-1") savedInProbe).shared.row.account.tokens ≠
        (writerRun (rowWith "t-1") savedInProbe).shared.expected ∧ (writerRun (rowWith "t-1")
        savedInMeta).shared.row.account.tokens ≠
        (writerRun (rowWith "t-1") savedInMeta).shared.expected := by
  constructor
  · decide +kernel
  · decide +kernel

end LocalStatus
