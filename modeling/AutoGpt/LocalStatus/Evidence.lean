import AutoGpt.LocalStatus.ProbeRun

/-
  The subscription evidence of an account in
  `local_status_refresh.py`: the stored probe, the last
  confirmed subscription beside it, and the two functions that
  write them, `_persist_chatgpt_local_status_probe` and
  `prepare_chatgpt_account_for_local_status_refresh`.

  Main theorems: `SubscriptionEvidence.lastConfirmed_run`, `SubscriptionEvidence.leaves_confirmed`,
  `SubscriptionEvidence.evidence_survives`
-/

open PyText (strip)
open Machine (run)
open Machine

----
-- Probes
----

namespace SubscriptionEvidence

/- `str.lower()`, the sanitized error text, and the digest of
   a revision, which has no space around it. -/
structure Env extends LocalStatus.ProbeEnv where
  lower_empty : lower "" = ""
  safe_error : String → String
  revision_hash : List String → String
  revision_hash_stripped : ∀ revision, strip (revision_hash revision) = revision_hash revision

structure ErrorTexts where
  message : String := ""
  error_code : String := ""
  reason : String := ""

structure AuthSection where
  state : String := ""
  error : ErrorTexts := {}

structure SubscriptionSection where
  plan : String := ""
  subscription_active_until : String := ""
  subscription_expires_at_iso : String := ""
  workspace_plan_type : String := ""
  checked_at : String := ""
  source : String := ""
  error : ErrorTexts := {}

/- A probe; a section that is no dictionary is absent. -/
structure Probe where
  auth : Option AuthSection := none
  subscription : Option SubscriptionSection := none
  codex : Option ErrorTexts := none
  credential_update : Option LocalStatus.CredentialUpdate := none
  rest : String := ""

/- What `_probe_refresh_outcome` returns. -/
inductive Outcome where
| auth_invalid
| probe_failed
| confirmed
| unknown_plan
| probe_incomplete
deriving DecidableEq

def Outcome.text : Outcome → String
| .auth_invalid => "auth_invalid"
| .probe_failed => "probe_failed"
| .confirmed => "confirmed"
| .unknown_plan => "unknown_plan"
| .probe_incomplete => "probe_incomplete"

/- `AUTH_INVALID_STATES`. -/
def authInvalidStates : List String := ["refresh_token_invalidated", "access_token_invalidated",
    "unauthorized", "account_deactivated", "banned_like"]

/- `AUTH_VALID_STATES`. -/
def authValidStates : List String := ["refresh_token_valid", "access_token_valid"]

variable (env : Env)

/- `_probe_auth_state`. -/
def probeAuthState (probe : Option Probe) : String :=
  let auth := (probe.bind Probe.auth).getD {}
  env.lower (strip auth.state)

/- `_probe_plan`. -/
def probePlan (probe : Option Probe) : String :=
  let subscription := (probe.bind Probe.subscription).getD {}
  LocalStatus.normalizeSubscriptionPlan env.toProbeEnv subscription.plan

/- `_probe_refresh_outcome`. -/
def probeRefreshOutcome (probe : Option Probe) : Outcome :=
  let auth_state := probeAuthState env probe
  if auth_state ∈ authInvalidStates then .auth_invalid
  else if auth_state = "probe_failed" then .probe_failed
  else if probePlan env probe ≠ "unknown" ∧ auth_state ∉ authInvalidStates then .confirmed
  else if auth_state ∈ authValidStates then .unknown_plan
  else .probe_incomplete

/- `_probe_error_message`. -/
def probeErrorMessage (probe : Option Probe) : String :=
  let sections : List ErrorTexts := [((probe.bind Probe.auth).map AuthSection.error).getD {},
      ((probe.bind Probe.subscription).map SubscriptionSection.error).getD {},
      (probe.bind Probe.codex).getD {}]
  let texts := sections.flatMap fun texts =>
      [strip texts.message, strip texts.error_code, strip texts.reason]
  match texts.find? fun text => text ≠ "" with
  | some text => env.safe_error text
  | none => "订阅状态探测未完成"

/- The dictionary of `_confirmed_subscription_snapshot`. -/
structure Snapshot where
  plan : String
  subscription_active_until : String
  subscription_expires_at_iso : String
  workspace_plan_type : String
  checked_at : String
  source : String

/- `_confirmed_subscription_snapshot`; an empty dictionary is none. -/
def confirmedSnapshot (probe : Option Probe) :
    Option Snapshot :=
  let subscription := (probe.bind Probe.subscription).getD {}
  let plan := LocalStatus.normalizeSubscriptionPlan env.toProbeEnv subscription.plan
  if plan = "unknown" then none
  else
    some
      { plan := plan, subscription_active_until := strip subscription.subscription_active_until,
        subscription_expires_at_iso := strip subscription.subscription_expires_at_iso,
        workspace_plan_type := strip subscription.workspace_plan_type,
        checked_at := strip subscription.checked_at, source := strip subscription.source }

----
-- Accounts
----

/- `chatgpt_local_status_refresh`, without its timestamps. -/
structure RefreshMeta where
  state : String := ""
  reason : String := ""
  attempt_count : Option Nat := none
  max_attempts : Nat := 0
  last_outcome : String := ""
  last_error : String := ""
  canonical_preserved : Bool := false
  auth_revision_hash : String := ""

/- What the two functions read and write of an account. -/
structure Row where
  account : LocalStatus.Account
  chatgpt_local : Option Probe := none
  last_confirmed : Option Snapshot := none
  refresh_meta : RefreshMeta := {}

/- What `_reconcile_refresh_job_after_probe` returns, when it is not empty. -/
structure JobUpdate where
  state : String
  attempt_count : Nat
  max_attempts : Nat

/- What `_persist_chatgpt_local_status_probe` reports of the attempt. -/
structure Persisted where
  refresh_outcome : Outcome
  refresh_state : String
  canonical_preserved : Bool
  probe_persisted : Bool

/- `_LOCAL_STATUS_AUTO_MAX_ATTEMPTS`. -/
def autoMaxAttempts : Nat := 3

variable (env : Env)

/- `_auth_material_revision_hash`. -/
def authRevisionHash (account : LocalStatus.Account) : String := env.revision_hash account.revision

def Row.outcome (row : Row) : Outcome := probeRefreshOutcome env row.chatgpt_local

/- `_remember_confirmed_subscription`. -/
def rememberConfirmed (probe : Option Probe) (last : Option Snapshot) :
    Option Snapshot :=
  if probeRefreshOutcome env probe = .confirmed then (confirmedSnapshot env probe).or last
  else last

def updatedAccount (probe : Probe) (account : LocalStatus.Account) : LocalStatus.Account :=
  match probe.credential_update with
  | none => account
  | some update => account.updated update

/- A read without a subscription, over a confirmed probe of this revision of the credentials. -/
def canonicalPreserved (probe : Probe) (row : Row) : Bool :=
  let incoming := { probe with credential_update := none }
  let previous_revision_hash := strip row.refresh_meta.auth_revision_hash
  probeRefreshOutcome env (some incoming) ∈ [.unknown_plan, .probe_failed, .probe_incomplete] &&
    row.outcome env = .confirmed && (previous_revision_hash = "" ||
      previous_revision_hash = authRevisionHash env (updatedAccount probe row.account))

def persistedMeta (incoming : Probe) (preserved : Bool)
    (job_update : Option JobUpdate) (revision_hash : String)
    (current : RefreshMeta) : RefreshMeta :=
  let outcome := probeRefreshOutcome env (some incoming)
  let finished := outcome = .confirmed ∨ outcome = .auth_invalid
  let active_state := env.lower (strip current.state)
  let next_state :=
    if finished then "succeeded"
    else if active_state ∈ ["pending", "running", "retry_wait"]
      then active_state
    else "failed"
  let written : RefreshMeta :=
    { current with
      state := env.lower (strip next_state)
      attempt_count := some (current.attempt_count.getD 1)
      max_attempts := max 1
          (if current.max_attempts = 0 then autoMaxAttempts
            else current.max_attempts)
      last_outcome := env.lower (strip outcome.text)
      last_error :=
        if finished then ""
        else
          (strip
            (probeErrorMessage env (some incoming))).take 500
            |>.toString
      canonical_preserved := preserved
      auth_revision_hash := revision_hash }
  match job_update with
  | none => written
  | some job =>
    { written with
      state := env.lower (strip (PyText.orElse job.state next_state))
      attempt_count := some
          (if job.attempt_count = 0 then written.attempt_count.getD 0
          else job.attempt_count)
      max_attempts := max 1
          (if job.max_attempts = 0 then written.max_attempts
            else job.max_attempts) }

/- `_persist_chatgpt_local_status_probe`. -/
def persist (probe : Probe) (job_update : Option JobUpdate) (row : Row) : Row × Persisted :=
  let incoming := { probe with credential_update := none }
  let outcome := probeRefreshOutcome env (some incoming)
  let account := updatedAccount probe row.account
  let preserved := canonicalPreserved env probe row
  ({ account := account
     chatgpt_local := if preserved then row.chatgpt_local else some incoming
     last_confirmed :=
       if preserved then row.last_confirmed
       else
         match outcome with
         | .confirmed => rememberConfirmed env (some incoming) row.last_confirmed
         | .auth_invalid => rememberConfirmed env row.chatgpt_local row.last_confirmed
         | _ => row.last_confirmed
     refresh_meta := persistedMeta env incoming preserved job_update
         (authRevisionHash env account) row.refresh_meta },
    { refresh_outcome := outcome
      refresh_state :=
        match outcome with
        | .auth_invalid => "auth_invalid"
        | .confirmed => "confirmed"
        | _ => "refresh_failed"
      canonical_preserved := preserved
      probe_persisted := !preserved })

/- `prepare_chatgpt_account_for_local_status_refresh`. -/
def prepare (reason : String) (row : Row) : Row :=
  { row with
    chatgpt_local := none
    last_confirmed := rememberConfirmed env row.chatgpt_local row.last_confirmed
    refresh_meta :=
      { row.refresh_meta with
        state := env.lower "pending",
        reason := ((strip reason).take 160).toString, attempt_count := some 0,
        max_attempts := autoMaxAttempts, last_outcome := "", last_error := "",
        canonical_preserved := false } }

/- The two functions, and changes of the credentials between their calls. -/
inductive Op where
| persist (probe : Probe) (job_update : Option JobUpdate)
| prepare (reason : String)
| credentials (account : LocalStatus.Account)

def step (row : Row) : Op → Row × Option Persisted
| .persist probe job_update =>
    ((persist env probe job_update row).1, some (persist env probe job_update row).2)
| .prepare reason => (prepare env reason row, none)
| .credentials account => ({ row with account := account }, none)

/- The outcome of the probe that an operation brings. -/
def Op.incoming (op : Op) : Option Outcome :=
  match op with
  | .persist probe _ =>
    some (probeRefreshOutcome env (some { probe with credential_update := none }))
  | _ => none

/- The snapshot of the last confirmed probe, after one more operation. -/
def remembered (last : Option Snapshot) (op : Op) :
    Option Snapshot :=
  match op with
  | .persist probe _ =>
    if op.incoming env = some .confirmed then confirmedSnapshot env (some probe)
    else last
  | _ => last

/- The snapshot of the last confirmed probe that has come in. -/
def mostRecent (ops : List Op) : Option Snapshot := ops.foldl (remembered env) none

end SubscriptionEvidence

----
-- Confirmed Subscriptions
----

namespace SubscriptionEvidence

variable {env : Env} {row : Row}

theorem confirmed_iff (probe : Option Probe) :
    probeRefreshOutcome env probe = .confirmed ↔ probeAuthState env probe ∉ authInvalidStates ∧
        probeAuthState env probe ≠ "probe_failed" ∧ probePlan env probe ≠ "unknown" := by
  unfold probeRefreshOutcome
  by_cases hInvalid : probeAuthState env probe ∈ authInvalidStates
  · rw [if_pos hInvalid]
    constructor
    · intro hOutcome
      cases hOutcome
    · intro hBoth
      exact absurd hInvalid hBoth.1
  · rw [if_neg hInvalid]
    by_cases hFailed : probeAuthState env probe = "probe_failed"
    · rw [if_pos hFailed]
      constructor
      · intro hOutcome
        cases hOutcome
      · intro hBoth
        exact absurd hFailed hBoth.2.1
    · rw [if_neg hFailed]
      by_cases hPlan : probePlan env probe ≠ "unknown"
      · rw [if_pos ⟨hPlan, hInvalid⟩]
        exact ⟨fun _ => ⟨hInvalid, hFailed, hPlan⟩, fun _ => rfl⟩
      · rw [if_neg (fun hBoth => hPlan hBoth.1)]
        constructor
        · intro hOutcome
          split at hOutcome
          · cases hOutcome
          · cases hOutcome
        · intro hBoth
          exact absurd hBoth.2.2 hPlan

theorem confirmedSnapshot_isSome (hConfirmed : probeRefreshOutcome env probe = .confirmed) :
    ∃ snapshot, confirmedSnapshot env probe = some snapshot := by
  have hPlan := ((confirmed_iff probe).mp hConfirmed).2.2
  unfold probePlan at hPlan
  unfold confirmedSnapshot
  dsimp only at hPlan ⊢
  rw [if_neg hPlan]
  exact ⟨_, rfl⟩

theorem rememberConfirmed_of_confirmed (hConfirmed : probeRefreshOutcome env probe = .confirmed) :
    rememberConfirmed env probe last = confirmedSnapshot env probe := by
  unfold rememberConfirmed
  rw [if_pos hConfirmed]
  rcases confirmedSnapshot_isSome hConfirmed with ⟨snapshot, hSnapshot⟩
  rw [hSnapshot]
  rfl

/- The stored confirmed probe is the one remembered. -/
def Row.Remembers (env : Env) (row : Row) : Prop :=
  row.outcome env = .confirmed → row.last_confirmed = confirmedSnapshot env row.chatgpt_local

theorem Row.Remembers.remember (hRow : row.Remembers env) :
    rememberConfirmed env row.chatgpt_local
        row.last_confirmed =
      row.last_confirmed := by
  by_cases hConfirmed : row.outcome env = .confirmed
  · rw [rememberConfirmed_of_confirmed hConfirmed, hRow hConfirmed]
  · unfold rememberConfirmed
    exact if_neg hConfirmed

theorem canonicalPreserved_iff (probe : Probe) :
    canonicalPreserved env probe row ↔ probeRefreshOutcome env
            (some { probe with credential_update := none }) ∈
          [Outcome.unknown_plan, .probe_failed, .probe_incomplete] ∧ row.outcome env = .confirmed ∧
        (strip row.refresh_meta.auth_revision_hash = "" ∨
          strip row.refresh_meta.auth_revision_hash =
            authRevisionHash env (updatedAccount probe row.account)) := by
  unfold canonicalPreserved
  rw [Bool.and_eq_true, Bool.and_eq_true, Bool.or_eq_true,
    decide_eq_true_eq, decide_eq_true_eq, decide_eq_true_eq, decide_eq_true_eq, and_assoc]

theorem persist_stored (job_update : Option JobUpdate)
    (hStored : ¬ canonicalPreserved env probe row) :
    (persist env probe job_update row).1.chatgpt_local =
        some { probe with credential_update := none } ∧
      (persist env probe job_update row).1.last_confirmed =
        match probeRefreshOutcome env (some { probe with credential_update := none }) with
        | .confirmed => rememberConfirmed env (some { probe with credential_update := none })
              row.last_confirmed
        | .auth_invalid => rememberConfirmed env row.chatgpt_local row.last_confirmed
        | _ => row.last_confirmed := by
  exact ⟨if_neg hStored, if_neg hStored⟩

theorem persist_preserved (job_update : Option JobUpdate)
    (hPreserved : canonicalPreserved env probe row) :
    (persist env probe job_update row).1.chatgpt_local = row.chatgpt_local ∧
      (persist env probe job_update row).1.last_confirmed = row.last_confirmed := by
  exact ⟨if_pos hPreserved, if_pos hPreserved⟩

theorem remembered_of_not_confirmed (last : Option Snapshot)
    (hNot : op.incoming env ≠ some .confirmed) : remembered env last op = last := by
  cases op with
  | persist probe job_update => exact if_neg hNot
  | prepare reason => rfl
  | credentials account => rfl

/- What an incoming probe leaves of the evidence. -/
theorem persist_spec (probe : Probe) (job_update : Option JobUpdate) (hRow : row.Remembers env) :
    (persist env probe job_update row).1.last_confirmed =
        remembered env row.last_confirmed (.persist probe job_update) ∧
      (persist env probe job_update row).1.Remembers env := by
  have hIncoming : (Op.persist probe job_update).incoming env =
        some (probeRefreshOutcome env (some { probe with credential_update := none })) :=
    rfl
  by_cases hPreserved : canonicalPreserved env probe row
  · rcases (canonicalPreserved_iff probe).mp hPreserved with
      ⟨hIncomplete, hConfirmed, -⟩
    rcases persist_preserved job_update hPreserved with ⟨hLocal, hLast⟩
    constructor
    · rw [hLast, remembered_of_not_confirmed]
      rw [hIncoming]
      intro hSame
      rw [Option.some.inj hSame] at hIncomplete
      simp at hIncomplete
    · intro _
      rw [hLast, hLocal]
      exact hRow hConfirmed
  · rcases persist_stored job_update hPreserved with
      ⟨hLocal, hLast⟩
    have hOutcome : (persist env probe job_update row).1.outcome env =
          probeRefreshOutcome env (some { probe with credential_update := none }) := by
      unfold Row.outcome
      rw [hLocal]
    unfold Row.Remembers
    rw [hOutcome, hLast, hLocal]
    by_cases hConfirmed :
        probeRefreshOutcome env (some { probe with credential_update := none }) = .confirmed
    · have hRemembered : remembered env row.last_confirmed
              (.persist probe job_update) =
            confirmedSnapshot env (some probe) := by
        unfold remembered
        rw [hIncoming, hConfirmed]
        exact if_pos rfl
      rw [hRemembered, hConfirmed]
      rw [rememberConfirmed_of_confirmed hConfirmed]
      exact ⟨rfl, fun _ => rfl⟩
    · refine ⟨?_, fun hSame => absurd hSame hConfirmed⟩
      rw [remembered_of_not_confirmed]
      · cases hKind : probeRefreshOutcome env (some { probe with credential_update := none }) with
        | confirmed => exact absurd hKind hConfirmed
        | auth_invalid => exact hRow.remember
        | probe_failed => rfl
        | unknown_plan => rfl
        | probe_incomplete => rfl
      · rw [hIncoming]
        intro hSame
        exact hConfirmed (Option.some.inj hSame)

theorem outcome_none : probeRefreshOutcome env none ≠ .confirmed := by
  intro hConfirmed
  have hPlan := ((confirmed_iff none).mp hConfirmed).2.2
  apply hPlan
  have hStrip : strip "" = "" := by decide
  unfold probePlan LocalStatus.normalizeSubscriptionPlan
  dsimp only [Option.bind_none, Option.getD_none]
  rw [hStrip, env.lower_empty]
  decide

theorem step_spec (op : Op) (hRow : row.Remembers env) :
    (step env row op).1.last_confirmed = remembered env row.last_confirmed op ∧
      (step env row op).1.Remembers env := by
  cases op with
  | persist probe job_update => exact persist_spec probe job_update hRow
  | prepare reason =>
    refine ⟨hRow.remember, ?_⟩
    intro hConfirmed
    exact absurd hConfirmed outcome_none
  | credentials account => exact ⟨rfl, hRow⟩

theorem lastConfirmed_run (ops : List Op) (hRow : row.Remembers env) :
    (run (step env) row ops).last_confirmed = ops.foldl (remembered env) row.last_confirmed := by
  induction ops generalizing row with
  | nil => rfl
  | cons op ops ih =>
    rcases step_spec op hRow with ⟨hLast, hNext⟩
    rw [run_cons, ih hNext, hLast]
    rfl

----
-- Leaving A Confirmed Probe
----

/- The recorded digest is that of the credentials of the last probe. -/
theorem persist_revision (env : Env) (probe : Probe) (job_update : Option JobUpdate) (row : Row) :
    (persist env probe job_update row).1.refresh_meta.auth_revision_hash =
      authRevisionHash env (persist env probe job_update row).1.account := by
  cases job_update with
  | none => rfl
  | some job => rfl

/- The stored probe ceases to be confirmed only in three ways: an operation prepares a refresh, the
   incoming probe says that the authentication is invalid, or it is a probe of other credentials
   than those recorded. -/
theorem leaves_confirmed (hConfirmed : row.outcome env = .confirmed)
    (hLeaves : (step env row op).1.outcome env ≠ .confirmed) :
    (∃ reason, op = .prepare reason) ∨ op.incoming env = some .auth_invalid ∨
      (strip row.refresh_meta.auth_revision_hash ≠ "" ∧
        (step env row op).1.refresh_meta.auth_revision_hash ≠
          strip row.refresh_meta.auth_revision_hash) := by
  cases op with
  | prepare reason => exact .inl ⟨reason, rfl⟩
  | credentials account => exact absurd hConfirmed hLeaves
  | persist probe job_update =>
    right
    by_cases hInvalid :
        probeRefreshOutcome env (some { probe with credential_update := none }) = .auth_invalid
    · left
      exact congrArg some hInvalid
    · right
      by_contra hSame
      apply hLeaves
      have hRecorded := persist_revision env probe job_update row
      by_cases hPreserved : canonicalPreserved env probe row
      · have hLocal := (persist_preserved job_update hPreserved).1
        unfold step Row.outcome
        rw [hLocal]
        exact hConfirmed
      · have hLocal := (persist_stored job_update hPreserved).1
        have hOutcome : (step env row
                (.persist probe job_update)).1.outcome env =
              probeRefreshOutcome env (some { probe with credential_update := none }) := by
          unfold step Row.outcome
          rw [hLocal]
        rw [hOutcome]
        by_contra hNot
        apply hPreserved
        rw [canonicalPreserved_iff]
        refine ⟨?_, hConfirmed, ?_⟩
        · cases hKind : probeRefreshOutcome env (some { probe with credential_update := none }) with
          | confirmed => exact absurd hKind hNot
          | auth_invalid => exact absurd hKind hInvalid
          | probe_failed => simp
          | unknown_plan => simp
          | probe_incomplete => simp
        · by_contra hNeither
          rcases not_or.mp hNeither with ⟨hSome, hOther⟩
          refine hSame ⟨hSome, ?_⟩
          intro hIs
          apply hOther
          rw [← hIs]
          exact hRecorded

def start (account : LocalStatus.Account) (refresh_meta : RefreshMeta) : Row where
  account := account
  refresh_meta := refresh_meta

/- With a confirmed probe a digest is recorded, without space around it. -/
theorem recorded_run (ops : List Op) :
    (row.outcome env = .confirmed →
        strip row.refresh_meta.auth_revision_hash = row.refresh_meta.auth_revision_hash) →
      (run (step env) row ops).outcome env = .confirmed → strip
            (run (step env) row ops).refresh_meta.auth_revision_hash =
          (run (step env) row ops).refresh_meta.auth_revision_hash := by
  intro hRow
  refine run_induction (P := fun row : Row => row.outcome env = .confirmed →
        strip row.refresh_meta.auth_revision_hash = row.refresh_meta.auth_revision_hash) ?_ hRow ops
  intro s op hBefore hConfirmed
  cases op with
  | persist probe job_update =>
    have hRecorded := persist_revision env probe job_update s
    change strip (persist env probe job_update s).1.refresh_meta.auth_revision_hash =
        (persist env probe job_update s).1.refresh_meta.auth_revision_hash
    rw [hRecorded]
    exact env.revision_hash_stripped _
  | prepare reason => exact absurd hConfirmed outcome_none
  | credentials account => exact hBefore hConfirmed

/- After every sequence of the two functions, and of changes of the credentials between them, the
   last confirmed subscription is the snapshot of the most recent incoming probe that was confirmed;
   and every operation after which the stored probe is no longer confirmed prepares a refresh,
   brings an invalid authentication, or records another digest of the credentials. -/
theorem evidence_survives (env : Env) (account : LocalStatus.Account)
    (refresh_meta : RefreshMeta) (ops : List Op) :
    (run (step env) (start account refresh_meta) ops).last_confirmed = mostRecent env ops ∧
      ∀ before op after, ops = before ++ op :: after →
        (run (step env) (start account refresh_meta) before).outcome env = .confirmed →
        (run (step env) (start account refresh_meta) (before ++ [op])).outcome env ≠ .confirmed →
        (∃ reason, op = .prepare reason) ∨ op.incoming env = some .auth_invalid ∨
          (run (step env) (start account refresh_meta)
              (before ++ [op])).refresh_meta.auth_revision_hash ≠ (run (step env)
              (start account refresh_meta) before).refresh_meta.auth_revision_hash := by
  have hStart : (start account refresh_meta).outcome env ≠ .confirmed := outcome_none
  constructor
  · exact lastConfirmed_run ops (fun hConfirmed => absurd hConfirmed hStart)
  · intro before op after _ hConfirmed hLeaves
    have hRecorded := recorded_run before (fun hConfirmed => absurd hConfirmed hStart) hConfirmed
    rw [run_append] at hLeaves ⊢
    rcases leaves_confirmed hConfirmed hLeaves with hPrepared | hInvalid | ⟨-, hChanged⟩
    · exact .inl hPrepared
    · exact .inr (.inl hInvalid)
    · rw [hRecorded] at hChanged
      exact .inr (.inr hChanged)

def plainEnv : Env where
  transportError := fun _ _ => false
  lower := fun text => text
  lower_empty := rfl
  safe_error := fun text => text
  revision_hash := fun _ => "r"
  revision_hash_stripped := fun _ => by decide

/- A probe with a plan, and then a refresh that is prepared. -/
def preparedOps : List Op := [.persist
      { auth := some { state := "access_token_valid" }
        subscription := some { plan := "plus" } } none,
    .prepare "account_saved"]

/- A prepared refresh takes the confirmed probe away while the digest of the credentials stays the
   same and no invalid authentication has come in. -/
theorem prepare_leaves_confirmed :
    (run (step plainEnv) (start { identity := { id := 1, email := "a@x", created_at := "t" } }
          {}) (preparedOps.take 1)).outcome plainEnv = .confirmed ∧ (run (step plainEnv)
        (start { identity := { id := 1, email := "a@x", created_at := "t" } }
          {}) preparedOps).outcome plainEnv ≠ .confirmed ∧ (run (step plainEnv) (start
          { identity := { id := 1, email := "a@x", created_at := "t" } } {})
        (preparedOps.take 1)).refresh_meta.auth_revision_hash = "r" ∧ (run (step plainEnv)
        (start { identity := { id := 1, email := "a@x", created_at := "t" } }
          {}) preparedOps).refresh_meta.auth_revision_hash = "r" ∧
      ∀ op ∈ preparedOps, op.incoming plainEnv ≠ some .auth_invalid := by
  decide

end SubscriptionEvidence
