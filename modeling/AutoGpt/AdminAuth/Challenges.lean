import AutoGpt.AdminAuth.Effects

/-
  What becomes of the pending challenges of
  `verify_totp_route` over a run. A ledger beside the world
  writes down the challenges that were created, the codes that
  were evaluated against them and the sessions that they led
  to.

  Main theorems: `AdminAuth.Tracked.judged`, `AdminAuth.Tracked.advance`
-/

open List
open KeyedTable
open AdminAuth

----
-- Ledgers
----

namespace AdminAuth

/- A challenge that `login` has created. -/
structure Created where
  temp_token : String
  expires_at : Nat

/- A call of `verify_totp` for a challenge: its result, its time, the codes that were refused
   before, and whether `auth_version` had changed since the challenge was created. -/
structure Evaluation where
  temp_token : String
  verdict : Option Bool
  now : Nat
  earlier : Nat
  outdated : Bool

/- The history of the challenges. `requests` are those behind the jobs of the world, `outdated` the
   challenges that were created before the last change of `auth_version`, and `sessions` the
   temporary tokens whose requests have stored a session. -/
structure Ledger where
  requests : List Request := []
  created : List Created := []
  evaluations : List Evaluation := []
  outdated : List String := []
  sessions : List String := []

def Evaluation.refuses (temp_token : String) (e : Evaluation) :
    Bool :=
  decide (e.temp_token = temp_token) &&
    decide (e.verdict ≠ some true)

def Evaluation.accepts (temp_token : String) (e : Evaluation) :
    Bool :=
  decide (e.temp_token = temp_token) &&
    decide (e.verdict = some true)

def Ledger.refused (temp_token : String) (l : Ledger) : Nat :=
  l.evaluations.countP (Evaluation.refuses temp_token)

def Ledger.accepted (temp_token : String) (l : Ledger) : Nat :=
  l.evaluations.countP (Evaluation.accepts temp_token)

def Ledger.tokens (l : Ledger) : List String := l.created.map Created.temp_token

/- The call of `verify_totp` in a step of a job. -/
def evaluation? (env : Env) (w : World) (l : Ledger) :
    Job → Option Evaluation
| .totpCheck temp_token code secret =>
    match (cleanPending w).find? temp_token with
    | none => none
    | some pending =>
      if pending.current env w ∧ secret ≠ "" then some
          { temp_token := temp_token, verdict := verifyTotp env secret code w.clock, now := w.clock,
            earlier := l.refused temp_token, outdated := decide (temp_token ∈ l.outdated) }
      else none
| _ => none

/- The challenge that a step of a job creates. -/
def created? (draw : Draw) (w : World) : Job → Option Created
| .loginChallenge _ => some { temp_token := draw.token, expires_at := w.clock + 300 }
| _ => none

def Request.temp_token? : Request → Option String
| .totp temp_token _ => some temp_token
| _ => none

def Ledger.advance (env : Env) (draw : Draw) (i : Nat) (w : World) (task : Task)
    (l : Ledger) : Ledger :=
  let w' := (AdminAuth.advance env draw task.client w task.job).1
  { requests := l.requests
    created := l.created ++ (created? draw w task.job).toList
    evaluations := l.evaluations ++ (evaluation? env w l task.job).toList
    outdated :=
      if authVersion w'.config = authVersion w.config then l.outdated
      else l.tokens
    sessions :=
      if w'.log.issued = w.log.issued then l.sessions
      else l.sessions ++ ((l.requests[i]?).bind Request.temp_token?).toList }

def Ledger.after (env : Env) (w : World) (l : Ledger) :
    Op → Ledger
| .arrive _ request => { l with requests := l.requests ++ [request] }
| .advance i seconds draw =>
    match w.jobs[i]? with
    | none => l
    | some task => l.advance env draw i (w.wait seconds) task
| .drop _ => l
| .restart => { l with requests := [] }

def watch (env : Env) (s : World × Ledger) (op : Op) : (World × Ledger) × Answer :=
  (((step env s.1 op).1, s.2.after env s.1 op), (step env s.1 op).2)

/- One temporary token leads to at most one session; at most five wrong codes are evaluated against
   it, and none after the fifth; and no code is accepted after the challenge has expired or after
   `auth_version` has changed. -/
structure ChallengesKept (l : Ledger) : Prop where
  one_session : ∀ temp_token, l.sessions.count temp_token ≤ 1
  five_codes : ∀ temp_token, l.refused temp_token ≤ totpChallengeMaxFailures
  none_after : ∀ e ∈ l.evaluations, e.earlier < totpChallengeMaxFailures
  in_time : ∀ e ∈ l.evaluations, e.verdict = some true →
      ∀ c ∈ l.created, c.temp_token = e.temp_token → e.now < c.expires_at
  up_to_date : ∀ e ∈ l.evaluations, e.verdict = some true → e.outdated = false

----
-- Orderly Steps
----

/- The steps that keep the challenges: a new temporary token is none of the earlier ones, the code
   that is evaluated can be compared, and a credential change does not put the version of a pending
   challenge back. -/
def OrderlyJob (env : Env) (draw : Draw) (w : World) (l : Ledger) :
    Job → Prop
| .loginChallenge _ => draw.token ∉ l.tokens
| .totpCheck temp_token code secret =>
    ∀ e ∈ evaluation? env w l (.totpCheck temp_token code secret), e.verdict ≠ none
| .replaceConfig _ version => max 1 version ≠ authVersion w.config →
      ∀ p ∈ w.pending.rows, w.clock < p.expires_at → p.auth_version ≠ max 1 version
| _ => True

def Orderly (env : Env) (s : World × Ledger) : Op → Prop
| .advance i seconds draw =>
    ∀ task ∈ s.1.jobs[i]?, OrderlyJob env draw (s.1.wait seconds) s.2 task.job
| _ => True

instance
    (env : Env) (draw : Draw) (w : World) (l : Ledger)
    (job : Job) : Decidable (OrderlyJob env draw w l job) := by
  unfold OrderlyJob
  split <;> infer_instance

instance (env : Env) (s : World × Ledger) (op : Op) :
    Decidable (Orderly env s op) := by
  apply op.casesOn (motive := fun op => Decidable (Orderly env s op)) <;> intros <;>
    dsimp only [Orderly] <;> infer_instance

----
-- Tracked Challenges
----

/- The pending challenges against the ledger: each was created, has the failures that were counted,
   is unused, and is not outdated while it carries the current version. -/
structure Tracked (w : World) (l : Ledger) : Prop where
  tokens_nodup : l.tokens.Nodup
  pending_created : ∀ p ∈ w.pending.rows,
      { temp_token := p.temp_token, expires_at := p.expires_at } ∈ l.created
  pending_refused : ∀ p ∈ w.pending.rows,
      l.refused p.temp_token = p.failure_count ∧ p.failure_count < totpChallengeMaxFailures
  pending_open : ∀ p ∈ w.pending.rows, l.accepted p.temp_token = 0
  pending_outdated : ∀ p ∈ w.pending.rows, w.clock < p.expires_at →
      p.temp_token ∈ l.outdated → p.auth_version ≠ authVersion w.config
  evaluated_created : ∀ e ∈ l.evaluations, e.temp_token ∈ l.tokens
  outdated_created : l.outdated ⊆ l.tokens
  accepted_le : ∀ temp_token, l.accepted temp_token ≤ 1
  refused_le : ∀ temp_token, l.refused temp_token ≤ totpChallengeMaxFailures
  none_after : ∀ e ∈ l.evaluations, e.earlier < totpChallengeMaxFailures
  in_time : ∀ e ∈ l.evaluations, e.verdict = some true →
      ∀ c ∈ l.created, c.temp_token = e.temp_token → e.now < c.expires_at
  up_to_date : ∀ e ∈ l.evaluations, e.verdict = some true → e.outdated = false

structure Ledger.SameChallenges (l l' : Ledger) : Prop where
  created_eq : l'.created = l.created
  evaluations_eq : l'.evaluations = l.evaluations
  outdated_eq : l'.outdated = l.outdated

theorem Tracked.subset (hTracked : Tracked w l) (hRows : w'.pending.rows ⊆ w.pending.rows)
    (hClock : w.clock ≤ w'.clock) (hVersion : authVersion w'.config = authVersion w.config)
    (hSame : l.SameChallenges l') : Tracked w' l' := by
  rcases l with ⟨requests, created, evaluations, outdated, sessions⟩
  rcases l' with ⟨requests', created', evaluations', outdated', sessions'⟩
  rcases hSame with ⟨hCreated, hEvaluations, hOutdated⟩
  subst hCreated hEvaluations hOutdated
  exact
    { hTracked with
      pending_created := fun p hp => hTracked.pending_created p (hRows hp)
      pending_refused := fun p hp => hTracked.pending_refused p (hRows hp)
      pending_open := fun p hp => hTracked.pending_open p (hRows hp)
      pending_outdated := by
        intro p hp hAlive hOutdated
        rw [hVersion]
        exact hTracked.pending_outdated p (hRows hp) (Nat.lt_of_le_of_lt hClock hAlive) hOutdated }

/- A change of the version makes every challenge outdated; it
   must not be one that a pending challenge carries. -/
theorem Tracked.version_changed (hTracked : Tracked w l) (hPending : w'.pending = w.pending)
    (hClock : w'.clock = w.clock)
    (hFree : ∀ p ∈ w.pending.rows, w.clock < p.expires_at → p.auth_version ≠ authVersion w'.config)
    (hCreated : l'.created = l.created) (hEvaluations : l'.evaluations = l.evaluations)
    (hOutdated : l'.outdated = l.tokens) : Tracked w' l' := by
  rcases l with ⟨requests, created, evaluations, outdated, sessions⟩
  rcases l' with ⟨requests', created', evaluations', outdated', sessions'⟩
  dsimp only at hCreated hEvaluations hOutdated
  subst hCreated hEvaluations hOutdated
  exact
    { hTracked with
      pending_created := by
        rw [hPending]
        exact hTracked.pending_created
      pending_refused := by
        rw [hPending]
        exact hTracked.pending_refused
      pending_open := by
        rw [hPending]
        exact hTracked.pending_open
      pending_outdated := by
        rw [hPending, hClock]
        exact fun p hp hAlive _ => hFree p hp hAlive
      outdated_created := List.Subset.refl _ }

/- A challenge with a new token joins the others. -/
theorem Tracked.created (hTracked : Tracked w l) (pending : Pending)
    (hRows : ∀ p ∈ w'.pending.rows, p = pending ∨ p ∈ w.pending.rows) (hClock : w'.clock = w.clock)
    (hVersion : authVersion w'.config = authVersion w.config) (hCount : pending.failure_count = 0)
    (hNew : pending.temp_token ∉ l.tokens) (hCreated : l'.created = l.created ++
          [{ temp_token := pending.temp_token, expires_at := pending.expires_at }])
    (hEvaluations : l'.evaluations = l.evaluations) (hOutdated : l'.outdated = l.outdated) :
    Tracked w' l' := by
  rcases l with ⟨requests, created, evaluations, outdated, sessions⟩
  rcases l' with ⟨requests', created', evaluations', outdated', sessions'⟩
  dsimp only at hCreated hEvaluations hOutdated
  subst hCreated hEvaluations hOutdated
  have hUnseen : ∀ e ∈ evaluations', e.temp_token ≠ pending.temp_token := by
    intro e he hSame
    exact hNew (hSame ▸ hTracked.evaluated_created e he)
  have hZero : ∀ test : Evaluation → Bool,
        (∀ e, test e → e.temp_token = pending.temp_token) →
        evaluations'.countP test = 0 := by
    intro test hTest
    rw [countP_eq_zero]
    exact fun e he hPass => hUnseen e he (hTest e hPass)
  have hTokens : ∀ token ∈ created.map Created.temp_token, token ∈ (created ++
            [({ temp_token := pending.temp_token, expires_at := pending.expires_at } :
              Created)]).map Created.temp_token := by
    intro token hToken
    simp only [map_append, mem_append]
    exact .inl hToken
  exact
    { hTracked with
      tokens_nodup := by
        unfold Ledger.tokens
        rw [map_append, nodup_append]
        refine ⟨hTracked.tokens_nodup, by simp, ?_⟩
        intro token hToken other hOther hSame
        rw [map_singleton, mem_singleton] at hOther
        rw [hSame, hOther] at hToken
        exact hNew hToken
      pending_created := by
        intro p hp
        rcases hRows p hp with hIs | hOld
        · rw [hIs]
          simp
        · exact mem_append_left _ (hTracked.pending_created p hOld)
      pending_refused := by
        intro p hp
        rcases hRows p hp with hIs | hOld
        · rw [hIs, hCount]
          refine ⟨hZero _ ?_, by decide⟩
          intro e he
          simp only [Evaluation.refuses, Bool.and_eq_true, decide_eq_true_eq] at he
          exact he.1
        · exact hTracked.pending_refused p hOld
      pending_open := by
        intro p hp
        rcases hRows p hp with hIs | hOld
        · rw [hIs]
          refine hZero _ ?_
          intro e he
          simp only [Evaluation.accepts, Bool.and_eq_true, decide_eq_true_eq] at he
          exact he.1
        · exact hTracked.pending_open p hOld
      pending_outdated := by
        intro p hp hAlive hOld
        rcases hRows p hp with hIs | hBefore
        · rw [hIs] at hOld
          exact absurd (hTracked.outdated_created hOld) hNew
        · rw [hVersion]
          rw [hClock] at hAlive
          exact hTracked.pending_outdated p hBefore hAlive hOld
      evaluated_created := fun e he => hTokens _ (hTracked.evaluated_created e he)
      outdated_created := fun token hToken => hTokens _ (hTracked.outdated_created hToken)
      in_time := by
        intro e he hAccepted c hc hSame
        rcases mem_append.mp hc with hOld | hAdded
        · exact hTracked.in_time e he hAccepted c hOld hSame
        · rw [mem_singleton] at hAdded
          rw [hAdded] at hSame
          exact absurd hSame.symm (hUnseen e he) }

----
-- Judged Codes
----

/- The challenge that the locked block has found. -/
structure Found (env : Env) (w : World) (temp_token : String) (pending : Pending) : Prop where
  clean : (cleanPending w).find? temp_token = some pending
  current : pending.current env w

theorem Found.mem (hFound : Found env w temp_token pending) :
    pending ∈ w.pending.rows ∧ pending.temp_token = temp_token ∧ w.clock < pending.expires_at := by
  have hMem := mem_of_find? hFound.clean
  have hRow := mem_filter.mp hMem.1
  refine ⟨hRow.1, hMem.2, ?_⟩
  simpa using hRow.2

theorem Tracked.found_up_to_date (hTracked : Tracked w l)
    (hFound : Found env w temp_token pending) : temp_token ∉ l.outdated := by
  intro hOutdated
  obtain ⟨hRow, hToken, hAlive⟩ := hFound.mem
  have hVersion := hFound.current
  unfold Pending.current at hVersion
  simp only [Bool.and_eq_true, decide_eq_true_eq] at hVersion
  exact hTracked.pending_outdated pending hRow hAlive (hToken ▸ hOutdated) hVersion.2

/- The evaluation of a code for a challenge that is found. -/
def judged (w : World) (l : Ledger) (temp_token : String) (verdict : Option Bool) : Evaluation where
  temp_token := temp_token
  verdict := verdict
  now := w.clock
  earlier := l.refused temp_token
  outdated := decide (temp_token ∈ l.outdated)

theorem evaluation?_of_found (l : Ledger) (code : String) (hFound : Found env w temp_token pending)
    (hSecret : secret ≠ "") :
    evaluation? env w l (.totpCheck temp_token code secret) =
      some (judged w l temp_token (verifyTotp env secret code w.clock)) := by
  simp [evaluation?, hFound.clean, hFound.current, hSecret, judged]

theorem countP_append_one {α : Type} (test : α → Bool) (as : List α) (a : α) :
    (as ++ [a]).countP test = as.countP test + if test a then 1 else 0 := by
  rw [countP_append]
  simp [countP_cons]

theorem refuses_judged (verdict : Option Bool) (t : String) :
    Evaluation.refuses t (judged w l temp_token verdict) = (decide (temp_token = t) &&
        decide (verdict ≠ some true)) := rfl

theorem accepts_judged (verdict : Option Bool) (t : String) :
    Evaluation.accepts t (judged w l temp_token verdict) = (decide (temp_token = t) &&
        decide (verdict = some true)) := rfl

/- A code is judged: an accepted one ends its challenge, a refused one is counted by it, and the
   fifth ends it. -/
theorem Tracked.judged (hTracked : Tracked w l) (hFound : Found env w temp_token pending)
    (valid : Bool)
    (hRows : ∀ p ∈ w'.pending.rows, (p ∈ w.pending.rows ∧ p.temp_token ≠ temp_token) ∨
          valid = false ∧ pending.failure_count + 1 < totpChallengeMaxFailures ∧ p =
              { pending with failure_count := pending.failure_count + 1 })
    (hClock : w'.clock = w.clock) (hVersion : authVersion w'.config = authVersion w.config)
    (hCreated : l'.created = l.created) (hEvaluations :
      l'.evaluations = l.evaluations ++ [AdminAuth.judged w l temp_token (some valid)])
    (hOutdated : l'.outdated = l.outdated) : Tracked w' l' := by
  obtain ⟨hRow, hToken, hAlive⟩ := hFound.mem
  have hRefused := hTracked.pending_refused pending hRow
  have hOpen := hTracked.pending_open pending hRow
  rw [hToken] at hRefused hOpen
  have hRefuse :
      ∀ t, l'.refused t = l.refused t + if temp_token = t ∧ valid = false then 1 else 0 := by
    intro t
    unfold Ledger.refused
    rw [hEvaluations, countP_append_one, refuses_judged]
    cases valid <;> simp
  have hAccept :
      ∀ t, l'.accepted t = l.accepted t + if temp_token = t ∧ valid then 1 else 0 := by
    intro t
    unfold Ledger.accepted
    rw [hEvaluations, countP_append_one, accepts_judged]
    cases valid <;> simp
  have hTokens : l'.tokens = l.tokens := by
    unfold Ledger.tokens
    rw [hCreated]
  have hCreatedOf :
      { temp_token := temp_token, expires_at := pending.expires_at } ∈ l.created := by
    rw [← hToken]
    exact hTracked.pending_created pending hRow
  exact
    { tokens_nodup := by
        rw [hTokens]
        exact hTracked.tokens_nodup
      pending_created := by
        intro p hp
        rw [hCreated]
        rcases hRows p hp with ⟨hOld, -⟩ | ⟨-, -, hIs⟩
        · exact hTracked.pending_created p hOld
        · rw [hIs]
          exact hTracked.pending_created pending hRow
      pending_refused := by
        intro p hp
        rw [hRefuse]
        rcases hRows p hp with ⟨hOld, hOther⟩ | ⟨hWrong, hFew, hIs⟩
        · rw [if_neg fun hBoth => hOther hBoth.1.symm]
          exact hTracked.pending_refused p hOld
        · rw [hIs]
          rw [hToken, if_pos ⟨rfl, hWrong⟩, hRefused.1]
          exact ⟨rfl, hFew⟩
      pending_open := by
        intro p hp
        rw [hAccept]
        rcases hRows p hp with ⟨hOld, hOther⟩ | ⟨hWrong, -, hIs⟩
        · rw [if_neg fun hBoth => hOther hBoth.1.symm]
          exact hTracked.pending_open p hOld
        · rw [hIs, if_neg (by simp [hWrong])]
          rw [hToken, hOpen]
      pending_outdated := by
        intro p hp hStill hOld
        rw [hVersion]
        rw [hClock] at hStill
        rw [hOutdated] at hOld
        rcases hRows p hp with ⟨hBefore, -⟩ | ⟨-, -, hIs⟩
        · exact hTracked.pending_outdated p hBefore hStill hOld
        · rw [hIs] at hOld ⊢
          exact hTracked.pending_outdated pending hRow hAlive hOld
      evaluated_created := by
        rw [hEvaluations, hTokens]
        intro e he
        rcases mem_append.mp he with hOld | hNew
        · exact hTracked.evaluated_created e hOld
        · rw [mem_singleton.mp hNew]
          exact mem_map.mpr ⟨_, hCreatedOf, rfl⟩
      outdated_created := by
        rw [hOutdated, hTokens]
        exact hTracked.outdated_created
      accepted_le := by
        intro t
        rw [hAccept]
        split
        next hBoth => rw [← hBoth.1, hOpen]
        next _ => exact hTracked.accepted_le t
      refused_le := by
        intro t
        rw [hRefuse]
        split
        next hBoth =>
          rw [← hBoth.1, hRefused.1]
          exact hRefused.2
        next _ => exact hTracked.refused_le t
      none_after := by
        rw [hEvaluations]
        intro e he
        rcases mem_append.mp he with hOld | hNew
        · exact hTracked.none_after e hOld
        · rw [mem_singleton.mp hNew]
          have hFew := hRefused.2
          rw [← hRefused.1] at hFew
          exact hFew
      in_time := by
        rw [hEvaluations, hCreated]
        intro e he hAccepted c hc hSame
        rcases mem_append.mp he with hOld | hNew
        · exact hTracked.in_time e hOld hAccepted c hc hSame
        · rw [mem_singleton.mp hNew] at hSame ⊢
          have hOne : c = { temp_token := temp_token, expires_at := pending.expires_at } :=
            inj_on_of_nodup_map hTracked.tokens_nodup hc hCreatedOf hSame
          rw [hOne]
          exact hAlive
      up_to_date := by
        rw [hEvaluations]
        intro e he hAccepted
        rcases mem_append.mp he with hOld | hNew
        · exact hTracked.up_to_date e hOld hAccepted
        · rw [mem_singleton.mp hNew]
          exact decide_eq_false
              (hTracked.found_up_to_date hFound) }

----
-- Steps
----

theorem Effect.version (hEffect : Effect env client w job w')
    (hJob : ∀ replace version, job ≠ .replaceConfig replace version) :
    authVersion w'.config = authVersion w.config := by
  cases hEffect with
  | verified claims now route stored hFound hValid => split <;> rfl
  | touched t route =>
    unfold touchRow
    split <;> rfl
  | replaced draw replace version => exact absurd rfl (hJob replace version)
  | _ => rfl

theorem advance_clock : (advance env draw client w job).1.clock = w.clock :=
  (Effect.same_jobs (advance_effect draw job)).2

theorem advance_pending (hLogin : ∀ checked, job ≠ .loginChallenge checked)
    (hCode : ∀ temp_token code secret, job ≠ .totpCheck temp_token code secret) :
    (advance env draw client w job).1.pending = w.pending := by
  cases job with
  | loginChallenge checked => exact absurd rfl (hLogin checked)
  | totpCheck temp_token code secret => exact absurd rfl (hCode temp_token code secret)
  | verifyRow claims now route =>
    simp only [advance, verifyRow]
    repeat' split
    all_goals rfl
  | touch t route =>
    simp only [advance, touchRow]
    split <;> rfl
  | setup password allowed =>
    simp only [advance, setup]
    repeat' split
    all_goals rfl
  | persist claims checked =>
    simp only [advance, persistToken]
    split <;> rfl
  | _ =>
    simp only [advance, verifyClaims, logoutRead, logoutWrite,
      enableRead, disableRead, stepUp, enableCode, disableCode, revokeAll, login, loginTotp,
      listSessions, issueToken, replaceConfig, World.setHash]
    repeat' split
    all_goals rfl

theorem Ledger.advance_same (draw : Draw) (i : Nat) (task : Task)
    (hCreated : created? draw w task.job = none) (hEvaluation : evaluation? env w l task.job = none)
    (hVersion : authVersion (AdminAuth.advance env draw task.client w task.job).1.config =
        authVersion w.config) :
    l.SameChallenges (l.advance env draw i w task) := by
  unfold Ledger.advance
  rw [hCreated, hEvaluation]
  exact
    { created_eq := append_nil _, evaluations_eq := append_nil _,
      outdated_eq := if_pos hVersion }

theorem cleanPending_rows : (cleanPending w).rows ⊆ w.pending.rows :=
  fun _ hp => mem_of_mem_filter hp

theorem dropPending_rows (temp_token : String) :
    ∀ p ∈ (dropPending temp_token w).pending.rows,
      p ∈ w.pending.rows ∧ p.temp_token ≠ temp_token := by
  intro p hp
  have hRow := mem_filter.mp hp
  exact ⟨cleanPending_rows hRow.1, by simpa using hRow.2⟩

theorem failPending_rows (hFound : (cleanPending w).find? temp_token = some pending) :
    ∀ p ∈ (failPending temp_token w).pending.rows,
      (p ∈ w.pending.rows ∧ p.temp_token ≠ temp_token) ∨ p =
          { pending with failure_count := pending.failure_count + 1 } := by
  intro p hp
  have hUpdated : p ∈ ((cleanPending w).updateKey temp_token (fun p =>
            { p with failure_count := p.failure_count + 1 }) (fun _ => rfl)).rows := hp
  rcases mem_rows_updateKey hUpdated with ⟨old, hOld, hIs⟩ | ⟨hOther, hRow⟩
  · rw [hFound, Option.some.injEq] at hOld
    rw [← hOld] at hIs
    exact .inr hIs
  · exact .inl ⟨cleanPending_rows hRow, hOther⟩

/- The locked block of `verify_totp_route` keeps track. -/
theorem Tracked.checked (hTracked : Tracked w l)
    (hJob : task.job = .totpCheck temp_token code secret) (i : Nat)
    (hOrderly : OrderlyJob env draw w l task.job) :
    Tracked (advance env draw task.client w task.job).1
      (l.advance env draw i w task) := by
  have hVersion : authVersion
          (advance env draw task.client w task.job).1.config =
        authVersion w.config := by
    apply Effect.version (advance_effect draw task.job)
    rw [hJob]
    intro replace version hSame
    cases hSame
  have hClock : (advance env draw task.client w task.job).1.clock = w.clock := advance_clock
  have hNext : (advance env draw task.client w task.job).1 =
        (checkChallenge env temp_token code secret w).1 := by
    rw [hJob]
    rfl
  have hCreated : created? draw w task.job = none := by
    rw [hJob]
    rfl
  have hUnjudged : evaluation? env w l task.job = none → (advance env draw task.client w
            task.job).1.pending.rows ⊆ w.pending.rows →
          Tracked (advance env draw task.client w task.job).1
            (l.advance env draw i w task) := by
    intro hNone hRows
    exact hTracked.subset hRows (Nat.le_of_eq hClock.symm) hVersion
        (Ledger.advance_same draw i task hCreated hNone hVersion)
  have hDropped : (advance env draw task.client w task.job).1 = dropPending temp_token w →
        (advance env draw task.client w task.job).1.pending.rows ⊆ w.pending.rows := by
    intro hIs
    rw [hIs]
    exact fun p hp => (dropPending_rows temp_token p hp).1
  cases hFind : (cleanPending w).find? temp_token with
  | none =>
    apply hUnjudged
    · rw [hJob]
      simp [evaluation?, hFind]
    · apply hDropped
      rw [hNext]
      simp [checkChallenge, hFind]
  | some pending =>
    by_cases hCurrent : pending.current env w
    · by_cases hSecret : secret = ""
      · apply hUnjudged
        · rw [hJob]
          simp [evaluation?, hFind, hSecret]
        · apply hDropped
          rw [hNext]
          simp [checkChallenge, hFind, hCurrent, hSecret]
      · have hFound : Found env w temp_token pending := ⟨hFind, hCurrent⟩
        have hEvaluation := evaluation?_of_found l code hFound hSecret
        cases hVerdict : verifyTotp env secret code w.clock with
        | none =>
          rw [hVerdict] at hEvaluation
          rw [hJob] at hOrderly
          exact absurd rfl (hOrderly _ hEvaluation)
        | some valid =>
          rw [hVerdict, ← hJob] at hEvaluation
          refine hTracked.judged hFound valid ?_ hClock hVersion ?_ ?_ ?_
          · rw [hNext]
            intro p hp
            cases valid with
            | true =>
              simp only [checkChallenge, hFind, hCurrent,
                hSecret, hVerdict, if_true, if_false] at hp
              exact .inl (dropPending_rows _ p hp)
            | false =>
              simp only [checkChallenge, hFind, hCurrent,
                hSecret, hVerdict, if_true, if_false] at hp
              split at hp
              next _ => exact .inl (dropPending_rows _ p hp)
              next hFew =>
                rcases failPending_rows hFind p hp with hOld | hIs
                · exact .inl hOld
                · exact .inr ⟨rfl, Nat.lt_of_not_le hFew, hIs⟩
          · unfold Ledger.advance
            rw [hCreated]
            exact append_nil _
          · unfold Ledger.advance
            rw [hEvaluation]
            rfl
          · exact if_pos hVersion
    · apply hUnjudged
      · rw [hJob]
        simp [evaluation?, hFind, hCurrent]
      · apply hDropped
        rw [hNext]
        simp [checkChallenge, hFind, hCurrent]

/- An orderly step keeps track of the challenges. -/
theorem Tracked.advance (hTracked : Tracked w l) (i : Nat) (task : Task)
    (hOrderly : OrderlyJob env draw w l task.job) :
    Tracked (AdminAuth.advance env draw task.client w task.job).1
      (l.advance env draw i w task) := by
  have hClock : (AdminAuth.advance env draw task.client w task.job).1.clock = w.clock :=
    advance_clock
  by_cases hCode : ∃ temp_token code secret, task.job = .totpCheck temp_token code secret
  · rcases hCode with ⟨temp_token, code, secret, hJob⟩
    exact hTracked.checked hJob i hOrderly
  · by_cases hChange : ∃ replace version, task.job = .replaceConfig replace version
    · rcases hChange with ⟨replace, version, hJob⟩
      have hPending :
          (AdminAuth.advance env draw task.client w task.job).1.pending = w.pending := by
        rw [hJob]
        rfl
      have hVersion : authVersion
              (AdminAuth.advance env draw task.client w task.job).1.config =
            max 1 version := by
        rw [hJob]
        cases hKind : replace.change with
        | passwordHash password =>
          simp [AdminAuth.advance, replaceConfig, replacedConfig, hKind, authVersion]
        | totpSecret new_secret =>
          simp [AdminAuth.advance, replaceConfig, replacedConfig, hKind, authVersion]
      have hCreated : created? draw w task.job = none := by
        rw [hJob]
        rfl
      have hEvaluation : evaluation? env w l task.job = none := by
        rw [hJob]
        rfl
      by_cases hSame : max 1 version = authVersion w.config
      · rw [hSame] at hVersion
        refine hTracked.subset ?_ (Nat.le_of_eq hClock.symm) hVersion
            (Ledger.advance_same draw i task hCreated hEvaluation hVersion)
        rw [hPending]
        exact List.Subset.refl _
      · refine hTracked.version_changed hPending hClock ?_ ?_ ?_ ?_
        · rw [hVersion]
          rw [hJob] at hOrderly
          exact hOrderly hSame
        · unfold Ledger.advance
          rw [hCreated]
          exact append_nil _
        · unfold Ledger.advance
          rw [hEvaluation]
          exact append_nil _
        · refine if_neg ?_
          rw [hVersion]
          exact hSame
    · have hVersion : authVersion
              (AdminAuth.advance env draw task.client w task.job).1.config =
            authVersion w.config :=
        Effect.version (advance_effect draw task.job)
          fun replace version hJob => hChange ⟨replace, version, hJob⟩
      have hEvaluation : evaluation? env w l task.job = none := by
        unfold evaluation?
        split
        next temp_token code secret hJob => exact absurd ⟨temp_token, code, secret, hJob⟩ hCode
        next _ => rfl
      by_cases hLogin : ∃ checked, task.job = .loginChallenge checked
      · rcases hLogin with ⟨checked, hJob⟩
        refine hTracked.created
            { temp_token := draw.token, instance_id := env.instance_id,
              auth_version := authVersion w.config, expires_at := w.clock + 300,
              checked := checked }
            ?_ hClock hVersion rfl ?_ ?_ ?_ ?_
        · rw [hJob]
          intro p hp
          have hPut : p ∈ ((cleanPending w).put
                  { temp_token := draw.token, instance_id := env.instance_id,
                    auth_version := authVersion w.config, expires_at := w.clock + 300,
                    checked := checked }).rows := hp
          rw [mem_rows_iff, find?_put] at hPut
          split at hPut
          next _ => exact .inl (Option.some.inj hPut).symm
          next _ => exact .inr (cleanPending_rows (mem_rows_iff.mpr hPut))
        · rw [hJob] at hOrderly
          exact hOrderly
        · unfold Ledger.advance
          rw [hJob]
          rfl
        · unfold Ledger.advance
          rw [hEvaluation]
          exact append_nil _
        · exact if_pos hVersion
      · have hCreated : created? draw w task.job = none := by
          unfold created?
          split
          next checked hJob => exact absurd ⟨checked, hJob⟩ hLogin
          next _ => rfl
        refine hTracked.subset ?_ (Nat.le_of_eq hClock.symm) hVersion
            (Ledger.advance_same draw i task hCreated hEvaluation hVersion)
        rw [advance_pending (fun checked hJob => hLogin ⟨checked, hJob⟩)
          (fun temp_token code secret hJob => hCode ⟨temp_token, code, secret, hJob⟩)]
        exact List.Subset.refl _

end AdminAuth
