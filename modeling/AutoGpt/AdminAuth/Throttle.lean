import AutoGpt.AdminAuth.Model
import AutoGpt.Library.JobPool

/-
  The throttle of `api/auth.py`: the bucket row of one client
  and stage, the two ways in which `_register_failure` writes
  it, and the requests that check it, verify a credential and
  register a failure or reset it.

  Main theorems: `AdminThrottle.blocks_kept_iff`, `AdminThrottle.block_persists`,
  `AdminThrottle.failures_registered`
-/

open Machine (Steps run)
open JobPool (OnJob Op step)
open Option
open Machine

----
-- Limits
----

namespace AdminThrottle

/- What `_throttle_limits` returns, within its bounds. -/
structure Limits where
  maximum : Nat
  window : Nat
  cooldown : Nat
  maximum_bounds : 2 ≤ maximum ∧ maximum ≤ 100
  window_bounds : 60 ≤ window ∧ window ≤ 86400
  cooldown_bounds : 60 ≤ cooldown ∧ cooldown ≤ 86400
deriving DecidableEq

/- `_integer_setting`; `parsed` is the integer in the text of the environment variable or else of
   the configuration key. -/
def integerSetting (parsed : String → String → Option Int)
    (env_name config_name : String) (default : Int) (minimum maximum : Nat) : Nat :=
  AdminAuth.boundedInteger ((parsed env_name config_name).getD default) minimum maximum

theorem integerSetting_bounds (parsed : String → String → Option Int)
    (env_name config_name : String) (default : Int) (hBounds : minimum ≤ maximum) :
    minimum ≤ integerSetting parsed env_name config_name default minimum maximum ∧
      integerSetting parsed env_name config_name default
          minimum maximum ≤
        maximum :=
  AdminAuth.boundedInteger_le _ hBounds

/- `"totp" in str(stage or "").lower()`. -/
def isTotpStage (stage : String) : Bool := "totp".toList <:+: stage.toList.map Char.toLower

/- `_throttle_limits`. -/
def throttleLimits (parsed : String → String → Option Int) (stage : String) : Limits where
  maximum :=
    if isTotpStage stage then
      integerSetting parsed "AUTH_TOTP_MAX_FAILURES" "auth_totp_max_failures" 5 2 100
    else integerSetting parsed "AUTH_PASSWORD_MAX_FAILURES" "auth_password_max_failures" 5 2 100
  window := integerSetting parsed "AUTH_RATE_LIMIT_WINDOW_SECONDS"
      "auth_rate_limit_window_seconds" (10 * 60) 60 86400
  cooldown := integerSetting parsed "AUTH_RATE_LIMIT_COOLDOWN_SECONDS"
      "auth_rate_limit_cooldown_seconds" (15 * 60) 60 86400
  maximum_bounds := by
    split
    · exact integerSetting_bounds parsed _ _ 5 (by omega)
    · exact integerSetting_bounds parsed _ _ 5 (by omega)
  window_bounds := integerSetting_bounds parsed _ _ _ (by omega)
  cooldown_bounds := integerSetting_bounds parsed _ _ _ (by omega)

----
-- The Bucket Row
----

/- A row of `admin_auth_throttles` under its key. -/
structure ThrottleRow where
  failure_count : Int := 0
  window_started_at : Int := 0
  blocked_until : Int := 0
  updated_at : Int := 0
deriving DecidableEq

/- `reset_window` of the upsert. -/
def resetWindow (limits : Limits) (now : Int) (row : ThrottleRow) : Bool :=
  row.window_started_at ≤ now - limits.window

/- `next_count`. -/
def nextCount (limits : Limits) (now : Int) (row : ThrottleRow) : Int :=
  if resetWindow limits now row then 1
  else row.failure_count + 1

/- `latest_block`. -/
def latestBlock (limits : Limits) (now : Int) (row : ThrottleRow) : Int :=
  if now + limits.cooldown < row.blocked_until then row.blocked_until
  else now + limits.cooldown

/- `next_blocked_until`. -/
def nextBlockedUntil (limits : Limits) (now : Int) (row : ThrottleRow) : Int :=
  if limits.maximum ≤ nextCount limits now row then latestBlock limits now row
  else if resetWindow limits now row then 0
  else row.blocked_until

/- `_register_failure` as one `INSERT ... ON CONFLICT DO UPDATE`. -/
def upsert (limits : Limits) (now : Int) :
    Option ThrottleRow → ThrottleRow
| none =>
    { failure_count := 1, window_started_at := now,
      blocked_until := if limits.maximum ≤ 1 then now + limits.cooldown else 0, updated_at := now }
| some row =>
    { failure_count := nextCount limits now row
      window_started_at :=
        if resetWindow limits now row then now
        else row.window_started_at
      blocked_until := nextBlockedUntil limits now row
      updated_at := now }

/- The window of the row has rolled over, in the fallback. -/
def rolledOver (limits : Limits) (now : Int) (row : ThrottleRow) : Bool :=
  row.window_started_at = 0 || limits.window ≤ now - row.window_started_at

/- `_register_failure` under a row lock, for the other dialects. -/
def lockedWrite (limits : Limits) (now : Int) (stored : Option ThrottleRow) : ThrottleRow :=
  let row := stored.getD { window_started_at := now }
  let row : ThrottleRow :=
    if rolledOver limits now row then
      { row with failure_count := 0, window_started_at := now, blocked_until := 0 }
    else row
  let row : ThrottleRow := { row with failure_count := row.failure_count + 1, updated_at := now }
  if limits.maximum ≤ row.failure_count then
    { row with blocked_until := max row.blocked_until (now + limits.cooldown) }
  else row

/- The two branches of `_register_failure`. -/
inductive Dialect where
| sqliteOrPostgresql
| other
deriving DecidableEq

def registerFailure (dialect : Dialect) (limits : Limits) (now : Int)
    (stored : Option ThrottleRow) : ThrottleRow :=
  match dialect with
  | .sqliteOrPostgresql => upsert limits now stored
  | .other => lockedWrite limits now stored

/- The registration starts a new window over the row. -/
def startsWindow (dialect : Dialect) (limits : Limits) (now : Int) (row : ThrottleRow) : Bool :=
  match dialect with
  | .sqliteOrPostgresql => resetWindow limits now row
  | .other => rolledOver limits now row

----
-- Requests
----

/- The bucket of one client and stage, at some time. -/
structure Bucket where
  clock : Nat
  row : Option ThrottleRow := none
deriving DecidableEq

def Bucket.wait (seconds : Nat) (bucket : Bucket) : Bucket :=
  { bucket with clock := bucket.clock + seconds }

/- `int(row.blocked_until if row else 0)`. -/
def Bucket.blocked_until (bucket : Bucket) : Int :=
  (bucket.row.map ThrottleRow.blocked_until).getD 0

def Bucket.blocked (bucket : Bucket) : Bool := bucket.clock < bucket.blocked_until

/- What a request does next. `_register_failure` reads its limits and the time before its
   transaction runs. -/
inductive Job where
| enforce
| verify
| register
| write (limits : Limits) (now : Int)
| reset
| finished (status_code : Nat)
deriving DecidableEq

/- The seconds before a step, the outcome of the credential check, and the limits of the moment. -/
structure Draw where
  seconds : Nat := 0
  accepted : Bool := false
  limits : Limits

def advance (dialect : Dialect) (draw : Draw) (bucket : Bucket) :
    Job → Bucket × Job
| .enforce =>
    if bucket.blocked then (bucket, .finished 429)
    else (bucket, .verify)
| .verify => (bucket, if draw.accepted then .reset else .register)
| .register => (bucket, .write draw.limits bucket.clock)
| .write limits now =>
    let row := registerFailure dialect limits now bucket.row
    ({ bucket with row := some row },
      if bucket.clock < row.blocked_until then .finished 429
      else .finished 401)
| .reset => ({ bucket with row := none }, .finished 200)
| .finished status_code => (bucket, .finished status_code)

/- The requests of one client and stage. -/
def program (dialect : Dialect) :
    JobPool.Program Bucket Job Unit Draw where
  start := fun _ => .enforce
  advance := fun draw bucket => advance dialect draw (bucket.wait draw.seconds)
  done := fun job =>
    match job with
    | .finished _ => true
    | _ => false
  ended := .finished 0

abbrev State := JobPool.State Bucket Job

/- The step of a request leaves a block in force as it is or extends it, or it is the reset after a
   verified credential. -/
def KeepsBlock (dialect : Dialect) (st : State) (draw : Draw) (job : Job) : Prop :=
  (st.shared.wait draw.seconds).blocked → job ≠ .reset → st.shared.blocked_until ≤
        (advance dialect draw (st.shared.wait draw.seconds) job).1.blocked_until

/- No failure that is registered while a block is in force starts a new window. -/
def KeepsWindow (dialect : Dialect) (st : State) (draw : Draw) :
    Job → Prop
| .write limits now => (st.shared.wait draw.seconds).blocked →
      ∀ row ∈ st.shared.row, startsWindow dialect limits now row = false
| _ => True

----
-- The Two Writers
----

theorem latestBlock_eq :
    latestBlock limits now row = max row.blocked_until (now + limits.cooldown) := by
  unfold latestBlock
  split
  · omega
  · omega

/- The row after a failure, in a new window or in the old one. -/
def countedRow (limits : Limits) (now : Int) (row : ThrottleRow) (restarts : Bool) : ThrottleRow :=
  if restarts then
    { failure_count := 1, window_started_at := now, blocked_until := 0, updated_at := now }
  else
    { failure_count := row.failure_count + 1
      window_started_at := row.window_started_at
      blocked_until :=
        if limits.maximum ≤ row.failure_count + 1 then max row.blocked_until (now + limits.cooldown)
        else row.blocked_until
      updated_at := now }

theorem upsert_some :
    upsert limits now (some row) = countedRow limits now row (resetWindow limits now row) := by
  have hMaximum := limits.maximum_bounds.1
  unfold upsert nextBlockedUntil nextCount countedRow
  dsimp only
  rw [latestBlock_eq]
  by_cases hReset : resetWindow limits now row
  · have hOne : ¬ (limits.maximum : Int) ≤ 1 := by omega
    simp only [hReset, if_true, if_neg hOne]
  · simp only [hReset, if_false, Bool.false_eq_true]

theorem lockedWrite_some :
    lockedWrite limits now (some row) = countedRow limits now row (rolledOver limits now row) := by
  have hMaximum := limits.maximum_bounds.1
  unfold lockedWrite countedRow
  dsimp only [getD_some]
  by_cases hRolled : rolledOver limits now row
  · have hOne : ¬ (limits.maximum : Int) ≤ 1 := by omega
    simp only [hRolled, if_true, Int.zero_add, if_neg hOne]
  · simp only [hRolled, if_false, Bool.false_eq_true]
    split
    · rfl
    · rfl

theorem upsert_none : upsert limits now none = lockedWrite limits now none := by
  have hMaximum := limits.maximum_bounds.1
  have hUpsert : ¬ limits.maximum ≤ 1 := by omega
  have hLocked : ¬ (limits.maximum : Int) ≤ 0 + 1 := by omega
  unfold upsert lockedWrite
  dsimp only [getD_none]
  rw [if_neg hUpsert]
  split
  · rfl
  · rfl

/- The two tests for a new window differ on a row that never had one. -/
theorem rolledOver_eq :
    rolledOver limits now row = (row.window_started_at = 0 || resetWindow limits now row) := by
  unfold rolledOver resetWindow
  congr 1
  rw [decide_eq_decide]
  omega

/- The rows on which the writers disagree. -/
def NeverStarted (limits : Limits) (now : Int) (row : ThrottleRow) : Prop :=
  row.window_started_at = 0 ∧ now < limits.window ∧
    ¬ (now = 0 ∧ row.failure_count = 0 ∧ row.blocked_until = 0)

/- The two writers store the same row, except over a row without a start of its window, at a time
   that lies within the first window after zero. -/
theorem upsert_eq_lockedWrite_iff (limits : Limits) (now : Int) (stored : Option ThrottleRow) :
    upsert limits now stored = lockedWrite limits now stored ↔
      ∀ row ∈ stored, ¬ NeverStarted limits now row := by
  have hMaximum := limits.maximum_bounds.1
  cases stored with
  | none =>
    constructor
    · intro _ row hRow
      cases hRow
    · intro _
      exact upsert_none
  | some row =>
    rw [upsert_some, lockedWrite_some, rolledOver_eq, countedRow, countedRow]
    by_cases hReset : resetWindow limits now row
    · rw [if_pos hReset, hReset, Bool.or_true, if_pos rfl]
      unfold resetWindow at hReset
      rw [decide_eq_true_eq] at hReset
      constructor
      · rintro - other hOther ⟨hZero, hEarly, -⟩
        cases hOther
        omega
      · intro _
        rfl
    · have hOpen : resetWindow limits now row = false := by
        simpa using hReset
      rw [if_neg hReset, hOpen, Bool.or_false]
      unfold resetWindow at hReset
      rw [decide_eq_true_eq] at hReset
      by_cases hZero : row.window_started_at = 0
      · rw [if_pos (decide_eq_true hZero), hZero]
        constructor
        · rintro hSame other hOther ⟨-, -, hFresh⟩
          cases hOther
          injection hSame with hCount hStart hBlocked
          have hCount : row.failure_count = 0 := by omega
          rw [hCount, if_neg (by omega)] at hBlocked
          exact hFresh ⟨hStart.symm, hCount, hBlocked⟩
        · intro hFresh
          have hNot := hFresh row rfl
          have hAll : now = 0 ∧ row.failure_count = 0 ∧ row.blocked_until = 0 := by
            by_contra hSome
            exact hNot ⟨hZero, by omega, hSome⟩
          rcases hAll with ⟨hNow, hCount, hBlocked⟩
          rw [hCount, hBlocked, hNow, if_neg (by omega)]
          rfl
      · rw [decide_eq_false hZero, if_neg Bool.false_ne_true]
        constructor
        · rintro - other hOther ⟨hStart, -, -⟩
          cases hOther
          exact hZero hStart
        · intro _
          rfl

----
-- Blocks In Force
----

theorem registerFailure_blocked (dialect : Dialect) (limits : Limits) (now : Int)
    (row : ThrottleRow) :
    (registerFailure dialect limits now (some
        row)).blocked_until =
      if startsWindow dialect limits now row then 0
      else if limits.maximum ≤ row.failure_count + 1 then
        max row.blocked_until (now + limits.cooldown)
      else row.blocked_until := by
  unfold registerFailure startsWindow
  cases dialect with
  | sqliteOrPostgresql =>
    dsimp only
    rw [upsert_some, countedRow]
    split
    · rfl
    · rfl
  | other =>
    dsimp only
    rw [lockedWrite_some, countedRow]
    split
    · rfl
    · rfl

/- A registration removes a block in force exactly when it starts a new window, and otherwise keeps
   or extends it. -/
theorem registerFailure_keeps_iff (hBlocked : 0 < row.blocked_until) :
    row.blocked_until ≤ (registerFailure dialect limits now (some row)).blocked_until ↔
      startsWindow dialect limits now row = false := by
  rw [registerFailure_blocked]
  cases hStarts : startsWindow dialect limits now row with
  | true =>
    rw [if_pos rfl]
    constructor
    · intro hKept
      omega
    · intro hNot
      cases hNot
  | false =>
    rw [if_neg Bool.false_ne_true]
    constructor
    · intro _
      rfl
    · intro _
      split
      · exact Int.le_max_left _ _
      · exact Int.le_refl _

theorem Bucket.row_of_blocked {bucket : Bucket} (hBlocked : bucket.blocked) :
    ∃ row,
      bucket.row = some row ∧ bucket.blocked_until = row.blocked_until ∧ 0 < row.blocked_until := by
  unfold Bucket.blocked Bucket.blocked_until at hBlocked
  rw [decide_eq_true_eq] at hBlocked
  cases hRow : bucket.row with
  | none =>
    rw [hRow] at hBlocked
    dsimp only [map_none, getD_none] at hBlocked
    omega
  | some row =>
    rw [hRow] at hBlocked
    dsimp only [map_some, getD_some] at hBlocked
    refine ⟨row, rfl, ?_, by omega⟩
    unfold Bucket.blocked_until
    rw [hRow]
    rfl

/- One step of one request, under either writer. -/
theorem keepsBlock_iff_keepsWindow (dialect : Dialect) (st : State) (draw : Draw) (job : Job) :
    KeepsBlock dialect st draw job ↔ KeepsWindow dialect st draw job := by
  have hSame : (st.shared.wait draw.seconds).blocked_until = st.shared.blocked_until := rfl
  cases job with
  | enforce =>
    constructor
    · intro _
      trivial
    · intro _ _ _
      unfold advance
      dsimp only
      split
      · exact Int.le_refl _
      · exact Int.le_refl _
  | verify =>
    constructor
    · intro _
      trivial
    · intro _ _ _
      exact Int.le_refl _
  | register =>
    constructor
    · intro _
      trivial
    · intro _ _ _
      exact Int.le_refl _
  | reset =>
    constructor
    · intro _
      trivial
    · intro _ _ hNot
      exact absurd rfl hNot
  | finished status_code =>
    constructor
    · intro _
      trivial
    · intro _ _ _
      exact Int.le_refl _
  | write limits now =>
    have hStep : ∀ row, st.shared.row = some row → (advance dialect draw
              (st.shared.wait draw.seconds)
              (.write limits now)).1.blocked_until =
            (registerFailure dialect limits now (some row)).blocked_until := by
      intro row hRow
      unfold advance Bucket.wait Bucket.blocked_until
      rw [hRow]
      rfl
    constructor
    · intro hKeeps hBlocked row hRow
      rcases Bucket.row_of_blocked hBlocked with ⟨found, hFound, hIs, hPos⟩
      have hEq : found = row := some.inj (hFound.symm.trans hRow)
      subst hEq
      have hKept := hKeeps hBlocked (by intro h; cases h)
      rw [hStep found hRow, ← hSame, hIs] at hKept
      exact (registerFailure_keeps_iff hPos).mp hKept
    · intro hWindow hBlocked _
      rcases Bucket.row_of_blocked hBlocked with ⟨row, hRow, hIs, hPos⟩
      have hRow' : st.shared.row = some row := hRow
      rw [hStep row hRow', ← hSame, hIs]
      exact (registerFailure_keeps_iff hPos).mpr (hWindow hBlocked row hRow')

/- In a run of requests every block in force survives every step but a reset exactly when no failure
   registered during a block starts a new window. -/
theorem blocks_kept_iff (dialect : Dialect) (st : State) (ops : List (Op Unit Draw)) :
    Steps (step (program dialect)) (OnJob (program dialect) (KeepsBlock dialect)) st ops ↔
      Steps (step (program dialect)) (OnJob (program dialect) (KeepsWindow dialect)) st ops := by
  have hStep : OnJob (program dialect) (KeepsBlock dialect) =
        OnJob (program dialect) (KeepsWindow dialect) := by
    have hSame : KeepsBlock dialect = KeepsWindow dialect := by
      funext st draw job
      exact propext (keepsBlock_iff_keepsWindow dialect st draw job)
    rw [hSame]
  rw [hStep]

theorem advance_clock (dialect : Dialect) (draw : Draw) (bucket : Bucket) (job : Job) :
    (advance dialect draw bucket job).1.clock = bucket.clock := by
  cases job with
  | enforce =>
    unfold advance
    dsimp only
    split
    · rfl
    · rfl
  | verify => rfl
  | register => rfl
  | write limits now => rfl
  | reset => rfl
  | finished status_code => rfl

/- A block that stands at some point of a run stands, or has been extended, until its time has come,
   as long as no request is verified and no failure registered during a block starts a new window.
   -/
theorem block_persists
    (hSteps : Steps (step (program dialect)) (OnJob (program dialect)
          (fun st draw job => KeepsWindow dialect st draw job ∧ job ≠ .reset)) st ops) :
    (run (step (program dialect)) st ops).shared.clock < st.shared.blocked_until →
      st.shared.blocked_until ≤ (run (step (program dialect)) st ops).shared.blocked_until := by
  refine run_induction_of_steps (P := fun t : State =>
      t.shared.clock < st.shared.blocked_until → st.shared.blocked_until ≤ t.shared.blocked_until)
    ?_ (fun _ => Int.le_refl _) hSteps
  intro t op hStands hCondition
  refine JobPool.step_rel (T := fun s s' : Bucket => (s.clock < st.shared.blocked_until →
          st.shared.blocked_until ≤ s.blocked_until) →
        s'.clock < st.shared.blocked_until → st.shared.blocked_until ≤ s'.blocked_until)
    (fun _ hSame => hSame) ?_ op hCondition hStands
  rintro draw job - ⟨hWindow, hNotReset⟩ hBefore hAfter
  have hClock : ((advance dialect draw
          (t.shared.wait draw.seconds) job).1.clock : Int) =
        t.shared.clock + draw.seconds := by
    rw [advance_clock]
    rfl
  have hAfter' : ((advance dialect draw (t.shared.wait draw.seconds)
          job).1.clock : Int) <
        st.shared.blocked_until := hAfter
  have hStill := hBefore (by omega)
  have hInForce : (t.shared.wait draw.seconds).blocked := by
    unfold Bucket.blocked
    rw [decide_eq_true_eq]
    have hSame : (t.shared.wait draw.seconds).blocked_until = t.shared.blocked_until := rfl
    have hNow : ((t.shared.wait draw.seconds).clock : Int) = t.shared.clock + draw.seconds := rfl
    omega
  exact Int.le_trans hStill
      ((keepsBlock_iff_keepsWindow dialect t draw job).mpr hWindow hInForce hNotReset)

----
-- Registered Failures
----

/- The two writers of a failure agree except on a row without a start of its window; and in every
   run of requests a block in force is kept or extended by every step other than the reset of a
   verified request exactly when no failure that is registered during a block starts a new window.
   -/
theorem failures_registered_iff (dialect : Dialect) (st : State) (ops : List (Op Unit Draw)) :
    (∀ limits now stored, upsert limits now stored = lockedWrite limits now stored ↔
          ∀ row ∈ stored, ¬ NeverStarted limits now row) ∧ (Steps (step (program dialect))
          (OnJob (program dialect) (KeepsBlock dialect)) st ops ↔
        Steps (step (program dialect)) (OnJob (program dialect) (KeepsWindow dialect)) st ops) ∧
      ∀ before later, before ++ later = ops → Steps (step (program dialect))
          (OnJob (program dialect)
            (fun st draw job => KeepsWindow dialect st draw job ∧ job ≠ .reset))
          (run (step (program dialect)) st before) later →
        (run (step (program dialect)) st ops).shared.clock <
          (run (step (program dialect)) st before).shared.blocked_until →
        (run (step (program dialect)) st before).shared.blocked_until ≤
          (run (step (program dialect)) st ops).shared.blocked_until := by
  refine ⟨upsert_eq_lockedWrite_iff, blocks_kept_iff dialect st ops, ?_⟩
  intro before later hSplit hSteps hRuns
  rw [← hSplit, run_append] at hRuns ⊢
  exact block_persists hSteps hRuns

def shortLimits : Limits where
  maximum := 2
  window := 60
  cooldown := 60
  maximum_bounds := by omega
  window_bounds := by omega
  cooldown_bounds := by omega

def quick : Draw := { limits := shortLimits }

/- One request fails in second 1. Two more pass the check in second 60: one of them registers its
   failure at once, the other one second later. -/
def lateFailure : List (Op Unit Draw) := [.arrive (), .advance 0 quick, .advance 0 quick,
    .advance 0 quick, .advance 0 quick,
    .arrive (), .arrive (),
    .advance 1 { quick with seconds := 59 },
    .advance 2 quick,
    .advance 1 quick, .advance 1 quick, .advance 1 quick,
    .advance 2 { quick with seconds := 1 },
    .advance 2 quick]

/- The late failure ends the block that the other request has just set up; and over a row whose
   window starts at zero the two writers store different rows. -/
theorem late_failure_unblocks :
    (run (step (program .sqliteOrPostgresql))
        { shared := { clock := 1 } }
        lateFailure).shared.blocked_until = 120 ∧
      (run (step (program .sqliteOrPostgresql))
        { shared := { clock := 1 } }
        (lateFailure ++ [.advance 2 quick])).shared =
        { clock := 61
          row := some
              { failure_count := 1, window_started_at := 61, blocked_until := 0,
                updated_at := 61 } } ∧
      ¬ Steps (step (program .sqliteOrPostgresql))
        (OnJob (program .sqliteOrPostgresql) (KeepsBlock .sqliteOrPostgresql))
        { shared := { clock := 1 } } (lateFailure ++ [.advance 2 quick]) ∧
      upsert shortLimits 10 (some { failure_count := 1 }) ≠
        lockedWrite shortLimits 10 (some { failure_count := 1 }) := by
  refine ⟨by decide, by decide, ?_, by decide⟩
  intro hKept
  have hLast := ((steps_append _ lateFailure _).mp hKept).2.1
  exact absurd (hLast (by decide) (by decide)) (by decide)

end AdminThrottle
