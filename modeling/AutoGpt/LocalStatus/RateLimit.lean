import AutoGpt.Library.Machine
import AutoGpt.Library.PyText

/-
  The recovery of rate-limited accounts
  (`services/account_rate_limit_recovery.py`): the markers of an
  account keep the status that it gets back one hour after the
  last mark.

  Main theorems: `keeps_step`, `recovers_after_last_mark`
-/

open Machine (Steps run)
open PyText (strip)
open Option

----
-- Markers
----

namespace RateLimit

/- `str.lower`. -/
structure Env where
  lower : String → String
  again : ∀ value, lower (strip (lower (strip value))) = lower (strip value)
  registered : lower (strip "registered") = "registered"
  rate_limited : lower (strip "rate_limited") = "rate_limited"

/- The text of a time in microseconds: what `_iso` writes, or any other with what
   `_parse_datetime` reads in it. -/
inductive TimeText where
| iso (value : Int)
| other (parsed : Option Int)
deriving DecidableEq

def TimeText.parse_datetime : TimeText → Option Int
| .iso value => some value
| .other parsed => parsed

/- What is read and written of `extra`. -/
structure Extra where
  started_at : Option TimeText := none
  recover_at : Option TimeText := none
  previous_status : Option String := none
  last_started_at : Option TimeText := none
  last_recover_at : Option TimeText := none
  last_previous_status : Option String := none
  recovered_at : Option TimeText := none
deriving DecidableEq

structure Account where
  status : String
  extra : Extra := {}
  updated_at : Option Int := none

def RATE_LIMIT_RECOVERY : Int := 3600 * 1000000

variable (env : Env)

/- `_lower_status(value)`. -/
def lower_status (value : String) : String := env.lower (strip value)

/- `_recover_status(value)`. -/
def recover_status (value : String) : String :=
  let status := lower_status env value
  if status = "" ∨ status = "rate_limited" then "registered" else status

/- `_recover_status(extra.get(RATE_LIMIT_PREVIOUS_STATUS_KEY))`. -/
def Extra.previous (extra : Extra) : String := recover_status env (extra.previous_status.getD "")

/- `mark_account_rate_limited(account, now=..., previous_status=...)`. -/
def mark (account : Account) (now : Int) (previous_status : Option String) : Account × Bool :=
  let current_status := lower_status env account.status
  let previous :=
    if current_status = "rate_limited" then account.extra.previous env
    else recover_status env (previous_status.getD current_status)
  ({ status := "rate_limited"
     extra :=
      { account.extra with
        started_at := some (.iso now),
        recover_at := some (.iso (now + RATE_LIMIT_RECOVERY)), previous_status := some previous,
        recovered_at := none }
     updated_at := some now }, true)

/- The markers of a limit are moved to those of the last one. -/
def Extra.moved (extra : Extra) (started_at recover_at : Option Int) (now : Int) : Extra :=
  { last_started_at := (started_at.map .iso).or extra.last_started_at,
    last_recover_at := (recover_at.map .iso).or extra.last_recover_at,
    last_previous_status := some (extra.previous env), recovered_at := some (.iso now) }

/- `clear_account_rate_limit(account, now=...)`. -/
def clear (account : Account) (now : Int) : Account × Bool :=
  let extra := account.extra
  if extra.started_at = none ∧ extra.recover_at = none ∧ extra.previous_status = none then
    (account, false)
  else
    ({ account with
       extra := extra.moved env (extra.started_at.bind TimeText.parse_datetime)
        (extra.recover_at.bind TimeText.parse_datetime) now
       updated_at := some now }, true)

/- `reconcile_account_rate_limit(account, now=...)`. -/
def reconcile (account : Account) (now : Int) : Account × Bool :=
  if lower_status env account.status ≠ "rate_limited" then (account, false)
  else
    let extra := account.extra
    let started_at := ((extra.started_at.bind TimeText.parse_datetime).or account.updated_at).getD now
    let recover_at := (extra.recover_at.bind TimeText.parse_datetime).getD
      (started_at + RATE_LIMIT_RECOVERY)
    if recover_at ≤ now then
      ({ status := extra.previous env
         extra := extra.moved env (some started_at) (some recover_at) now
         updated_at := some now }, true)
    else
      let normalized :=
        { extra with
          started_at := some (.iso started_at), recover_at := some (.iso recover_at),
          previous_status := some (extra.previous env) }
      if normalized = extra then (account, false)
      else ({ account with extra := normalized, updated_at := some now }, true)

----
-- Runs
----

inductive Op where
| mark (now : Int) (previous_status : Option String)
| clear (now : Int)
| reconcile (now : Int)

def step (account : Account) : Op → Account × Bool
| .mark now previous_status => mark env account now previous_status
| .clear now => clear env account now
| .reconcile now => reconcile env account now

/- How the callers use the calls: a mark names no other status than the one of the account, and a
   clear comes after the status was changed. -/
def Proper (account : Account) : Op → Prop
| .mark _ previous_status => previous_status = none ∨ previous_status = some account.status
| .clear _ => lower_status env account.status ≠ "rate_limited"
| .reconcile _ => True

def markedBy (last : Option Int) : Op → Option Int
| .mark now _ => some now
| _ => last

/- An account that is not limited has its first status or the one that is restored; a limited one
   has the markers of its last mark. -/
def Keeps (status : String) (account : Account) (last : Option Int) : Prop :=
  (lower_status env account.status ≠ "rate_limited" ∧
    (account.status = status ∨ account.status = recover_status env status)) ∨
  (account.status = "rate_limited" ∧
    account.extra.previous_status = some (recover_status env status) ∧
    ∃ now, last = some now ∧ account.extra.started_at = some (.iso now) ∧
      account.extra.recover_at = some (.iso (now + RATE_LIMIT_RECOVERY)))

end RateLimit

----
-- Invariant
----

namespace RateLimit

variable {account : Account}

theorem recover_ne : recover_status env status ≠ "rate_limited" := by
  unfold recover_status
  dsimp only
  split
  · decide
  next hNot => exact fun hSame => hNot (.inr hSame)

theorem lower_recover :
    lower_status env (recover_status env status) = recover_status env status := by
  unfold recover_status
  dsimp only
  split
  · exact env.registered
  · exact env.again status

theorem recover_again :
    recover_status env (recover_status env status) = recover_status env status := by
  have hSome : recover_status env status ≠ "" := by
    unfold recover_status
    dsimp only
    split
    · decide
    next hNot => exact fun hSame => hNot (.inl hSame)
  have hLower := @lower_recover env status
  have hNe := @recover_ne env status
  generalize recover_status env status = value at *
  unfold recover_status
  rw [hLower, if_neg (not_or.mpr ⟨hSome, hNe⟩)]

theorem lower_limited (hLimited : account.status = "rate_limited") :
    lower_status env account.status = "rate_limited" := by
  rw [hLimited]
  exact env.rate_limited

theorem recover_lower : recover_status env
    (lower_status env status) = recover_status env status := by
  have hAgain : lower_status env (lower_status env status) = lower_status env status :=
    env.again status
  unfold recover_status
  rw [hAgain]

theorem keeps_mark (hKeeps : Keeps env status account last) {now : Int}
    {previous_status : Option String} (hProper : Proper env account (.mark now previous_status)) :
    Keeps env status (mark env account now previous_status).1 (some now) := by
  refine .inr ⟨rfl, ?_, now, rfl, rfl, rfl⟩
  unfold mark
  dsimp only
  rcases hKeeps with ⟨hFree, hStatus⟩ | ⟨hLimited, hPrevious, -⟩
  · have hOwn : recover_status env account.status = recover_status env status := by
      rcases hStatus with hSame | hSame
      · rw [hSame]
      · rw [hSame, recover_again]
    rw [if_neg hFree]
    rcases hProper with rfl | rfl
    · rw [getD_none, recover_lower, hOwn]
    · rw [getD_some, hOwn]
  · rw [if_pos (lower_limited hLimited), Extra.previous, hPrevious, getD_some, recover_again]

/- What a reconcile does to a limited account of a run. -/
theorem reconcile_limited (hLimited : account.status = "rate_limited") (now : Int) {marked : Int}
    (hPrevious : account.extra.previous_status = some (recover_status env status))
    (hStarted : account.extra.started_at = some (.iso marked))
    (hRecover : account.extra.recover_at = some (.iso (marked + RATE_LIMIT_RECOVERY))) :
    (marked + RATE_LIMIT_RECOVERY ≤ now ∧
        (reconcile env account now).1.status = recover_status env status) ∨
      (now < marked + RATE_LIMIT_RECOVERY ∧ reconcile env account now = (account, false)) := by
  have hBack : account.extra.previous env = recover_status env status := by
    rw [Extra.previous, hPrevious, getD_some, recover_again]
  unfold reconcile
  rw [if_neg (not_not.mpr (lower_limited hLimited))]
  dsimp only
  rw [hStarted, hRecover, hBack]
  dsimp only [bind_some, TimeText.parse_datetime, some_or, getD_some]
  by_cases hDue : marked + RATE_LIMIT_RECOVERY ≤ now
  · exact .inl ⟨hDue, by simp [hDue]⟩
  · have hSame : { account.extra with
        started_at := some (.iso marked),
        recover_at := some (.iso (marked + RATE_LIMIT_RECOVERY)),
        previous_status := some (recover_status env status) } = account.extra := by
      rw [← hStarted, ← hRecover, ← hPrevious]
    exact .inr ⟨Int.not_le.mp hDue, by simp [hDue, hSame]⟩

theorem reconcile_free (hFree : lower_status env account.status ≠ "rate_limited") (now : Int) :
    reconcile env account now = (account, false) := if_pos hFree

theorem keeps_reconcile (hKeeps : Keeps env status account last) (now : Int) :
    Keeps env status (reconcile env account now).1 last := by
  have hWas := hKeeps
  rcases hKeeps with ⟨hFree, -⟩ | ⟨hLimited, hPrevious, marked, -, hStarted, hRecover⟩
  · rw [reconcile_free hFree]
    exact hWas
  · rcases reconcile_limited hLimited now hPrevious hStarted hRecover with
      ⟨-, hStatus⟩ | ⟨-, hSame⟩
    · refine .inl ⟨?_, .inr hStatus⟩
      rw [hStatus, lower_recover]
      exact recover_ne
    · rw [hSame]
      exact hWas

theorem keeps_step (hKeeps : Keeps env status account last) {op : Op}
    (hProper : Proper env account op) :
    Keeps env status (step env account op).1 (markedBy last op) := by
  cases op with
  | mark now previous_status => exact keeps_mark hKeeps hProper
  | reconcile now => exact keeps_reconcile hKeeps now
  | clear now =>
    rcases hKeeps with hFree | ⟨hLimited, -⟩
    · unfold step clear
      dsimp only
      split
      · exact .inl hFree
      · exact .inl hFree
    · exact absurd (lower_limited hLimited) hProper

theorem keeps_run (hKeeps : Keeps env status account last) {ops : List Op}
    (hOps : Steps (step env) (Proper env) account ops) :
    Keeps env status (run (step env) account ops) (ops.foldl markedBy last) := by
  induction ops generalizing account last with
  | nil => exact hKeeps
  | cons op ops ih => exact ih (keeps_step hKeeps hOps.1) hOps.2

----
-- Recovery
----

/- A limited account has kept the first status, gets it back at the first reconcile one hour after
   its last mark and not before, and a second reconcile changes nothing. -/
structure Recovers (env : Env) (status : String) (account : Account) (ops : List Op) : Prop where
  free : lower_status env account.status ≠ "rate_limited" →
    account.status = status ∨ account.status = recover_status env status
  limited : lower_status env account.status = "rate_limited" →
    account.extra.previous_status = some (recover_status env status) ∧
      ∃ marked, ops.foldl markedBy none = some marked ∧ ∀ now,
        (reconcile env account now).1.status =
          if marked + RATE_LIMIT_RECOVERY ≤ now then recover_status env status else "rate_limited"
  restored : recover_status env status =
    if lower_status env status = "" then "registered" else lower_status env status
  differs : recover_status env status ≠ "rate_limited"
  settles : ∀ now, reconcile env (reconcile env account now).1 now =
    ((reconcile env account now).1, false)

theorem recovers_after_last_mark (env : Env) (account : Account) (ops : List Op)
    (hFree : lower_status env account.status ≠ "rate_limited")
    (hOps : Steps (step env) (Proper env) account ops) :
    Recovers env account.status (run (step env) account ops) ops := by
  have hKeeps : Keeps env account.status _ (ops.foldl markedBy none) :=
    keeps_run (.inl ⟨hFree, .inl rfl⟩) hOps
  generalize run (step env) account ops = a at hKeeps ⊢
  refine ⟨fun hNot => ?_, fun hIs => ?_, by simp [recover_status, hFree], recover_ne, fun now => ?_⟩
  · rcases hKeeps with ⟨-, hStatus⟩ | ⟨hLimited, -⟩
    · exact hStatus
    · exact absurd (lower_limited hLimited) hNot
  · rcases hKeeps with ⟨hNot, -⟩ | ⟨hLimited, hPrevious, marked, hLast, hStarted, hRecover⟩
    · exact absurd hIs hNot
    · refine ⟨hPrevious, marked, hLast, fun now => ?_⟩
      rcases reconcile_limited hLimited now hPrevious hStarted hRecover with
        ⟨hDue, hStatus⟩ | ⟨hEarly, hSame⟩
      · rw [hStatus, if_pos hDue]
      · rw [hSame, if_neg (Int.not_le.mpr hEarly)]
        exact hLimited
  · rcases hKeeps with ⟨hNot, -⟩ | ⟨hLimited, hPrevious, marked, -, hStarted, hRecover⟩
    · rw [reconcile_free hNot, reconcile_free hNot]
    · rcases reconcile_limited hLimited now hPrevious hStarted hRecover with
        ⟨-, hStatus⟩ | ⟨-, hSame⟩
      · refine reconcile_free ?_ now
        rw [hStatus, lower_recover]
        exact recover_ne
      · rw [hSame, hSame]

def plainEnv : Env where
  lower value := value
  again := PyText.strip_strip
  registered := rfl
  rate_limited := rfl

def active : Account := { status := "active" }

def oneLimit : List Op := [.mark 0 none, .mark 5 none, .reconcile 9, .reconcile 3600000005]

theorem active_recovers :
    Recovers plainEnv "active" (run (step plainEnv) active oneLimit) oneLimit :=
  recovers_after_last_mark plainEnv active oneLimit (by decide)
    ⟨.inl rfl, .inl rfl, trivial, trivial, trivial⟩

/- A clear drops the status of a limited account, and a status is restored without the white space
   around it. -/
theorem cleared_status_is_lost :
    (run (step plainEnv) active [.mark 0 none, .clear 1, .reconcile 3600000001]).status =
        "registered" ∧
      (run (step plainEnv) { status := "active " } [.mark 0 none, .reconcile 3600000000]).status ≠
        plainEnv.lower "active " := by
  decide

end RateLimit
