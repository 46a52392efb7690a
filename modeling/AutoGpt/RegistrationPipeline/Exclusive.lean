import AutoGpt.RegistrationPipeline.Continuation
import Mathlib.Data.List.Pairwise

/-
  Exclusive claims of the continuation. The marker has no owner
  token; claims exclude each other as long as every commit
  lands on the row that its call read, and a finish comes
  within half an hour of its claim or before another claim.

  Main theorems: `Inv.step`, `continuation_exclusive`
-/

open Machine (Steps run)
open List
open Option

----
-- Outcomes
----

namespace RegistrationPipeline

/- A claim of the row could be granted at some time. -/
def Resumable (env : Env) (account : Option Row) : Prop := ∃ row marker, account = some row ∧
    row.marker = some marker ∧
    needsContinuation env marker ∧
    marker.requested.anyOf

/- The row's continuation runs since the time or later. -/
def RunningSince (env : Env) (account : Option Row) (time : Int) : Prop :=
  ∃ row marker, account = some row ∧ row.marker = some marker ∧
    env.lower (text marker.continuation.state 64) = "running" ∧
    time ≤ marker.continuation.updated_at

/- A granted claim is of a row that is not running at its
   time, and writes one that runs since then. -/
theorem claims_spec
    (hClaims : claim_registration_pipeline_continuation env account now = .claims write context) :
    Resumable env account ∧
      (∀ time, 0 < time → RunningSince env account time → time + continuationRunningTimeout ≤ now) ∧
      RunningSince env (some write) now := by
  cases account with
  | none => cases hClaims
  | some row =>
    unfold claim_registration_pipeline_continuation at hClaims
    dsimp only at hClaims
    split at hClaims
    · cases hClaims
    split at hClaims
    · cases hClaims
    rename_i marker hMarker
    split at hClaims
    · cases hClaims
    split at hClaims
    · cases hClaims
    rename_i hResumable
    split at hClaims
    · cases hClaims
    rename_i hIdle
    rcases not_or.mp hResumable with ⟨hNeeds, hRequested⟩
    rw [ClaimOutcome.claims.injEq] at hClaims
    refine ⟨?_, ?_, ?_⟩
    · exact ⟨row, marker, rfl, hMarker, eq_true_of_ne_false hNeeds, eq_true_of_ne_false hRequested⟩
    · rintro time hTime ⟨row', marker', hRow, hFound, hState, hUpdated⟩
      rw [some.injEq] at hRow
      rw [← hRow, hMarker, some.injEq] at hFound
      rw [← hFound] at hState hUpdated
      unfold runningAt at hIdle
      rw [Bool.and_eq_true, Bool.and_eq_true, beq_iff_eq,
        decide_eq_true_iff, decide_eq_true_iff] at hIdle
      have hLate : ¬ now - marker.continuation.updated_at < continuationRunningTimeout :=
        fun hFresh => hIdle ⟨⟨hState, Int.lt_of_lt_of_le hTime hUpdated⟩, hFresh⟩
      omega
    · rw [← hClaims.1]
      refine ⟨_, _, rfl, rfl, ?_, Int.le_refl _⟩
      have hText : text "running" 64 = "running" := by decide
      exact (congrArg env.lower hText).trans env.lower_running

theorem completes_spec
    (hCompletes : claim_registration_pipeline_continuation env account now = .completes write) :
    ¬ Resumable env (some write) := by
  cases account with
  | none => cases hCompletes
  | some row =>
    unfold claim_registration_pipeline_continuation at hCompletes
    dsimp only at hCompletes
    split at hCompletes
    · cases hCompletes
    split at hCompletes
    · cases hCompletes
    rename_i marker hMarker
    split at hCompletes
    · cases hCompletes
    split at hCompletes
    next hNothing =>
      rw [ClaimOutcome.completes.injEq] at hCompletes
      rintro ⟨row', marker', hRow, hFound, hNeeds, hRequested⟩
      rw [some.injEq] at hRow
      rw [← hRow, ← hCompletes] at hFound
      unfold Row.withMarker authRecovered at hFound
      rw [some.injEq] at hFound
      rw [← hFound] at hNeeds hRequested
      rcases hNothing with hIdle | hNone
      · have hText : text "succeeded" 64 = "succeeded" := by
          decide
        unfold needsContinuation at hIdle hNeeds
        dsimp only at hNeeds
        rw [Bool.or_eq_false_iff] at hIdle
        rw [hText, env.lower_succeeded, hIdle.2] at hNeeds
        cases hNeeds
      · rw [hNone] at hRequested
        cases hRequested
    · split at hCompletes
      · cases hCompletes
      · cases hCompletes

----
-- Statements
----

/- Two granted claims that are not finished lie half an hour apart. -/
def Exclusive (w : World) : Prop := ∀ held ∈ w.holders, ∀ other ∈ w.holders,
    held.call ≠ other.call → held.time + continuationRunningTimeout ≤ other.time ∨
        other.time + continuationRunningTimeout ≤ held.time

/- The step is the commit of a finish whose claim is not the
   newest one, and the newest one is not finished. -/
def MarksNewer (w : World) (op : WorkerOp) : Prop := ∃ call c claim newest, op = .commit call ∧
      w.pending call = some c ∧
      c.kind = .finishes claim ∧
      w.latest = some newest ∧
      newest.call ≠ claim ∧
      newest ∈ w.holders

/- The claim was granted less than half an hour ago. -/
def InTime (w : World) (claim : Nat) : Prop :=
  ∃ held ∈ w.holders, held.call = claim ∧ w.clock < held.time + continuationRunningTimeout

def Newest (w : World) (claim : Nat) : Prop :=
  ∃ newest, w.latest = some newest ∧ newest.call = claim

/- A commit comes before any other one since its read, and a
   finish comes in time or with no other claim since. -/
def Orderly (w : World) : WorkerOp → Prop
| .commit call => ∀ c, w.pending call = some c →
      c.seen = w.commits ∧ ∀ claim, c.kind = .finishes claim → InTime w claim ∨ Newest w claim
| _ => True

----
-- The Invariant
----

/- No claim of the stored row can be granted within half an hour of the held one. -/
def Safe (env : Env) (w : World) (held : Claim) : Prop := RunningSince env w.row held.time ∨
    ¬ Resumable env w.row ∨
    held.time + continuationRunningTimeout ≤ w.last_commit_at

/- A call has the outcome of its read, and if nothing was
   committed since, it has read the stored row. -/
structure CallSound (env : Env) (w : World) (c : Call) : Prop
where
  positive : 0 < c.time
  past : c.time ≤ w.clock
  seen : c.seen ≤ w.commits
  current : c.seen = w.commits → c.read = w.row ∧ w.last_commit_at ≤ c.time
  claims : c.kind = .claims → ∃ context,
        claim_registration_pipeline_continuation env c.read c.time = .claims c.write context
  completes : c.kind = .completes →
      claim_registration_pipeline_continuation env c.read c.time = .completes c.write

structure Inv (env : Env) (w : World) : Prop where
  separated : w.holders.Pairwise
      (fun newer older => older.time + continuationRunningTimeout ≤ newer.time)
  positive : ∀ held ∈ w.holders, 0 < held.time
  safe : ∀ held ∈ w.holders, Safe env w held
  newest : ∀ held ∈ w.holders, ∃ newest, w.latest = some newest ∧ newest.time ≤ w.clock ∧
      (held.call ≠ newest.call → held.time + continuationRunningTimeout ≤ newest.time)
  last : w.last_commit_at ≤ w.clock
  calls : ∀ (call : Nat) (c : Call), w.calls[call]? = some c → CallSound env w c

theorem inv_fresh (env : Env) (row : Option Row) (clock : Int) (hClock : 0 < clock) :
    Inv env (World.fresh row clock hClock) where
  separated := List.Pairwise.nil
  positive := fun _ hHeld => absurd hHeld not_mem_nil
  safe := fun _ hHeld => absurd hHeld not_mem_nil
  newest := fun _ hHeld => absurd hHeld not_mem_nil
  last := Int.le_of_lt hClock
  calls := fun _ _ hCall => by cases hCall

/- The times of the two claims are half an hour apart. -/
def Apart (held other : Claim) : Prop := held.call ≠ other.call →
    held.time + continuationRunningTimeout ≤ other.time ∨
      other.time + continuationRunningTimeout ≤ held.time

instance : Std.Symm Apart where
  symm _ _ hApart hNe := (hApart (Ne.symm hNe)).symm

theorem Inv.exclusive (hInv : Inv env w) : Exclusive w := by
  have hApart : w.holders.Pairwise Apart := hInv.separated.imp (fun hOlder _ => .inr hOlder)
  intro held hHeld other hOther
  exact hApart.forall_of_forall (fun _ _ hNe => absurd rfl hNe) hHeld hOther

theorem Inv.newest_of_orderly (hInv : Inv env w)
    (hOwn : InTime w claim ∨ Newest w claim) : Newest w claim := by
  rcases hOwn with ⟨held, hHeld, hCall, hTime⟩ | hNewest
  · rcases hInv.newest held hHeld with
      ⟨newest, hLatest, hPast, hApart⟩
    by_cases hSame : held.call = newest.call
    · exact ⟨newest, hLatest, hSame.symm.trans hCall⟩
    · have hEarlier := hApart hSame
      omega
  · exact hNewest

theorem Inv.not_marksNewer (hInv : Inv env w) (hOrderly : Orderly w op) : ¬ MarksNewer w op := by
  rintro ⟨call, c, claim, newest, hOp, hPending, hKind, hLatest, hOther, _⟩
  rw [hOp] at hOrderly
  have hOwn := (hOrderly c hPending).2 claim hKind
  rcases hInv.newest_of_orderly hOwn with ⟨found, hFound, hSame⟩
  rw [hLatest, some.injEq] at hFound
  rw [hFound] at hOther
  exact hOther hSame

theorem Inv.begins (hInv : Inv env w)
    (hClaims : kind = .claims → ∃ context,
          claim_registration_pipeline_continuation env w.row w.clock = .claims write context)
    (hCompletes : kind = .completes →
        claim_registration_pipeline_continuation env w.row w.clock = .completes write) :
    Inv env (w.begins write kind) := by
  refine ⟨hInv.separated, hInv.positive, hInv.safe, hInv.newest, hInv.last, ?_⟩
  intro call c hCall
  have hCases : c ∈ w.calls ∨ c =
          { read := w.row, write := write, kind := kind, time := w.clock, seen := w.commits } := by
    have hMem := mem_of_getElem? hCall
    exact (mem_append.mp hMem).imp id mem_singleton.mp
  rcases hCases with hOld | hNew
  · rcases getElem?_of_mem hOld with ⟨k, hk⟩
    have hSound := hInv.calls k c hk
    exact
      ⟨hSound.positive, hSound.past, hSound.seen, hSound.current, hSound.claims, hSound.completes⟩
  · rw [hNew]
    exact
      ⟨w.clock_pos, Int.le_refl _, Nat.le_refl _, fun _ => ⟨rfl, hInv.last⟩, hClaims, hCompletes⟩

theorem Inv.calls_committed (hInv : Inv env w) {call : Nat} {c : Call}
    (hCall : w.calls[call]? = some c) (k : Nat) (c' : Call)
    (hAfter : (w.committed call c).calls[k]? = some c') :
    CallSound env (w.committed call c) c' := by
  have hOld : ∃ (k' : Nat) (old : Call), w.calls[k']? = some old ∧
        c' = { old with committed := c'.committed } := by
    unfold World.committed at hAfter
    dsimp only at hAfter
    rw [getElem?_set] at hAfter
    split at hAfter
    · split at hAfter
      · rw [some.injEq] at hAfter
        refine ⟨call, c, hCall, ?_⟩
        rw [← hAfter]
      · cases hAfter
    · exact ⟨k, c', hAfter, rfl⟩
  rcases hOld with ⟨k', old, hOldCall, hSame⟩
  have hSound := hInv.calls k' old hOldCall
  have hSeen : old.seen ≤ w.commits := hSound.seen
  have hLater : ¬ c'.seen = (w.committed call c).commits := by
    rw [hSame]
    unfold World.committed
    dsimp only
    omega
  rw [hSame] at hLater ⊢
  exact ⟨hSound.positive, hSound.past, Nat.le_succ_of_le hSeen,
      fun h => absurd h hLater, hSound.claims, hSound.completes⟩

----
-- Commits
----

/- A claim that can be granted is half an hour after every held one. -/
theorem Inv.held_before (hInv : Inv env w) (hSound : CallSound env w c) (hSeen : c.seen = w.commits)
    (hKind : c.kind = .claims) (hHeld : held ∈ w.holders) :
    held.time + continuationRunningTimeout ≤ c.time := by
  rcases hSound.current hSeen with ⟨hRead, hLast⟩
  rcases hSound.claims hKind with ⟨context, hClaims⟩
  rw [hRead] at hClaims
  rcases claims_spec hClaims with ⟨hResumable, hIdle, _⟩
  rcases hInv.safe held hHeld with hRunning | hNone | hOld
  · exact hIdle held.time (hInv.positive held hHeld) hRunning
  · exact absurd hResumable hNone
  · exact Int.le_trans hOld hLast

theorem Inv.claims (hInv : Inv env w) (hCall : w.calls[call]? = some c) (hSeen : c.seen = w.commits)
    (hKind : c.kind = .claims) :
    Inv env
      { w.committed call c with
        holders := ⟨call, c.time⟩ :: w.holders,
        latest := some ⟨call, c.time⟩ } := by
  have hSound := hInv.calls call c hCall
  rcases hSound.claims hKind with ⟨context, hClaims⟩
  have hRuns := (claims_spec hClaims).2.2
  have hBefore : ∀ held ∈ w.holders, held.time + continuationRunningTimeout ≤ c.time :=
    fun held hHeld => hInv.held_before hSound hSeen hKind hHeld
  have hTimeout : 0 ≤ continuationRunningTimeout := by decide
  have hOlder : ∀ held ∈ (⟨call, c.time⟩ : Claim) :: w.holders, held.time ≤ c.time := by
    intro held hHeld
    rcases mem_cons.mp hHeld with hNew | hOld
    · subst hNew
      exact Int.le_refl _
    · have hApart := hBefore held hOld
      omega
  constructor
  · exact List.Pairwise.cons hBefore hInv.separated
  · intro held hHeld
    rcases mem_cons.mp hHeld with hNew | hOld
    · rw [hNew]
      exact hSound.positive
    · exact hInv.positive held hOld
  · intro held hHeld
    rcases hRuns with ⟨row, marker, hRow, hMarker, hState, hTime⟩
    exact .inl ⟨row, marker, hRow, hMarker, hState, Int.le_trans (hOlder held hHeld) hTime⟩
  · intro held hHeld
    refine ⟨⟨call, c.time⟩, rfl, hSound.past, ?_⟩
    intro hNe
    rcases mem_cons.mp hHeld with hNew | hOld
    · rw [hNew] at hNe
      exact absurd rfl hNe
    · exact hBefore held hOld
  · exact Int.le_refl _
  · intro k c' hAfter
    have hCommitted := hInv.calls_committed hCall k c' hAfter
    exact ⟨hCommitted.positive, hCommitted.past, hCommitted.seen,
        hCommitted.current, hCommitted.claims, hCommitted.completes⟩

theorem Inv.completes (hInv : Inv env w) (hCall : w.calls[call]? = some c)
    (hKind : c.kind = .completes) : Inv env (w.committed call c) := by
  have hSound := hInv.calls call c hCall
  have hDone := completes_spec (hSound.completes hKind)
  exact ⟨hInv.separated, hInv.positive, fun _ _ => .inr (.inl hDone), hInv.newest,
      Int.le_refl _, hInv.calls_committed hCall⟩

theorem Inv.finishes (hInv : Inv env w) {newest : Claim}
    (hCall : w.calls[call]? = some c) (hLatest : w.latest = some newest)
    (hOwn : newest.call = claim) :
    Inv env
      { w.committed call c with holders := w.holders.filter (fun held => held.call != claim) } := by
  constructor
  · exact hInv.separated.sublist filter_sublist
  · intro held hHeld
    exact hInv.positive held (mem_filter.mp hHeld).1
  · intro held hHeld
    rcases mem_filter.mp hHeld with ⟨hOld, hOther⟩
    rcases hInv.newest held hOld with ⟨found, hFound, hPast, hApart⟩
    rw [hLatest, some.injEq] at hFound
    rw [← hFound, hOwn] at hApart
    rw [← hFound] at hPast
    -- the finish comes half an hour after every other claim
    exact .inr (.inr (Int.le_trans (hApart (bne_iff_ne.mp hOther)) hPast))
  · intro held hHeld
    exact hInv.newest held (mem_filter.mp hHeld).1
  · exact Int.le_refl _
  · intro k c' hAfter
    have hCommitted := hInv.calls_committed hCall k c' hAfter
    exact ⟨hCommitted.positive, hCommitted.past, hCommitted.seen,
        hCommitted.current, hCommitted.claims, hCommitted.completes⟩

theorem Inv.wait (hInv : Inv env w) (time : Nat) : Inv env (workerStep env w (.wait time)).1 := by
  have hLater : w.clock ≤ w.clock + time := by omega
  constructor
  · exact hInv.separated
  · exact hInv.positive
  · exact hInv.safe
  · intro held hHeld
    rcases hInv.newest held hHeld with ⟨newest, hLatest, hPast, hApart⟩
    exact ⟨newest, hLatest, Int.le_trans hPast hLater, hApart⟩
  · exact Int.le_trans hInv.last hLater
  · intro call c hCall
    have hSound := hInv.calls call c hCall
    exact ⟨hSound.positive, Int.le_trans hSound.past hLater,
        hSound.seen, hSound.current, hSound.claims, hSound.completes⟩

theorem Inv.step {op : WorkerOp} (hInv : Inv env w) (hOrderly : Orderly w op) :
    Inv env (workerStep env w op).1 := by
  cases op with
  | wait time => exact hInv.wait time
  | claimRead =>
    unfold workerStep
    dsimp only
    split
    · exact hInv
    next row hOutcome =>
      exact hInv.begins nofun (fun _ => hOutcome)
    next row context hOutcome =>
      exact hInv.begins (fun _ => ⟨context, hOutcome⟩) nofun
  | finishRead claim state message =>
    unfold workerStep
    dsimp only
    split
    · exact hInv
    · exact hInv.begins nofun nofun
  | commit call =>
    unfold workerStep
    dsimp only
    split
    · exact hInv
    next c hPending =>
      rcases hOrderly c hPending with ⟨hSeen, hOwn⟩
      have hCall : w.calls[call]? = some c := (filter_eq_some_iff.mp hPending).1
      unfold World.credit
      cases hKind : c.kind with
      | claims => exact hInv.claims hCall hSeen hKind
      | completes => exact hInv.completes hCall hKind
      | finishes claim =>
        rcases hInv.newest_of_orderly (hOwn claim hKind) with ⟨newest, hLatest, hSame⟩
        exact hInv.finishes hCall hLatest hSame

----
-- Runs
----

/- In every run whose commits are orderly, no two workers hold claims within half an hour of each
   other, and no finish marks a newer claim. -/
theorem continuation_exclusive (env : Env) (row : Option Row) (clock : Int)
    (hClock : 0 < clock) (ops : List WorkerOp)
    (hOrderly : Steps (workerStep env) Orderly (World.fresh row clock hClock) ops) :
    (∀ before after, ops = before ++ after →
      Exclusive (run (workerStep env) (World.fresh row clock hClock) before)) ∧
      ∀ before op after, ops = before ++ op :: after → ¬ MarksNewer
          (run (workerStep env) (World.fresh row clock hClock) before)
          op := by
  have hStep : ∀ w op, Inv env w → Orderly w op → Inv env (workerStep env w op).1 :=
    fun _ _ hInv hHere => hInv.step hHere
  have hReached : ∀ before after, ops = before ++ after →
        Inv env (run (workerStep env) (World.fresh row clock hClock) before) := by
    intro before after hSplit
    rw [hSplit, Machine.steps_append] at hOrderly
    exact @Machine.run_induction_of_steps _ _ _ (workerStep env) (Inv env) Orderly hStep _
        (inv_fresh env row clock hClock) before hOrderly.1
  constructor
  · intro before after hSplit
    exact (hReached before after hSplit).exclusive
  · intro before op after hSplit
    have hInv := hReached before (op :: after) hSplit
    rw [Machine.steps_iff_forall_split] at hOrderly
    exact hInv.not_marksNewer (hOrderly before op after hSplit)

/- Texts in lower and in upper case as they are. -/
def sampleEnv : Env where
  lower := id
  upper := id
  lower_running := rfl
  lower_succeeded := rfl

/- An account whose auth has been recovered. -/
def recoveredRow : Row where
  id := 1
  token := "at-1"
  marker := some
      { requested := { payment_link := true }, continuation := { state := "waiting_auth" },
        registration := { state := "pending_auth" }, payment_link := { state := "pending_auth" } }

/- The first worker claims and finishes; the second one is refused meanwhile. -/
def inTurn : List WorkerOp :=
  [.claimRead, .commit 0, .claimRead, .finishRead 0 "completed" "", .commit 1]

/- The world of a run from the sample row. -/
def sampleRun (ops : List WorkerOp) : World :=
  run (workerStep sampleEnv) (World.fresh (some recoveredRow) 1 (by decide)) ops

/- The commit of a pending call is orderly. -/
def orderlyCommit (w : World) (call : Nat) : Bool := (w.pending call).all (fun c =>
    c.seen == w.commits &&
      match c.kind with
      | .finishes claim => w.latest.any (fun newest => newest.call == claim)
      | _ => true)

theorem orderly_of_orderlyCommit (hCommit : orderlyCommit w call) :
    Orderly w (.commit call) := by
  intro c hPending
  unfold orderlyCommit at hCommit
  rw [hPending, Option.all_some, Bool.and_eq_true, beq_iff_eq] at hCommit
  refine ⟨hCommit.1, ?_⟩
  intro claim hKind
  have hNewest := hCommit.2
  rw [hKind] at hNewest
  rw [Option.any_eq_true] at hNewest
  rcases hNewest with ⟨newest, hLatest, hSame⟩
  exact .inr ⟨newest, hLatest, beq_iff_eq.mp hSame⟩

theorem inTurn_exclusive :
    (∀ before after, inTurn = before ++ after → Exclusive (sampleRun before)) ∧
      ∀ before op after, inTurn = before ++ op :: after → ¬ MarksNewer (sampleRun before) op :=
  continuation_exclusive sampleEnv (some recoveredRow) 1 (by decide) inTurn
    ⟨trivial, orderly_of_orderlyCommit (by decide +kernel), trivial, trivial,
      orderly_of_orderlyCommit (by decide +kernel), trivial⟩

/- Two workers read before either commits, and both are granted the claim; and a worker that comes
   back after half an hour marks the claim of its successor as finished. -/
theorem claims_overlap_and_late_finish :
    (¬ ∀ ops, Exclusive (sampleRun ops)) ∧ ¬ ∀ ops op, ¬ MarksNewer (sampleRun ops) op := by
  constructor
  · intro hAll
    have hRun := hAll [.claimRead, .claimRead, .commit 0, .commit 1]
    have hHolders :
        (sampleRun [.claimRead, .claimRead, .commit 0, .commit 1]).holders = [⟨1, 1⟩, ⟨0, 1⟩] := by
      decide +kernel
    have hApart :=
      hRun ⟨1, 1⟩ (by rw [hHolders]; decide) ⟨0, 1⟩ (by rw [hHolders]; decide) (by decide)
    revert hApart
    decide
  · intro hAll
    have hLate : (sampleRun
              [.claimRead, .commit 0, .wait 1860000000, .claimRead, .commit 1,
                .finishRead 0 "completed" ""]).latest =
            some ⟨1, 1860000001⟩ ∧
          (⟨1, 1860000001⟩ : Claim) ∈ (sampleRun
              [.claimRead, .commit 0, .wait 1860000000, .claimRead, .commit 1,
                .finishRead 0 "completed" ""]).holders ∧
          ((sampleRun [.claimRead, .commit 0, .wait 1860000000, .claimRead, .commit 1,
                .finishRead 0 "completed" ""]).pending 2).map (·.kind) = some (.finishes 0) := by
      decide +kernel
    rcases hLate with ⟨hLatest, hHeld, hPending⟩
    rcases Option.map_eq_some_iff.mp hPending with ⟨c, hCall, hKind⟩
    exact hAll _ (.commit 2) ⟨2, c, 0, _, rfl, hCall, hKind, hLatest, by decide, hHeld⟩

end RegistrationPipeline
