import AutoGpt.TaskRuntime.Verification
import Mathlib.Data.List.Nodup

/-
  Verification codes over whole interleavings. The history of
  answers says which codes were accepted and which were
  returned; the invariant ties it to the slot and the waits.

  Main declarations:
    * `TaskRuntime.IdsSound`
    * `TaskRuntime.HistorySound`
    * `TaskRuntime.HistorySound.step`
-/

open List
open Machine

----
-- Distinct Challenges
----

namespace TaskRuntime

/- The ids of the waits are distinct, and the slot uses one. -/
structure IdsSound (c : Control) : Prop where
  distinct : (waitIds c).Nodup
  numbered :
    ∀ id ∈ waitIds c, ∃ milliseconds n, id = challengeId milliseconds n ∧ n < c.next_challenge_id
  slot : ∀ challenge, c.pending_verification = some challenge → challenge.challenge_id ∈ waitIds c

theorem IdsSound.init : IdsSound {} := by
  constructor
  · exact nodup_nil
  · intro id hId
    cases hId
  · intro challenge hSlot
    cases hSlot

theorem IdsSound.fresh (hIds : IdsSound c) (milliseconds : Nat) :
    challengeId milliseconds c.next_challenge_id ∉ waitIds c := by
  intro hMem
  rcases hIds.numbered _ hMem with ⟨ms, n, hSame, hLt⟩
  have hCount := challengeId_inj hSame
  omega

variable {next : Control}

theorem IdsSound.of_kept (hIds : IdsSound c) (hKept : waitIds next = waitIds c)
    (hNext : next.next_challenge_id = c.next_challenge_id)
    (hSlot : ∀ challenge, next.pending_verification = some challenge →
        ∃ old, c.pending_verification = some old ∧ challenge.challenge_id = old.challenge_id) :
    IdsSound next := by
  constructor
  · rw [hKept]
    exact hIds.distinct
  · rw [hKept, hNext]
    exact hIds.numbered
  · intro challenge hFound
    rcases hSlot challenge hFound with ⟨old, hOld, hSame⟩
    rw [hKept, hSame]
    exact hIds.slot old hOld

theorem IdsSound.section (hIds : IdsSound c)
    (hEffect : SectionEffect c op next answer) : IdsSound next := by
  cases hEffect with
  | waited hWait =>
    cases hWait with
    | quiet hAnswer hNext hWaiters hSlot =>
      apply hIds.of_kept hWaiters.ids hNext
      intro challenge hFound
      rcases hSlot challenge hFound with ⟨old, hOld, hSame, -⟩
      exact ⟨old, hOld, hSame⟩
    | returned i w w' challenge hWaiter hOpen hSlot hId
        hSubmitted hCode hAnswer hDone hSame hWaiters
        hCleared hNext =>
        have hKept := WaitersKept.set hWaiter hOpen hSame hWaiters
        apply hIds.of_kept hKept.ids hNext
        intro other hFound
        rw [hCleared] at hFound
        cases hFound
  | accepted challenge challenge_id code now hOp hSlot hId
      hPending hInTime hCode hAnswer hState =>
      rw [hState]
      refine hIds.of_kept ?_ ?_ ?_
      · rfl
      · rfl
      · intro other hOther
        cases hOther
        exact ⟨challenge, hSlot, rfl⟩
  | started milliseconds hAnswer hNext hNew hDone hSlot =>
    constructor
    · rw [hNew, nodup_append_comm]
      apply nodup_cons.mpr
      exact ⟨hIds.fresh milliseconds, hIds.distinct⟩
    · intro id hMem
      rw [hNext]
      rw [hNew, mem_append] at hMem
      rcases hMem with hOld | hMine
      · rcases hIds.numbered id hOld with
          ⟨ms, n, hSame, hLt⟩
        exact ⟨ms, n, hSame, by omega⟩
      · rw [mem_singleton] at hMine
        exact ⟨milliseconds, c.next_challenge_id, hMine, by omega⟩
    · intro challenge hFound
      rw [hNew, (hSlot challenge hFound).1]
      exact mem_append_right _ (mem_singleton_self _)

theorem IdsSound.step (c : Control) (op : Op) (hIds : IdsSound c) : IdsSound (step c op).1 :=
  hIds.section (step_effect c op)

/- A pending challenge with this id waits in the slot. -/
def PendingChallenge (challenge_id : String) (c : Control) :
    Prop :=
  ∃ challenge, c.pending_verification = some challenge ∧ challenge.challenge_id = challenge_id ∧
    challenge.status = .pending

theorem pending_before_step (op : Op) (hKnown : challenge_id ∈ waitIds c) (hIds : IdsSound c)
    (hAfter : PendingChallenge challenge_id (step c op).1) : PendingChallenge challenge_id c := by
  rcases hAfter with ⟨challenge, hFound, hSame, hStatus⟩
  have hEffect := step_effect c op
  cases hEffect with
  | waited hWait =>
    cases hWait with
    | quiet hAnswer hNext hWaiters hSlot =>
      rcases hSlot challenge hFound with ⟨old, hOld, hId, hPending, -⟩
      exact ⟨old, hOld, hId.symm.trans hSame, hPending hStatus⟩
    | returned i w w' other hWaiter hOpen hSlot hId
        hSubmitted hCode hAnswer hDone hKeep hWaiters
        hCleared hNext =>
        rw [hCleared] at hFound
        cases hFound
  | accepted other id code now hOp hSlot hId hPending hInTime
      hCode hAnswer hState =>
      rw [hState] at hFound
      cases hFound
      cases hStatus
  | started milliseconds hAnswer hNext hNew hDone hSlot =>
    have hFresh := hIds.fresh milliseconds
    rw [← (hSlot challenge hFound).1, hSame] at hFresh
    exact absurd hKnown hFresh

theorem waitIds_step (op : Op) (hKnown : challenge_id ∈ waitIds c) :
    challenge_id ∈ waitIds (step c op).1 := by
  have hEffect := step_effect c op
  cases hEffect with
  | waited hWait =>
    cases hWait with
    | quiet hAnswer hNext hWaiters hSlot =>
      rw [hWaiters.ids]
      exact hKnown
    | returned i w w' other hWaiter hOpen hSlot hId
        hSubmitted hCode hAnswer hDone hKeep hWaiters
        hCleared hNext =>
        rw [(WaitersKept.set hWaiter hOpen hKeep hWaiters).ids]
        exact hKnown
  | accepted other id code now hOp hSlot hId hPending hInTime
      hCode hAnswer hState =>
      rw [hState]
      exact hKnown
  | started milliseconds hAnswer hNext hNew hDone hSlot =>
    rw [hNew]
    exact mem_append_left _ hKnown

theorem not_pending_run (hIds : IdsSound c) (hKnown : challenge_id ∈ waitIds c)
    (hLeft : ¬ PendingChallenge challenge_id c) (ops : List Op) :
    ¬ PendingChallenge challenge_id (run c ops) := by
  have hRun := run_induction
      (P := fun c => IdsSound c ∧ challenge_id ∈ waitIds c ∧ ¬ PendingChallenge challenge_id c)
      (fun c (op : Op) hInv => ⟨hInv.1.step c op, waitIds_step op hInv.2.1,
          fun hAfter => hInv.2.2 (pending_before_step op hInv.2.1 hInv.1 hAfter)⟩)
      ⟨hIds, hKnown, hLeft⟩ ops
  exact hRun.2.2

----
-- The History Of Codes
----

/- The challenges that accepted a code, oldest first. -/
def submissions (history : List (Op × Answer)) :
    List Challenge :=
  history.filterMap fun entry =>
    match entry.2 with
    | .submitted challenge => some challenge
    | _ => none

/- The waits that returned, with the codes they returned. -/
def returns (history : List (Op × Answer)) :
    List (Nat × String) :=
  history.filterMap fun entry =>
    match entry.2 with
    | .returned waiter code => some (waiter, code)
    | _ => none

/- The history of an interleaving on a new control. -/
abbrev history (ops : List Op) : List (Op × Answer) := trace step {} ops

/- The history fits the state: a challenge accepts at most one code and is then not pending, what
   the slot holds as submitted was accepted, and a wait that returned is done. -/
structure HistorySound (history : List (Op × Answer)) (c : Control) : Prop where
  ids : IdsSound c
  known : ∀ challenge ∈ submissions history, challenge.challenge_id ∈ waitIds c
  once : ((submissions history).map Challenge.challenge_id).Nodup
  pending : ∀ challenge, c.pending_verification = some challenge → challenge.status = .pending →
      challenge.challenge_id ∉ (submissions history).map Challenge.challenge_id
  accepted : ∀ challenge, c.pending_verification = some challenge → challenge.status = .submitted →
      ∃ accepted ∈ submissions history,
        accepted.challenge_id = challenge.challenge_id ∧ accepted.code = challenge.code
  finished : ∀ r ∈ returns history, ∃ w, c.waiters[r.1]? = some w ∧ w.phase = .done
  returnedOnce : ((returns history).map Prod.fst).Nodup

theorem quiet_adds_nothing (op : Op) (hQuiet : answer.isQuiet) :
    submissions (h ++ [(op, answer)]) = submissions h ∧
      returns (h ++ [(op, answer)]) = returns h := by
  unfold submissions returns
  cases answer with
  | submitted challenge => cases hQuiet
  | returned waiter code => cases hQuiet
  | done => simp
  | waiting => simp
  | handling action payload => simp
  | raised error => simp
  | changed value => simp
  | attempt attempt_id => simp
  | challenge challenge => simp

theorem submissions_accepted (op : Op) (challenge : Challenge) :
    submissions (h ++ [(op, .submitted challenge)]) = submissions h ++ [challenge] := by
  simp [submissions]

theorem returns_accepted (op : Op) (challenge : Challenge) :
    returns (h ++ [(op, .submitted challenge)]) = returns h := by
  simp [returns]

theorem submissions_returned (op : Op) (waiter : Nat) (code : String) :
    submissions (h ++ [(op, .returned waiter code)]) = submissions h := by
  simp [submissions]

theorem returns_returned (op : Op) (waiter : Nat) (code : String) :
    returns (h ++ [(op, .returned waiter code)]) = returns h ++ [(waiter, code)] := by
  simp [returns]

theorem HistorySound.init : HistorySound [] {} := by
  constructor
  · exact IdsSound.init
  · intro challenge hMem
    cases hMem
  · exact nodup_nil
  · intro challenge hSlot
    cases hSlot
  · intro challenge hSlot
    cases hSlot
  · intro r hMem
    cases hMem
  · exact nodup_nil

/- One critical section extends a fitting history. -/
theorem HistorySound.step (hSound : HistorySound h c) (op : Op) :
    HistorySound (h ++ [(op, (step c op).2)]) (step c op).1 := by
  have hIds := hSound.ids.step c op
  have hEffect := step_effect c op
  generalize (TaskRuntime.step c op).1 = next at hIds hEffect ⊢
  generalize (TaskRuntime.step c op).2 = answer at hEffect ⊢
  cases hEffect with
  | waited hWait =>
    cases hWait with
    | quiet hAnswer hNext hWaiters hSlot =>
      have hSame := quiet_adds_nothing (h := h) op hAnswer
      constructor
      · exact hIds
      · rw [hSame.1, hWaiters.ids]
        exact hSound.known
      · rw [hSame.1]
        exact hSound.once
      · intro challenge hFound hPending
        rcases hSlot challenge hFound with ⟨old, hOld, hId, hWas, -⟩
        rw [hSame.1, hId]
        exact hSound.pending old hOld (hWas hPending)
      · intro challenge hFound hSubmitted
        rcases hSlot challenge hFound with ⟨old, hOld, hId, -, hWas⟩
        rw [hSame.1, hId, (hWas hSubmitted).2]
        exact hSound.accepted old hOld (hWas hSubmitted).1
      · intro r hMem
        rw [hSame.2] at hMem
        rcases hSound.finished r hMem with ⟨w, hWaiter, hDone⟩
        exact ⟨w, hWaiters.done _ w hWaiter hDone, hDone⟩
      · rw [hSame.2]
        exact hSound.returnedOnce
    | returned i w w' challenge hWaiter hOpen hSlot hId
        hSubmitted hCode hAnswer hDone hSame hWaiters
        hCleared hNext =>
        have hKept := WaitersKept.set hWaiter hOpen hSame hWaiters
        have hAt : next.waiters[i]? = some w' := by
          rw [hWaiters]
          exact List.getElem?_set_self (List.getElem?_eq_some_iff.mp hWaiter).1
        rw [hAnswer]
        constructor
        · exact hIds
        · rw [submissions_returned, hKept.ids]
          exact hSound.known
        · rw [submissions_returned]
          exact hSound.once
        · intro other hFound
          rw [hCleared] at hFound
          cases hFound
        · intro other hFound
          rw [hCleared] at hFound
          cases hFound
        · intro r hMem
          rw [returns_returned, mem_append] at hMem
          rcases hMem with hOld | hMine
          · rcases hSound.finished r hOld with
              ⟨v, hFound, hFinished⟩
            exact ⟨v, hKept.done _ v hFound hFinished, hFinished⟩
          · rw [mem_singleton] at hMine
            subst hMine
            exact ⟨w', hAt, hDone⟩
        · rw [returns_returned, map_append, nodup_append_comm]
          apply nodup_cons.mpr
          refine ⟨?_, hSound.returnedOnce⟩
          intro hMem
          rcases mem_map.mp hMem with ⟨r, hr, hSameAt⟩
          rcases hSound.finished r hr with ⟨v, hFound, hFinished⟩
          rw [hSameAt, hWaiter, Option.some.injEq] at hFound
          subst hFound
          exact hOpen hFinished
  | accepted challenge id code now hOp hSlot hId hPending
      hInTime hCode hAnswer hState =>
      have hFresh := hSound.pending challenge hSlot hPending
      have hKnown := hSound.ids.slot challenge hSlot
      subst hAnswer hState
      constructor
      · exact hIds
      · intro other hMem
        rw [submissions_accepted, mem_append] at hMem
        rcases hMem with hOld | hMine
        · exact hSound.known other hOld
        · rw [mem_singleton] at hMine
          subst hMine
          exact hKnown
      · rw [submissions_accepted, map_append, nodup_append_comm]
        exact nodup_cons.mpr ⟨hFresh, hSound.once⟩
      · intro other hOther hStatus
        cases hOther
        cases hStatus
      · intro other hOther _
        cases hOther
        refine ⟨_, ?_, rfl, rfl⟩
        rw [submissions_accepted]
        exact mem_append_right _ (mem_singleton_self _)
      · rw [returns_accepted]
        exact hSound.finished
      · rw [returns_accepted]
        exact hSound.returnedOnce
  | started milliseconds hAnswer hNext hNew hDone hSlot =>
    have hSame := quiet_adds_nothing (h := h) op hAnswer
    constructor
    · exact hIds
    · intro challenge hMem
      rw [hSame.1] at hMem
      rw [hNew]
      exact mem_append_left _ (hSound.known challenge hMem)
    · rw [hSame.1]
      exact hSound.once
    · intro challenge hFound _ hMem
      rw [hSame.1] at hMem
      rcases mem_map.mp hMem with ⟨old, hOld, hId⟩
      have hKnown := hSound.known old hOld
      rw [hId, (hSlot challenge hFound).1] at hKnown
      exact hSound.ids.fresh milliseconds hKnown
    · intro challenge hFound hSubmitted
      exact absurd hSubmitted (hSlot challenge hFound).2
    · intro r hMem
      rw [hSame.2] at hMem
      rcases hSound.finished r hMem with ⟨w, hWaiter, hFinished⟩
      exact ⟨w, hDone _ w hWaiter hFinished, hFinished⟩
    · rw [hSame.2]
      exact hSound.returnedOnce

theorem HistorySound.run (ops : List Op) : HistorySound (history ops) (run {} ops) := by
  have hRun := run_history (J := HistorySound) (fun h c op hSound => hSound.step op)
      HistorySound.init ops
  exact hRun

----
-- Codes Reach Their Own Wait
----

/- Earlier in the interleaving the code was accepted for the challenge, which was then pending and
   in time. -/
def AcceptedBefore (challenge_id code : String) (before : List Op) : Prop :=
  ∃ earlier id text now later challenge, before =
        earlier ++ .submitVerification id text now :: later ∧
      (run {} earlier).pending_verification = some challenge ∧
      challenge.challenge_id = challenge_id ∧ challenge.status = .pending ∧
      now < challenge.expires_at ∧ PyText.strip text = code ∧ (step (run {} earlier)
          (.submitVerification id text now)).2 =
        .submitted { challenge with code := code, status := .submitted }

theorem acceptedBefore_of_mem (hMem : challenge ∈ submissions (history before)) :
    AcceptedBefore challenge.challenge_id challenge.code
      before := by
  rcases mem_filterMap.mp hMem with ⟨⟨op, answer⟩, hEntry, hIs⟩
  have hAnswer : answer = .submitted challenge := by
    cases answer with
    | submitted found =>
      cases hIs
      rfl
    | done => cases hIs
    | waiting => cases hIs
    | handling action payload => cases hIs
    | returned waiter code => cases hIs
    | raised error => cases hIs
    | changed value => cases hIs
    | attempt attempt_id => cases hIs
    | challenge other => cases hIs
  subst hAnswer
  rcases exists_step_of_mem_trace hEntry with ⟨earlier, later, hSplit, hStep⟩
  have hEffect := step_effect (run {} earlier) op
  rw [← hStep] at hEffect
  cases hEffect with
  | waited hWait =>
    cases hWait with
    | quiet hQuiet => cases hQuiet
    | returned i w w' other hWaiter hOpen hSlot hId hSubmitted hCode hReturned => cases hReturned
  | started milliseconds hQuiet => cases hQuiet
  | accepted found id text now hOp hSlot hId hPending hInTime
      hCode hSame hState =>
      cases hSame
      subst hOp
      exact ⟨earlier, id, text, now, later, found, hSplit, hSlot,
          rfl, hPending, hInTime, rfl, hStep.symm⟩

theorem returned_code (hReturned : (step (run {} before) op).2 = .returned i code) :
    code ≠ "" ∧
      ∃ w, (run {} before).waiters[i]? = some w ∧ AcceptedBefore w.challenge_id code before := by
  have hEffect := step_effect (run {} before) op
  rw [hReturned] at hEffect
  cases hEffect with
  | accepted found id text now hOp hSlot hId hPending hInTime hCode hSame => cases hSame
  | started milliseconds hQuiet => cases hQuiet
  | waited hWait =>
    cases hWait with
    | quiet hQuiet => cases hQuiet
    | returned j w w' challenge hWaiter hOpen hSlot hId
        hSubmitted hCode hSame =>
        cases hSame
        refine ⟨hCode, w, hWaiter, ?_⟩
        have hSound := HistorySound.run before
        rcases hSound.accepted challenge hSlot hSubmitted with ⟨accepted, hMem, hSameId, hSameCode⟩
        have hBefore := acceptedBefore_of_mem hMem
        have hClean : PyText.strip accepted.code = accepted.code := by
          rcases hBefore with ⟨-, -, text, -, -, -, -, -, -, -, -, hText, -⟩
          rw [← hText]
          exact PyText.strip_strip text
        rw [← hSameCode, hClean, ← hId, ← hSameId]
        exact hBefore

theorem returned_ids_nodup (ops : List Op) :
    ((returns (history ops)).map fun r => (waitIds (run {} ops))[r.1]?).Nodup := by
  have hSound := HistorySound.run ops
  have hIds : ((returns (history ops)).map fun r => (waitIds (run {} ops))[r.1]?) =
        ((returns (history ops)).map Prod.fst).map fun i => (waitIds (run {} ops))[i]? := by
    rw [map_map]
    rfl
  rw [hIds]
  apply List.Nodup.map_on _ hSound.returnedOnce
  intro i hi j _ hSame
  rcases mem_map.mp hi with ⟨r, hr, hAt⟩
  rcases hSound.finished r hr with ⟨w, hWaiter, -⟩
  rw [hAt] at hWaiter
  have hBound : i < (waitIds (run {} ops)).length := by
    unfold waitIds
    rw [length_map]
    exact (List.getElem?_eq_some_iff.mp hWaiter).1
  exact (getElem?_inj hBound hSound.ids.distinct).mp hSame

theorem finishAttempt_spares
    (hSlot : c.pending_verification = some challenge) (hOther : challenge.attempt_id ≠ attempt_id) :
    (finishAttempt attempt_id c).1.pending_verification = some challenge := by
  unfold finishAttempt
  split
  · exact hSlot
  · rw [hSlot]
    dsimp only
    split
    next hMine => exact absurd hMine.1 hOther
    · exact hSlot

/- Every interleaving of waits, submissions, actions, skips, stops and attempts: what a wait returns
   was accepted for its own challenge while pending and in time, no challenge accepts twice and no
   two returned waits share one, a finished attempt leaves other challenges alone, and what left
   `pending` stays out of it. -/
theorem verification_codes_sound (ops : List Op) :
    (∀ before op after i code, ops = before ++ op :: after →
      (step (run {} before) op).2 = .returned i code → code ≠ "" ∧
        ∃ w, (run {} before).waiters[i]? = some w ∧ AcceptedBefore w.challenge_id code before) ∧
    ((submissions (history ops)).map Challenge.challenge_id).Nodup ∧
    ((returns (history ops)).map fun r => (waitIds (run {} ops))[r.1]?).Nodup ∧
    (∀ attempt_id challenge, (run {} ops).pending_verification = some challenge →
      challenge.attempt_id ≠ attempt_id →
      (step (run {} ops) (.finishAttempt attempt_id)).1.pending_verification = some challenge) ∧
    (∀ challenge_id before middle after, ops = before ++ middle ++ after →
      PendingChallenge challenge_id (run {} before) →
      ¬ PendingChallenge challenge_id (run {} (before ++ middle)) →
      ¬ PendingChallenge challenge_id (run {} ops)) := by
  refine ⟨?_, ?_, ?_, ?_, ?_⟩
  · intro before op after i code _ hReturned
    exact returned_code hReturned
  · exact (HistorySound.run ops).once
  · exact returned_ids_nodup ops
  · intro attempt_id challenge hSlot hOther
    exact finishAttempt_spares hSlot hOther
  · intro challenge_id before middle after hSplit hWas hLeft
    rcases hWas with ⟨challenge, hSlot, hId, -⟩
    have hKnown := (HistorySound.run before).ids.slot challenge hSlot
    rw [hId] at hKnown
    have hStill : challenge_id ∈ waitIds (run {} (before ++ middle)) := by
      rw [run, run_append]
      exact run_induction (P := fun c => challenge_id ∈ waitIds c)
          (fun c (op : Op) hIn => waitIds_step op hIn) hKnown middle
    have hIds := (HistorySound.run (before ++ middle)).ids
    rw [hSplit, run, run_append]
    exact not_pending_run hIds hStill hLeft after

/- A code that is submitted reaches the wait at its poll. -/
example :
    returns (history [.beginWait
            { timeout_seconds := 60, milliseconds := 5, created_at := 5, now := 5 },
          .submitVerification "verify_5_1" " 123456 " 9, .poll 0 10]) = [(0, "123456")] := by
  decide +kernel

end TaskRuntime
