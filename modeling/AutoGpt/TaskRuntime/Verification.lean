import AutoGpt.TaskRuntime.Control

/-
  The challenge slot under every interleaving. A critical
  section either leaves less in the slot than it found, or
  accepts a code for the pending challenge, or hands an
  accepted code to the waiter of its challenge, or starts a
  wait with a fresh challenge id.

  Main declarations:
    * `TaskRuntime.challengeId_inj`
    * `TaskRuntime.Frame`
    * `TaskRuntime.WaitEffect`
-/

open PyText (strip)
open List

----
-- Challenge Ids
----

namespace TaskRuntime

theorem challengeId_inj (hSame : challengeId ms n = challengeId ms' n') : n = n' := by
  unfold challengeId at hSame
  rw [← String.toList_inj] at hSame
  simp only [String.toList_append, append_assoc,
    append_cancel_left_eq, Nat.toString_eq_repr, Nat.toList_repr] at hSame
  have hParts := (append_cons_inj_of_notMem Nat.underscore_not_in_toDigits
      Nat.underscore_not_in_toDigits).mp hSame
  have hDigits : Nat.toDigits 10 n = Nat.toDigits 10 n' := hParts.2.2
  calc
    n = Nat.ofDigitChars 10 (Nat.toDigits 10 n) 0 := Nat.ofDigitChars_ten_toDigits.symm
    _ = Nat.ofDigitChars 10 (Nat.toDigits 10 n') 0 := by rw [hDigits]
    _ = n' := Nat.ofDigitChars_ten_toDigits

def waitIds (c : Control) : List String := c.waiters.map Waiter.challenge_id

----
-- Effects Of A Critical Section
----

/- The slot holds no more than before: what is pending was pending, and what is submitted was
   submitted with the same code. -/
def SlotRelaxed (old new : Option Challenge) : Prop := ∀ next, new = some next →
    ∃ challenge, old = some challenge ∧ next.challenge_id = challenge.challenge_id ∧
      (next.status = .pending → challenge.status = .pending) ∧
      (next.status = .submitted → challenge.status = .submitted ∧ next.code = challenge.code)

/- The waits keep their ids, and finished ones all they are. -/
structure WaitersKept (c next : Control) : Prop where
  ids : waitIds next = waitIds c
  done : ∀ (i : Nat) (w : Waiter), c.waiters[i]? = some w → w.phase = .done →
        next.waiters[i]? = some w

/- The answer accepts no code and returns none. -/
def Answer.isQuiet : Answer → Bool
| .submitted _ => false
| .returned _ _ => false
| _ => true

/- Slot, waits and counter, when no wait moves. -/
structure Frame (c next : Control) : Prop where
  slot : SlotRelaxed c.pending_verification
      next.pending_verification
  waiters : next.waiters = c.waiters
  nextId : next.next_challenge_id = c.next_challenge_id

inductive WaitEffect (c next : Control) (answer : Answer) : Prop where
| quiet
    (hAnswer : answer.isQuiet) (hNext : next.next_challenge_id = c.next_challenge_id)
    (hWaiters : WaitersKept c next) (hSlot : SlotRelaxed c.pending_verification
        next.pending_verification)
| returned
    (i : Nat) (w w' : Waiter) (challenge : Challenge) (hWaiter : c.waiters[i]? = some w)
    (hOpen : w.phase ≠ .done) (hSlot : c.pending_verification = some challenge)
    (hId : challenge.challenge_id = w.challenge_id) (hSubmitted : challenge.status = .submitted)
    (hCode : strip challenge.code ≠ "")
    (hAnswer : answer = .returned i (strip challenge.code)) (hDone : w'.phase = .done)
    (hSame : w'.challenge_id = w.challenge_id) (hWaiters : next.waiters = c.waiters.set i w')
    (hCleared : next.pending_verification = none)
    (hNext : next.next_challenge_id = c.next_challenge_id)

/- What a critical section does to slot, waits and answer. -/
inductive SectionEffect (c : Control) (op : Op) (next : Control) (answer : Answer) : Prop where
| waited (hEffect : WaitEffect c next answer)
| accepted
    (challenge : Challenge) (challenge_id code : String) (now : Nat)
    (hOp : op = .submitVerification challenge_id code now)
    (hSlot : c.pending_verification = some challenge)
    (hId : challenge.challenge_id = strip challenge_id)
    (hPending : challenge.status = .pending) (hInTime : now < challenge.expires_at)
    (hCode : strip code ≠ "") (hAnswer : answer = .submitted
          { challenge with code := strip code, status := .submitted })
    (hState : next =
        { c with
          pending_verification := some
              { challenge with code := strip code, status := .submitted } })
| started
    (milliseconds : Nat) (hAnswer : answer.isQuiet)
    (hNext : next.next_challenge_id = c.next_challenge_id + 1)
    (hIds : waitIds next = waitIds c ++ [challengeId milliseconds c.next_challenge_id])
    (hDone : ∀ (i : Nat) (w : Waiter), c.waiters[i]? = some w → w.phase = .done →
          next.waiters[i]? = some w)
    (hSlot : ∀ challenge, next.pending_verification = some challenge → challenge.challenge_id =
            challengeId milliseconds c.next_challenge_id ∧ challenge.status ≠ .submitted)

variable {c next : Control}

theorem SlotRelaxed.refl (slot : Option Challenge) : SlotRelaxed slot slot :=
  fun challenge hSlot => ⟨challenge, hSlot, rfl, id, fun h => ⟨h, rfl⟩⟩

theorem SlotRelaxed.none (slot : Option Challenge) : SlotRelaxed slot Option.none := by
  intro challenge hSlot
  cases hSlot

theorem SlotRelaxed.edited {challenge edited : Challenge}
    (hId : edited.challenge_id = challenge.challenge_id)
    (hStatus : edited.status = challenge.status) (hCode : edited.code = challenge.code) :
    SlotRelaxed (some challenge) (some edited) := by
  intro other hOther
  cases hOther
  refine ⟨challenge, rfl, hId, ?_, ?_⟩
  · rw [hStatus]
    exact id
  · rw [hStatus, hCode]
    exact fun h => ⟨h, rfl⟩

theorem WaitersKept.refl (hSame : next.waiters = c.waiters) : WaitersKept c next := by
  constructor
  · unfold waitIds
    rw [hSame]
  · intro i w hWaiter _
    rw [hSame]
    exact hWaiter

theorem WaitersKept.set {i : Nat} {w w' : Waiter} (hWaiter : c.waiters[i]? = some w)
    (hOpen : w.phase ≠ .done) (hId : w'.challenge_id = w.challenge_id)
    (hSet : next.waiters = c.waiters.set i w') : WaitersKept c next := by
  constructor
  · unfold waitIds
    rw [hSet, map_set, hId]
    apply ext_getElem?
    intro j
    rw [getElem?_set]
    split
    next hj =>
      subst hj
      rw [getElem?_map, hWaiter]
      split
      · rfl
      next hBound =>
        rw [length_map] at hBound
        exact absurd (List.getElem?_eq_some_iff.mp hWaiter).1 hBound
    · rfl
  · intro j v hv hDone
    rw [hSet, getElem?_set]
    split
    next hj =>
      subst hj
      rw [hWaiter, Option.some.injEq] at hv
      rw [hv] at hOpen
      exact absurd hDone hOpen
    · exact hv

theorem SlotRelaxed.trans (hFirst : SlotRelaxed first second) (hSecond : SlotRelaxed second third) :
    SlotRelaxed first third := by
  intro challenge hSlot
  rcases hSecond challenge hSlot with ⟨middle, hMiddle, hId, hPending, hSubmitted⟩
  rcases hFirst middle hMiddle with ⟨old, hOld, hOldId, hOldPending, hOldSubmitted⟩
  refine ⟨old, hOld, hId.trans hOldId, ?_, ?_⟩
  · exact fun h => hOldPending (hPending h)
  · intro h
    have hMid := hSubmitted h
    have hStart := hOldSubmitted hMid.1
    exact ⟨hStart.1, hMid.2.trans hStart.2⟩

theorem Frame.refl (c : Control) : Frame c c := ⟨SlotRelaxed.refl _, rfl, rfl⟩

theorem Frame.trans {mid : Control} (hFirst : Frame c mid) (hSecond : Frame mid next) :
    Frame c next :=
  ⟨hFirst.slot.trans hSecond.slot, hSecond.waiters.trans hFirst.waiters,
    hSecond.nextId.trans hFirst.nextId⟩

theorem Frame.effect (hFrame : Frame c next)
    (hAnswer : answer.isQuiet) : SectionEffect c op next answer :=
  .waited (.quiet hAnswer hFrame.nextId (WaitersKept.refl hFrame.waiters) hFrame.slot)

theorem WaitEffect.after {mid : Control} (hFrame : Frame c mid)
    (hEffect : WaitEffect mid next answer) : WaitEffect c next answer := by
  cases hEffect with
  | quiet hAnswer hNext hWaiters hSlot =>
    refine .quiet hAnswer (hNext.trans hFrame.nextId) ?_ (hFrame.slot.trans hSlot)
    constructor
    · rw [hWaiters.ids]
      unfold waitIds
      rw [hFrame.waiters]
    · intro i w hWaiter hDone
      rw [← hFrame.waiters] at hWaiter
      exact hWaiters.done i w hWaiter hDone
  | returned i w w' challenge hWaiter hOpen hSlot hId
      hSubmitted hCode hAnswer hDone hSame hWaiters hCleared
      hNext =>
      rcases hFrame.slot challenge hSlot with ⟨old, hOld, hOldId, -, hOldSubmitted⟩
      have hSubmittedOld := hOldSubmitted hSubmitted
      rw [hSubmittedOld.2] at hCode hAnswer
      rw [hFrame.waiters] at hWaiter hWaiters
      exact .returned i w w' old hWaiter hOpen hOld (hOldId.symm.trans hId) hSubmittedOld.1 hCode
          hAnswer hDone hSame hWaiters hCleared (hNext.trans hFrame.nextId)

----
-- Effects Of The Operations
----

theorem Frame.of_same (hSlot : next.pending_verification = c.pending_verification)
    (hWaiters : next.waiters = c.waiters) (hNext : next.next_challenge_id = c.next_challenge_id) :
    Frame c next := by
  refine ⟨?_, hWaiters, hNext⟩
  rw [hSlot]
  exact SlotRelaxed.refl _

theorem frame_checkpoint (consume_skip : Bool) (attempt_id : Option Nat) (c : Control) :
    Frame c (checkpoint consume_skip attempt_id c).1 := by
  unfold checkpoint
  split
  · exact Frame.refl c
  split
  · exact Frame.refl c
  split
  · exact Frame.of_same rfl rfl rfl
  split
  · exact Frame.of_same rfl rfl rfl
  · exact Frame.refl c

theorem frame_clearSlot (c : Control) : Frame c (clearSlot c) := ⟨SlotRelaxed.none _, rfl, rfl⟩

theorem frame_cancel (reason : String) (c : Control) :
    Frame c (cancelPendingVerification reason c) := by
  unfold cancelPendingVerification
  split
  · exact Frame.refl c
  rename_i challenge hSlot
  split
  · refine ⟨?_, rfl, rfl⟩
    intro other hOther
    cases hOther
    refine ⟨challenge, hSlot, rfl, ?_, ?_⟩
    · intro h
      cases h
    · intro h
      cases h
  · exact Frame.refl c

theorem Frame.edited {challenge : Challenge} (hSlot : c.pending_verification = some challenge)
    (edited : Challenge) (hId : edited.challenge_id = challenge.challenge_id)
    (hStatus : edited.status = challenge.status) (hCode : edited.code = challenge.code) :
    Frame c { c with pending_verification := some edited } := by
  refine ⟨?_, rfl, rfl⟩
  rw [hSlot]
  exact SlotRelaxed.edited hId hStatus hCode

theorem frame_finishAttempt (attempt_id : Option Nat) (c : Control) :
    Frame c (finishAttempt attempt_id c).1 := by
  unfold finishAttempt
  split
  · exact Frame.refl c
  rename_i id
  have hDiscard : Frame c (discardAttempt id c) := Frame.of_same rfl rfl rfl
  split
  · exact hDiscard
  split
  · exact hDiscard.trans (frame_cancel _ _)
  · exact hDiscard

section Waits

variable {i : Nat} {w₀ w : Waiter}
variable (hWaiter : c.waiters[i]? = some w₀)
variable (hOpen : w₀.phase ≠ .done)
variable (hId : w.challenge_id = w₀.challenge_id)

include hWaiter hOpen hId

theorem effect_setWaiter (hFrame : Frame c mid)
    (hSame : w'.challenge_id = w.challenge_id) (hAnswer : answer.isQuiet) :
    WaitEffect c (setWaiter i w' mid) answer := by
  have hSet : (setWaiter i w' mid).waiters = c.waiters.set i w' := by
    unfold setWaiter
    rw [hFrame.waiters]
  exact .quiet hAnswer hFrame.nextId (WaitersKept.set hWaiter hOpen (hSame.trans hId) hSet)
      hFrame.slot

theorem effect_raiseFrom (hFrame : Frame c mid) (error : Raised) :
    WaitEffect c (raiseFrom i w error mid).1 (raiseFrom i w error mid).2 :=
  effect_setWaiter hWaiter hOpen hId hFrame rfl rfl

theorem leaveCancelled_effect (current : Challenge) :
    WaitEffect c (leaveCancelled i w current c).1 (leaveCancelled i w current c).2 := by
  have hCleared := frame_clearSlot c
  unfold leaveCancelled
  dsimp only
  split
  · exact effect_raiseFrom hWaiter hOpen hId hCleared _
  split
  · apply effect_raiseFrom hWaiter hOpen hId
    exact hCleared.trans (Frame.of_same rfl rfl rfl)
  · exact effect_raiseFrom hWaiter hOpen hId hCleared _

theorem pollOpen_effect (hSlot : c.pending_verification = some current) (now : Nat) :
    WaitEffect c (pollOpen i w current now c).1 (pollOpen i w current now c).2 := by
  unfold pollOpen
  split
  · exact effect_setWaiter hWaiter hOpen hId (Frame.edited hSlot _ rfl rfl rfl) rfl rfl
  split
  · exact effect_raiseFrom hWaiter hOpen hId (frame_clearSlot c) _
  · exact effect_setWaiter hWaiter hOpen hId (Frame.refl c) rfl
        rfl

theorem pollCurrent_effect (hSlot : c.pending_verification = some current)
    (hCurrent : current.challenge_id = w.challenge_id) (now : Nat) :
    WaitEffect c (pollCurrent i w current now c).1 (pollCurrent i w current now c).2 := by
  unfold pollCurrent
  split
  next hStatus =>
    dsimp only
    split
    · exact effect_raiseFrom hWaiter hOpen hId (frame_clearSlot c) _
    next hCode =>
      exact .returned i w₀ { w with phase := .done } current
          hWaiter hOpen hSlot (hCurrent.trans hId) hStatus hCode rfl rfl hId rfl rfl rfl
  · exact leaveCancelled_effect hWaiter hOpen hId current
  · exact pollOpen_effect hWaiter hOpen hId hSlot now
  · exact pollOpen_effect hWaiter hOpen hId hSlot now

theorem pollSlot_effect (now : Nat) :
    WaitEffect c (pollSlot i w now c).1 (pollSlot i w now c).2 := by
  unfold pollSlot
  split
  · exact effect_raiseFrom hWaiter hOpen hId (Frame.refl c) _
  next current hSlot =>
    split
    · exact effect_raiseFrom hWaiter hOpen hId (Frame.refl c) _
    next hCurrent => exact pollCurrent_effect hWaiter hOpen hId hSlot (not_not.mp hCurrent) now

theorem pollWaiter_effect (now : Nat) :
    WaitEffect c (pollWaiter i w now c).1 (pollWaiter i w now c).2 := by
  have hFrame := frame_checkpoint true w.attempt_id c
  unfold pollWaiter
  split
  next mid error hCheck =>
    rw [hCheck] at hFrame
    exact effect_raiseFrom hWaiter hOpen hId hFrame error
  next mid hCheck =>
    rw [hCheck] at hFrame
    have hMid : mid.waiters[i]? = some w₀ := by
      rw [hFrame.waiters]
      exact hWaiter
    exact WaitEffect.after hFrame (pollSlot_effect hMid hOpen hId now)

end Waits

/- A wait that starts cannot return before it pauses. -/
theorem beginWait_effect (call : WaitCall) (c : Control) :
    SectionEffect c (.beginWait call) (beginWait call c).1 (beginWait call c).2 := by
  have hFrame := frame_checkpoint true call.attempt_id c
  unfold beginWait
  split
  next mid error hCheck =>
    rw [hCheck] at hFrame
    exact hFrame.effect rfl
  next mid hCheck =>
    rw [hCheck] at hFrame
    have hNext : mid.next_challenge_id = c.next_challenge_id := hFrame.nextId
    have hWaiters : mid.waiters = c.waiters := hFrame.waiters
    dsimp only
    generalize hChallenge : call.challenge mid.next_challenge_id = challenge
    have hId : challenge.challenge_id = challengeId call.milliseconds
            c.next_challenge_id := by
      rw [← hChallenge, hNext]
      rfl
    have hStatus : challenge.status = .pending := by
      rw [← hChallenge]
      rfl
    generalize hWaiter : Waiter.mk _ _ _ _ _ _ _ = w
    have hWaiterId : w.challenge_id = challenge.challenge_id := by rw [← hWaiter]
    have hOpen : w.phase ≠ .done := by
      rw [← hWaiter]
      exact nofun
    rw [hNext, hWaiters]
    generalize hInstalled : Control.mk _ _ _ _ _ _ _ _ _ _ = installed
    have hAt : installed.waiters[c.waiters.length]? = some w := by
      rw [← hInstalled]
      exact getElem?_concat_length
    have hSlot : installed.pending_verification = some challenge := by rw [← hInstalled]
    have hEffect := pollWaiter_effect hAt hOpen rfl call.now
    cases hEffect with
    | quiet hAnswer hCount hKept hRelaxed =>
      refine .started call.milliseconds hAnswer ?_ ?_ ?_ ?_
      · rw [hCount, ← hInstalled]
      · rw [hKept.ids, ← hInstalled, ← hId, ← hWaiterId]
        exact map_append
      · intro i v hv hDone
        apply hKept.done i v _ hDone
        rw [← hInstalled]
        exact List.getElem?_append_left (List.getElem?_eq_some_iff.mp hv).1 |>.trans hv
      · intro other hOther
        rcases hRelaxed other hOther with ⟨old, hOld, hOldId, -, hSubmitted⟩
        rw [hSlot, Option.some.injEq] at hOld
        subst hOld
        refine ⟨hOldId.trans hId, ?_⟩
        intro hBad
        rw [(hSubmitted hBad).1] at hStatus
        cases hStatus
    | returned i v v' other hv hOpen' hOther hId' hSubmitted =>
      rw [hSlot, Option.some.injEq] at hOther
      subst hOther
      rw [hSubmitted] at hStatus
      cases hStatus

theorem poll_effect (i now : Nat) (c : Control) :
    SectionEffect c (.poll i now) (poll i now c).1 (poll i now c).2 := by
  unfold poll
  split
  · exact (Frame.refl c).effect rfl
  next w hWaiter =>
    split
    next hPhase =>
      have hOpen : w.phase ≠ .done := by
        rw [hPhase]
        exact nofun
      exact .waited (pollWaiter_effect hWaiter hOpen rfl now)
    · exact (Frame.refl c).effect rfl
    · exact (Frame.refl c).effect rfl

theorem handlerReturn_effect (i : Nat) (result : HandlerResult) (now : Nat) (c : Control) :
    SectionEffect c (.handlerReturn i result now) (handlerReturn i result now c).1
      (handlerReturn i result now c).2 := by
  unfold handlerReturn
  split
  · exact (Frame.refl c).effect rfl
  next w hWaiter =>
    split
    · exact (Frame.refl c).effect rfl
    · exact (Frame.refl c).effect rfl
    next seq hPhase =>
      have hOpen : w.phase ≠ .done := by
        rw [hPhase]
        exact nofun
      split
      · refine .waited (pollWaiter_effect hWaiter hOpen ?_ now)
        rfl
      next current hSlot =>
        split
        · refine .waited (pollWaiter_effect hWaiter hOpen ?_ now)
          rfl
        · apply SectionEffect.waited
          refine WaitEffect.after ?_ (pollWaiter_effect ?_ hOpen ?_ now)
          · exact Frame.edited hSlot _ rfl rfl rfl
          · exact hWaiter
          · rfl

theorem openChallenge_ok (hOk : openChallenge purpose hint challenge_id c = .ok challenge) :
    c.pending_verification = some challenge ∧ challenge.challenge_id = challenge_id ∧
      challenge.status = .pending := by
  unfold openChallenge at hOk
  split at hOk
  · cases hOk
  next found hSlot =>
    split at hOk
    · cases hOk
    next hId =>
      split at hOk
      · cases hOk
      next hStatus =>
        cases hOk
        exact ⟨hSlot, not_not.mp hId, not_not.mp hStatus⟩

theorem submitVerification_effect (challenge_id code : String) (now : Nat) (c : Control) :
    SectionEffect c (.submitVerification challenge_id code now)
      (submitVerification challenge_id code now c).1
      (submitVerification challenge_id code now c).2 := by
  unfold submitVerification
  dsimp only
  split
  · exact (Frame.refl c).effect rfl
  split
  · exact (Frame.refl c).effect rfl
  next hCode =>
    split
    · exact (Frame.refl c).effect rfl
    next challenge hOk =>
      rcases openChallenge_ok hOk with ⟨hSlot, hId, hPending⟩
      split
      · exact (frame_clearSlot c).effect rfl
      next hInTime =>
        exact .accepted challenge challenge_id code now rfl hSlot
            hId hPending (Nat.lt_of_not_le hInTime) hCode rfl
            rfl

theorem updateVerificationMetadata_effect (challenge_id : String) (patch : Metadata) (c : Control) :
    SectionEffect c (.updateVerificationMetadata challenge_id patch)
      (updateVerificationMetadata challenge_id patch c).1
      (updateVerificationMetadata challenge_id patch c).2 := by
  unfold updateVerificationMetadata
  split
  · exact (Frame.refl c).effect rfl
  next challenge hOk =>
    have hSlot := (openChallenge_ok hOk).1
    exact Frame.effect (Frame.edited hSlot _ rfl rfl rfl) rfl

theorem requestVerificationAction_effect (challenge_id action : String) (payload : Metadata)
    (now : Nat) (c : Control) :
    SectionEffect c (.requestVerificationAction challenge_id action payload now)
      (requestVerificationAction challenge_id action payload now c).1
      (requestVerificationAction challenge_id action payload now c).2 := by
  unfold requestVerificationAction
  dsimp only
  split
  · exact (Frame.refl c).effect rfl
  split
  · exact (Frame.refl c).effect rfl
  split
  · exact (Frame.refl c).effect rfl
  next challenge hOk =>
    have hSlot := (openChallenge_ok hOk).1
    split
    · exact (frame_clearSlot c).effect rfl
    split
    · exact (Frame.refl c).effect rfl
    · exact Frame.effect (Frame.edited hSlot _ rfl rfl rfl) rfl

/- Every critical section has one of the effects. -/
theorem step_effect (c : Control) (op : Op) : SectionEffect c op (step c op).1 (step c op).2 := by
  cases op with
  | beginWait call => exact beginWait_effect call c
  | poll i now => exact poll_effect i now c
  | handlerReturn i result now => exact handlerReturn_effect i result now c
  | submitVerification challenge_id code now =>
    exact submitVerification_effect challenge_id code now c
  | updateVerificationMetadata challenge_id patch =>
    exact updateVerificationMetadata_effect challenge_id patch c
  | requestVerificationAction challenge_id action payload
      now =>
      exact requestVerificationAction_effect challenge_id action payload now c
  | requestStop =>
    have hMarked : Frame c { c with stop_requested := true, after_current_requested := false } :=
      Frame.of_same rfl rfl rfl
    exact (hMarked.trans (frame_cancel _ _)).effect rfl
  | requestCompletionStop =>
    have hMarked : Frame c { c with completion_stop_requested := true } := Frame.of_same rfl rfl rfl
    exact (hMarked.trans (frame_cancel _ _)).effect rfl
  | requestStopAfterCurrent =>
    dsimp only [step, requestStopAfterCurrent]
    split
    · exact (Frame.refl c).effect rfl
    · exact Frame.effect (Frame.of_same rfl rfl rfl) rfl
  | requestSkipCurrent =>
    refine Frame.effect (Frame.trans ?_ (frame_cancel _ _)) rfl
    split
    · exact Frame.of_same rfl rfl rfl
    · exact Frame.of_same rfl rfl rfl
  | startAttempt =>
    dsimp only [step, startAttempt]
    split
    · exact (Frame.refl c).effect rfl
    · exact Frame.effect (Frame.of_same rfl rfl rfl) rfl
  | finishAttempt attempt_id =>
    refine (frame_finishAttempt attempt_id c).effect ?_
    dsimp only [step, finishAttempt]
    split
    · rfl
    split
    · rfl
    split
    · rfl
    · rfl
  | resumeAttempt attempt_id =>
    dsimp only [step, resumeAttempt]
    split
    · exact (Frame.refl c).effect rfl
    split
    · exact Frame.effect (Frame.of_same rfl rfl rfl) rfl
    · exact Frame.effect (Frame.of_same rfl rfl rfl) rfl
  | checkpoint consume_skip attempt_id =>
    refine (frame_checkpoint consume_skip attempt_id c).effect ?_
    dsimp only [step]
    cases (checkpoint consume_skip attempt_id c).2 with
    | none => rfl
    | some error => rfl

end TaskRuntime
