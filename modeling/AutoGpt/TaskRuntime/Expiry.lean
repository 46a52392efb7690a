import AutoGpt.TaskRuntime.Codes

/-
  The deadline of a wait under every interleaving. A wait
  that nobody stops, skips, replaces or answers ends with a
  timeout, unless another party finds the expiry first or
  finishes the attempt: then the slot is no longer the
  waiter's, and the wait ends with another error.

  Main theorems:
    * `TaskRuntime.watched_step`
    * `TaskRuntime.watched_run`
    * `TaskRuntime.wait_times_out_iff`
-/

open PyText (orElse strip)
open Machine (Steps run_induction)
open List

----
-- Disturbances And Findings
----

namespace TaskRuntime

/- What ends a wait by right: a stop, a skip, a new challenge or an accepted code. -/
def disturbs (c : Control) : Op → Bool
| .requestStop => true
| .requestCompletionStop => true
| .requestSkipCurrent => true
| .beginWait call => (checkpoint true call.attempt_id c).2.isNone
| .submitVerification challenge_id code now =>
    (submitVerification challenge_id code now c).2.isQuiet = false
| _ => false

/- A request names the pending challenge of the slot, and finds it past its deadline. -/
def findsExpired (challenge_id text : String) (now : Nat) (c : Control) :
    Bool :=
  strip challenge_id != "" && strip text != "" && c.pending_verification.any fun challenge => decide
          (challenge.challenge_id = strip challenge_id ∧ challenge.status = .pending ∧
            challenge.expires_at ≤ now)

/- The attempt of the pending challenge is finished. -/
def finishesAttempt (attempt_id : Option Nat) (c : Control) : Bool := attempt_id.isSome &&
    c.pending_verification.any fun challenge =>
      decide (challenge.attempt_id = attempt_id ∧ challenge.status = .pending)

/- What takes the pending challenge away from its waiter. -/
def spoils (c : Control) : Op → Bool
| .submitVerification challenge_id code now => findsExpired challenge_id code now c
| .requestVerificationAction challenge_id action _ now => findsExpired challenge_id action now c
| .finishAttempt attempt_id => finishesAttempt attempt_id c
| _ => false

----
-- Watching A Wait
----

/- What of a challenge decides how its wait ends. -/
structure Core where
  challenge_id : String
  status : ChallengeStatus
  expires_at : Nat
  attempt_id : Option Nat
  cancel_reason : String

def Challenge.core (challenge : Challenge) : Core where
  challenge_id := challenge.challenge_id
  status := challenge.status
  expires_at := challenge.expires_at
  attempt_id := challenge.attempt_id
  cancel_reason := challenge.cancel_reason

def Control.core (c : Control) : Option Core := c.pending_verification.map Challenge.core

structure Wait where
  waiter : Nat
  challenge_id : String
  attempt_id : Option Nat
  expires_at : Nat
  phase_label : String
  timeout_value : Nat

namespace Wait

variable (v : Wait)

/- The error of a wait that is over its deadline. -/
def timeout : Answer := .raised (.waitTimeout v.phase_label v.timeout_value)

/- The challenge of the wait while nobody touched it. -/
def openCore : Core where
  challenge_id := v.challenge_id
  status := .pending
  expires_at := v.expires_at
  attempt_id := v.attempt_id
  cancel_reason := ""

/- The slot holds the open challenge of the wait. -/
def Waits (c : Control) : Prop := c.core = some v.openCore

/- The slot lost the challenge, or it was cancelled at the end of its attempt. -/
def Gone (c : Control) : Prop := c.core = none ∨ c.core = some
        { v.openCore with status := .cancelled, cancel_reason := "attempt_finished" }

structure Fits (w : Waiter) : Prop where
  challenge : w.challenge_id = v.challenge_id
  attempt : w.attempt_id = v.attempt_id
  label : w.phase_label = v.phase_label
  timeout : w.timeout_value = v.timeout_value

def IsOpen (c : Control) : Prop := ∃ w, c.waiters[v.waiter]? = some w ∧ v.Fits w ∧ w.phase ≠ .done

def IsOver (c : Control) : Prop := ∃ w, c.waiters[v.waiter]? = some w ∧ w.phase = .done

end Wait

/- Neither the task is stopped nor the attempt skipped. -/
structure Uninterrupted (attempt_id : Option Nat) (c : Control) : Prop where
  running : c.stop_requested = false
  incomplete : c.completion_stop_requested = false
  skips : c.pending_skip_requests = 0
  unmarked : ∀ a ∈ c.skip_active_attempt_ids, some a ≠ attempt_id

/- A wait that goes on, in a task nobody interrupted. -/
structure Watched (v : Wait) (c : Control) : Prop where
  ids : IdsSound c
  waiter : v.IsOpen c
  calm : Uninterrupted v.attempt_id c
  slot : v.Waits c ∨ v.Gone c

/- A section that leaves the wait and its challenge alone. -/
structure Aside (v : Wait) (c next : Control) : Prop where
  slot : next.core = c.core
  waiter : next.waiters[v.waiter]? = c.waiters[v.waiter]?
  calm : Uninterrupted v.attempt_id c → Uninterrupted v.attempt_id next

variable {next : Control}

theorem Aside.refl (v : Wait) (c : Control) : Aside v c c := ⟨rfl, rfl, id⟩

theorem Aside.trans (hFirst : Aside v c mid) (hSecond : Aside v mid next) : Aside v c next :=
  ⟨hSecond.slot.trans hFirst.slot, hSecond.waiter.trans hFirst.waiter,
    fun h => hSecond.calm (hFirst.calm h)⟩

theorem Aside.of_same (hSlot : next.core = c.core) (hWaiters : next.waiters = c.waiters)
    (hStop : next.stop_requested = c.stop_requested)
    (hCompletion : next.completion_stop_requested = c.completion_stop_requested)
    (hSkips : next.pending_skip_requests ≤ c.pending_skip_requests)
    (hMarks : ∀ a ∈ next.skip_active_attempt_ids, a ∈ c.skip_active_attempt_ids) :
    Aside v c next := by
  refine ⟨hSlot, ?_, fun h => ⟨?_, ?_, ?_, ?_⟩⟩
  · rw [hWaiters]
  · rw [hStop]
    exact h.running
  · rw [hCompletion]
    exact h.incomplete
  · have hZero := h.skips
    omega
  · exact fun a hA => h.unmarked a (hMarks a hA)

theorem aside_setWaiter (w : Waiter) (hNe : j ≠ v.waiter) : Aside v c (setWaiter j w c) :=
  ⟨rfl, getElem?_set_ne hNe, fun h => ⟨h.running, h.incomplete, h.skips, h.unmarked⟩⟩

theorem aside_checkpoint (consume_skip : Bool) (attempt_id : Option Nat) (c : Control) :
    Aside v c (checkpoint consume_skip attempt_id c).1 := by
  unfold checkpoint
  split
  · exact Aside.refl v c
  split
  · exact Aside.refl v c
  split
  · refine Aside.of_same rfl rfl rfl rfl (le_rfl) ?_
    exact fun a hA => (mem_filter.mp hA).1
  split
  · refine Aside.of_same rfl rfl rfl rfl (Nat.sub_le _ _) ?_
    exact fun a hA => hA
  · exact Aside.refl v c

theorem checkpoint_calm (hCalm : Uninterrupted attempt_id c) :
    checkpoint true attempt_id c = (c, none) := by
  have hMarks : c.skip_active_attempt_ids.any (fun a => decide (some a = attempt_id)) = false := by
    rw [any_eq_false]
    intro a hA hIs
    exact hCalm.unmarked a hA (of_decide_eq_true hIs)
  unfold checkpoint
  rw [hCalm.running, hCalm.incomplete, hMarks, hCalm.skips]
  rfl

end TaskRuntime

----
-- Passes Of The Waiter
----

namespace TaskRuntime

variable {v : Wait} {next : Control}

theorem Wait.Waits.slot (hWaits : v.Waits c) :
    ∃ current, c.pending_verification = some current ∧ current.challenge_id = v.challenge_id ∧
      current.status = .pending ∧ current.expires_at = v.expires_at := by
  rcases Option.map_eq_some_iff.mp hWaits with ⟨current, hSlot, hCore⟩
  exact ⟨current, hSlot, congrArg Core.challenge_id hCore, congrArg Core.status hCore,
      congrArg Core.expires_at hCore⟩

theorem Wait.Waits.not_gone
    (hWaits : v.Waits c) : ¬ v.Gone c := by
  rintro (hNone | hSome)
  · rw [hWaits] at hNone
    cases hNone
  · rw [hWaits] at hSome
    exact nomatch congrArg Core.status (Option.some.inj hSome)

theorem setWaiter_self (hWaiter : c.waiters[v.waiter]? = some old) :
    (setWaiter v.waiter w c).waiters[v.waiter]? = some w :=
  List.getElem?_set_self (List.getElem?_eq_some_iff.mp hWaiter).1

/- A pass over the open challenge: the wait goes on, or it ends with its timeout. -/
theorem pass_waits (now : Nat) (hWaiter : c.waiters[v.waiter]? = some old)
    (hFits : v.Fits w) (hGoes : w.phase ≠ .done) (hCalm : Uninterrupted v.attempt_id c)
    (hWaits : v.Waits c) :
    (v.Waits (pollWaiter v.waiter w now c).1 ∧ v.IsOpen (pollWaiter v.waiter w now c).1 ∧
        Uninterrupted v.attempt_id (pollWaiter v.waiter w now c).1 ∧
        (pollWaiter v.waiter w now c).2 ≠ v.timeout ∧
        (now < v.expires_at ∨ ∃ current action payload, c.pending_verification = some current ∧
              w.handled_action_seq < current.action_seq ∧
              (pollWaiter v.waiter w now c).2 = .handling action payload)) ∨
      (v.IsOver (pollWaiter v.waiter w now c).1 ∧ (pollWaiter v.waiter w now c).2 = v.timeout) := by
  rcases hWaits.slot with ⟨current, hSlot, hId, hStatus, hExpires⟩
  have hPass : pollWaiter v.waiter w now c = pollOpen v.waiter w current now c := by
    unfold pollWaiter
    rw [hFits.attempt, checkpoint_calm hCalm]
    dsimp only
    unfold pollSlot
    rw [hSlot]
    dsimp only
    rw [if_neg (fun h => h (hId.trans hFits.challenge.symm))]
    unfold pollCurrent
    rw [hStatus]
  rw [hPass]
  unfold pollOpen
  split
  next hRequested =>
    -- The handler is called for a requested action.
    refine .inl ⟨?_, ?_, ?_, ?_, .inr ⟨current, _, _, hSlot, hRequested.2, rfl⟩⟩
    · have hCore : c.core = some current.core := by
        unfold Control.core
        rw [hSlot]
        rfl
      exact hCore.symm.trans hWaits
    · exact ⟨_, setWaiter_self hWaiter,
          ⟨hFits.challenge, hFits.attempt, hFits.label, hFits.timeout⟩, nofun⟩
    · exact ⟨hCalm.running, hCalm.incomplete, hCalm.skips, hCalm.unmarked⟩
    · exact nofun
  split
  · refine .inr ⟨⟨_, setWaiter_self hWaiter, rfl⟩, ?_⟩
    unfold Wait.timeout
    rw [← hFits.label, ← hFits.timeout]
    rfl
  next hEarly =>
    rw [hExpires] at hEarly
    refine .inl ⟨hWaits, ?_, ?_, ?_, .inl ?_⟩
    · exact ⟨w, setWaiter_self hWaiter, hFits, hGoes⟩
    · exact ⟨hCalm.running, hCalm.incomplete, hCalm.skips, hCalm.unmarked⟩
    · exact nofun
    · exact Nat.lt_of_not_le hEarly

theorem pass_gone (now : Nat) (hWaiter : c.waiters[v.waiter]? = some old)
    (hFits : v.Fits w) (hCalm : Uninterrupted v.attempt_id c) (hGone : v.Gone c) :
    v.IsOver (pollWaiter v.waiter w now c).1 ∧ (pollWaiter v.waiter w now c).2 ≠ v.timeout := by
  unfold pollWaiter
  rw [hFits.attempt, checkpoint_calm hCalm]
  dsimp only
  unfold pollSlot
  rcases hGone with hNone | hCancelled
  · have hSlot : c.pending_verification = none := Option.map_eq_none_iff.mp hNone
    rw [hSlot]
    exact ⟨⟨_, setWaiter_self hWaiter, rfl⟩, nofun⟩
  · rcases Option.map_eq_some_iff.mp hCancelled with
      ⟨current, hSlot, hCore⟩
    have hId : current.challenge_id = v.challenge_id := congrArg Core.challenge_id hCore
    have hStatus : current.status = .cancelled := congrArg Core.status hCore
    have hReason : current.cancel_reason = "attempt_finished" := congrArg Core.cancel_reason hCore
    rw [hSlot]
    dsimp only
    rw [if_neg (fun h => h (hId.trans hFits.challenge.symm))]
    unfold pollCurrent
    rw [hStatus]
    unfold leaveCancelled
    rw [hReason]
    have hStop : orElse "attempt_finished" "cancelled" ≠ "stop_requested" := by decide
    have hSkip : orElse "attempt_finished" "cancelled" ≠ "skip_requested" := by decide
    rw [if_neg hStop, if_neg hSkip]
    exact ⟨⟨_, setWaiter_self hWaiter, rfl⟩, nofun⟩

theorem aside_pollWaiter (now : Nat) (hNe : j ≠ v.waiter) (hId : w.challenge_id ≠ v.challenge_id)
    (hSlot : ∀ core, c.core = some core → core.challenge_id = v.challenge_id) :
    Aside v c (pollWaiter j w now c).1 := by
  have hChecked := aside_checkpoint (v := v) true w.attempt_id c
  unfold pollWaiter
  split
  next raised error hCheck =>
    rw [hCheck] at hChecked
    exact hChecked.trans (aside_setWaiter _ hNe)
  next passed hCheck =>
    rw [hCheck] at hChecked
    refine hChecked.trans ?_
    unfold pollSlot
    split
    · exact aside_setWaiter _ hNe
    next current hCurrent =>
      split
      · exact aside_setWaiter _ hNe
      next hSame =>
        have hCore : passed.core = some current.core := by
          unfold Control.core
          rw [hCurrent]
          rfl
        rw [hChecked.slot] at hCore
        have hOwn := hSlot current.core hCore
        exact absurd ((not_not.mp hSame).symm.trans hOwn) hId

----
-- One Section
----

/- What a section does to a wait that goes on. -/
def Proceeds (v : Wait) (c : Control) (spoiled : Bool) (next : Control) (answer : Answer) : Prop :=
  (Watched v next ∧ (v.Waits next ↔ v.Waits c ∧ spoiled = false)) ∨
    (v.IsOver next ∧ (answer = v.timeout ↔ v.Waits c) ∧ spoiled = false)

theorem Watched.slotId (hWatched : Watched v c) :
    ∀ core, c.core = some core → core.challenge_id = v.challenge_id := by
  intro core hCore
  rcases hWatched.slot with hWaits | hNone | hCancelled
  · rw [← Option.some.inj (hWaits.symm.trans hCore)]
    rfl
  · rw [hNone] at hCore
    cases hCore
  · rw [← Option.some.inj (hCancelled.symm.trans hCore)]
    rfl

theorem Aside.proceeds (hAside : Aside v c next) (hIds : IdsSound next) (hWatched : Watched v c) :
    Proceeds v c false next answer := by
  have hWaits : v.Waits next ↔ v.Waits c := by
    unfold Wait.Waits
    rw [hAside.slot]
  refine .inl ⟨⟨hIds, ?_, hAside.calm hWatched.calm, ?_⟩, ?_⟩
  · rcases hWatched.waiter with ⟨w, hWaiter, hRest⟩
    exact ⟨w, hAside.waiter.trans hWaiter, hRest⟩
  · rcases hWatched.slot with hOpen | hGone
    · exact .inl (hWaits.mpr hOpen)
    · right
      unfold Wait.Gone at hGone ⊢
      rw [hAside.slot]
      exact hGone
  · rw [hWaits]
    exact ⟨fun h => ⟨h, rfl⟩, And.left⟩

theorem proceeds_spoiled (hIds : IdsSound next) (hWaiters : next.waiters = c.waiters)
    (hCalm : Uninterrupted v.attempt_id next) (hGone : v.Gone next) (hWatched : Watched v c) :
    Proceeds v c true next answer := by
  refine .inl ⟨⟨hIds, ?_, hCalm, .inr hGone⟩, ?_⟩
  · rcases hWatched.waiter with ⟨w, hWaiter, hRest⟩
    rw [← hWaiters] at hWaiter
    exact ⟨w, hWaiter, hRest⟩
  · constructor
    · exact fun hWaits => absurd hGone hWaits.not_gone
    · exact fun h => nomatch h.2

theorem pass_proceeds (now : Nat) (hAside : Aside v c mid)
    (hIds : IdsSound (pollWaiter v.waiter w now mid).1) (hFits : v.Fits w) (hGoes : w.phase ≠ .done)
    (hWatched : Watched v c) :
    Proceeds v c false (pollWaiter v.waiter w now mid).1 (pollWaiter v.waiter w now mid).2 := by
  have hCalm := hAside.calm hWatched.calm
  rcases hWatched.waiter with ⟨old, hOld, -⟩
  have hWaiter : mid.waiters[v.waiter]? = some old := hAside.waiter.trans hOld
  rcases hWatched.slot with hOpen | hGone
  · have hWaits : v.Waits mid := hAside.slot.trans hOpen
    rcases pass_waits now hWaiter hFits hGoes hCalm hWaits with
      ⟨hStill, hOn, hKept, -, -⟩ | ⟨hOver, hAnswer⟩
    · exact .inl ⟨⟨hIds, hOn, hKept, .inl hStill⟩, fun _ => ⟨hOpen, rfl⟩, fun _ => hStill⟩
    · exact .inr ⟨hOver, ⟨fun _ => hOpen, fun _ => hAnswer⟩, rfl⟩
  · have hLost : v.Gone mid := by
      unfold Wait.Gone at hGone ⊢
      rw [hAside.slot]
      exact hGone
    have hEnd := pass_gone now hWaiter hFits hCalm hLost
    refine .inr ⟨hEnd.1, ⟨?_, ?_⟩, rfl⟩
    · exact fun h => absurd h hEnd.2
    · exact fun h => absurd hGone h.not_gone

theorem other_challenge (hWatched : Watched v c)
    (hOther : c.waiters[j]? = some other) (hNe : j ≠ v.waiter) :
    other.challenge_id ≠ v.challenge_id := by
  intro hSame
  rcases hWatched.waiter with ⟨w, hWaiter, hFits, -⟩
  apply hNe
  have hLt : j < (waitIds c).length := by
    unfold waitIds
    rw [length_map]
    exact (List.getElem?_eq_some_iff.mp hOther).1
  apply (getElem?_inj hLt hWatched.ids.distinct).mp
  unfold waitIds
  rw [getElem?_map, getElem?_map, hOther, hWaiter]
  exact congrArg some (hSame.trans hFits.challenge.symm)

theorem poll_proceeds (j now : Nat) (hWatched : Watched v c) :
    Proceeds v c false (poll j now c).1 (poll j now c).2 := by
  have hIds : IdsSound (poll j now c).1 := IdsSound.step c (.poll j now) hWatched.ids
  unfold poll at hIds ⊢
  cases hFound : c.waiters[j]? with
  | none => exact (Aside.refl v c).proceeds hWatched.ids hWatched
  | some other =>
    rw [hFound] at hIds
    dsimp only at hIds ⊢
    cases hPhase : other.phase with
    | handling seq => exact (Aside.refl v c).proceeds hWatched.ids hWatched
    | done => exact (Aside.refl v c).proceeds hWatched.ids hWatched
    | polling =>
      rw [hPhase] at hIds
      by_cases hSame : j = v.waiter
      · subst hSame
        rcases hWatched.waiter with ⟨w, hWaiter, hFits, hGoes⟩
        have hIs := Option.some.inj (hWaiter.symm.trans hFound)
        subst hIs
        exact pass_proceeds now (Aside.refl v c) hIds hFits hGoes hWatched
      · have hAside := aside_pollWaiter now hSame
            (other_challenge hWatched hFound hSame)
            hWatched.slotId
        exact hAside.proceeds hIds hWatched

theorem handlerReturn_proceeds (j : Nat) (result : HandlerResult) (now : Nat)
    (hWatched : Watched v c) :
    Proceeds v c false (handlerReturn j result now c).1 (handlerReturn j result now c).2 := by
  have hIds : IdsSound (handlerReturn j result now c).1 :=
    IdsSound.step c (.handlerReturn j result now) hWatched.ids
  unfold handlerReturn at hIds ⊢
  cases hFound : c.waiters[j]? with
  | none => exact (Aside.refl v c).proceeds hWatched.ids hWatched
  | some other =>
    rw [hFound] at hIds
    dsimp only at hIds ⊢
    cases hPhase : other.phase with
    | polling => exact (Aside.refl v c).proceeds hWatched.ids hWatched
    | done => exact (Aside.refl v c).proceeds hWatched.ids hWatched
    | handling seq =>
      rw [hPhase] at hIds
      -- A pass without a write, of either waiter.
      have hPlain : IdsSound
              (pollWaiter j { other with phase := .polling } now c).1 →
            Proceeds v c false (pollWaiter j { other with phase := .polling } now c).1
              (pollWaiter j { other with phase := .polling } now c).2 := by
        intro hNext
        by_cases hSame : j = v.waiter
        · subst hSame
          rcases hWatched.waiter with ⟨w, hWaiter, hFits, -⟩
          have hIs := Option.some.inj (hWaiter.symm.trans hFound)
          subst hIs
          exact pass_proceeds now (Aside.refl v c) hNext
              ⟨hFits.challenge, hFits.attempt, hFits.label, hFits.timeout⟩
              nofun hWatched
        · have hAside : Aside v c
                (pollWaiter j { other with phase := .polling } now c).1 := by
            have hOther := other_challenge hWatched hFound hSame
            apply aside_pollWaiter now hSame _ hWatched.slotId
            exact hOther
          exact hAside.proceeds hNext hWatched
      cases hSlot : c.pending_verification with
      | none =>
        rw [hSlot] at hIds
        exact hPlain hIds
      | some current =>
        rw [hSlot] at hIds
        dsimp only at hIds ⊢
        by_cases hOwn : current.challenge_id ≠ other.challenge_id
        · rw [if_pos hOwn] at hIds ⊢
          exact hPlain hIds
        · rw [if_neg hOwn] at hIds ⊢
          have hCore : c.core = some current.core := by
            unfold Control.core
            rw [hSlot]
            rfl
          by_cases hSame : j = v.waiter
          · subst hSame
            rcases hWatched.waiter with ⟨w, hWaiter, hFits, -⟩
            have hIs := Option.some.inj (hWaiter.symm.trans hFound)
            subst hIs
            refine pass_proceeds now ?_ hIds
                ⟨hFits.challenge, hFits.attempt, hFits.label, hFits.timeout⟩
                nofun hWatched
            exact Aside.of_same hCore.symm rfl rfl rfl (le_rfl) fun a hA => hA
          · exfalso
            apply other_challenge hWatched hFound hSame
            rw [← not_not.mp hOwn]
            exact hWatched.slotId _ hCore

theorem proceeds_cleared (hIds : IdsSound (clearSlot c)) (hWatched : Watched v c) :
    Proceeds v c true (clearSlot c) answer :=
  proceeds_spoiled hIds rfl
    ⟨hWatched.calm.running, hWatched.calm.incomplete, hWatched.calm.skips, hWatched.calm.unmarked⟩
    (.inl rfl) hWatched

theorem findsExpired_of_ok (hId : strip challenge_id ≠ "") (hText : strip text ≠ "")
    (hOk : openChallenge purpose hint (strip challenge_id) c = .ok challenge) :
    findsExpired challenge_id text now c = decide (challenge.expires_at ≤ now) := by
  rcases openChallenge_ok hOk with ⟨hSlot, hSame, hPending⟩
  unfold findsExpired
  rw [hSlot, Option.any_some]
  simp [hId, hText, hSame, hPending]

theorem findsExpired_of_error
    (hError : openChallenge purpose hint (strip challenge_id) c = .error raised) :
    findsExpired challenge_id text now c = false := by
  unfold openChallenge at hError
  unfold findsExpired
  cases hSlot : c.pending_verification with
  | none => simp
  | some challenge =>
    rw [hSlot] at hError
    dsimp only at hError
    rw [Option.any_some]
    split at hError
    next hOther => simp [hOther]
    next hSame =>
      split at hError
      next hEnded => simp [hEnded]
      next => cases hError

theorem submitVerification_proceeds (challenge_id code : String) (now : Nat)
    (hQuiet : (submitVerification challenge_id code now c).2.isQuiet)
    (hWatched : Watched v c) :
    Proceeds v c (findsExpired challenge_id code now c)
      (submitVerification challenge_id code now c).1
      (submitVerification challenge_id code now c).2 := by
  have hIds : IdsSound (submitVerification challenge_id code now c).1 :=
    IdsSound.step c (.submitVerification challenge_id code now) hWatched.ids
  have hSame : ∀ answer, findsExpired challenge_id code now c = false →
        Proceeds v c (findsExpired challenge_id code now c) c
          answer := by
    intro answer hNot
    rw [hNot]
    exact (Aside.refl v c).proceeds hWatched.ids hWatched
  unfold submitVerification at hIds hQuiet ⊢
  dsimp only at hIds hQuiet ⊢
  split
  next hEmpty =>
    apply hSame
    unfold findsExpired
    simp [hEmpty]
  next hId =>
    split
    next hEmpty =>
      apply hSame
      unfold findsExpired
      simp [hEmpty]
    next hCode =>
      rw [if_neg hId, if_neg hCode] at hIds hQuiet
      split
      next raised hError => exact hSame _ (findsExpired_of_error hError)
      next challenge hOk =>
        rw [hOk] at hIds hQuiet
        dsimp only at hIds hQuiet
        rw [findsExpired_of_ok hId hCode hOk]
        split
        next hLate =>
          rw [if_pos hLate] at hIds
          rw [decide_eq_true hLate]
          exact proceeds_cleared hIds hWatched
        next hEarly =>
          rw [if_neg hEarly] at hQuiet
          cases hQuiet

theorem requestVerificationAction_proceeds (challenge_id action : String) (payload : Metadata)
    (now : Nat) (hWatched : Watched v c) :
    Proceeds v c (findsExpired challenge_id action now c)
      (requestVerificationAction challenge_id action payload now c).1
      (requestVerificationAction challenge_id action payload now c).2 := by
  have hIds : IdsSound (requestVerificationAction challenge_id action payload now c).1 :=
    IdsSound.step c (.requestVerificationAction challenge_id action payload now) hWatched.ids
  have hSame : ∀ answer, findsExpired challenge_id action now c = false →
        Proceeds v c (findsExpired challenge_id action now c) c
          answer := by
    intro answer hNot
    rw [hNot]
    exact (Aside.refl v c).proceeds hWatched.ids hWatched
  unfold requestVerificationAction at hIds ⊢
  dsimp only at hIds ⊢
  split
  next hEmpty =>
    apply hSame
    unfold findsExpired
    simp [hEmpty]
  next hId =>
    split
    next hEmpty =>
      apply hSame
      unfold findsExpired
      simp [hEmpty]
    next hAction =>
      rw [if_neg hId, if_neg hAction] at hIds
      split
      next raised hError => exact hSame _ (findsExpired_of_error hError)
      next challenge hOk =>
        rw [hOk] at hIds
        dsimp only at hIds
        have hFinds : findsExpired challenge_id action now c = decide (challenge.expires_at ≤ now) :=
          findsExpired_of_ok hId hAction hOk
        split
        next hLate =>
          rw [if_pos hLate] at hIds
          rw [hFinds, decide_eq_true hLate]
          exact proceeds_cleared hIds hWatched
        next hEarly =>
          rw [if_neg hEarly] at hIds
          have hNot := hFinds.trans (decide_eq_false hEarly)
          split
          · exact hSame _ hNot
          next hAllowed =>
            rw [if_neg hAllowed] at hIds
            have hCore : c.core = some challenge.core := by
              unfold Control.core
              rw [(openChallenge_ok hOk).1]
              rfl
            rw [hNot]
            refine Aside.proceeds ?_ hIds hWatched
            exact Aside.of_same hCore.symm rfl rfl rfl (le_rfl) fun a hA => hA

theorem updateVerificationMetadata_proceeds (challenge_id : String) (patch : Metadata)
    (hWatched : Watched v c) :
    Proceeds v c false (updateVerificationMetadata challenge_id patch c).1
      (updateVerificationMetadata challenge_id patch c).2 := by
  have hIds : IdsSound (updateVerificationMetadata challenge_id patch c).1 := IdsSound.step c
      (.updateVerificationMetadata challenge_id patch) hWatched.ids
  unfold updateVerificationMetadata at hIds ⊢
  split
  · exact (Aside.refl v c).proceeds hWatched.ids hWatched
  next challenge hOk =>
    rw [hOk] at hIds
    have hCore : c.core = some challenge.core := by
      unfold Control.core
      rw [(openChallenge_ok hOk).1]
      rfl
    refine Aside.proceeds ?_ hIds hWatched
    exact Aside.of_same hCore.symm rfl rfl rfl (le_rfl) fun a hA => hA

theorem finishAttempt_proceeds (attempt_id : Option Nat) (hWatched : Watched v c) :
    Proceeds v c (finishesAttempt attempt_id c) (finishAttempt attempt_id c).1
      (finishAttempt attempt_id c).2 := by
  have hIds : IdsSound (finishAttempt attempt_id c).1 :=
    IdsSound.step c (.finishAttempt attempt_id) hWatched.ids
  cases attempt_id with
  | none => exact (Aside.refl v c).proceeds hWatched.ids hWatched
  | some id =>
    have hDiscard : Aside v c (discardAttempt id c) :=
      Aside.of_same rfl rfl rfl rfl (le_rfl) fun a hA => (mem_filter.mp hA).1
    unfold finishAttempt finishesAttempt at *
    dsimp only at hIds ⊢
    cases hSlot : c.pending_verification with
    | none =>
      rw [hSlot] at hIds
      exact hDiscard.proceeds hIds hWatched
    | some challenge =>
      rw [hSlot] at hIds
      dsimp only at hIds ⊢
      by_cases hOwn : challenge.attempt_id = some id ∧ challenge.status = .pending
      · rw [if_pos hOwn] at hIds ⊢
        have hDiscarded : (discardAttempt id c).pending_verification = some challenge := hSlot
        have hCancelled : cancelPendingVerification "attempt_finished"
                (discardAttempt id c) =
              { discardAttempt id c with
                pending_verification := some
                    { challenge with
                      status := .cancelled,
                      cancel_reason := "attempt_finished" } } := by
          unfold cancelPendingVerification
          rw [hDiscarded]
          dsimp only
          rw [if_pos hOwn.2]
          rfl
        have hCore : c.core = some challenge.core := by
          unfold Control.core
          rw [hSlot]
          rfl
        have hOpen : challenge.core = v.openCore := by
          rcases hWatched.slot with hWaits | hNone | hGone
          · exact Option.some.inj (hCore.symm.trans hWaits)
          · rw [hCore] at hNone
            cases hNone
          · have hStatus := congrArg Core.status (Option.some.inj (hCore.symm.trans hGone))
            exact nomatch hOwn.2.symm.trans hStatus
        have hKept := hDiscard.calm hWatched.calm
        rw [Option.any_some, decide_eq_true hOwn]
        rw [hCancelled] at hIds ⊢
        refine proceeds_spoiled hIds rfl
            ⟨hKept.running, hKept.incomplete, hKept.skips, hKept.unmarked⟩ (.inr ?_) hWatched
        rw [← hOpen]
        rfl
      · rw [if_neg hOwn] at hIds ⊢
        rw [Option.any_some, decide_eq_false hOwn]
        exact hDiscard.proceeds hIds hWatched

/- One section that does not disturb the wait. -/
theorem watched_step (op : Op) (hCalm : disturbs c op = false) (hWatched : Watched v c) :
    Proceeds v c (spoils c op) (step c op).1 (step c op).2 := by
  have hIds := IdsSound.step c op hWatched.ids
  cases op with
  | beginWait call =>
    have hStopped : ∃ error, (checkpoint true call.attempt_id c).2 = some error := by
      apply Option.isSome_iff_exists.mp
      simpa [disturbs] using hCalm
    rcases hStopped with ⟨error, hError⟩
    have hSame :
        step c (.beginWait call) = ((checkpoint true call.attempt_id c).1, .raised error) := by
      change beginWait call c = _
      unfold beginWait
      generalize checkpoint true call.attempt_id c = r at hError
      rcases r with ⟨next, result⟩
      dsimp only at hError
      rw [hError]
    rw [hSame] at hIds ⊢
    exact (aside_checkpoint true call.attempt_id c).proceeds hIds hWatched
  | poll waiter now => exact poll_proceeds waiter now hWatched
  | handlerReturn waiter result now => exact handlerReturn_proceeds waiter result now hWatched
  | submitVerification challenge_id code now =>
    apply submitVerification_proceeds challenge_id code now
    · simpa [disturbs] using hCalm
    · exact hWatched
  | updateVerificationMetadata challenge_id patch =>
    exact updateVerificationMetadata_proceeds challenge_id patch hWatched
  | requestVerificationAction challenge_id action payload
      now =>
      exact requestVerificationAction_proceeds challenge_id action payload now hWatched
  | requestStop => cases hCalm
  | requestCompletionStop => cases hCalm
  | requestSkipCurrent => cases hCalm
  | requestStopAfterCurrent =>
    refine Aside.proceeds ?_ hIds hWatched
    dsimp only [step, requestStopAfterCurrent]
    split
    · exact Aside.refl v c
    · exact Aside.of_same rfl rfl rfl rfl (le_rfl) fun a hA => hA
  | startAttempt =>
    refine Aside.proceeds ?_ hIds hWatched
    dsimp only [step, startAttempt]
    split
    · exact Aside.refl v c
    · exact Aside.of_same rfl rfl rfl rfl (le_rfl) fun a hA => hA
  | finishAttempt attempt_id => exact finishAttempt_proceeds attempt_id hWatched
  | resumeAttempt attempt_id =>
    refine Aside.proceeds ?_ hIds hWatched
    dsimp only [step, resumeAttempt]
    split
    · exact Aside.refl v c
    split
    · exact Aside.of_same rfl rfl rfl rfl (le_rfl) fun a hA => (mem_filter.mp hA).1
    · exact Aside.of_same rfl rfl rfl rfl (le_rfl) fun a hA => hA
  | checkpoint consume_skip attempt_id =>
    exact (aside_checkpoint consume_skip attempt_id c).proceeds hIds hWatched

----
-- Whole Interleavings
----

theorem over_step (op : Op) (hOver : v.IsOver c) : v.IsOver (step c op).1 := by
  rcases hOver with ⟨w, hWaiter, hDone⟩
  refine ⟨w, ?_, hDone⟩
  cases step_effect c op with
  | waited hEffect =>
    cases hEffect with
    | quiet hAnswer hNext hWaiters hSlot => exact hWaiters.done v.waiter w hWaiter hDone
    | returned i old new challenge hOld hOpen hSlot hId
        hSubmitted hCode hAnswer hEnded hSame hWaiters
        hCleared hNext =>
        rw [hWaiters, getElem?_set_ne, hWaiter]
        rintro rfl
        apply hOpen
        rw [Option.some.inj (hOld.symm.trans hWaiter)]
        exact hDone
  | accepted challenge challenge_id code now hOp hSlot hId
      hPending hInTime hCode hAnswer hState =>
      rw [hState]
      exact hWaiter
  | started milliseconds hAnswer hNext hIds hKept hSlot => exact hKept v.waiter w hWaiter hDone

theorem over_run (ops : List Op) (hOver : v.IsOver c) : v.IsOver (run c ops) :=
  run_induction (fun _ op h => over_step op h) hOver ops

/- While the wait goes on, the slot is its own until another party spoils it. -/
theorem watched_run (later : List Op) (hWatched : Watched v c)
    (hCalm : Steps step (fun c op => disturbs c op = false) c later)
    (hGoes : ¬ v.IsOver (run c later)) :
    Watched v (run c later) ∧ (v.Waits (run c later) ↔
        v.Waits c ∧ Steps step (fun c op => spoils c op = false) c later) := by
  induction later generalizing c with
  | nil => exact ⟨hWatched, fun h => ⟨h, trivial⟩, And.left⟩
  | cons op later ih =>
    rcases watched_step op hCalm.1 hWatched with ⟨hStill, hWaits⟩ | ⟨hOver, -, -⟩
    · rcases ih hStill hCalm.2 hGoes with ⟨hLast, hIff⟩
      refine ⟨hLast, hIff.trans ?_⟩
      rw [hWaits]
      exact and_assoc
    · exact absurd (over_run later hOver) hGoes

theorem calm_of_passed
    (hPassed : (checkpoint true attempt_id c).2 = none) : Uninterrupted attempt_id c := by
  unfold checkpoint at hPassed
  split at hPassed
  · cases hPassed
  next hStops =>
    rw [if_neg nofun] at hPassed
    split at hPassed
    · cases hPassed
    next hMarks =>
      split at hPassed
      · cases hPassed
      next hSkips =>
        rw [Bool.or_eq_true, not_or, Bool.not_eq_true, Bool.not_eq_true] at hStops
        refine ⟨hStops.1, hStops.2, by omega, ?_⟩
        intro a hA hIs
        apply hMarks
        rw [any_eq_true]
        exact ⟨a, hA, decide_eq_true hIs⟩

def WaitCall.wait (call : WaitCall) (c : Control) : Wait :=
  let challenge := call.challenge c.next_challenge_id
  { waiter := c.waiters.length, challenge_id := challenge.challenge_id,
    attempt_id := call.attempt_id, expires_at := challenge.expires_at,
    phase_label := challenge.phase_label, timeout_value := challenge.timeout_seconds }

/- A wait that starts is watched, or it is over at once. -/
theorem beginWait_watched (call : WaitCall) (hIds : IdsSound c)
    (hStarts : (checkpoint true call.attempt_id c).2 = none) :
    (call.now < (call.wait c).expires_at ∧ Watched (call.wait c) (step c (.beginWait call)).1 ∧
        (call.wait c).Waits (step c (.beginWait call)).1) ∨
      ((call.wait c).IsOver (step c (.beginWait call)).1 ∧
        (step c (.beginWait call)).2 = (call.wait c).timeout) := by
  have hCalm := calm_of_passed hStarts
  let w : Waiter :=
    { challenge_id := (call.challenge c.next_challenge_id).challenge_id
      attempt_id := call.attempt_id
      phase_label := (call.challenge c.next_challenge_id).phase_label
      timeout_value := (call.challenge c.next_challenge_id).timeout_seconds
      has_handler := call.has_handler }
  let mid : Control :=
    { c with
      next_challenge_id := c.next_challenge_id + 1,
      pending_verification := some (call.challenge c.next_challenge_id),
      waiters := c.waiters ++ [w] }
  have hPass : step c (.beginWait call) = pollWaiter c.waiters.length w call.now mid := by
    change beginWait call c = _
    unfold beginWait
    rw [checkpoint_calm hCalm]
  have hNext := IdsSound.step c (.beginWait call) hIds
  have hWaiter : mid.waiters[c.waiters.length]? = some w := by
    rw [getElem?_append_right (le_rfl), Nat.sub_self]
    rfl
  rw [hPass] at hNext ⊢
  have hFits : (call.wait c).Fits w := ⟨rfl, rfl, rfl, rfl⟩
  have hGoes : w.phase ≠ .done := by
    change Phase.polling ≠ Phase.done
    decide
  have hOpen : (call.wait c).Waits mid := by rfl
  have hMid : Uninterrupted call.attempt_id mid :=
    ⟨hCalm.running, hCalm.incomplete, hCalm.skips, hCalm.unmarked⟩
  rcases pass_waits call.now hWaiter hFits hGoes hMid hOpen
    with ⟨hWaits, hOpen, hKept, -, hEarly⟩ | hOver
  · left
    refine ⟨?_, ⟨hNext, hOpen, hKept, .inl hWaits⟩, hWaits⟩
    rcases hEarly with hEarly | ⟨current, _, _, hSlot, hSeq, -⟩
    · exact hEarly
    · cases hSlot
      exact absurd hSeq (Nat.not_lt_zero _)
  · exact .inr hOver

/- A polling waiter ends at its deadline, or it calls its handler first. -/
theorem poll_ends (now : Nat) (hWatched : Watched v c)
    (hWaiter : c.waiters[v.waiter]? = some w) (hPolling : w.phase = .polling)
    (hDeadline : v.expires_at ≤ now) :
    v.IsOver (step c (.poll v.waiter now)).1 ∨
      ∃ action payload, (step c (.poll v.waiter now)).2 = .handling action payload := by
  have hPass : step c (.poll v.waiter now) = pollWaiter v.waiter w now c := by
    change poll v.waiter now c = _
    unfold poll
    rw [hWaiter]
    dsimp only
    rw [hPolling]
  rcases hWatched.waiter with ⟨old, hOld, hFits, hGoes⟩
  rw [Option.some.inj (hOld.symm.trans hWaiter)] at hFits hGoes
  rw [hPass]
  rcases hWatched.slot with hWaits | hGone
  · rcases pass_waits now hWaiter hFits hGoes hWatched.calm hWaits
      with ⟨-, -, -, -, hEarly⟩ | ⟨hOver, -⟩
    · rcases hEarly with hEarly | ⟨_, action, payload, _, _, hIs⟩
      · omega
      · exact .inr ⟨action, payload, hIs⟩
    · exact .inl hOver
  · exact .inl (pass_gone now hWaiter hFits hWatched.calm hGone).1

/- No section of the interleaving disturbs a wait. -/
abbrev Undisturbed (c : Control) (ops : List Op) : Prop :=
  Steps step (fun c op => disturbs c op = false) c ops

/- No section of the interleaving spoils a wait. -/
abbrev Unspoiled (c : Control) (ops : List Op) : Prop :=
  Steps step (fun c op => spoils c op = false) c ops

/- The wait that the call starts after other sections. -/
abbrev waitAfter (before : List Op) (call : WaitCall) : Wait := call.wait (run {} before)

/- The control at the first pause of that wait. -/
abbrev startAfter (before : List Op) (call : WaitCall) :
    Control :=
  run {} (before ++ [.beginWait call])

/- A wait that nobody stops, skips, replaces or answers with a code ends with its timeout if and
   only if no late request found the expiry before its waiter did and its attempt was not finished.
   At its deadline a polling waiter ends, after the handler of a requested action. -/
theorem wait_times_out_iff (before : List Op) (call : WaitCall)
    (hStarts : (checkpoint true call.attempt_id (run {} before)).2 = none) :
    ((waitAfter before call).expires_at ≤ call.now →
        (step (run {} before) (.beginWait call)).2 = (waitAfter before call).timeout) ∧
      (∀ (later : List Op) (op : Op), Undisturbed (startAfter before call) (later ++ [op]) →
        ¬ (waitAfter before call).IsOver (run (startAfter before call) later) →
        (waitAfter before call).IsOver (step (run (startAfter before call) later) op).1 →
        ((step (run (startAfter before call) later) op).2 = (waitAfter before call).timeout ↔
          Unspoiled (startAfter before call) later)) ∧
      ∀ (later : List Op) (w : Waiter) (now : Nat), Undisturbed (startAfter before call) later →
        (run (startAfter before call) later).waiters[(waitAfter before call).waiter]? = some w →
        w.phase = .polling →
        (waitAfter before call).expires_at ≤ now →
        (waitAfter before call).IsOver
            (step (run (startAfter before call) later)
              (.poll (waitAfter before call).waiter now)).1 ∨
          ∃ action payload, (step (run (startAfter before call) later)
                (.poll (waitAfter before call).waiter now)).2 =
              .handling action payload := by
  have hIds : IdsSound (run {} before) :=
    run_induction (fun c op h => IdsSound.step c op h) IdsSound.init before
  have hAfter : startAfter before call = (step (run {} before) (.beginWait call)).1 :=
    Machine.run_append ({} : Control) before [.beginWait call]
  have hBegin := beginWait_watched call hIds hStarts
  rw [hAfter]
  refine ⟨?_, ?_, ?_⟩
  · intro hLate
    rcases hBegin with ⟨hEarly, -, -⟩ | ⟨-, hAnswer⟩
    · exact absurd hLate (Nat.not_le_of_lt hEarly)
    · exact hAnswer
  · intro later op hCalm hGoes hEnds
    rw [Undisturbed, Machine.steps_append] at hCalm
    rcases hBegin with ⟨-, hWatched, hWaits⟩ | ⟨hOver, -⟩
    · rcases watched_run later hWatched hCalm.1 hGoes with
        ⟨hLast, hIff⟩
      rcases watched_step op hCalm.2.1 hLast with ⟨hStill, -⟩ | ⟨-, hAnswer, -⟩
      · rcases hEnds with ⟨w, hWaiter, hDone⟩
        rcases hStill.waiter with ⟨old, hOld, -, hOpen⟩
        rw [Option.some.inj (hOld.symm.trans hWaiter)] at hOpen
        exact absurd hDone hOpen
      · rw [hAnswer, hIff]
        exact ⟨And.right, fun h => ⟨hWaits, h⟩⟩
    · exact absurd (over_run later hOver) hGoes
  · intro later w now hCalm hWaiter hPolling hDeadline
    have hGoes : ¬ (waitAfter before call).IsOver
            (run (step (run {} before) (.beginWait call)).1 later) := by
      rintro ⟨old, hOld, hDone⟩
      rw [Option.some.inj (hOld.symm.trans hWaiter), hPolling] at hDone
      cases hDone
    rcases hBegin with ⟨-, hWatched, -⟩ | ⟨hOver, -⟩
    · exact poll_ends now (watched_run later hWatched hCalm hGoes).1 hWaiter hPolling hDeadline
    · exact absurd (over_run later hOver) hGoes

def oneSecond : WaitCall where
  timeout_seconds := 1
  milliseconds := 5
  created_at := 0
  now := 0

/- The waiter is the first to find its deadline. -/
theorem wait_times_out_iff_undisturbed :
    (step (startAfter [] oneSecond) (.poll 0 1000)).2 = (waitAfter [] oneSecond).timeout := by
  have hGoes : ¬ (waitAfter [] oneSecond).IsOver (run (startAfter [] oneSecond) []) := by
    rintro ⟨w, hWaiter, hDone⟩
    cases hWaiter
    cases hDone
  exact ((wait_times_out_iff [] oneSecond (by decide)).2.1 [] (.poll 0 1000) ⟨rfl, trivial⟩ hGoes
      ⟨_, rfl, rfl⟩).mpr trivial

/- A code that comes too late takes the challenge along. -/
theorem late_submit_loses_wait :
    Undisturbed (startAfter [] oneSecond)
        [.submitVerification "verify_5_1" "42" 1000, .poll 0 1000] ∧ (step
          (run (startAfter [] oneSecond) [.submitVerification "verify_5_1" "42" 1000])
          (.poll 0 1000)).2 = .raised .waitLost ∧
      Answer.raised .waitLost ≠ (waitAfter [] oneSecond).timeout := by
  decide +kernel

end TaskRuntime
