import AutoGpt.TaskRuntime.Control
import Mathlib.Data.List.Pairwise
import Mathlib.Data.List.Lattice

/-
  Attempts, stop gates and skip marks of a task control over
  any interleaving of its critical sections.

  Main theorems: `step_attempts`, `attempts_sound`, `idle_skip_interrupts_later`
-/

open Machine (Steps run_induction trace)
open List
open Machine

----
-- Calm Sections
----

namespace TaskRuntime

variable {c next : Control} {answer : Answer}

def Control.attempts (c : Control) : Control :=
  { c with next_challenge_id := 1, pending_verification := none, waiters := [] }

/- A section that changes neither gates nor attempts: it takes skip marks or a pending skip away
   only when it raises. -/
inductive Calm (c : Control) : Control → Answer → Prop
| same {answer : Answer}
    (hQuiet : ∀ a, answer ≠ .attempt a) :
    Calm c c answer
| unmarked {marks : List Nat}
    (hMarks : ∀ a ∈ marks, a ∈ c.skip_active_attempt_ids) :
    Calm c { c with skip_active_attempt_ids := marks } (.raised .skipAttempt)
| consumed
    (hPending : 0 < c.pending_skip_requests) :
    Calm c { c with pending_skip_requests := c.pending_skip_requests - 1 } (.raised .skipAttempt)

theorem attempts_cancel (reason : String) (c : Control) :
    (cancelPendingVerification reason c).attempts = c.attempts := by
  unfold cancelPendingVerification
  split
  · rfl
  split
  · rfl
  · rfl

/- What a checkpoint answers when it raises. -/
def checkpointAnswer : Option Raised → Answer
| none => .done
| some error => .raised error

theorem calm_checkpoint (consume_skip : Bool) (attempt_id : Option Nat) (c : Control) :
    Calm c.attempts (checkpoint consume_skip attempt_id c).1.attempts
      (checkpointAnswer (checkpoint consume_skip attempt_id c).2) := by
  unfold checkpoint
  split
  · exact .same nofun
  split
  · exact .same nofun
  split
  · exact .unmarked (fun _ ha => (mem_filter.mp ha).1)
  split
  next hPending =>
    exact .consumed hPending
  · exact .same nofun

theorem calm_leaveCancelled (i : Nat) (w : Waiter) (current : Challenge) (c : Control) :
    Calm c.attempts (leaveCancelled i w current c).1.attempts (leaveCancelled i w current c).2 := by
  unfold leaveCancelled
  dsimp only
  split
  · exact .same nofun
  split
  · exact .unmarked (fun _ ha => (mem_filter.mp ha).1)
  · exact .same nofun

theorem calm_pollOpen (i : Nat) (w : Waiter) (current : Challenge) (now : Nat) (c : Control) :
    Calm c.attempts (pollOpen i w current now c).1.attempts (pollOpen i w current now c).2 := by
  unfold pollOpen
  split
  · exact .same nofun
  split
  · exact .same nofun
  · exact .same nofun

theorem calm_pollCurrent (i : Nat) (w : Waiter) (current : Challenge) (now : Nat) (c : Control) :
    Calm c.attempts (pollCurrent i w current now c).1.attempts
      (pollCurrent i w current now c).2 := by
  unfold pollCurrent
  cases current.status with
  | submitted =>
    dsimp only
    split
    · exact .same nofun
    · exact .same nofun
  | cancelled => exact calm_leaveCancelled i w current c
  | pending => exact calm_pollOpen i w current now c
  | expired => exact calm_pollOpen i w current now c

theorem calm_pollSlot (i : Nat) (w : Waiter) (now : Nat) (c : Control) :
    Calm c.attempts (pollSlot i w now c).1.attempts (pollSlot i w now c).2 := by
  unfold pollSlot
  split
  · exact .same nofun
  split
  · exact .same nofun
  · exact calm_pollCurrent i w _ now c

theorem same_of_passed
    (hPassed : checkpoint true attempt_id c = (next, none)) : next = c := by
  unfold checkpoint at hPassed
  split at hPassed
  · cases hPassed
  rw [if_neg nofun] at hPassed
  split at hPassed
  · cases hPassed
  split at hPassed
  · cases hPassed
  · exact (Prod.mk.inj hPassed).1.symm

theorem calm_pollWaiter (i : Nat) (w : Waiter) (now : Nat) (c : Control) :
    Calm c.attempts (pollWaiter i w now c).1.attempts (pollWaiter i w now c).2 := by
  have hCheck := calm_checkpoint true w.attempt_id c
  unfold pollWaiter
  split
  next next error hRaised =>
    rw [hRaised] at hCheck
    exact hCheck
  next next hPassed =>
    rw [same_of_passed hPassed]
    exact calm_pollSlot i w now c

theorem calm_of_same (i : Nat) (w : Waiter) (now : Nat) (hSame : mid.attempts = c.attempts) :
    Calm c.attempts (pollWaiter i w now mid).1.attempts (pollWaiter i w now mid).2 := by
  rw [← hSame]
  exact calm_pollWaiter i w now mid

theorem calm_poll (i now : Nat) (c : Control) :
    Calm c.attempts (poll i now c).1.attempts (poll i now c).2 := by
  unfold poll
  split
  · exact .same nofun
  split
  · exact calm_pollWaiter i _ now c
  · exact .same nofun
  · exact .same nofun

theorem calm_handlerReturn (i : Nat) (result : HandlerResult) (now : Nat) (c : Control) :
    Calm c.attempts (handlerReturn i result now c).1.attempts (handlerReturn i result now c).2 := by
  unfold handlerReturn
  split
  · exact .same nofun
  split
  · exact .same nofun
  · exact .same nofun
  split
  · exact calm_pollWaiter i _ now c
  split
  · exact calm_pollWaiter i _ now c
  · exact calm_of_same i _ now rfl

theorem calm_beginWait (call : WaitCall) (c : Control) :
    Calm c.attempts (beginWait call c).1.attempts (beginWait call c).2 := by
  have hCheck := calm_checkpoint true call.attempt_id c
  unfold beginWait
  split
  next next error hRaised =>
    rw [hRaised] at hCheck
    exact hCheck
  next next hPassed =>
    rw [same_of_passed hPassed]
    exact calm_of_same _ _ _ rfl

theorem calm_submitVerification (challenge_id code : String) (now : Nat) (c : Control) :
    Calm c.attempts (submitVerification challenge_id code now c).1.attempts
      (submitVerification challenge_id code now c).2 := by
  unfold submitVerification
  dsimp only
  split
  · exact .same nofun
  split
  · exact .same nofun
  split
  · exact .same nofun
  split
  · exact .same nofun
  · exact .same nofun

theorem calm_updateVerificationMetadata (challenge_id : String) (patch : Metadata) (c : Control) :
    Calm c.attempts (updateVerificationMetadata challenge_id patch c).1.attempts
      (updateVerificationMetadata challenge_id patch c).2 := by
  unfold updateVerificationMetadata
  split
  · exact .same nofun
  · exact .same nofun

theorem calm_requestVerificationAction (challenge_id action : String) (payload : Metadata)
    (now : Nat) (c : Control) :
    Calm c.attempts (requestVerificationAction challenge_id action payload now c).1.attempts
      (requestVerificationAction challenge_id action payload now c).2 := by
  unfold requestVerificationAction
  dsimp only
  split
  · exact .same nofun
  split
  · exact .same nofun
  split
  · exact .same nofun
  split
  · exact .same nofun
  split
  · exact .same nofun
  · exact .same nofun

----
-- Effects On Attempts
----

variable {op : Op}

def Stopped (c : Control) : Prop := c.stop_requested ∨ c.completion_stop_requested

/- One of the gates of `start_attempt` is set. -/
def Closed (c : Control) : Prop := Stopped c ∨ c.after_current_requested

def Op.closes : Op → Bool
| .requestStop => true
| .requestCompletionStop => true
| .requestStopAfterCurrent => true
| _ => false

/- What a critical section does to gates and attempts. -/
inductive AttemptEffect (c : Control) : Op → Control → Answer → Prop
| calm {op : Op} {next : Control} {answer : Answer}
    (hOp : op ≠ .requestSkipCurrent) (hGate : op.closes = false) (hCalm : Calm c next answer) :
    AttemptEffect c op next answer
| gate {op : Op} {stop completion after changed : Bool}
    (hGate : op.closes) (hClosed : stop || completion || after)
    (hFlags : op = .requestCompletionStop →
      stop = c.stop_requested ∧ after = c.after_current_requested) :
    AttemptEffect c op
      { c with
        stop_requested := stop, completion_stop_requested := completion,
        after_current_requested := after } (.changed changed)
| idle
    (hIdle : c.active_attempt_ids = []) :
    AttemptEffect c .requestSkipCurrent
      { c with pending_skip_requests := c.pending_skip_requests + 1 } .done
| marks
    (hBusy : c.active_attempt_ids ≠ []) :
    AttemptEffect c .requestSkipCurrent
      { c with skip_active_attempt_ids := c.skip_active_attempt_ids ∪ c.active_attempt_ids } .done
| shut
    (hClosed : Closed c) :
    AttemptEffect c .startAttempt c (.attempt none)
| started
    (hOpen : ¬ Closed c) :
    AttemptEffect c .startAttempt
      { c with
        next_attempt_id := c.next_attempt_id + 1,
        active_attempt_ids := c.active_attempt_ids.insert c.next_attempt_id }
      (.attempt (some c.next_attempt_id))
| finished (id : Nat) :
    AttemptEffect c (.finishAttempt (some id)) (discardAttempt id c) .done
| resumed (id : Nat)
    (hOpen : ¬ Stopped c) :
    AttemptEffect c (.resumeAttempt (some id))
      { c with active_attempt_ids := c.active_attempt_ids.insert id } .done
| refused (id : Nat)
    (hStopped : Stopped c) :
    AttemptEffect c (.resumeAttempt (some id)) (discardAttempt id c) (.raised .stopTask)

theorem stopped_iff : (c.stop_requested || c.completion_stop_requested) ↔ Stopped c :=
  Bool.or_eq_true_iff

theorem closed_iff :
    (c.stop_requested || c.completion_stop_requested ||
        c.after_current_requested) ↔
      Closed c := by
  unfold Closed
  rw [Bool.or_eq_true_iff, stopped_iff]

theorem requestStopAfterCurrent_attempts (c : Control) :
    AttemptEffect c.attempts .requestStopAfterCurrent (requestStopAfterCurrent c).1.attempts
      (requestStopAfterCurrent c).2 := by
  unfold requestStopAfterCurrent
  split
  next hStop =>
    refine .gate rfl ?_ nofun
    rw [hStop]
    rfl
  · exact .gate rfl (Bool.or_true _) nofun

theorem startAttempt_attempts (c : Control) :
    AttemptEffect c.attempts .startAttempt (startAttempt c).1.attempts (startAttempt c).2 := by
  unfold startAttempt
  split
  next hClosed =>
    exact .shut (closed_iff.mp hClosed)
  next hOpen =>
    exact .started (fun h => hOpen (closed_iff.mpr h))

theorem requestSkipCurrent_attempts (c : Control) :
    AttemptEffect c.attempts .requestSkipCurrent (requestSkipCurrent c).1.attempts
      (requestSkipCurrent c).2 := by
  unfold requestSkipCurrent
  rw [attempts_cancel]
  split
  next hIdle =>
    exact .idle (isEmpty_iff.mp hIdle)
  next hBusy =>
    exact .marks (fun hIdle => hBusy (isEmpty_iff.mpr hIdle))

theorem finishAttempt_attempts (attempt_id : Option Nat) (c : Control) :
    AttemptEffect c.attempts (.finishAttempt attempt_id) (finishAttempt attempt_id c).1.attempts
      (finishAttempt attempt_id c).2 := by
  unfold finishAttempt
  split
  · exact .calm Op.noConfusion rfl (.same fun _ => Answer.noConfusion)
  next id =>
    split
    · exact .finished id
    split
    · rw [attempts_cancel]
      exact .finished id
    · exact .finished id

theorem resumeAttempt_attempts (attempt_id : Option Nat) (c : Control) :
    AttemptEffect c.attempts (.resumeAttempt attempt_id) (resumeAttempt attempt_id c).1.attempts
      (resumeAttempt attempt_id c).2 := by
  unfold resumeAttempt
  split
  · exact .calm Op.noConfusion rfl (.same fun _ => Answer.noConfusion)
  next id =>
    split
    next hStopped =>
      exact .refused id (stopped_iff.mp hStopped)
    next hOpen =>
      exact .resumed id (fun h => hOpen (stopped_iff.mpr h))

theorem checkpoint_answer (consume_skip : Bool) (attempt_id : Option Nat) (c : Control) :
    (step c (.checkpoint consume_skip attempt_id)).2 =
      checkpointAnswer (checkpoint consume_skip attempt_id c).2 := by
  unfold step
  dsimp only
  cases (checkpoint consume_skip attempt_id c).2 with
  | none => rfl
  | some error => rfl

/- Every critical section has one of the effects. -/
theorem step_attempts (c : Control) (op : Op) :
    AttemptEffect c.attempts op (step c op).1.attempts (step c op).2 := by
  cases op with
  | beginWait call => exact .calm nofun rfl (calm_beginWait call c)
  | poll i now => exact .calm nofun rfl (calm_poll i now c)
  | handlerReturn i result now =>
    exact .calm nofun rfl (calm_handlerReturn i result now c)
  | submitVerification challenge_id code now =>
    exact .calm nofun rfl (calm_submitVerification challenge_id code now c)
  | updateVerificationMetadata challenge_id patch =>
    exact .calm nofun rfl (calm_updateVerificationMetadata challenge_id patch c)
  | requestVerificationAction challenge_id action payload now =>
    exact .calm nofun rfl
        (calm_requestVerificationAction challenge_id action payload now c)
  | requestStop =>
    unfold step requestStop
    rw [attempts_cancel]
    exact .gate rfl rfl nofun
  | requestCompletionStop =>
    unfold step requestCompletionStop
    rw [attempts_cancel]
    refine .gate rfl ?_ (fun _ => ⟨rfl, rfl⟩)
    rw [Bool.or_true]
    rfl
  | requestStopAfterCurrent => exact requestStopAfterCurrent_attempts c
  | requestSkipCurrent => exact requestSkipCurrent_attempts c
  | startAttempt => exact startAttempt_attempts c
  | finishAttempt attempt_id => exact finishAttempt_attempts attempt_id c
  | resumeAttempt attempt_id => exact resumeAttempt_attempts attempt_id c
  | checkpoint consume_skip attempt_id =>
    refine .calm nofun rfl ?_
    rw [checkpoint_answer]
    exact calm_checkpoint consume_skip attempt_id c

----
-- Issued Ids And Gates
----

/- The ids that `start_attempt` issues over a run. -/
def issuedFrom (c : Control) (ops : List Op) : List Nat := (trace step c ops).filterMap fun entry =>
    match entry.2 with
    | .attempt a => a
    | _ => none

abbrev issued (ops : List Op) : List Nat := issuedFrom {} ops

def issuedBy : Answer → List Nat
| .attempt a => a.toList
| _ => []

theorem issuedFrom_cons (c : Control) (op : Op) (ops : List Op) :
    issuedFrom c (op :: ops) = issuedBy (step c op).2 ++ issuedFrom (step c op).1 ops := by
  unfold issuedFrom issuedBy
  rw [trace_cons, filterMap_cons]
  cases (step c op).2 with
  | attempt a =>
    cases a with
    | none => rfl
    | some a => rfl
  | done => rfl
  | waiting => rfl
  | handling action payload => rfl
  | returned waiter code => rfl
  | raised error => rfl
  | changed value => rfl
  | submitted challenge => rfl
  | challenge challenge => rfl

theorem issuedFrom_append (c : Control) (before after : List Op) :
    issuedFrom c (before ++ after) = issuedFrom c before ++ issuedFrom (run c before) after := by
  unfold issuedFrom
  rw [trace_append, filterMap_append]

theorem issuedBy_of_ne (hQuiet : ∀ a, answer ≠ .attempt a) : issuedBy answer = [] := by
  unfold issuedBy
  split
  next a =>
    exact absurd rfl (hQuiet a)
  · rfl

theorem AttemptEffect.issued (hEffect : AttemptEffect c op next answer) :
    (issuedBy answer = [] ∧ next.next_attempt_id = c.next_attempt_id) ∨
      (issuedBy answer = [c.next_attempt_id] ∧
        next.next_attempt_id = c.next_attempt_id + 1 ∧ ¬ Closed c) := by
  cases hEffect with
  | calm hOp hGate hCalm =>
    cases hCalm with
    | same hQuiet => exact .inl ⟨issuedBy_of_ne hQuiet, rfl⟩
    | unmarked => exact .inl ⟨rfl, rfl⟩
    | consumed => exact .inl ⟨rfl, rfl⟩
  | gate => exact .inl ⟨rfl, rfl⟩
  | idle => exact .inl ⟨rfl, rfl⟩
  | marks => exact .inl ⟨rfl, rfl⟩
  | shut => exact .inl ⟨rfl, rfl⟩
  | started hOpen => exact .inr ⟨rfl, rfl, hOpen⟩
  | finished => exact .inl ⟨rfl, rfl⟩
  | resumed => exact .inl ⟨rfl, rfl⟩
  | refused => exact .inl ⟨rfl, rfl⟩

theorem issuedBy_step (c : Control) (op : Op) :
    (issuedBy (step c op).2 = [] ∧ (step c op).1.next_attempt_id = c.next_attempt_id) ∨
      (issuedBy (step c op).2 = [c.next_attempt_id] ∧
        (step c op).1.next_attempt_id = c.next_attempt_id + 1 ∧ ¬ Closed c) :=
  (step_attempts c op).issued

theorem issuedFrom_ordered (c : Control) (ops : List Op) :
    (∀ a ∈ issuedFrom c ops, c.next_attempt_id ≤ a) ∧ (issuedFrom c ops).Pairwise (· < ·) := by
  induction ops generalizing c with
  | nil =>
    constructor
    · intro a ha
      cases ha
    · exact List.Pairwise.nil
  | cons op ops ih =>
    have hRest := ih (step c op).1
    rw [issuedFrom_cons]
    rcases issuedBy_step c op with ⟨hNone, hSame⟩ | ⟨hOne, hMore, -⟩
    · rw [hNone, nil_append]
      rw [hSame] at hRest
      exact hRest
    · rw [hMore] at hRest
      rw [hOne, singleton_append]
      constructor
      · intro a ha
        rcases mem_cons.mp ha with hFirst | hLater
        · exact Nat.le_of_eq hFirst.symm
        · exact Nat.le_of_succ_le (hRest.1 a hLater)
      · exact pairwise_cons.mpr hRest

theorem AttemptEffect.closed (hEffect : AttemptEffect c op next answer)
    (hBefore : Closed c ∨ op.closes) : Closed next := by
  have hClosed : op.closes = false → Closed c := by
    intro hOpen
    refine hBefore.resolve_right ?_
    rw [hOpen]
    exact Bool.false_ne_true
  cases hEffect with
  | calm hOp hGate hCalm =>
    cases hCalm with
    | same => exact hClosed hGate
    | unmarked => exact hClosed hGate
    | consumed => exact hClosed hGate
  | gate hGate hNext => exact closed_iff.mp hNext
  | idle => exact hClosed rfl
  | marks => exact hClosed rfl
  | shut => exact hClosed rfl
  | started => exact hClosed rfl
  | finished => exact hClosed rfl
  | resumed => exact hClosed rfl
  | refused => exact hClosed rfl

theorem closed_step (op : Op) (hClosed : Closed c) : Closed (step c op).1 :=
  (step_attempts c op).closed (.inl hClosed)

theorem closes_step (c : Control) (hGate : op.closes) : Closed (step c op).1 :=
  (step_attempts c op).closed (.inr hGate)

theorem issuedFrom_closed (hClosed : Closed c) (ops : List Op) : issuedFrom c ops = [] := by
  induction ops generalizing c with
  | nil => rfl
  | cons op ops ih =>
    rw [issuedFrom_cons]
    rcases issuedBy_step c op with ⟨hNone, -⟩ | ⟨-, -, hOpen⟩
    · rw [hNone, ih (closed_step op hClosed)]
      rfl
    · exact absurd hClosed hOpen

theorem closed_run (hClosed : Closed c) (ops : List Op) : Closed (run c ops) :=
  run_induction (fun _ op hStill => closed_step op hStill) hClosed ops

theorem closed_of_gate (hMem : op ∈ ops) (hGate : op.closes) : Closed (run c ops) := by
  rcases append_of_mem hMem with ⟨before, after, hSplit⟩
  rw [hSplit, run, run_append, run_cons]
  exact closed_run (closes_step _ hGate) after

----
-- Skip Marks
----

def MarksActive (c : Control) : Prop := ∀ a ∈ c.skip_active_attempt_ids, a ∈ c.active_attempt_ids

variable {a : Nat}

theorem AttemptEffect.marked (hEffect : AttemptEffect c op next answer)
    (hMark : a ∈ next.skip_active_attempt_ids) :
    a ∈ c.skip_active_attempt_ids ∨ (op = .requestSkipCurrent ∧ a ∈ c.active_attempt_ids) := by
  cases hEffect with
  | calm hOp hGate hCalm =>
    cases hCalm with
    | same => exact .inl hMark
    | unmarked hMarks => exact .inl (hMarks a hMark)
    | consumed => exact .inl hMark
  | gate => exact .inl hMark
  | idle => exact .inl hMark
  | marks => exact (mem_union_iff.mp hMark).imp_right (fun hActive => ⟨rfl, hActive⟩)
  | shut => exact .inl hMark
  | started => exact .inl hMark
  | finished => exact .inl (mem_filter.mp hMark).1
  | resumed => exact .inl hMark
  | refused => exact .inl (mem_filter.mp hMark).1

theorem marks_step (hMark : a ∈ (step c op).1.skip_active_attempt_ids) :
    a ∈ c.skip_active_attempt_ids ∨ (op = .requestSkipCurrent ∧ a ∈ c.active_attempt_ids) :=
  (step_attempts c op).marked hMark

theorem AttemptEffect.marksActive (hEffect : AttemptEffect c op next answer)
    (hMarks : MarksActive c) : MarksActive next := by
  have hKept : ∀ id, MarksActive (discardAttempt id c) := by
    intro id a ha
    have hFound := mem_filter.mp ha
    exact mem_filter.mpr ⟨hMarks a hFound.1, hFound.2⟩
  cases hEffect with
  | calm hOp hGate hCalm =>
    cases hCalm with
    | same => exact hMarks
    | unmarked hOld => exact fun a ha => hMarks a (hOld a ha)
    | consumed => exact hMarks
  | gate => exact hMarks
  | idle => exact hMarks
  | marks => exact fun a ha => (mem_union_iff.mp ha).elim (hMarks a) id
  | shut => exact hMarks
  | started => exact fun a ha => mem_insert_of_mem (hMarks a ha)
  | finished id => exact hKept id
  | resumed => exact fun a ha => mem_insert_of_mem (hMarks a ha)
  | refused id => exact hKept id

theorem marksActive_run (ops : List Op) : MarksActive (run {} ops) :=
  run_induction (fun c op hMarks => (step_attempts c op).marksActive hMarks)
    (fun _ ha => absurd ha not_mem_nil) ops

/- The section is a checkpoint of the attempt that consumes its skip mark. -/
def InterruptedByMark (c : Control) (op : Op) (a : Nat) : Prop :=
  (step c op).2 = .raised .skipAttempt ∧ a ∈ c.skip_active_attempt_ids ∧
    a ∉ (step c op).1.skip_active_attempt_ids

/- The section is a checkpoint that consumes a pending skip. -/
def InterruptedByPending (c : Control) (op : Op) : Prop := (step c op).2 = .raised .skipAttempt ∧
    (step c op).1.pending_skip_requests < c.pending_skip_requests

instance (c : Control) (op : Op) (a : Nat) :
    Decidable (InterruptedByMark c op a) :=
  inferInstanceAs (Decidable (_ ∧ _ ∧ _))

instance (c : Control) (op : Op) :
    Decidable (InterruptedByPending c op) :=
  inferInstanceAs (Decidable (_ ∧ _))

/- How often a run interrupts an attempt through its mark. -/
def markInterrupts (a : Nat) : Control → List Op → Nat
| _, [] => 0
| c, op :: ops => (if InterruptedByMark c op a then 1 else 0) + markInterrupts a (step c op).1 ops

/- How often a run consumes a pending skip. -/
def pendingInterrupts : Control → List Op → Nat
| _, [] => 0
| c, op :: ops => (if InterruptedByPending c op then 1 else 0) + pendingInterrupts (step c op).1 ops

/- The skip requests that find no attempt active. -/
def idleRequests : Control → List Op → Nat
| _, [] => 0
| c, op :: ops =>
    (if op = .requestSkipCurrent ∧ c.active_attempt_ids = [] then 1 else 0) +
      idleRequests (step c op).1 ops

/- No skip is requested while the attempt is active. -/
def NotRequested (a : Nat) (c : Control) (op : Op) : Prop :=
  op = .requestSkipCurrent → a ∉ c.active_attempt_ids

theorem markInterrupts_le (hNone : Steps step (NotRequested a) c ops) :
    markInterrupts a c ops ≤ if a ∈ c.skip_active_attempt_ids then 1 else 0 := by
  induction ops generalizing c with
  | nil => exact Nat.zero_le _
  | cons op ops ih =>
    have hRest := ih hNone.2
    unfold markInterrupts
    by_cases hMark : a ∈ c.skip_active_attempt_ids
    · rw [if_pos hMark]
      by_cases hHit : InterruptedByMark c op a
      · rw [if_neg hHit.2.2] at hRest
        rw [if_pos hHit]
        omega
      · rw [if_neg hHit]
        split at hRest
        · omega
        · omega
    · have hStill : a ∉ (step c op).1.skip_active_attempt_ids := by
        intro hNew
        rcases marks_step hNew with hOld | ⟨hOp, hActive⟩
        · exact hMark hOld
        · exact hNone.1 hOp hActive
      rw [if_neg hStill] at hRest
      rw [if_neg hMark, if_neg (fun h => hMark h.2.1)]
      omega

theorem mark_of_request (hMarks : MarksActive c)
    (hMark : a ∈ (step c .requestSkipCurrent).1.skip_active_attempt_ids)
    : a ∈ c.active_attempt_ids := by
  rcases marks_step hMark with hOld | ⟨-, hActive⟩
  · exact hMarks a hOld
  · exact hActive

theorem AttemptEffect.pending (hEffect : AttemptEffect c op next answer) :
    next.pending_skip_requests + (if answer = .raised .skipAttempt ∧
            next.pending_skip_requests < c.pending_skip_requests then 1 else 0) =
      c.pending_skip_requests +
        (if op = .requestSkipCurrent ∧ c.active_attempt_ids = [] then 1 else 0) := by
  have hQuiet : ∀ {next : Control} {answer : Answer},
        ¬ (op = .requestSkipCurrent ∧ c.active_attempt_ids = []) →
        next.pending_skip_requests = c.pending_skip_requests →
        next.pending_skip_requests + (if answer = .raised .skipAttempt ∧
                next.pending_skip_requests < c.pending_skip_requests then 1 else 0) =
          c.pending_skip_requests +
            (if op = .requestSkipCurrent ∧ c.active_attempt_ids = [] then 1 else 0) := by
    intro next answer hOp hSame
    rw [hSame, if_neg (fun h => Nat.lt_irrefl _ h.2), if_neg hOp]
  cases hEffect with
  | calm hOp hGate hCalm =>
    cases hCalm with
    | same => exact hQuiet (fun h => hOp h.1) rfl
    | unmarked => exact hQuiet (fun h => hOp h.1) rfl
    | consumed hPending =>
      have hLess : c.pending_skip_requests - 1 < c.pending_skip_requests :=
        Nat.sub_lt hPending Nat.one_pos
      rw [if_pos ⟨rfl, hLess⟩, if_neg (fun h => hOp h.1)]
      exact Nat.sub_add_cancel hPending
  | gate hGate =>
    refine hQuiet ?_ rfl
    rintro ⟨hOp, _⟩
    rw [hOp] at hGate
    cases hGate
  | idle hIdle => rw [if_neg (fun h => nomatch h.1), if_pos ⟨rfl, hIdle⟩]
  | marks hBusy => exact hQuiet (fun h => hBusy h.2) rfl
  | shut => exact hQuiet (fun h => nomatch h.1) rfl
  | started => exact hQuiet (fun h => nomatch h.1) rfl
  | finished => exact hQuiet (fun h => nomatch h.1) rfl
  | resumed => exact hQuiet (fun h => nomatch h.1) rfl
  | refused => exact hQuiet (fun h => nomatch h.1) rfl

theorem pending_step (c : Control) (op : Op) :
    (step c op).1.pending_skip_requests + (if InterruptedByPending c op then 1 else 0) =
      c.pending_skip_requests +
        (if op = .requestSkipCurrent ∧ c.active_attempt_ids = [] then 1 else 0) :=
  (step_attempts c op).pending

theorem pending_run (c : Control) (ops : List Op) :
    (run c ops).pending_skip_requests + pendingInterrupts c ops =
      c.pending_skip_requests + idleRequests c ops := by
  induction ops generalizing c with
  | nil => rfl
  | cons op ops ih =>
    have hStep := pending_step c op
    have hRest := ih (step c op).1
    unfold pendingInterrupts idleRequests
    change (run (step c op).1 ops).pending_skip_requests + _ = _
    omega

/- A checkpoint of an attempt is interrupted by its mark or by a pending skip. -/
theorem checkpoint_interrupted
    (hRaised : (step c (.checkpoint true (some a))).2 = .raised .skipAttempt) :
    InterruptedByMark c (.checkpoint true (some a)) a ∨
      InterruptedByPending c (.checkpoint true (some a)) := by
  have hAnswer := hRaised
  rw [checkpoint_answer] at hAnswer
  unfold checkpoint at hAnswer
  split at hAnswer
  · cases hAnswer
  rename_i hOpen
  rw [if_neg nofun] at hAnswer
  split at hAnswer
  next hAny =>
    left
    have hMark : a ∈ c.skip_active_attempt_ids := by
      rcases any_eq_true.mp hAny with ⟨b, hb, hSame⟩
      rw [decide_eq_true_eq, Option.some.injEq] at hSame
      exact hSame ▸ hb
    refine ⟨hRaised, hMark, ?_⟩
    unfold step checkpoint
    dsimp only
    rw [if_neg hOpen, if_neg nofun, if_pos hAny]
    intro hStill
    have hKept := (mem_filter.mp hStill).2
    simp at hKept
  next hNoMark =>
    split at hAnswer
    next hPending =>
      right
      refine ⟨hRaised, ?_⟩
      unfold step checkpoint
      dsimp only
      rw [if_neg hOpen, if_neg nofun, if_neg hNoMark, if_pos hPending]
      exact Nat.sub_lt hPending Nat.one_pos
    · cases hAnswer

----
-- Attempts And Skips
----

/- An attempt that is resumed was started before. -/
def Claimed (c : Control) (op : Op) : Prop :=
  ∀ id, op = .resumeAttempt (some id) → id < c.next_attempt_id

/- The active attempts were started. -/
theorem AttemptEffect.active (hEffect : AttemptEffect c op next answer)
    (hActive : ∀ a ∈ c.active_attempt_ids, a < c.next_attempt_id) (hClaimed : Claimed c op) :
    ∀ a ∈ next.active_attempt_ids, a < next.next_attempt_id := by
  cases hEffect with
  | calm hOp hGate hCalm =>
    cases hCalm with
    | same => exact hActive
    | unmarked => exact hActive
    | consumed => exact hActive
  | gate => exact hActive
  | idle => exact hActive
  | marks => exact hActive
  | shut => exact hActive
  | started =>
    intro a ha
    rcases mem_insert_iff.mp ha with hNew | hOld
    · rw [hNew]
      exact Nat.lt_succ_self _
    · exact Nat.lt_succ_of_lt (hActive a hOld)
  | finished => exact fun a ha => hActive a (mem_filter.mp ha).1
  | resumed id =>
    intro a ha
    rcases mem_insert_iff.mp ha with hNew | hOld
    · rw [hNew]
      exact hClaimed id rfl
    · exact hActive a hOld
  | refused => exact fun a ha => hActive a (mem_filter.mp ha).1

theorem active_run (hClaimed : Steps step Claimed {} ops) :
    ∀ a ∈ (run {} ops).active_attempt_ids, a < (run {} ops).next_attempt_id :=
  run_induction_of_steps
    (P := fun c : Control => ∀ a ∈ c.active_attempt_ids, a < c.next_attempt_id)
    (fun c op hActive hClaim => (step_attempts c op).active hActive hClaim)
    (fun _ ha => absurd ha not_mem_nil) hClaimed

/- One request interrupts an attempt that is active at most
   once through its mark, and no other attempt. -/
theorem request_interrupts (hMarks : MarksActive c)
    (hNone : Steps step (NotRequested a) (step c .requestSkipCurrent).1 ops) :
    markInterrupts a (step c .requestSkipCurrent).1 ops ≤
      if a ∈ c.active_attempt_ids then 1 else 0 := by
  refine Nat.le_trans (markInterrupts_le hNone) ?_
  by_cases hMark : a ∈ (step c .requestSkipCurrent).1.skip_active_attempt_ids
  · rw [if_pos hMark, if_pos (mark_of_request hMarks hMark)]
  · rw [if_neg hMark]
    exact Nat.zero_le _

theorem request_nextId (c : Control) :
    (step c .requestSkipCurrent).1.next_attempt_id = c.next_attempt_id := by
  rcases issuedBy_step c .requestSkipCurrent with ⟨-, hSame⟩ | ⟨hIssued, -⟩
  · exact hSame
  · exact absurd hIssued (cons_ne_nil _ _).symm

/- Over any interleaving: issued ids increase; behind a gate none is issued; an attempt resumes
   exactly when no stop interrupts; the marks are active attempts; a skip request interrupts each
   active attempt at most once through its mark and none that starts later; and the pending skips
   were each requested while no attempt was active. -/
theorem attempts_sound :
    (∀ ops, (issued ops).Pairwise (· < ·)) ∧
    (∀ before after op, op ∈ before → op.closes → issued (before ++ after) = issued before) ∧
    (∀ ops id, (step (run {} ops) (.resumeAttempt (some id))).2 = .done ↔ ¬ Stopped (run {} ops)) ∧
    (∀ ops, MarksActive (run {} ops)) ∧
    (∀ before after a,
      let c := run {} before
      let next := (step c .requestSkipCurrent).1
      Steps step (NotRequested a) next after → markInterrupts a next after ≤
            (if a ∈ c.active_attempt_ids then 1 else 0) ∧
          (Steps step Claimed {} before → a ∈ issuedFrom next after →
            markInterrupts a next after = 0)) ∧
    (∀ ops, (run {} ops).pending_skip_requests + pendingInterrupts {} ops = idleRequests {} ops) ∧
    (∀ ops a, (step (run {} ops) (.checkpoint true (some a))).2 = .raised .skipAttempt →
        InterruptedByMark (run {} ops) (.checkpoint true (some a)) a ∨
          InterruptedByPending (run {} ops) (.checkpoint true (some a))) := by
  refine ⟨?_, ?_, ?_, ?_, ?_, ?_, ?_⟩
  · exact fun ops => (issuedFrom_ordered {} ops).2
  · intro before after op hMem hGate
    unfold issued
    rw [issuedFrom_append, issuedFrom_closed (closed_of_gate hMem hGate), append_nil]
  · intro ops id
    change (resumeAttempt (some id) (run {} ops)).2 = .done ↔ _
    unfold resumeAttempt
    dsimp only
    split
    next hStopped =>
      constructor
      · exact nofun
      · exact fun h => absurd (stopped_iff.mp hStopped) h
    next hOpen =>
      exact ⟨fun _ h => hOpen (stopped_iff.mpr h), fun _ => rfl⟩
  · exact marksActive_run
  · intro before after a c next hNone
    have hOnce := request_interrupts (marksActive_run before) hNone
    refine ⟨hOnce, ?_⟩
    intro hClaimed hIssued
    have hLater := (issuedFrom_ordered next after).1 a hIssued
    rw [request_nextId] at hLater
    have hInactive : a ∉ c.active_attempt_ids := by
      intro hActive
      have hBefore : a < c.next_attempt_id := active_run hClaimed a hActive
      omega
    rw [if_neg hInactive] at hOnce
    exact Nat.le_zero.mp hOnce
  · intro ops
    have hCount := pending_run {} ops
    rw [hCount]
    exact Nat.zero_add _
  · exact fun ops a hRaised => checkpoint_interrupted hRaised

/- A skip that is requested while no attempt is active interrupts an attempt that starts later. -/
theorem idle_skip_interrupts_later :
    ¬ (∀ before after a, Op.requestSkipCurrent ∉ before → Op.requestSkipCurrent ∉ after →
        a ∈ issuedFrom (run {} (before ++ [.requestSkipCurrent])) after → (step
          (run {} (before ++ [.requestSkipCurrent] ++ after))
          (.checkpoint true (some a))).2 ≠ .raised .skipAttempt) := by
  intro hAll
  exact hAll [] [.startAttempt] 1 (by decide) (by decide) (by decide) (by decide)

end TaskRuntime
