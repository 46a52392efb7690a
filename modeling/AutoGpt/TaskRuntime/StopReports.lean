import AutoGpt.TaskRuntime.Attempts
import AutoGpt.TaskRuntime.LogWindow

/-
  The status that `finish` records for a task that was asked
  to stop. A graceful request is visible to `finish` until an
  immediate stop withdraws it, and an immediate stop counts
  for the callers that ask `finish` to respect it.

  Main theorems: `flags_step`, `taskStep_stops`, `graceful_stop_reported`
-/

open Machine (Steps run_append run_cons run_induction)

----
-- Task Records
----

namespace TaskRuntime

/- The arguments of `finish`. -/
structure FinishArgs where
  status : String
  success : Int := 0
  skipped : Int := 0
  errors : List String := []
  error : String := ""
  respect_immediate_stop : Bool := false

/- What a `RegisterTaskRecord` says of its end. -/
structure TaskRecord where
  supports_after_current : Bool := false
  status : String := "pending"
  success : Int := 0
  skipped : Int := 0
  errors : List String := []
  error : String := ""
  control : Control := {}

/- A method of the store on one task, or a critical section of its control, which workers hold. -/
inductive TaskOp where
| mark_running
| request_stop
| request_stop_after_current
| finish (args : FinishArgs)
| control (op : Op)

inductive TaskAnswer where
| done
| refused (text : String)
| control (answer : Answer)

def TaskRecord.onControl (record : TaskRecord) (op : Op) :
    TaskRecord × TaskAnswer :=
  let r := step record.control op
  ({ record with control := r.1 }, .control r.2)

/- `request_stop(task_id)`. -/
def request_stop (record : TaskRecord) :
    TaskRecord × TaskAnswer :=
  if record.status ∈ terminal_task_statuses then (record, .refused "任务已结束")
  else record.onControl .requestStop

/- `request_stop_after_current(task_id)`. -/
def request_stop_after_current (record : TaskRecord) :
    TaskRecord × TaskAnswer :=
  if record.status ∈ terminal_task_statuses then (record, .refused "任务已结束")
  else if record.supports_after_current = false then (record, .refused "当前任务不支持完成当前后停止")
  else record.onControl .requestStopAfterCurrent

/- What `finish` reads. -/
def FinishArgs.call (args : FinishArgs) (c : Control) :
    FinishCall where
  status := args.status
  respect_immediate_stop := args.respect_immediate_stop
  stop_after_current_requested := c.after_current_requested
  stop_requested := c.stop_requested

/- `finish(task_id, ...)`, of the record. -/
def finish_task (args : FinishArgs) (record : TaskRecord) :
    TaskRecord :=
  { record with
    status := (args.call record.control).final_status, success := args.success,
    skipped := args.skipped, errors := args.errors, error := args.error }

def taskStep (record : TaskRecord) :
    TaskOp → TaskRecord × TaskAnswer
| .mark_running => ({ record with status := "running" }, .done)
| .request_stop => TaskRuntime.request_stop record
| .request_stop_after_current => TaskRuntime.request_stop_after_current record
| .finish args => (finish_task args record, .done)
| .control op => record.onControl op

abbrev runTask (supports_after_current : Bool) (ops : List TaskOp) : TaskRecord :=
  Machine.run taskStep { supports_after_current := supports_after_current } ops

/- The request is not refused, and comes before an immediate stop. -/
def GracefulAccepted (record : TaskRecord) : Prop := record.status ∉ terminal_task_statuses ∧
    record.supports_after_current ∧
    record.control.stop_requested = false

/- The operation requests an immediate stop. -/
def StopsNow (record : TaskRecord) : TaskOp → Prop
| .request_stop => record.status ∉ terminal_task_statuses
| .control op => op = .requestStop
| _ => False

instance (record : TaskRecord) (op : TaskOp) :
    Decidable (StopsNow record op) := by
  cases op <;> unfold StopsNow <;> infer_instance

instance (record : TaskRecord) :
    Decidable (GracefulAccepted record) :=
  inferInstanceAs (Decidable (_ ∧ _))

/- No immediate stop is requested over these operations. -/
def NoStop (record : TaskRecord) (ops : List TaskOp) : Prop :=
  Steps taskStep (fun record op => ¬ StopsNow record op) record ops

instance (record : TaskRecord) (ops : List TaskOp) :
    Decidable (NoStop record ops) :=
  Machine.decidableSteps record ops

----
-- The Flags Of A Control
----

variable {c : Control}

/- The two requests of a user are set in the control. -/
structure SameFlags (c next : Control) : Prop where
  stop : next.stop_requested = c.stop_requested
  after : next.after_current_requested = c.after_current_requested

theorem AttemptEffect.flags (hEffect : AttemptEffect c op next answer) (hStop : op ≠ .requestStop)
    (hAfter : op ≠ .requestStopAfterCurrent) : SameFlags c next := by
  cases hEffect with
  | calm hOp hGate hCalm =>
    cases hCalm with
    | same => exact ⟨rfl, rfl⟩
    | unmarked => exact ⟨rfl, rfl⟩
    | consumed => exact ⟨rfl, rfl⟩
  | gate hGate hClosed hFlags =>
    cases op with
    | requestStop => exact absurd rfl hStop
    | requestStopAfterCurrent => exact absurd rfl hAfter
    | requestCompletionStop => exact ⟨(hFlags rfl).1, (hFlags rfl).2⟩
    | _ => cases hGate
  | idle => exact ⟨rfl, rfl⟩
  | marks => exact ⟨rfl, rfl⟩
  | shut => exact ⟨rfl, rfl⟩
  | started => exact ⟨rfl, rfl⟩
  | finished => exact ⟨rfl, rfl⟩
  | resumed => exact ⟨rfl, rfl⟩
  | refused => exact ⟨rfl, rfl⟩

theorem flags_step (op : Op) (hStop : op ≠ .requestStop) (hAfter : op ≠ .requestStopAfterCurrent) :
    SameFlags c (step c op).1 :=
  have hSame := (step_attempts c op).flags hStop hAfter
  ⟨hSame.stop, hSame.after⟩

theorem flags_requestStop (c : Control) :
    (step c .requestStop).1.stop_requested ∧
      (step c .requestStop).1.after_current_requested = false := by
  have hSame := attempts_cancel "stop_requested"
      { c with stop_requested := true, after_current_requested := false }
  exact ⟨congrArg Control.stop_requested hSame, congrArg Control.after_current_requested hSame⟩

theorem flags_requestStopAfterCurrent (c : Control) :
    (step c .requestStopAfterCurrent).1.stop_requested = c.stop_requested ∧
      (step c .requestStopAfterCurrent ).1.after_current_requested =
        (c.after_current_requested || !c.stop_requested) := by
  dsimp only [step, requestStopAfterCurrent]
  cases hStop : c.stop_requested with
  | true => simp [hStop]
  | false => simp

----
-- The Flags Of A Task
----

variable {record : TaskRecord}

/- An immediate stop leaves no graceful request. -/
def FlagsApart (record : TaskRecord) : Prop :=
  record.control.stop_requested → record.control.after_current_requested = false

/- What an operation does to the flags of a task. -/
inductive FlagEffect (record : TaskRecord) (op : TaskOp) (next : TaskRecord) :
    Prop where
| kept
    (hNot : ¬ StopsNow record op)
    (hStop : next.control.stop_requested = record.control.stop_requested)
    (hAfter : next.control.after_current_requested = record.control.after_current_requested)
| graceful
    (hNot : ¬ StopsNow record op)
    (hStop : next.control.stop_requested = record.control.stop_requested)
    (hAfter : next.control.after_current_requested =
        (record.control.after_current_requested || !record.control.stop_requested))
| stopped
    (hNow : StopsNow record op) (hStop : next.control.stop_requested)
    (hAfter : next.control.after_current_requested = false)

theorem taskStep_flags (record : TaskRecord) (op : TaskOp) :
    FlagEffect record op (taskStep record op).1 := by
  cases op with
  | mark_running => exact .kept (fun h => h) rfl rfl
  | finish args => exact .kept (fun h => h) rfl rfl
  | request_stop =>
    unfold taskStep request_stop
    dsimp only
    split
    next hEnded => exact .kept (fun hNow => hNow hEnded) rfl rfl
    next hOpen =>
      have hFlags := flags_requestStop record.control
      exact .stopped hOpen hFlags.1 hFlags.2
  | request_stop_after_current =>
    unfold taskStep request_stop_after_current
    dsimp only
    split
    · exact .kept (fun h => h) rfl rfl
    split
    · exact .kept (fun h => h) rfl rfl
    · have hFlags := flags_requestStopAfterCurrent record.control
      exact .graceful (fun h => h) hFlags.1 hFlags.2
  | control op =>
    by_cases hStop : op = .requestStop
    · subst hStop
      have hFlags := flags_requestStop record.control
      exact .stopped rfl hFlags.1 hFlags.2
    by_cases hAfter : op = .requestStopAfterCurrent
    · subst hAfter
      have hFlags := flags_requestStopAfterCurrent record.control
      exact .graceful hStop hFlags.1 hFlags.2
    · have hSame := flags_step (c := record.control) op hStop hAfter
      exact .kept hStop hSame.stop hSame.after

theorem flagsApart_step (record : TaskRecord) (op : TaskOp) (hApart : FlagsApart record) :
    FlagsApart (taskStep record op).1 := by
  have hEffect := taskStep_flags record op
  unfold FlagsApart at hApart ⊢
  cases hEffect with
  | kept hNot hStop hAfter =>
    rw [hStop, hAfter]
    exact hApart
  | graceful hNot hStop hAfter =>
    rw [hStop, hAfter]
    intro hRequested
    rw [hApart hRequested, hRequested]
    rfl
  | stopped hNow hStop hAfter => exact fun _ => hAfter

def Asked (record : TaskRecord) : Prop :=
  record.control.after_current_requested ∨ record.control.stop_requested

theorem asked_step (record : TaskRecord) (op : TaskOp) (hAsked : Asked record) :
    Asked (taskStep record op).1 := by
  have hEffect := taskStep_flags record op
  unfold Asked at hAsked ⊢
  cases hEffect with
  | kept hNot hStop hAfter =>
    rw [hStop, hAfter]
    exact hAsked
  | graceful hNot hStop hAfter =>
    rw [hStop, hAfter]
    rcases hAsked with hGraceful | hNow
    · rw [hGraceful]
      exact .inl rfl
    · exact .inr hNow
  | stopped hNow hStop hAfter => exact .inr hStop

/- A stop is requested in the end exactly when it was before
   or one of the operations requests it. -/
theorem stop_requested_iff (record : TaskRecord) (ops : List TaskOp) :
    (Machine.run taskStep record ops ).control.stop_requested ↔
      record.control.stop_requested ∨ ¬ NoStop record ops := by
  induction ops generalizing record with
  | nil =>
    unfold NoStop
    simp [Steps]
  | cons op ops ih =>
    have hEffect := taskStep_flags record op
    have hSplit :
        NoStop record (op :: ops) ↔ ¬ StopsNow record op ∧ NoStop (taskStep record op).1 ops :=
      Iff.rfl
    rw [run_cons, ih, hSplit]
    cases hEffect with
    | kept hNot hStop hAfter =>
      rw [hStop]
      simp [hNot]
    | graceful hNot hStop hAfter =>
      rw [hStop]
      simp [hNot]
    | stopped hNow hStop hAfter =>
      rw [hStop]
      simp [hNow]

----
-- Recorded Statuses
----

/- The result that a run of the task comes to by itself. -/
def Natural (status : String) : Prop := status = "done" ∨ status = "failed"

instance (status : String) : Decidable (Natural status) := inferInstanceAs (Decidable (_ ∨ _))

/- `finish` records a natural result of a task that was asked
   to stop only as an immediate stop that it disregards. -/
theorem finish_natural_iff (hApart : FlagsApart record)
    (hAsked : Asked record) (args : FinishArgs) :
    Natural (finish_task args record).status ↔ Natural args.status ∧
        args.respect_immediate_stop = false ∧ record.control.stop_requested := by
  have hStopped : ¬ Natural "stopped" := by decide
  unfold finish_task FinishCall.final_status FinishArgs.call
  split
  next hMapped =>
    refine iff_of_false hStopped ?_
    rintro ⟨-, hDisregards, hStop⟩
    rcases hMapped.1 with hGraceful | hRespects
    · rw [hApart hStop] at hGraceful
      cases hGraceful
    · rw [hDisregards] at hRespects
      cases hRespects.1
  next hOwn =>
    rw [not_and_or, not_or, not_and_or] at hOwn
    constructor
    · intro hNatural
      rcases hOwn with ⟨hQuiet, hFlag⟩ | hOther
      · have hStop := hAsked.resolve_left hQuiet
        refine ⟨hNatural, ?_, hStop⟩
        rcases hFlag with hDisregards | hNone
        · exact Bool.not_eq_true _ ▸ hDisregards
        · exact absurd hStop hNone
      · exact absurd hNatural hOther
    · exact fun h => h.1

/- A task whose graceful request was accepted is recorded as `done` or `failed` exactly when its
   runner reports so, an immediate stop has withdrawn the request, and `finish` is not asked to
   respect that stop. -/
theorem graceful_stop_reported (supports_after_current : Bool) (before later : List TaskOp)
    (hAccepted : GracefulAccepted (runTask supports_after_current before)) (args : FinishArgs) :
    Natural
        (runTask supports_after_current
          (before ++ .request_stop_after_current :: later ++ [.finish args])).status ↔
      Natural args.status ∧ args.respect_immediate_stop = false ∧ ¬ NoStop
            (runTask supports_after_current (before ++ [.request_stop_after_current]))
            later := by
  rcases hAccepted with ⟨hOpen, hSupports, hNotYet⟩
  unfold runTask at *
  rw [run_append, run_append, run_append, run_cons, run_cons]
  have hApart : FlagsApart (Machine.run taskStep
          { supports_after_current := supports_after_current } before) :=
    run_induction flagsApart_step (by intro hStop; cases hStop) before
  generalize Machine.run taskStep { supports_after_current := supports_after_current }
      before = record at *
  have hFlags := flags_requestStopAfterCurrent record.control
  have hTaken : (taskStep record .request_stop_after_current).1 =
        { record with control := (step record.control .requestStopAfterCurrent ).1 } := by
    unfold taskStep request_stop_after_current
    rw [if_neg hOpen, if_neg (fun hNot => by rw [hSupports] at hNot; cases hNot)]
    rfl
  have hAsked : Asked (taskStep record .request_stop_after_current).1 := by
    rw [hTaken]
    refine .inl ?_
    rw [hFlags.2, hNotYet, Bool.not_false, Bool.or_true]
  have hBefore :
      (taskStep record .request_stop_after_current ).1.control.stop_requested = false := by
    rw [hTaken]
    exact hFlags.1.trans hNotYet
  have hEnd := finish_natural_iff (run_induction flagsApart_step
        (flagsApart_step record .request_stop_after_current hApart) later)
      (run_induction asked_step hAsked later) args
  rw [stop_requested_iff, hBefore] at hEnd
  simp only [Bool.false_eq_true, false_or] at hEnd
  exact hEnd

/- A graceful request that is followed by an immediate one. -/
theorem graceful_stop_reported_escalated :
    Natural (runTask true ([.mark_running] ++ .request_stop_after_current :: [.request_stop] ++
            [.finish { status := "done", respect_immediate_stop := true }])).status ↔
      Natural "done" ∧ true = false ∧ ¬ NoStop
            (runTask true ([.mark_running] ++ [.request_stop_after_current])) [.request_stop] :=
  graceful_stop_reported true [.mark_running] [.request_stop] (by decide)
    { status := "done", respect_immediate_stop := true }

/- Without the flag the escalated task is recorded as done. -/
theorem escalated_task_done :
    GracefulAccepted (runTask true [.mark_running]) ∧ (runTask true
        ([.mark_running] ++ .request_stop_after_current :: [.request_stop] ++
          [.finish { status := "done" }])).status = "done" := by
  decide

end TaskRuntime
