import AutoGpt.BaxiGptCdk.Repository
import AutoGpt.Library.JobPool

/-
  The table of polling targets of `baxigpt_status_poller.py`:
  enqueues put a target for a card into it, and the loop takes
  the due ones, polls each, and then removes or reschedules by
  the card's id what is there. A target stays until a poll of
  its own, or of a newer one of its card, has ended it, if each
  such end finds the target that it has polled.

  Main theorems:
    * `BaxiGptCdk.targets_kept`
    * `BaxiGptCdk.targets_lost`
-/

open PyText (orElse strip)
open KeyedTable (empty eq_of_mem_of_key_eq find?_of_mem find?_put mem_of_find? mem_rows_iff
  mem_rows_put)
open JobPool (Holds OnJob State run)
open List

----
-- Targets
----

namespace BaxiGptCdk

/- The default of `interval_seconds`. -/
def defaultIntervalSeconds : Nat := 5

/- The default of `timeout_seconds`. -/
def defaultTimeoutSeconds : Nat := 300

/- `BaxiGptStatusPollTarget`; `serial` tells its objects apart. -/
structure PollTarget where
  serial : Nat
  record_id : Nat
  task_id : String := ""
  interval_seconds : Nat := defaultIntervalSeconds
  timeout_seconds : Nat := defaultTimeoutSeconds
  next_due_at : Nat := 0
  deadline_at : Nat := 0
  last_status : String := ""
  last_error : String := ""
  source : String := ""
deriving DecidableEq

/- `_targets`. -/
abbrev Targets := KeyedTable PollTarget Nat PollTarget.record_id

/- `_positive_int`; a value that is zero or no number is `none`. -/
def positiveInt (value : Option Int) (default minimum maximum : Nat) : Nat :=
  max minimum (min (maximum : Int) (value.getD default)).toNat

/- The arguments of `enqueue_status_poll`. -/
structure EnqueueRequest where
  record_id : Nat
  task_id : String := ""
  interval_seconds : Option Int := some 5
  timeout_seconds : Option Int := some 300
  immediate : Bool := false
  source : String := "submit_success"
deriving DecidableEq

def Status.text : Status → String
| .available => "available"
| .reserved => "reserved"
| .submitted => "submitted"
| .processing => "processing"
| .paid => "paid"
| .failed => "failed"
| .disabled => "disabled"

/- `POLLABLE_STATUSES`. -/
def pollable (status : Status) : Bool := status ∈ [.submitted, .processing]

/- `TERMINAL_STATUSES`. -/
def terminal (status : Status) : Bool := status ∈ [.paid, .failed, .disabled]

/- The target that `enqueue_status_poll` builds. -/
def EnqueueRequest.target (env : Env) (now : Nat) (record : Row)
    (request : EnqueueRequest) : PollTarget :=
  let interval := positiveInt request.interval_seconds defaultIntervalSeconds 1 3600
  let timeout := positiveInt request.timeout_seconds defaultTimeoutSeconds interval 86400
  { serial := 0
    record_id := request.record_id
    task_id := strip request.task_id
    interval_seconds := interval
    timeout_seconds := timeout
    next_due_at := if request.immediate then now
      else now + interval
    deadline_at := now + timeout
    last_status := lowered env (orElse record.upstream_status record.status.text)
    source := orElse (strip request.source)
        "submit_success" }

/- The target that it puts beside the existing one. -/
def PollTarget.merged (target : PollTarget) (immediate : Bool)
    (existing : Option PollTarget) : PollTarget :=
  match existing with
  | none => target
  | some existing =>
    { target with
      last_status := existing.last_status
      last_error := existing.last_error
      source := orElse target.source existing.source
      next_due_at :=
        if existing.next_due_at ≠ 0 ∧ immediate = false then
          min existing.next_due_at target.next_due_at
        else target.next_due_at }

----
-- Polls
----

inductive PollFound where
| missing
| noOrder
| disabled
| notPollable
| expired
| terminal
deriving DecidableEq

/- What comes from outside a step: the time; the row that is read and whether its account has
   polling disabled; what the answer of the upstream has made of the row; an exception; and whether
   the loop is to stop. -/
structure PollerDraw where
  now : Nat := 0
  record : Option Row := none
  disabled : Bool := false
  response_status : String := ""
  updated : Option Row := none
  refresh_error : String := ""
  raised : Option String := none
  stopped : Bool := false

/- `_poll_once` in `_loop`: the target after it, and why it is done with. -/
def pollOnce (env : Env) (draw : PollerDraw) (target : PollTarget) :
    PollTarget × Option PollFound :=
  match draw.raised with
  | some error =>
    ({ target with last_error := error },
      if target.deadline_at ≤ draw.now then some .expired
      else none)
  | none =>
    match draw.record with
    | none => ({ target with last_error := "卡密记录不存在" }, some .missing)
    | some record =>
      if record.order_id = "" then ({ target with last_error := "没有 order_id" }, some .noOrder)
      else if draw.disabled then ({ target with last_error := "本地任务已停止轮询" }, some .disabled)
      else if pollable record.status = false then
        ({ target with last_error := "状态不可轮询: " ++ record.status.text }, some .notPollable)
      else if target.deadline_at < draw.now then
        ({ target with last_error := "状态轮询超时" }, some .expired)
      else
        match draw.updated with
        | none => ({ target with last_error := "状态响应未写入" }, none)
        | some updated =>
          ({ target with
             last_status := lowered env (orElse updated.upstream_status
                   (orElse updated.status.text draw.response_status))
             last_error :=
               if updated.status = .paid then draw.refresh_error
               else "" },
            if terminal updated.status then some .terminal
            else none)

----
-- The Loop And Enqueues
----

structure PollEnd where
  serial : Nat
  record_id : Nat
  found : Option PollFound

/- The table, the number of the next object, the targets that
   enqueues have put, and the polls that have ended. -/
structure PollerState where
  targets : Targets := empty
  serial : Nat := 0
  puts : List PollTarget := []
  ends : List PollEnd := []

/- What an enqueue or the loop does next; the loop holds the targets that it has taken. -/
inductive PollerJob where
| enqueueRead (request : EnqueueRequest)
| enqueuePut (target : PollTarget) (immediate : Bool)
| loop
| polling (due : List PollTarget)
| ending (target : PollTarget) (found : Option PollFound)
    (due : List PollTarget)
| finished
deriving DecidableEq

/- `enqueue_status_poll` up to the lock. -/
def enqueueRead (env : Env) (draw : PollerDraw) (request : EnqueueRequest) : PollerJob :=
  if request.record_id = 0 then .finished
  else
    match draw.record with
    | none => .finished
    | some record =>
      if record.order_id = "" ∨ pollable record.status = false ∨ draw.disabled then .finished
      else .enqueuePut (request.target env draw.now record) request.immediate

def enqueuePut (target : PollTarget) (immediate : Bool) (s : PollerState) : PollerState :=
  let put :=
    { target.merged immediate
        (s.targets.find? target.record_id) with
      serial := s.serial
      record_id := target.record_id }
  { s with targets := s.targets.put put, serial := s.serial + 1, puts := s.puts ++ [put] }

/- `_take_due_targets`. -/
def takeDueTargets (now : Nat) (targets : Targets) :
    List PollTarget :=
  targets.rows.filter fun target => decide (target.next_due_at ≤ now)

/- A poll writes to its object, which may still be in the table. -/
def writtenByPoll (after target : PollTarget) : PollTarget :=
  if target.serial = after.serial then
    { target with last_status := after.last_status, last_error := after.last_error }
  else target

theorem writtenByPoll_record_id (after target : PollTarget) :
    (writtenByPoll after target).record_id = target.record_id := by
  unfold writtenByPoll
  split <;> rfl

/- The time of the next poll after `_reschedule_target`. -/
def PollTarget.dueAfter (now : Nat) (current : PollTarget) :
    Nat :=
  now + max
      (if current.interval_seconds = 0 then defaultIntervalSeconds
      else current.interval_seconds) 1

/- `_reschedule_target` on the target that is there. -/
def PollTarget.rescheduled (target : PollTarget) (now : Nat) (current : PollTarget) :
    PollTarget :=
  { current with
    next_due_at := current.dueAfter now, last_status := target.last_status,
    last_error := target.last_error }

/- `_remove_target` or `_reschedule_target`. -/
def endPoll (now : Nat) (target : PollTarget) (found : Option PollFound) (s : PollerState) :
    PollerState :=
  { s with
    targets :=
      match found with
      | some _ => s.targets.deleteWhere fun current => decide (current.record_id = target.record_id)
      | none => s.targets.updateKey target.record_id (target.rescheduled now) (fun _ => rfl)
    ends := s.ends ++ [{ serial := target.serial, record_id := target.record_id, found := found }] }

def PollerJob.advance (env : Env) (draw : PollerDraw) (s : PollerState) :
    PollerJob → PollerState × PollerJob
| .enqueueRead request => (s, BaxiGptCdk.enqueueRead env draw request)
| .enqueuePut target immediate => (BaxiGptCdk.enqueuePut target immediate s, .finished)
| .loop =>
    if draw.stopped then (s, .finished)
    else (s, .polling (takeDueTargets draw.now s.targets))
| .polling [] => (s, .loop)
| .polling (target :: due) =>
    if draw.stopped then (s, .finished)
    else
      let result := pollOnce env draw target
      ({ s with
         targets := s.targets.updateKey target.record_id
             (writtenByPoll result.1)
             (writtenByPoll_record_id result.1) },
        .ending result.1 result.2 due)
| .ending target found due => (endPoll draw.now target found s, .polling due)
| .finished => (s, .finished)

inductive PollerRequest where
| enqueue (request : EnqueueRequest)
| start

def PollerRequest.job : PollerRequest → PollerJob
| .enqueue request => .enqueueRead request
| .start => .loop

def poller (env : Env) :
    JobPool.Program PollerState PollerJob PollerRequest PollerDraw where
  start := PollerRequest.job
  advance := PollerJob.advance env
  done := fun job => decide (job = .finished)
  ended := .finished

abbrev PollerOp := JobPool.Op PollerRequest PollerDraw

abbrev pollerRun (env : Env) (ops : List PollerOp) :
    State PollerState PollerJob :=
  run (poller env) {} ops

----
-- What Is Kept
----

/- An enqueue has put the object, with its deadline. -/
def Stems (puts : List PollTarget) (target : PollTarget) :
    Prop :=
  ∃ put ∈ puts, put.serial = target.serial ∧ put.record_id = target.record_id ∧
      put.deadline_at = target.deadline_at

/- What the poller promises. A target that was put is in the table, or replaced there by a newer one
   of its card, or a poll of one of these has found a reason to end it; only the end of its own poll
   makes a target due later; a card has at most one target; and polls are of targets that were put.
   -/
structure TargetsKept (s : PollerState) : Prop where
  kept : ∀ target ∈ s.puts, (∃ current ∈ s.targets.rows,
        current.record_id = target.record_id ∧ target.serial ≤ current.serial) ∨
      ∃ ended ∈ s.ends, ended.record_id = target.record_id ∧ target.serial ≤ ended.serial ∧
          ended.found.isSome
  undelayed : ∀ current ∈ s.targets.rows, (∀ ended ∈ s.ends, ended.serial ≠ current.serial) →
        ∃ target ∈ s.puts, target.serial = current.serial ∧ current.next_due_at ≤ target.next_due_at
  unique : ∀ a ∈ s.targets.rows, ∀ b ∈ s.targets.rows, a.record_id = b.record_id → a = b
  polled :
    ∀ ended ∈ s.ends, ∃ put ∈ s.puts, put.serial = ended.serial ∧ put.record_id = ended.record_id

/- The condition on a step: the end of a poll that removes finds the target that it has polled, and
   one that reschedules finds it, or one that is due no earlier than it then will be. -/
def EndsOwn (st : State PollerState PollerJob) (draw : PollerDraw) : PollerJob → Prop
| .ending target (some _) _ =>
    ∀ current ∈ st.shared.targets.find? target.record_id, current.serial = target.serial
| .ending target none _ =>
    ∀ current ∈ st.shared.targets.find? target.record_id,
      current.serial = target.serial ∨ current.dueAfter draw.now ≤ current.next_due_at
| _ => True

instance
    (st : State PollerState PollerJob) (draw : PollerDraw) (job : PollerJob) :
    Decidable (EndsOwn st draw job) := by
  unfold EndsOwn
  split <;> infer_instance

structure PollerSound (s : PollerState) : Prop where
  kept : TargetsKept s
  fresh : ∀ target ∈ s.puts, target.serial < s.serial
  rows : ∀ current ∈ s.targets.rows, Stems s.puts current

def PollerJob.holds : PollerJob → List PollTarget
| .polling due => due
| .ending target _ due => target :: due
| _ => []

abbrev PollerJob.Stem (s : PollerState) (job : PollerJob) :
    Prop :=
  ∀ target ∈ job.holds, Stems s.puts target

theorem Stems.append {target : PollTarget}
    (hStems : Stems puts target) (more : List PollTarget) : Stems (puts ++ more) target := by
  rcases hStems with ⟨put, hPut, hSame⟩
  exact ⟨put, mem_append_left _ hPut, hSame⟩

theorem pollOnce_target (env : Env) (draw : PollerDraw) (target : PollTarget) :
    (pollOnce env draw target).1.serial = target.serial ∧
      (pollOnce env draw target).1.record_id = target.record_id ∧
      (pollOnce env draw target).1.deadline_at = target.deadline_at := by
  unfold pollOnce
  repeat' split
  all_goals exact ⟨rfl, rfl, rfl⟩

----
-- Steps
----

/- An enqueue puts a target with a new number. -/
theorem PollerSound.put (hSound : PollerSound s) (put : PollTarget)
    (hSerial : put.serial = s.serial) :
    PollerSound
      { s with targets := s.targets.put put, serial := s.serial + 1, puts := s.puts ++ [put] } := by
  have hPut : put ∈ (s.targets.put put).rows := by
    apply mem_rows_iff.mpr
    rw [find?_put, if_pos rfl]
  have hOther : ∀ current ∈ s.targets.rows,
        current.record_id ≠ put.record_id → current ∈ (s.targets.put put).rows := by
    intro current hMem hNe
    apply mem_rows_iff.mpr
    rw [find?_put, if_neg (Ne.symm hNe)]
    exact find?_of_mem hMem
  constructor
  · constructor
    · intro target hTarget
      rcases mem_append.mp hTarget with hOld | hNew
      · have hLess := hSound.fresh target hOld
        rcases hSound.kept.kept target hOld with ⟨current, hCurrent, hRecord, hLe⟩ | hEnded
        · left
          by_cases hSame : current.record_id = put.record_id
          · refine ⟨put, hPut, ?_, by omega⟩
            rw [← hSame]
            exact hRecord
          · exact ⟨current, hOther current hCurrent hSame, hRecord, hLe⟩
        · exact .inr hEnded
      · left
        rw [mem_singleton.mp hNew]
        exact ⟨put, hPut, rfl, le_rfl⟩
    · intro current hCurrent hEnds
      rcases mem_rows_put hCurrent with hNew | ⟨_, hOld⟩
      · rw [hNew]
        exact ⟨put, mem_append_right _ (mem_singleton_self _), rfl, le_rfl⟩
      · rcases hSound.kept.undelayed current hOld hEnds with
          ⟨target, hTarget, hSame⟩
        exact ⟨target, mem_append_left _ hTarget, hSame⟩
    · intro a hA b hB hRecord
      exact eq_of_mem_of_key_eq hA hB hRecord
    · intro ended hEnded
      rcases hSound.kept.polled ended hEnded with ⟨target, hTarget, hSame⟩
      exact ⟨target, mem_append_left _ hTarget, hSame⟩
  · intro target hTarget
    show target.serial < s.serial + 1
    rcases mem_append.mp hTarget with hOld | hNew
    · have hLess := hSound.fresh target hOld
      omega
    · rw [mem_singleton.mp hNew, hSerial]
      exact Nat.lt_succ_self _
  · intro current hCurrent
    rcases mem_rows_put hCurrent with hNew | ⟨_, hOld⟩
    · rw [hNew]
      exact ⟨put, mem_append_right _ (mem_singleton_self _), rfl, rfl, rfl⟩
    · exact (hSound.rows current hOld).append _

/- A step rewrites the target of a card, and may end a poll. -/
theorem PollerSound.rewrite (hSound : PollerSound s) (record_id : Nat)
    (hKey : ∀ target, (f target).record_id = target.record_id)
    (hSerial : ∀ target, (f target).serial = target.serial)
    (hDeadline : ∀ target, (f target).deadline_at = target.deadline_at) (more : List PollEnd)
    (hMore :
      ∀ ended ∈ more, ∃ put ∈ s.puts, put.serial = ended.serial ∧ put.record_id = ended.record_id)
    (hDue : ∀ current ∈ s.targets.find? record_id, (f current).next_due_at ≤ current.next_due_at ∨
          ∃ ended ∈ more, ended.serial = current.serial) :
    PollerSound
      { s with targets := s.targets.updateKey record_id f hKey, ends := s.ends ++ more } := by
  have hRows : ∀ after ∈ (s.targets.updateKey record_id f hKey).rows, (∃ current,
          s.targets.find? record_id = some current ∧ after = f current) ∨
          (after.record_id ≠ record_id ∧ after ∈ s.targets.rows) :=
    fun after hMem => @KeyedTable.mem_rows_updateKey _ _ _ _ _ _ _ hKey _ hMem
  constructor
  · constructor
    · intro target hTarget
      rcases hSound.kept.kept target hTarget with
        ⟨current, hCurrent, hRecord, hLe⟩ | ⟨ended, hEnded, hRest⟩
      · left
        refine ⟨_, KeyedTable.exists_mem_updateKey record_id hKey hCurrent, ?_⟩
        split
        · rw [hKey, hSerial]
          exact ⟨hRecord, hLe⟩
        · exact ⟨hRecord, hLe⟩
      · right
        exact ⟨ended, mem_append_left _ hEnded, hRest⟩
    · intro after hAfter hEnds
      have hOldEnds : ∀ ended ∈ s.ends, ended.serial ≠ after.serial :=
        fun ended hMem => hEnds ended (mem_append_left _ hMem)
      rcases hRows after hAfter with ⟨current, hCurrent, hIs⟩ | ⟨_, hOld⟩
      · rw [hIs, hSerial] at hOldEnds hEnds
        rw [hIs, hSerial]
        rcases hSound.kept.undelayed current (mem_of_find? hCurrent).1 hOldEnds with
          ⟨target, hTarget, hSame, hLe⟩
        rcases hDue current hCurrent with hEarlier | ⟨ended, hEnded, hOwn⟩
        · exact ⟨target, hTarget, hSame, Nat.le_trans hEarlier hLe⟩
        · exact absurd hOwn (hEnds ended (mem_append_right _ hEnded))
      · exact hSound.kept.undelayed after hOld hOldEnds
    · intro a hA b hB hRecord
      exact eq_of_mem_of_key_eq hA hB hRecord
    · intro ended hEnded
      rcases mem_append.mp hEnded with hOld | hNew
      · exact hSound.kept.polled ended hOld
      · exact hMore ended hNew
  · exact hSound.fresh
  · intro after hAfter
    rcases hRows after hAfter with ⟨current, hCurrent, hIs⟩ | ⟨_, hOld⟩
    · rcases hSound.rows current (mem_of_find? hCurrent).1
        with ⟨put, hPut, hSame⟩
      rw [hIs]
      unfold Stems
      rw [hKey, hSerial, hDeadline]
      exact ⟨put, hPut, hSame⟩
    · exact hSound.rows after hOld

/- The end of a poll removes the target that it has polled. -/
theorem PollerSound.remove (hSound : PollerSound s) (ended : PollEnd)
    (hFound : ended.found.isSome)
    (hPolled : ∃ put ∈ s.puts, put.serial = ended.serial ∧ put.record_id = ended.record_id)
    (hOwn : ∀ current ∈ s.targets.find? ended.record_id, current.serial = ended.serial) :
    PollerSound
      { s with
        targets := s.targets.deleteWhere fun current => decide (current.record_id = ended.record_id)
        ends := s.ends ++ [ended] } := by
  have hSub : ∀ current ∈ (s.targets.deleteWhere fun current =>
            decide (current.record_id = ended.record_id)).rows,
        current ∈ s.targets.rows :=
    fun current hMem => mem_of_mem_filter hMem
  constructor
  · constructor
    · intro target hTarget
      rcases hSound.kept.kept target hTarget with
        ⟨current, hCurrent, hRecord, hLe⟩ | ⟨other, hOther, hRest⟩
      · by_cases hSame : current.record_id = ended.record_id
        · right
          have hFind : s.targets.find? ended.record_id = some current := by
            rw [← hSame]
            exact find?_of_mem hCurrent
          have hSerial := hOwn current hFind
          refine ⟨ended, mem_append_right _ (mem_singleton_self _), ?_, ?_, hFound⟩
          · rw [← hSame]
            exact hRecord
          · omega
        · left
          refine ⟨current, ?_, hRecord, hLe⟩
          exact mem_filter.mpr ⟨hCurrent, by simp [hSame]⟩
      · right
        exact ⟨other, mem_append_left _ hOther, hRest⟩
    · intro current hCurrent hEnds
      apply hSound.kept.undelayed current (hSub current hCurrent)
      intro other hOther
      exact hEnds other (mem_append_left _ hOther)
    · intro a hA b hB hRecord
      exact eq_of_mem_of_key_eq hA hB hRecord
    · intro other hOther
      rcases mem_append.mp hOther with hOld | hNew
      · exact hSound.kept.polled other hOld
      · rw [mem_singleton.mp hNew]
        exact hPolled
  · exact hSound.fresh
  · intro current hCurrent
    exact hSound.rows current (hSub current hCurrent)

----
-- Runs
----

structure StepKept (env : Env) (draw : PollerDraw) (s : PollerState) (job : PollerJob) : Prop where
  sound : PollerSound (job.advance env draw s).1
  stem : (job.advance env draw s).2.Stem (job.advance env draw s).1
  grows : ∃ more, (job.advance env draw s).1.puts = s.puts ++ more

theorem stepKept_same (hSound : PollerSound s) (hSame : (job.advance env draw s).1 = s)
    (hStem : (job.advance env draw s).2.Stem s) :
    StepKept env draw s job where
  sound := by
    rw [hSame]
    exact hSound
  stem := by
    rw [hSame]
    exact hStem
  grows := ⟨[], by rw [hSame, append_nil]⟩

/- A poll. -/
theorem stepKept_polling (hSound : PollerSound s)
    (hStem : PollerJob.Stem s (.polling (target :: due))) :
    StepKept env draw s (.polling (target :: due)) := by
  cases hStopped : draw.stopped with
  | true =>
    apply stepKept_same hSound
    · simp only [PollerJob.advance, hStopped, if_true]
    · simp only [PollerJob.advance, hStopped, if_true]
      intro other hOther
      cases hOther
  | false =>
    have hStep : PollerJob.advance env draw s
            (.polling (target :: due)) =
          ({ s with
             targets := s.targets.updateKey target.record_id
                 (writtenByPoll (pollOnce env draw target).1)
                 (writtenByPoll_record_id
                   (pollOnce env draw target).1) },
            .ending (pollOnce env draw target).1 (pollOnce env draw target).2 due) := by
      simp only [PollerJob.advance, hStopped, Bool.false_eq_true, if_false]
    have hTarget := pollOnce_target env draw target
    have hWritten : ∀ current, (writtenByPoll (pollOnce env draw target).1
              current).serial = current.serial ∧
            (writtenByPoll (pollOnce env draw target).1 current).deadline_at = current.deadline_at ∧
            (writtenByPoll (pollOnce env draw target).1
              current).next_due_at = current.next_due_at := by
      intro current
      unfold writtenByPoll
      split <;> exact ⟨rfl, rfl, rfl⟩
    have hAfter := hSound.rewrite target.record_id
        (writtenByPoll_record_id (pollOnce env draw target).1)
        (fun current => (hWritten current).1) (fun current => (hWritten current).2.1) []
        (fun _ hMem => by cases hMem)
        (fun current _ => .inl (Nat.le_of_eq (hWritten current).2.2))
    constructor
    · rw [hStep]
      simpa using hAfter
    · rw [hStep]
      intro other hOther
      rcases mem_cons.mp hOther with hFirst | hRest
      · rcases hStem target mem_cons_self with
          ⟨put, hPut, hSame⟩
        rw [hFirst]
        refine ⟨put, hPut, ?_⟩
        rw [hTarget.1, hTarget.2.1, hTarget.2.2]
        exact hSame
      · exact hStem other (mem_cons_of_mem _ hRest)
    · rw [hStep]
      exact ⟨[], (append_nil _).symm⟩

theorem stepKept_ending (hSound : PollerSound st.shared)
    (hStem : PollerJob.Stem st.shared (.ending target found due))
    (hOwn : EndsOwn st draw (.ending target found due)) :
    StepKept env draw st.shared (.ending target found due) := by
  have hPolled :
      ∃ put ∈ st.shared.puts, put.serial = target.serial ∧ put.record_id = target.record_id := by
    rcases hStem target mem_cons_self with ⟨put, hPut, hSerial, hRecord, _⟩
    exact ⟨put, hPut, hSerial, hRecord⟩
  constructor
  · cases found with
    | some found =>
      exact hSound.remove
          { serial := target.serial, record_id := target.record_id,
            found := some found } rfl hPolled hOwn
    | none =>
      apply hSound.rewrite
      · intro current
        rfl
      · intro current
        rfl
      · intro ended hEnded
        rw [mem_singleton.mp hEnded]
        exact hPolled
      · intro current hCurrent
        rcases hOwn current hCurrent with hSame | hLater
        · right
          exact ⟨_, mem_singleton_self _, hSame.symm⟩
        · exact .inl hLater
  · intro other hOther
    exact hStem other (mem_cons_of_mem _ hOther)
  · exact ⟨[], (append_nil _).symm⟩

/- The step lemma. -/
theorem stepKept (hSound : PollerSound st.shared) (hStem : job.Stem st.shared)
    (hOwn : EndsOwn st draw job) : StepKept env draw st.shared job := by
  cases job with
  | enqueueRead request =>
    apply stepKept_same hSound rfl
    intro target hTarget
    have hHolds : (enqueueRead env draw request).holds = [] := by
      unfold enqueueRead
      repeat' split
      all_goals rfl
    have hMem : target ∈ (enqueueRead env draw request).holds := hTarget
    rw [hHolds] at hMem
    cases hMem
  | enqueuePut target immediate =>
    constructor
    · exact hSound.put _ rfl
    · intro other hOther
      cases hOther
    · exact ⟨_, rfl⟩
  | loop =>
    cases hStopped : draw.stopped with
    | true =>
      apply stepKept_same hSound
      · simp only [PollerJob.advance, hStopped, if_true]
      · simp only [PollerJob.advance, hStopped, if_true]
        intro other hOther
        cases hOther
    | false =>
      apply stepKept_same hSound
      · simp only [PollerJob.advance, hStopped, Bool.false_eq_true, if_false]
      · simp only [PollerJob.advance, hStopped, Bool.false_eq_true, if_false]
        intro other hOther
        exact hSound.rows other (mem_of_mem_filter hOther)
  | polling due =>
    cases due with
    | nil =>
      apply stepKept_same hSound rfl
      intro other hOther
      cases hOther
    | cons target due => exact stepKept_polling hSound hStem
  | ending target found due => exact stepKept_ending hSound hStem hOwn
  | finished =>
    apply stepKept_same hSound rfl
    intro other hOther
    cases hOther

def plainEnv : Env where
  lower := id
  sha256 := id

def submittedCard (status : Status) : Row where
  id := 1
  code_hash := "c"
  status := status
  order_id := "c::o-1"

def enqueuedAt (i now : Nat) (immediate : Bool) :
    List PollerOp :=
  [.arrive (.enqueue { record_id := 1, immediate := immediate }),
    .advance i { now := now, record := some (submittedCard .submitted) }, .advance i {}]

/- The loop takes the target of the card and polls it. -/
def polledInto (status : Status) : List PollerOp := .arrive .start :: enqueuedAt 1 0 true ++
    [.advance 0 { now := 1 }, .advance 0
        { now := 1, record := some (submittedCard .submitted),
          updated := some (submittedCard status) }]

end BaxiGptCdk
