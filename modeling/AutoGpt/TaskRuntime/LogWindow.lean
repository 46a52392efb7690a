import AutoGpt.Library.Machine
import Mathlib

/-
  The log window of a task record in `core/task_runtime.py`:
  entries are appended, the oldest ones are dropped when a
  limit is passed, and streaming clients address an entry by
  its absolute index.

  The record refines an abstract window: all entries that
  were ever appended, and where the retained ones start.

  Main theorems: `refines_step`, `log_window_sound`
-/

open List
open Machine

----
-- Task Records
----

namespace TaskRuntime

/- `_log_entry_bytes(entry)`. -/
def log_entry_bytes (entry : String) : Int := entry.utf8ByteSize

def log_bytes (entries : List String) : Int := (entries.map log_entry_bytes).sum

/- The limits of a `RegisterTaskStore`. -/
structure LogLimits where
  active_max_log_entries : Int
  active_max_log_bytes : Int
  finished_max_log_entries : Int
  finished_max_log_bytes : Int

/- `max(1, int(value or 1))`. -/
def atLeastOne (value : Int) : Int := max 1 (if value = 0 then 1 else value)

/- The limits as the constructor of the store sets them. -/
def LogLimits.init (active_entries active_bytes : Int)
    (finished_entries finished_bytes : Int) : LogLimits where
  active_max_log_entries := atLeastOne active_entries
  active_max_log_bytes := atLeastOne active_bytes
  finished_max_log_entries := atLeastOne finished_entries
  finished_max_log_bytes := atLeastOne finished_bytes

/- What a `RegisterTaskRecord` says of its logs; `compacting` counts the calls of `finish` that are
   between their two locked sections. -/
structure LogRecord where
  status : String := "pending"
  logs : List String := []
  logs_truncated : Bool := false
  dropped_log_entries : Nat := 0
  dropped_log_bytes : Int := 0
  retained_log_bytes : Int := 0
  compacting : Nat := 0

/- `TERMINAL_TASK_STATUSES`. -/
def terminal_task_statuses : List String := ["done", "failed", "stopped", "partial", "interrupted"]

/- One round of the loop of `_trim_record_logs`; the source clamps the retained bytes by `max(0,
   ...)`. -/
def drop_oldest (clamp : Int → Int) (dropped : String) (rest : List String)
    (record : LogRecord) : LogRecord :=
  { record with
    logs := rest,
    retained_log_bytes := clamp (record.retained_log_bytes - log_entry_bytes dropped),
    logs_truncated := true, dropped_log_entries := record.dropped_log_entries + 1,
    dropped_log_bytes := record.dropped_log_bytes + log_entry_bytes dropped }

/- The loop of `_trim_record_logs` over the logs. -/
def trim_logs (clamp : Int → Int) (max_entries max_bytes : Int) :
    List String → LogRecord → LogRecord
| [], record => record
| dropped :: rest, record =>
    if ((dropped :: rest).length : Int) > max_entries ∨ record.retained_log_bytes > max_bytes then
      trim_logs clamp max_entries max_bytes rest (drop_oldest clamp dropped rest record)
    else record

/- `_trim_record_logs`, with the clamp as a parameter. -/
def trim_record_logs (clamp : Int → Int) (max_entries max_bytes : Int)
    (record : LogRecord) : LogRecord :=
  trim_logs clamp max_entries max_bytes record.logs record

/- `append_log(task_id, entry)`. -/
def append_log (clamp : Int → Int) (limits : LogLimits) (entry : String)
    (record : LogRecord) : LogRecord :=
  trim_record_logs clamp limits.active_max_log_entries
    limits.active_max_log_bytes
    { record with
      logs := record.logs ++ [entry],
      retained_log_bytes := record.retained_log_bytes + log_entry_bytes entry }

/- What `finish` reads of its arguments and of the control. -/
structure FinishCall where
  status : String
  respect_immediate_stop : Bool
  stop_after_current_requested : Bool
  stop_requested : Bool

def FinishCall.final_status (call : FinishCall) : String :=
  if (call.stop_after_current_requested ∨ (call.respect_immediate_stop ∧ call.stop_requested)) ∧
      (call.status = "done" ∨ call.status = "failed") then
    "stopped"
  else call.status

/- `finish(task_id, ...)` up to its callback. -/
def finish (call : FinishCall) (record : LogRecord) : LogRecord :=
  { record with
    status := call.final_status
    compacting :=
      if call.final_status ∈ terminal_task_statuses then record.compacting + 1
      else record.compacting }

/- The end of a `finish` with a terminal status. -/
def compact (clamp : Int → Int) (limits : LogLimits) (record : LogRecord) : LogRecord :=
  if record.compacting = 0 then record
  else
    trim_record_logs clamp limits.finished_max_log_entries limits.finished_max_log_bytes
      { record with compacting := record.compacting - 1 }

/- `log_window_state(task_id)`. -/
def log_window_state (record : LogRecord) : List String × String × Nat × Nat :=
  (record.logs, record.status, record.dropped_log_entries,
    record.dropped_log_entries + record.logs.length)

inductive LogOp where
| mark_running
| append_log (entry : String)
| finish (call : FinishCall)
| compact

def logStepWith (clamp : Int → Int) (limits : LogLimits)
    (record : LogRecord) : LogOp → LogRecord × Unit
| .mark_running => ({ record with status := "running" }, ())
| .append_log entry => (TaskRuntime.append_log clamp limits entry record, ())
| .finish call => (TaskRuntime.finish call record, ())
| .compact => (TaskRuntime.compact clamp limits record, ())

def logStep (limits : LogLimits) :
    LogRecord → LogOp → LogRecord × Unit :=
  logStepWith (max 0) limits

/- The entries that the sections append. -/
def appended (ops : List LogOp) : List String := ops.filterMap fun op =>
    match op with
    | .append_log entry => some entry
    | _ => none

----
-- The Abstract Window
----

/- All entries of a log, and where its window starts. -/
structure Window where
  entries : List String
  start : Nat
  bounded : start ≤ entries.length

namespace Window

def empty : Window := ⟨[], 0, Nat.le_refl 0⟩

def visible (w : Window) : List String := w.entries.drop w.start

def hidden (w : Window) : List String := w.entries.take w.start

def push (w : Window) (entry : String) : Window where
  entries := w.entries ++ [entry]
  start := w.start
  bounded := by
    rw [length_append]
    exact Nat.le_add_right_of_le w.bounded

/- The window moves on by one entry, if it has one. -/
def advance (w : Window) (h : w.start < w.entries.length) :
    Window where
  entries := w.entries
  start := w.start + 1
  bounded := h

/- The visible entry at an absolute index. -/
def entryAt (w : Window) (i : Nat) : Option String := if i < w.start then none else w.entries[i]?

end Window

/- The record shows the window and counts what it hides. -/
structure Refines (record : LogRecord) (w : Window) :
    Prop where
  logs : record.logs = w.visible
  dropped_entries : record.dropped_log_entries = w.start
  dropped_bytes : record.dropped_log_bytes = log_bytes w.hidden
  retained_bytes : record.retained_log_bytes = log_bytes w.visible

----
-- Dropping The Oldest Entries
----

variable {w : Window}

theorem log_entry_bytes_nonneg (entry : String) : 0 ≤ log_entry_bytes entry := Int.natCast_nonneg _

theorem log_bytes_nonneg (entries : List String) : 0 ≤ log_bytes entries := by
  induction entries with
  | nil => exact Int.le_refl 0
  | cons entry entries ih =>
    have hEntry := log_entry_bytes_nonneg entry
    unfold log_bytes at ih ⊢
    rw [map_cons, sum_cons]
    omega

theorem log_bytes_cons (entry : String) (rest : List String) :
    log_bytes (entry :: rest) = log_entry_bytes entry + log_bytes rest := by
  unfold log_bytes
  rw [map_cons, sum_cons]

theorem log_bytes_singleton (entry : String) : log_bytes [entry] = log_entry_bytes entry :=
  (log_bytes_cons entry []).trans (Int.add_zero _)

theorem log_bytes_append (first second : List String) :
    log_bytes (first ++ second) = log_bytes first + log_bytes second := by
  unfold log_bytes
  rw [map_append, sum_append]

theorem Window.advance_visible (hVisible : w.visible = dropped :: rest) :
    ∃ h, (w.advance h).visible = rest ∧ (w.advance h).hidden = w.hidden ++ [dropped] := by
  have hBound : w.start < w.entries.length := by
    have hLength := congrArg List.length hVisible
    unfold visible at hLength
    rw [length_drop, length_cons] at hLength
    omega
  unfold visible at hVisible
  rw [drop_eq_getElem_cons hBound] at hVisible
  have hParts := cons.inj hVisible
  refine ⟨hBound, hParts.2, ?_⟩
  unfold hidden advance
  rw [take_succ_eq_append_getElem hBound, hParts.1]

theorem Refines.drop_oldest (hRefines : Refines record w) (hLogs : record.logs = dropped :: rest) :
    ∃ h, Refines (drop_oldest (max 0) dropped rest record) (w.advance h) := by
  have hVisible : w.visible = dropped :: rest := hRefines.logs.symm.trans hLogs
  rcases Window.advance_visible hVisible with ⟨hBound, hRest, hHidden⟩
  have hBytes : record.retained_log_bytes - log_entry_bytes dropped = log_bytes rest := by
    rw [hRefines.retained_bytes, hVisible, log_bytes_cons]
    omega
  refine ⟨hBound, ?_, ?_, ?_, ?_⟩
  · exact hRest.symm
  · change record.dropped_log_entries + 1 = w.start + 1
    rw [hRefines.dropped_entries]
  · change
      record.dropped_log_bytes + log_entry_bytes dropped = _
    rw [hHidden, log_bytes_append, hRefines.dropped_bytes, log_bytes_singleton]
  · change
      max 0 (record.retained_log_bytes - log_entry_bytes dropped) = _
    rw [hRest, hBytes]
    exact Int.max_eq_right (log_bytes_nonneg rest)

theorem Refines.drop_unclamped (hRefines : Refines record w)
    (hLogs : record.logs = dropped :: rest) :
    TaskRuntime.drop_oldest (max 0) dropped rest record =
      TaskRuntime.drop_oldest id dropped rest record := by
  have hBytes : record.retained_log_bytes - log_entry_bytes dropped = log_bytes rest := by
    rw [hRefines.retained_bytes, ← hRefines.logs, hLogs, log_bytes_cons]
    omega
  unfold TaskRuntime.drop_oldest
  rw [hBytes, id_eq, Int.max_eq_right (log_bytes_nonneg rest)]

/- The limits of the store hold of the record. -/
def Within (max_entries max_bytes : Int) (record : LogRecord) :
    Prop :=
  (record.logs.length : Int) ≤ max_entries ∧ record.retained_log_bytes ≤ max_bytes

/- What the loop makes of a record that shows a window. -/
structure Trimmed (max_entries max_bytes : Int)
    (w : Window) (record : LogRecord) (w' : Window) : Prop where
  refines : Refines record w'
  entries : w'.entries = w.entries
  start : w.start ≤ w'.start
  within : Within max_entries max_bytes record

theorem trim_logs_spec (hEntries : 0 ≤ max_entries) (hBytes : 0 ≤ max_bytes) (logs : List String)
    (hLogs : record.logs = logs) (hRefines : Refines record w) :
    ∃ w', Trimmed max_entries max_bytes w
      (trim_logs (max 0) max_entries max_bytes logs record)
      w' := by
  induction logs generalizing record w with
  | nil =>
    refine ⟨w, hRefines, rfl, le_rfl, ?_, ?_⟩
    · unfold trim_logs
      rw [hLogs]
      exact hEntries
    · unfold trim_logs
      rw [hRefines.retained_bytes, ← hRefines.logs, hLogs]
      exact hBytes
  | cons dropped rest ih =>
    unfold trim_logs
    split
    · rcases hRefines.drop_oldest hLogs with ⟨hBound, hNext⟩
      rcases ih rfl hNext with ⟨w', hTrimmed⟩
      refine ⟨w', hTrimmed.refines, hTrimmed.entries, ?_, hTrimmed.within⟩
      exact Nat.le_of_succ_le hTrimmed.start
    next hLimits =>
      rcases not_or.mp hLimits with ⟨hLength, hRetained⟩
      refine ⟨w, hRefines, rfl, le_rfl, ?_, Int.not_lt.mp hRetained⟩
      rw [hLogs]
      exact Int.not_lt.mp hLength

theorem trim_logs_unclamped (logs : List String) (hLogs : record.logs = logs)
    (hRefines : Refines record w) :
    trim_logs (max 0) max_entries max_bytes logs record =
      trim_logs id max_entries max_bytes logs record := by
  induction logs generalizing record w with
  | nil => rfl
  | cons dropped rest ih =>
    unfold trim_logs
    split
    · rcases hRefines.drop_oldest hLogs with ⟨hBound, hNext⟩
      rw [ih rfl hNext, hRefines.drop_unclamped hLogs]
    · rfl

----
-- Sequences Of Sections
----

structure LogLimits.Positive (limits : LogLimits) : Prop where
  active_entries : 0 ≤ limits.active_max_log_entries
  active_bytes : 0 ≤ limits.active_max_log_bytes
  finished_entries : 0 ≤ limits.finished_max_log_entries
  finished_bytes : 0 ≤ limits.finished_max_log_bytes

theorem init_positive (a b c d : Int) : (LogLimits.init a b c d).Positive := by
  have hOne : ∀ value, 0 ≤ atLeastOne value := by
    intro value
    unfold atLeastOne
    omega
  exact ⟨hOne a, hOne b, hOne c, hOne d⟩

theorem Refines.push (hRefines : Refines record w) (entry : String) :
    Refines
      { record with
        logs := record.logs ++ [entry],
        retained_log_bytes := record.retained_log_bytes + log_entry_bytes entry }
      (w.push entry) := by
  have hVisible : (w.push entry).visible = w.visible ++ [entry] :=
    drop_append_of_le_length w.bounded
  have hHidden : (w.push entry).hidden = w.hidden := take_append_of_le_length w.bounded
  constructor
  · rw [hVisible, hRefines.logs]
  · exact hRefines.dropped_entries
  · rw [hHidden]
    exact hRefines.dropped_bytes
  · rw [hVisible, log_bytes_append, log_bytes_singleton, hRefines.retained_bytes]

theorem Refines.other (hRefines : Refines record w) (hLogs : record'.logs = record.logs)
    (hDropped : record'.dropped_log_entries = record.dropped_log_entries)
    (hBytes : record'.dropped_log_bytes = record.dropped_log_bytes)
    (hRetained : record'.retained_log_bytes = record.retained_log_bytes) : Refines record' w :=
  ⟨hLogs.trans hRefines.logs, hDropped.trans hRefines.dropped_entries,
    hBytes.trans hRefines.dropped_bytes, hRetained.trans hRefines.retained_bytes⟩

theorem append_log_spec (hLimits : limits.Positive) (hRefines : Refines record w) (entry : String) :
    ∃ w', Trimmed limits.active_max_log_entries limits.active_max_log_bytes (w.push entry)
      (append_log (max 0) limits entry record) w' :=
  trim_logs_spec hLimits.active_entries hLimits.active_bytes _
    rfl (hRefines.push entry)

theorem refines_step (hLimits : limits.Positive) (hRefines : Refines record w) (op : LogOp) :
    ∃ w', Refines (logStep limits record op).1 w' ∧ w'.entries = w.entries ++ appended [op] ∧
      w.start ≤ w'.start := by
  cases op with
  | mark_running =>
    refine ⟨w, hRefines.other rfl rfl rfl rfl, ?_, ?_⟩
    · exact (append_nil _).symm
    · exact le_rfl
  | append_log entry =>
    rcases append_log_spec hLimits hRefines entry with ⟨w', hTrimmed⟩
    exact ⟨w', hTrimmed.refines, hTrimmed.entries, hTrimmed.start⟩
  | finish call =>
    refine ⟨w, hRefines.other rfl rfl rfl rfl, ?_, ?_⟩
    · exact (append_nil _).symm
    · exact le_rfl
  | compact =>
    unfold logStep logStepWith compact
    dsimp only
    split
    · refine ⟨w, hRefines, ?_, le_rfl⟩
      exact (append_nil _).symm
    · have hSame : Refines
            { record with compacting := record.compacting - 1 } w :=
        hRefines.other rfl rfl rfl rfl
      rcases trim_logs_spec hLimits.finished_entries
          hLimits.finished_bytes _ rfl hSame with
        ⟨w', hTrimmed⟩
      refine ⟨w', hTrimmed.refines, ?_, hTrimmed.start⟩
      exact hTrimmed.entries.trans (append_nil _).symm

theorem step_unclamped (hRefines : Refines record w) (op : LogOp) :
    (logStep limits record op).1 = (logStepWith id limits record op).1 := by
  cases op with
  | mark_running => rfl
  | append_log entry => exact trim_logs_unclamped _ rfl (hRefines.push entry)
  | finish call => rfl
  | compact =>
    unfold logStep logStepWith compact
    dsimp only
    split
    · rfl
    · have hSame : Refines
            { record with compacting := record.compacting - 1 } w :=
        hRefines.other rfl rfl rfl rfl
      exact trim_logs_unclamped _ rfl hSame

theorem refines_run (hLimits : limits.Positive) (hRefines : Refines record w) (ops : List LogOp) :
    ∃ w', Refines (Machine.run (logStep limits) record ops) w' ∧
      w'.entries = w.entries ++ appended ops ∧ w.start ≤ w'.start := by
  induction ops generalizing record w with
  | nil => exact ⟨w, hRefines, (append_nil _).symm, le_rfl⟩
  | cons op ops ih =>
    rcases refines_step hLimits hRefines op with ⟨middle, hMiddle, hEntries, hStart⟩
    rcases ih hMiddle with ⟨w', hEnd, hRest, hLater⟩
    refine ⟨w', hEnd, ?_, Nat.le_trans hStart hLater⟩
    have hSplit : appended (op :: ops) = appended [op] ++ appended ops :=
      @List.filterMap_append _ _ [op] ops _
    rw [hRest, hEntries, hSplit, append_assoc]

theorem run_unclamped (hLimits : limits.Positive) (hRefines : Refines record w) (ops : List LogOp) :
    Machine.run (logStep limits) record ops = Machine.run (logStepWith id limits) record ops := by
  induction ops generalizing record w with
  | nil => rfl
  | cons op ops ih =>
    rcases refines_step hLimits hRefines op with ⟨middle, hMiddle, -, -⟩
    rw [run_cons, run_cons, ih hMiddle, step_unclamped hRefines op]

theorem refines_new : Refines {} Window.empty := ⟨rfl, rfl, rfl, rfl⟩

theorem exists_window (hLimits : limits.Positive) (ops : List LogOp) :
    ∃ w, Refines (Machine.run (logStep limits) {} ops) w ∧ w.entries = appended ops := by
  rcases refines_run hLimits refines_new ops with ⟨w, hRefines, hEntries, -⟩
  exact ⟨w, hRefines, hEntries⟩

----
-- The Log Window
----

/- The entry that a client finds at an absolute index, which it computes from `log_window_state`. -/
def entry_at_index (record : LogRecord) (i : Nat) : Option String :=
  let state := log_window_state record
  if state.2.2.1 ≤ i ∧ i < state.2.2.2 then state.1[i - state.2.2.1]?
  else none

/- What the record says of the appended entries is right. -/
structure LogSound (entries : List String) (record : LogRecord) : Prop where
  suffix : record.logs <:+ entries
  counted : record.dropped_log_entries + record.logs.length = entries.length
  bytes : record.dropped_log_bytes + record.retained_log_bytes = log_bytes entries
  retained : record.retained_log_bytes = log_bytes record.logs

theorem Refines.sound (hRefines : Refines record w) : LogSound w.entries record := by
  have hLength := w.bounded
  constructor
  · rw [hRefines.logs]
    exact drop_suffix _ _
  · rw [hRefines.logs, hRefines.dropped_entries]
    unfold Window.visible
    rw [length_drop]
    omega
  · rw [hRefines.dropped_bytes, hRefines.retained_bytes, ← log_bytes_append]
    exact congrArg log_bytes (take_append_drop w.start _)
  · rw [hRefines.retained_bytes, hRefines.logs]

theorem Refines.entry_at_index (hRefines : Refines record w) (i : Nat) :
    TaskRuntime.entry_at_index record i = w.entryAt i := by
  have hCounted := hRefines.sound.counted
  have hStart := hRefines.dropped_entries
  unfold TaskRuntime.entry_at_index Window.entryAt
  unfold log_window_state
  dsimp only
  by_cases hBefore : i < w.start
  · rw [if_pos hBefore, if_neg (by omega)]
  · rw [if_neg hBefore]
    by_cases hAfter : i < w.entries.length
    · rw [if_pos (by omega), hRefines.logs, hStart]
      unfold Window.visible
      rw [getElem?_drop]
      congr 1
      omega
    · rw [if_neg (by omega)]
      exact (getElem?_eq_none (Nat.le_of_not_lt hAfter)).symm

/- Any sequence of sections on a new record: the counters and the suffix are right, the clamp has no
   effect, the active limits hold after an append, and an absolute index denotes one entry for ever.
   -/
structure LogWindowSound (limits : LogLimits) : Prop where
  sound : ∀ ops, LogSound (appended ops) (Machine.run (logStep limits) {} ops)
  unclamped :
    ∀ ops, Machine.run (logStep limits) {} ops = Machine.run (logStepWith id limits) {} ops
  bounded : ∀ ops entry, Within limits.active_max_log_entries limits.active_max_log_bytes
        (Machine.run (logStep limits) {} (ops ++ [.append_log entry]))
  stable : ∀ ops later i entry entry',
      entry_at_index (Machine.run (logStep limits) {} ops) i = some entry →
      entry_at_index (Machine.run (logStep limits) {} (ops ++ later)) i = some entry' →
      entry' = entry

/- The log window with any limits. -/
theorem log_window_sound (active_entries active_bytes : Int)
    (finished_entries finished_bytes : Int) :
    LogWindowSound
      (LogLimits.init active_entries active_bytes finished_entries finished_bytes) := by
  have hLimits :
      (LogLimits.init active_entries active_bytes finished_entries finished_bytes).Positive :=
    init_positive _ _ _ _
  generalize
    LogLimits.init active_entries active_bytes finished_entries finished_bytes = limits at hLimits ⊢
  constructor
  · intro ops
    rcases exists_window hLimits ops with ⟨w, hRefines, hAll⟩
    rw [← hAll]
    exact hRefines.sound
  · exact run_unclamped hLimits refines_new
  · intro ops entry
    rcases exists_window hLimits ops with ⟨w, hRefines, -⟩
    rcases append_log_spec hLimits hRefines entry with ⟨w', hTrimmed⟩
    have hLast : Machine.run (logStep limits) {} (ops ++ [.append_log entry]) =
          append_log (max 0) limits entry (Machine.run (logStep limits) {} ops) :=
      run_append _ _ _
    rw [hLast]
    exact hTrimmed.within
  · intro ops later i entry entry' hThen hNow
    rcases exists_window hLimits ops with ⟨w, hRefines, hAll⟩
    rcases refines_run hLimits hRefines later with ⟨w', hRefines', hEntries, -⟩
    rw [hRefines.entry_at_index] at hThen
    rw [run_append, hRefines'.entry_at_index] at hNow
    unfold Window.entryAt at hThen hNow
    split at hThen
    · cases hThen
    · split at hNow
      · cases hNow
      · rw [hEntries, List.getElem?_append_left (List.getElem?_eq_some_iff.mp hThen).1,
          hThen] at hNow
        exact (Option.some.inj hNow).symm

end TaskRuntime
