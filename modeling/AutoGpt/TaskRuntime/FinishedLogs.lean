import AutoGpt.TaskRuntime.LogWindow

/-
  The logs of a finished task. `finish` trims them to the
  finished limits, and a late `append_log` trims with the
  active ones, so it keeps the bound when what the active
  limits leave of the log fits the finished limits too.

  Main theorems: `trim_logs_longest`, `append_log_fits_iff`, `finished_bound_iff`
-/

open List
open Machine

----
-- Bounds
----

namespace TaskRuntime

/- The entries are at most so many, with so many bytes. -/
def Fits (max_entries max_bytes : Int) (logs : List String) :
    Prop :=
  (logs.length : Int) ≤ max_entries ∧ log_bytes logs ≤ max_bytes

instance (max_entries max_bytes : Int) (logs : List String) :
    Decidable (Fits max_entries max_bytes logs) :=
  inferInstanceAs (Decidable (_ ∧ _))

def LogLimits.FitsActive (limits : LogLimits) (logs : List String) : Prop :=
  Fits limits.active_max_log_entries limits.active_max_log_bytes logs

def LogLimits.FitsFinished (limits : LogLimits) (logs : List String) : Prop :=
  Fits limits.finished_max_log_entries limits.finished_max_log_bytes logs

/- The record when the last section of `finish` has run. -/
def finishedRecord (limits : LogLimits) (ops : List LogOp) :
    LogRecord :=
  Machine.run (logStep limits) {} (ops ++ [.compact])

def afterLate (limits : LogLimits) (record : LogRecord) (late : List String) : LogRecord :=
  Machine.run (logStep limits) record (late.map LogOp.append_log)

/- The end of the log with the new entry that fits the active limits fits the finished limits as
   well. -/
def KeepsBound (limits : LogLimits) (record : LogRecord) : LogOp → Prop
| .append_log entry =>
    ∀ kept, kept <:+ record.logs ++ [entry] → limits.FitsActive kept → limits.FitsFinished kept
| _ => True

----
-- The Longest End That Fits
----

theorem log_bytes_suffix (hSuffix : kept <:+ logs) : log_bytes kept ≤ log_bytes logs := by
  rcases hSuffix with ⟨front, rfl⟩
  have hFront := log_bytes_nonneg front
  rw [log_bytes_append]
  omega

theorem Fits.suffix (hFits : Fits max_entries max_bytes logs) (hSuffix : kept <:+ logs) :
    Fits max_entries max_bytes kept := by
  have hLength := hSuffix.length_le
  have hBytes := log_bytes_suffix hSuffix
  have hEntries := hFits.1
  constructor
  · omega
  · exact Int.le_trans hBytes hFits.2

theorem trim_logs_longest (logs : List String) (hLogs : record.logs = logs)
    (hRefines : Refines record w) (hSuffix : kept <:+ logs)
    (hFits : Fits max_entries max_bytes kept) :
    kept <:+ (trim_logs (max 0) max_entries max_bytes logs record).logs := by
  induction logs generalizing record w with
  | nil =>
    rw [trim_logs, hLogs]
    exact hSuffix
  | cons dropped rest ih =>
    unfold trim_logs
    split
    next hOver =>
      rcases hRefines.drop_oldest hLogs with ⟨hBound, hNext⟩
      apply ih rfl hNext
      rcases suffix_cons_iff.mp hSuffix with hWhole | hRest
      · -- The whole log is over a limit.
        have hBytes : record.retained_log_bytes = log_bytes (dropped :: rest) := by
          rw [hRefines.sound.retained, hLogs]
        rw [hWhole] at hFits
        rcases hOver with hMany | hLarge
        · exact absurd hFits.1 (Int.not_le.mpr hMany)
        · rw [hBytes] at hLarge
          exact absurd hFits.2 (Int.not_le.mpr hLarge)
      · exact hRest
    · rw [hLogs]
      exact hSuffix

theorem trim_logs_suffix (clamp : Int → Int) (logs : List String) (hLogs : record.logs = logs) :
    (trim_logs clamp max_entries max_bytes logs record).logs <:+ logs := by
  induction logs generalizing record with
  | nil => rw [trim_logs, hLogs]
  | cons dropped rest ih =>
    unfold trim_logs
    split
    · exact (ih rfl).trans (suffix_cons dropped rest)
    · rw [hLogs]

theorem Trimmed.fits (hTrimmed : Trimmed max_entries max_bytes w record w') :
    Fits max_entries max_bytes record.logs := by
  have hRetained := hTrimmed.refines.sound.retained
  rcases hTrimmed.within with ⟨hLength, hBytes⟩
  rw [hRetained] at hBytes
  exact ⟨hLength, hBytes⟩

/- One late entry keeps the bound exactly when what the active
   limits can leave fits the finished ones. -/
theorem append_log_fits_iff (hLimits : limits.Positive) (hRefines : Refines record w)
    (entry : String) :
    limits.FitsFinished (append_log (max 0) limits entry record).logs ↔
      KeepsBound limits record (.append_log entry) := by
  rcases append_log_spec hLimits hRefines entry with ⟨w', hTrimmed⟩
  constructor
  · intro hFits kept hSuffix hActive
    exact Fits.suffix hFits (trim_logs_longest _ rfl (hRefines.push entry) hSuffix hActive)
  · intro hKeeps
    exact hKeeps _ (trim_logs_suffix _ _ rfl) hTrimmed.fits

theorem finishedRecord_fits (hLimits : limits.Positive) (ops : List LogOp)
    (hFinish : 0 < (Machine.run (logStep limits) {} ops).compacting) :
    limits.FitsFinished (finishedRecord limits ops).logs := by
  rcases exists_window hLimits ops with ⟨w, hRefines, -⟩
  unfold finishedRecord
  rw [run_append]
  generalize Machine.run (logStep limits) {} ops = record at hFinish hRefines
  have hSame : Refines
        { record with compacting := record.compacting - 1 }
        w :=
    hRefines.other rfl rfl rfl rfl
  rcases trim_logs_spec hLimits.finished_entries
      hLimits.finished_bytes _ rfl hSame with ⟨w', hTrimmed⟩
  have hCompacted : Machine.run (logStep limits) record [.compact] = trim_record_logs (max 0)
          limits.finished_max_log_entries limits.finished_max_log_bytes
          { record with compacting := record.compacting - 1 } := if_neg (Nat.ne_of_gt hFinish)
  rw [hCompacted]
  exact hTrimmed.fits

----
-- Late Entries
----

theorem late_bound_iff (hLimits : limits.Positive) (hRefines : Refines record w)
    (hStart : limits.FitsFinished record.logs) (late : List String) :
    (∀ early, early <+: late → limits.FitsFinished (afterLate limits record early).logs) ↔
      Machine.Steps (logStep limits) (KeepsBound limits) record (late.map LogOp.append_log) := by
  induction late generalizing record w with
  | nil =>
    constructor
    · intro _
      trivial
    · intro _ early hEarly
      rw [prefix_nil.mp hEarly]
      exact hStart
  | cons entry late ih =>
    rcases append_log_spec hLimits hRefines entry with ⟨w', hTrimmed⟩
    have hStep := append_log_fits_iff hLimits hRefines entry
    constructor
    · intro hAll
      have hFirst : limits.FitsFinished (append_log (max 0) limits entry record).logs :=
        hAll [entry] (prefix_append [entry] late)
      refine ⟨hStep.mp hFirst, ?_⟩
      apply (ih hTrimmed.refines hFirst).mp
      intro early hEarly
      exact hAll (entry :: early) (prefix_cons_inj entry |>.mpr hEarly)
    · rintro ⟨hKeeps, hRest⟩ early hEarly
      rcases prefix_cons_iff.mp hEarly with hNone | ⟨front, hFront, hPrefix⟩
      · rw [hNone]
        exact hStart
      · rw [hFront]
        exact (ih hTrimmed.refines (hStep.mpr hKeeps)).mpr hRest front hPrefix

/- After a finished `finish`, every late entry keeps the bound exactly when every append of the run
   leaves a log that fits the finished limits as soon as it fits the active ones. -/
theorem finished_bound_iff (active_entries active_bytes : Int)
    (finished_entries finished_bytes : Int) (limits : LogLimits)
    (hInit : limits = LogLimits.init active_entries active_bytes finished_entries finished_bytes)
    (ops : List LogOp) (hFinish : 0 < (Machine.run (logStep limits) {} ops).compacting)
    (late : List String) :
    (∀ early, early <+: late →
        limits.FitsFinished (afterLate limits (finishedRecord limits ops) early).logs) ↔
      Machine.Steps (logStep limits) (KeepsBound limits) (finishedRecord limits ops)
        (late.map LogOp.append_log) := by
  have hLimits : limits.Positive := by
    rw [hInit]
    exact init_positive _ _ _ _
  rcases exists_window hLimits (ops ++ [.compact]) with ⟨w, hRefines, -⟩
  exact late_bound_iff hLimits hRefines (finishedRecord_fits hLimits ops hFinish) late

/- Two entries for a finished task, more for an active one. -/
def smallLimits : LogLimits := LogLimits.init 10 1024 2 1024

def loggedTask : List LogOp := [.append_log "a", .append_log "b", .finish
      { status := "done", respect_immediate_stop := false, stop_after_current_requested := false,
        stop_requested := false }]

/- A third entry comes late. -/
theorem finished_bound_iff_late_entry :
    (∀ early, early <+: ["c"] → smallLimits.FitsFinished (afterLate smallLimits
            (finishedRecord smallLimits loggedTask) early).logs) ↔
      Machine.Steps (logStep smallLimits) (KeepsBound smallLimits)
        (finishedRecord smallLimits loggedTask) [LogOp.append_log "c"] :=
  finished_bound_iff 10 1024 2 1024 smallLimits rfl loggedTask (by decide) ["c"]

/- The late entry is kept as a third one. -/
theorem late_entry_over_bound :
    0 < (Machine.run (logStep smallLimits) {} loggedTask).compacting ∧ ¬ smallLimits.FitsFinished
          (afterLate smallLimits (finishedRecord smallLimits loggedTask) ["c"]).logs := by
  refine ⟨by decide, ?_⟩
  intro hFits
  have hLength : (afterLate smallLimits
          (finishedRecord smallLimits loggedTask)
          ["c"]).logs.length = 3 := by
    decide
  have hBound := hFits.1
  rw [hLength] at hBound
  exact absurd hBound (by decide)

end TaskRuntime
