import AutoGpt.EmailChange.Commit

/-
  What the row says of a change when a run of it has ended
  with an exception. The handlers decide from a variable of
  the run; here the times of the row are compared with it
  at every step.

  Main theorem: `EmailChange.recorded_outcome`
-/

open Machine (Steps steps_append)

----
-- Runs That End With An Exception
----

namespace EmailChange

/- A change that may have happened is recorded as one that can
   be resumed, and is not taken for a failed one. -/
structure ChangeRow.settled (row : ChangeRow) : Prop where
  failed : row.status = .failed → row.verify_submitted_at = none ∧ row.remote_changed_at = none
  resumable : row.verify_submitted_at.isSome ∨ row.remote_changed_at.isSome →
      row.status = .halfDone ∧ row.resumable

def Draw.raised (draw : Draw) : Bool := draw.ending = .interrupted || draw.ending = .failed

/- With this step the run ends with an exception. -/
def Job.endsRaising (env : Env) (draw : Draw) (w : World) (job : Job) : Bool :=
  job.pc.handles && decide (draw.ending ≠ .killed) && ((job.after env draw w).filter ongoing).isNone

/- An operation, or a run whose `_load_row` raises. -/
inductive Turn where
| op (op : Op)
| loadFails

/- One turn; the answer is whether a run has ended with an exception. -/
def turn (env : Env) (s : State) : Turn → State × Bool
| .op op =>
    ((step env s op).1,
      match op, s.current with
      | .step draw, some job => job.endsRaising env draw s.world
      | _, _ => false)
| .loadFails => (s, s.current.isNone)

/- An update raises, and leaves the row past the boundary for handlers that do not know of it: the
   mark of the request was written, the mark of a rejected request was not cleared, or the handler
   itself has written nothing. -/
def Job.misses (draw : Draw) (row : ChangeRow) (job : Job) : Bool := draw.raised &&
    match job.pc with
    | .update patch _ =>
      match patch.verify_submitted_at with
      | some (some _) => draw.took_place
      | some none => !draw.took_place
      | none => false
    | .closing _ _ => row.crossed && !draw.took_place
    | _ => false

/- No update of the turn misses; a row that cannot be loaded is settled already. -/
def Turn.clean (s : State) : Turn → Prop
| .op (.step draw) => ∀ job ∈ s.current, job.misses draw s.world.row = false
| .op _ => True
| .loadFails => s.current = none → s.world.row.settled

instance (row : ChangeRow) : Decidable row.settled := decidable_of_iff
    ((row.status = .failed → row.verify_submitted_at = none ∧ row.remote_changed_at = none) ∧
      (row.verify_submitted_at.isSome ∨ row.remote_changed_at.isSome →
        row.status = .halfDone ∧ row.resumable))
    ⟨fun h => ⟨h.1, h.2⟩, fun h => ⟨h.failed, h.resumable⟩⟩

instance (s : State) : ∀ t : Turn, Decidable (t.clean s)
| .op (.step draw) =>
    inferInstanceAs (Decidable (∀ job ∈ s.current, job.misses draw s.world.row = false))
| .op (.start _) => .isTrue trivial
| .op (.edit _) => .isTrue trivial
| .op (.remove _) => .isTrue trivial
| .loadFails => inferInstanceAs (Decidable (s.current = none → s.world.row.settled))

theorem settled_of_crossed {row : ChangeRow}
    (hTold : row.crossed → row.status = .halfDone ∧ row.resumable) :
    row.settled where
  failed := by
    intro hFailed
    cases hCrossed : row.crossed with
    | true =>
      rw [(hTold hCrossed).1] at hFailed
      cases hFailed
    | false =>
      unfold ChangeRow.crossed at hCrossed
      rw [Bool.or_eq_false_iff] at hCrossed
      constructor
      · simpa using hCrossed.2
      · simpa using hCrossed.1
  resumable := by
    intro hSet
    apply hTold
    unfold ChangeRow.crossed
    rcases hSet with hSubmitted | hChanged
    · rw [hSubmitted, Bool.or_true]
    · rw [hChanged, Bool.true_or]

----
-- Handlers That Know Of The Boundary
----

/- A run past the boundary, at its request, or in a handler. -/
def Job.past (job : Job) : Prop := job.run.remote_changed ∨ job.pc = .verify ∨ job.pc.handles

/- The updates of a run: the change is recorded when the run knows of it, the mark of the request is
   written right before it, and handlers write neither. -/
def Pc.declares (remote_changed : Bool) : Pc → Prop
| .update patch next =>
    (patch.remote_changed_at ≠ none → remote_changed) ∧
      (∀ time, patch.verify_submitted_at = some (some time) → next = .verify) ∧
      next.handles = false ∧ next.declares remote_changed
| .closing patch next =>
    patch.remote_changed_at = none ∧ patch.verify_submitted_at = none ∧
      (next = .finished ∨ ∃ code, next = .recoveryRead code)
| _ => True

theorem recovered_handles (run : Run) : (run.recovered draw).pc.handles = false := by
  unfold Run.recovered
  cases run.row.committed_at <;>
    cases run.row.mailbox_finalized_at <;> rfl

----
-- What A Run Knows Of Its Row
----

/- The run knows that the change may have happened, or its handler has recorded it so. -/
def Job.told (row : ChangeRow) (job : Job) : Prop :=
  match job.pc with
  | .closing patch _ => patch.status = some .halfDone ∧ patch.resumable = some true
  | .recoveryRead _ | .recoveryWrite _ _ => row.status = .halfDone ∧ row.resumable
  | _ => job.run.remote_changed

def Pc.clears : Pc → Bool
| .update patch _ => patch.verify_submitted_at = some none
| _ => false

/- The times of the row against the variable of the run. -/
structure Knows (row : ChangeRow) (job : Job) : Prop where
  declares : job.pc.declares job.run.remote_changed
  changed : row.remote_changed_at.isSome → job.told row
  submitted :
    row.verify_submitted_at.isSome → job.told row ∨ job.pc = .verify ∨ job.pc.clears

variable {row : ChangeRow} {run run' : Run}
variable {job job' : Job}

theorem told_iff (job : Job) (hPc : job.pc.handles = false) :
    job.told row ↔ job.run.remote_changed := by
  rcases job with ⟨run, pc⟩
  cases pc <;> first | cases hPc; done | exact Iff.rfl

theorem past_of_told
    (hTold : job.told row) : job.past := by
  cases hPc : job.pc.handles with
  | true => exact .inr (.inr hPc)
  | false => exact .inl ((told_iff job hPc).mp hTold)

/- A run on a row past the boundary is past it, or has its request rejected. -/
theorem Knows.past (hKnows : Knows row job) (hCrossed : row.crossed) :
    job.past ∨ job.pc.clears := by
  unfold ChangeRow.crossed at hCrossed
  rw [Bool.or_eq_true] at hCrossed
  rcases hCrossed with hChanged | hSubmitted
  · exact .inl (past_of_told (hKnows.changed hChanged))
  · rcases hKnows.submitted hSubmitted with
      hTold | hVerify | hClears
    · exact .inl (past_of_told hTold)
    · exact .inl (.inr (.inl hVerify))
    · exact .inr hClears

theorem knows_of_changed (hPc : job.pc.handles = false)
    (hDeclares : job.pc.declares job.run.remote_changed)
    (hChanged : job.run.remote_changed) :
    Knows row job where
  declares := hDeclares
  changed _ := (told_iff job hPc).mpr hChanged
  submitted _ := .inl ((told_iff job hPc).mpr hChanged)

theorem knows_of_closes (error : ChangeError) (phase : Phase) (resumable crossed : Bool)
    (hRecords : row.crossed → crossed ∧ resumable) :
    Knows row (run.closed env error phase resumable crossed) := by
  have hTold : row.crossed → (run.closed env error phase resumable crossed).told row := by
    intro hCrossed
    rcases hRecords hCrossed with ⟨hChange, hResumes⟩
    subst hChange hResumes
    exact ⟨rfl, rfl⟩
  refine ⟨?_, ?_, ?_⟩
  · refine ⟨rfl, rfl, ?_⟩
    cases crossed with
    | true => exact .inr ⟨_, rfl⟩
    | false => exact .inl rfl
  · intro hChanged
    apply hTold
    unfold ChangeRow.crossed
    rw [hChanged, Bool.true_or]
  · intro hSubmitted
    apply Or.inl
    apply hTold
    unfold ChangeRow.crossed
    rw [hSubmitted, Bool.or_true]

theorem knows_onward (hKnows : Knows row ⟨run, pc⟩) (hPatch : (Job.mk run pc).patch = none)
    (hPc : pc.handles = false) (hPc' : pc'.handles = false) (hVerify : pc ≠ .verify)
    (hFlag : run.remote_changed → run'.remote_changed)
    (hDeclares : pc'.declares run'.remote_changed) : Knows row ⟨run', pc'⟩ := by
  have hTold : (Job.mk run pc).told row → (Job.mk run' pc').told row := by
    intro hBefore
    have hChanged := (told_iff ⟨run, pc⟩ hPc).mp hBefore
    exact (told_iff ⟨run', pc'⟩ hPc').mpr (hFlag hChanged)
  refine ⟨hDeclares, ?_, ?_⟩
  · intro hChanged
    exact hTold (hKnows.changed hChanged)
  · intro hSubmitted
    rcases hKnows.submitted hSubmitted with hBefore | hAt | hClears
    · exact .inl (hTold hBefore)
    · exact absurd hAt hVerify
    · cases pc with
      | update patch next => cases hPatch
      | _ => cases hClears

----
-- One Step
----

theorem handles_of_inLoop (run : Run) (hLoop : pc.inLoop) :
    pc.handles = false ∧ pc ≠ .verify ∧ (Job.mk run pc).patch = none := by
  cases pc with
  | openBrowser | sourceMe | eligibility | beginChange
  | waitOtp =>
    refine ⟨rfl, ?_, rfl⟩
    intro hVerify
    cases hVerify
  | _ => cases hLoop

theorem declares_update {patch : Patch} {next : Pc}
    (hChanged : patch.remote_changed_at = none) (hSubmitted : patch.verify_submitted_at = none)
    (hNext : next.handles = false) (hRest : next.declares remote_changed) :
    (Pc.update patch next).declares remote_changed := by
  refine ⟨?_, ?_, hNext, hRest⟩
  · intro hSome
    exact absurd hChanged hSome
  · intro time hTime
    rw [hSubmitted] at hTime
    cases hTime

theorem recovered_declares (run : Run) : (run.recovered draw).pc.declares remote_changed := by
  unfold Run.recovered
  cases run.row.committed_at with
  | none =>
    cases run.row.mailbox_finalized_at with
    | none => exact declares_update rfl rfl rfl (declares_update rfl rfl rfl trivial)
    | some finalized_at => exact declares_update rfl rfl rfl (declares_update rfl rfl rfl trivial)
  | some committed_at =>
    cases run.row.mailbox_finalized_at with
    | none => exact declares_update rfl rfl rfl trivial
    | some finalized_at => exact declares_update rfl rfl rfl trivial

theorem declares_updates {next : Pc}
    (hChanged : first.remote_changed_at = none ∧ second.remote_changed_at = none)
    (hSubmitted : first.verify_submitted_at = none ∧ second.verify_submitted_at = none)
    (hNext : next.handles = false) (hRest : next.declares remote_changed) :
    (Pc.update first (.update second next)).declares
      remote_changed :=
  declares_update hChanged.1 hSubmitted.1 rfl (declares_update hChanged.2 hSubmitted.2 hNext hRest)

/- A step without an update leaves a run that knows. -/
theorem knows_of_moves (hMoves : Moves env draw w job job') (hPatch : job.patch = none)
    (hGoesOn : job'.pc ≠ .finished) (hKnows : Knows row job) : Knows row job' := by
  cases hMoves with
  | closes _ run error phase resumable crossed _ _ hOwn hTold =>
    refine knows_of_closes error phase resumable crossed ?_
    intro hCrossed
    rcases hKnows.past hCrossed with hPast | hClears
    · rw [Job.past, hOwn] at hPast
      simp only [Bool.false_eq_true, or_false] at hPast
      exact hTold hPast
    · rcases job with ⟨run, pc⟩
      cases pc with
      | update patch next => cases hPatch
      | _ => cases hClears
  | ends => exact absurd rfl hGoesOn
  | starts run =>
    exact knows_onward hKnows rfl rfl rfl Pc.noConfusion id (declares_update rfl rfl rfl trivial)
  | recovers run account => exact knows_of_changed (recovered_handles _) (recovered_declares _) rfl
  | executes run account hInside =>
    exact knows_onward hKnows rfl rfl rfl Pc.noConfusion id (declares_update rfl rfl rfl trivial)
  | resumes run account =>
    exact knows_onward hKnows rfl rfl rfl Pc.noConfusion id
        trivial
  | raises run pc error hLoop =>
    have hPc := handles_of_inLoop run hLoop
    exact knows_onward hKnows hPatch hPc.1 rfl hPc.2.1 id trivial
  | unknown run message => exact knows_of_changed rfl trivial rfl
  | opens run =>
    exact knows_onward hKnows rfl rfl rfl Pc.noConfusion id
        trivial
  | identifies run remote identity =>
    exact knows_onward hKnows rfl rfl rfl Pc.noConfusion id (declares_update rfl rfl rfl trivial)
  | allows run =>
    exact knows_onward hKnows rfl rfl rfl Pc.noConfusion id (declares_update rfl rfl rfl trivial)
  | begins run =>
    exact knows_onward hKnows rfl rfl rfl Pc.noConfusion id
        (declares_updates ⟨rfl, rfl⟩ ⟨rfl, rfl⟩ rfl trivial)
  | submits run mailbox =>
    refine knows_onward hKnows rfl rfl rfl Pc.noConfusion id (declares_update rfl rfl rfl ?_)
    refine ⟨fun hSome => absurd rfl hSome, ?_, rfl, trivial⟩
    intro time hTime
    rfl
  | rejected run error =>
    refine ⟨?_, hKnows.changed, ?_⟩
    · refine ⟨fun hSome => absurd rfl hSome, ?_, rfl, trivial⟩
      intro time hTime
      cases hTime
    · intro hSubmitted
      exact .inr (.inr rfl)
  | accepted run =>
    refine knows_of_changed rfl ?_ rfl
    refine ⟨fun hSome => rfl, ?_, rfl, trivial⟩
    intro time hTime
    cases hTime
  | reauthenticates run error state =>
    exact knows_onward hKnows rfl rfl rfl Pc.noConfusion id (declares_update rfl rfl rfl trivial)
  | sourceRefreshed run verified account =>
    exact knows_onward hKnows rfl rfl rfl Pc.noConfusion id
        (declares_updates ⟨rfl, rfl⟩ ⟨rfl, rfl⟩ rfl trivial)
  | prepares run =>
    exact knows_onward hKnows rfl rfl rfl Pc.noConfusion id
        (declares_updates ⟨rfl, rfl⟩ ⟨rfl, rfl⟩ rfl trivial)
  | targetLogged run target_state =>
    exact knows_onward hKnows rfl rfl rfl Pc.noConfusion id (declares_update rfl rfl rfl trivial)
  | targetChecked run verified =>
    exact knows_onward hKnows rfl rfl rfl Pc.noConfusion id (declares_update rfl rfl rfl trivial)
  | committed run loaded =>
    exact knows_onward hKnows rfl rfl rfl Pc.noConfusion id
        (declares_updates ⟨rfl, rfl⟩ ⟨rfl, rfl⟩ rfl trivial)
  | finalized run committed_at loaded =>
    exact knows_onward hKnows rfl rfl rfl Pc.noConfusion id
        (declares_updates ⟨rfl, rfl⟩ ⟨rfl, rfl⟩ rfl trivial)
  | updated run patch next => cases hPatch
  | closed run patch next => cases hPatch
  | warns run code account =>
    refine ⟨trivial, hKnows.changed, ?_⟩
    intro hSubmitted
    rcases hKnows.submitted hSubmitted with hTold | hVerify | hClears
    · exact .inl hTold
    · cases hVerify
    · cases hClears
  | _ =>
    exact knows_onward hKnows rfl rfl rfl Pc.noConfusion id
        trivial

----
-- Updates
----

theorem changed_patched (hChanged : (row.patched env patch).remote_changed_at.isSome) :
    patch.remote_changed_at ≠ none ∨ row.remote_changed_at.isSome := by
  change (patch.remote_changed_at.or row.remote_changed_at).isSome at hChanged
  cases hPatch : patch.remote_changed_at with
  | none =>
    rw [hPatch, Option.none_or] at hChanged
    exact .inr hChanged
  | some time =>
    left
    intro hNone
    cases hNone

theorem submitted_of_patched
    (hSubmitted : (row.patched env patch).verify_submitted_at.isSome) :
    (∃ time, patch.verify_submitted_at = some (some time)) ∨
      (patch.verify_submitted_at = none ∧ row.verify_submitted_at.isSome) := by
  change (patch.verify_submitted_at.getD row.verify_submitted_at).isSome at hSubmitted
  cases hPatch : patch.verify_submitted_at with
  | none =>
    rw [hPatch] at hSubmitted
    exact .inr ⟨rfl, hSubmitted⟩
  | some time =>
    rw [hPatch] at hSubmitted
    cases time with
    | none => cases hSubmitted
    | some time => exact .inl ⟨time, rfl⟩

/- A run at an update of a marked row knows of the mark, unless it is there to clear it. -/
theorem Knows.marked (hKnows : Knows row ⟨run, .update patch next⟩)
    (hSubmitted : row.verify_submitted_at.isSome) :
    run.remote_changed ∨ patch.verify_submitted_at = some none := by
  rcases hKnows.submitted hSubmitted with hTold | hVerify | hClears
  · exact .inl hTold
  · cases hVerify
  · exact .inr (of_decide_eq_true hClears)

theorem knows_updated (hKnows : Knows row ⟨run, .update patch next⟩) :
    Knows (row.patched env patch) ⟨run, next⟩ := by
  have hTold : run.remote_changed → (Job.mk run next).told (row.patched env patch) :=
    fun hChanged => (told_iff ⟨run, next⟩ hKnows.declares.2.2.1).mpr hChanged
  refine ⟨hKnows.declares.2.2.2, ?_, ?_⟩
  · intro hChanged
    apply hTold
    rcases changed_patched hChanged with hPatch | hRow
    · exact hKnows.declares.1 hPatch
    · exact hKnows.changed hRow
  · intro hSubmitted
    rcases submitted_of_patched hSubmitted with ⟨time, hTime⟩ | ⟨hNone, hRow⟩
    · exact .inr (.inl (hKnows.declares.2.1 time hTime))
    · rcases hKnows.marked hRow with hChanged | hClears
      · exact .inl (hTold hChanged)
      · rw [hNone] at hClears
        cases hClears

/- What an update that raises leaves, if it does not miss, is
   past the boundary only if the run knows. -/
theorem changed_of_raised (hKnows : Knows w.row ⟨run, .update patch next⟩)
    (hRaised : draw.raised)
    (hClean : (Job.mk run (.update patch next)).misses draw w.row = false)
    (hCrossed : ((Job.mk run (.update patch next)).world env draw w).row.crossed) :
    run.remote_changed := by
  unfold Job.misses at hClean
  rw [hRaised, Bool.true_and] at hClean
  dsimp only at hClean
  unfold Job.world at hCrossed
  have hEnding : draw.ending ≠ .returned := by
    intro hReturned
    unfold Draw.raised at hRaised
    rw [hReturned] at hRaised
    cases hRaised
  cases hPlace : draw.took_place with
  | true =>
    rw [if_pos (.inr hPlace), effect_of_patch rfl] at hCrossed
    unfold ChangeRow.crossed at hCrossed
    rw [Bool.or_eq_true] at hCrossed
    rcases hCrossed with hChanged | hSubmitted
    · rcases changed_patched hChanged with hPatch | hRow
      · exact hKnows.declares.1 hPatch
      · exact hKnows.changed hRow
    · rcases submitted_of_patched hSubmitted with
        ⟨time, hTime⟩ | ⟨hNone, hRow⟩
      · rw [hTime, hPlace] at hClean
        cases hClean
      · rcases hKnows.marked hRow with hChanged | hClears
        · exact hChanged
        · rw [hNone] at hClears
          cases hClears
  | false =>
    rw [if_neg (by simp [hEnding, hPlace])] at hCrossed
    unfold ChangeRow.crossed at hCrossed
    rw [Bool.or_eq_true] at hCrossed
    rcases hCrossed with hChanged | hSubmitted
    · exact hKnows.changed hChanged
    · rcases hKnows.marked hSubmitted with hChanged | hClears
      · exact hChanged
      · rw [hClears, hPlace] at hClean
        cases hClean

theorem told_patched (hTold : (Job.mk run (.closing patch next)).told row) :
    (row.patched env patch).status = .halfDone ∧ (row.patched env patch).resumable := by
  constructor
  · change patch.status.getD row.status = .halfDone
    rw [hTold.1]
    rfl
  · change patch.resumable.getD row.resumable
    rw [hTold.2]
    rfl

theorem Knows.told_of_handles (hKnows : Knows row job) (hHandles : job.pc.handles)
    (hCrossed : row.crossed) : job.told row := by
  unfold ChangeRow.crossed at hCrossed
  rw [Bool.or_eq_true] at hCrossed
  rcases hCrossed with hChanged | hSubmitted
  · exact hKnows.changed hChanged
  · rcases hKnows.submitted hSubmitted with
      hTold | hVerify | hClears
    · exact hTold
    · rw [hVerify] at hHandles
      cases hHandles
    · rcases job with ⟨run, pc⟩
      cases pc with
      | update patch next => cases hHandles
      | _ => cases hClears

theorem crossed_of_closing (hDeclares : (Pc.closing patch next).declares run.remote_changed)
    (hCrossed : (row.patched env patch).crossed) : row.crossed := by
  unfold ChangeRow.crossed at *
  rw [Bool.or_eq_true] at *
  rcases hCrossed with hChanged | hSubmitted
  · rcases changed_patched hChanged with hPatch | hRow
    · exact absurd hDeclares.1 hPatch
    · exact .inl hRow
  · rcases submitted_of_patched hSubmitted with
      ⟨time, hTime⟩ | ⟨hNone, hRow⟩
    · rw [hDeclares.2.1] at hTime
      cases hTime
    · exact .inr hRow

----
-- All Turns
----

/- A step that does not miss leaves a run that knows. -/
theorem advance_knows (hKnows : Knows w.row job) (hClean : job.misses draw w.row = false)
    (hNext : job' ∈ (job.after env draw w).filter ongoing) :
    Knows (job.world env draw w).row job' := by
  rcases Option.mem_filter_iff.mp hNext with ⟨hAfter, hOngoing⟩
  have hGoesOn : job'.pc ≠ .finished := of_decide_eq_true hOngoing
  cases hPatch : job.patch with
  | none =>
    rw [world_row hPatch]
    exact knows_of_moves (moves_of_after hAfter) hPatch hGoesOn hKnows
  | some patch' =>
    rcases job with ⟨run, pc⟩
    cases pc with
    | update patch next =>
      unfold Job.after at hAfter
      cases hEnding : draw.ending with
      | returned =>
        rw [hEnding] at hAfter
        cases hAfter
        rw [world_of_returned hEnding, effect_of_patch rfl]
        exact knows_updated hKnows
      | interrupted =>
        rw [hEnding] at hAfter
        cases hAfter
        have hRaised : draw.raised := by simp [Draw.raised, hEnding]
        apply knows_of_closes
        intro hCrossed
        have hChanged := changed_of_raised hKnows hRaised hClean hCrossed
        exact ⟨hChanged, hChanged⟩
      | failed =>
        rw [hEnding] at hAfter
        cases hAfter
        have hRaised : draw.raised := by simp [Draw.raised, hEnding]
        apply knows_of_closes
        intro hCrossed
        have hChanged := changed_of_raised hKnows hRaised hClean hCrossed
        exact ⟨hChanged, hChanged⟩
      | killed =>
        rw [hEnding] at hAfter
        cases hAfter
    | closing patch next =>
      unfold Job.after at hAfter
      cases hEnding : draw.ending with
      | returned =>
        rw [hEnding] at hAfter
        cases hAfter
        rw [world_of_returned hEnding, effect_of_patch rfl]
        rcases hKnows.declares.2.2 with hFinished | ⟨code, hWarns⟩
        · exact absurd hFinished hGoesOn
        · subst hWarns
          have hTold : (w.row.patched env patch).crossed →
                (Job.mk run (.recoveryRead code)).told (w.row.patched env patch) := by
            intro hCrossed
            have hBefore := crossed_of_closing hKnows.declares hCrossed
            have hTold := hKnows.told_of_handles rfl hBefore
            exact told_patched hTold
          refine ⟨trivial, ?_, ?_⟩
          · intro hChanged
            apply hTold
            unfold ChangeRow.crossed
            rw [hChanged, Bool.true_or]
          · intro hSubmitted
            apply Or.inl
            apply hTold
            unfold ChangeRow.crossed
            rw [hSubmitted, Bool.or_true]
      | interrupted =>
        rw [hEnding] at hAfter
        cases hAfter
        exact absurd rfl hGoesOn
      | failed =>
        rw [hEnding] at hAfter
        cases hAfter
        exact absurd rfl hGoesOn
      | killed =>
        rw [hEnding] at hAfter
        cases hAfter
    | _ => cases hPatch

theorem ends_settled (hKnows : Knows w.row job) (hClean : job.misses draw w.row = false)
    (hEnds : job.endsRaising env draw w) : (job.world env draw w).row.settled := by
  unfold Job.endsRaising at hEnds
  rw [Bool.and_eq_true, Bool.and_eq_true] at hEnds
  rcases hEnds with ⟨⟨hHandles, hAlive⟩, hOver⟩
  apply settled_of_crossed
  rcases job with ⟨run, pc⟩
  cases pc with
  | closing patch next =>
    unfold Job.world
    split
    next hPlace =>
      rw [effect_of_patch rfl]
      intro hCrossed
      have hBefore := crossed_of_closing hKnows.declares hCrossed
      exact told_patched (hKnows.told_of_handles rfl hBefore)
    next hPlace =>
      intro hCrossed
      rw [not_or] at hPlace
      have hRaised : draw.raised := by
        unfold Draw.raised
        cases hEnding : draw.ending with
        | returned => exact absurd hEnding hPlace.1
        | interrupted => rfl
        | failed => rfl
        | killed => exact absurd hEnding (of_decide_eq_true hAlive)
      unfold Job.misses at hClean
      rw [hRaised] at hClean
      simp [hCrossed, hPlace.2] at hClean
  | recoveryRead code =>
    rw [world_row rfl]
    exact hKnows.told_of_handles rfl
  | recoveryWrite code loaded =>
    rw [world_row rfl]
    exact hKnows.told_of_handles rfl
  | _ => cases hHandles

theorem start_knows (task_id : String) :
    Knows row ((Run.loaded env task_id row).at .checkpoint) := by
  refine ⟨trivial, ?_, ?_⟩
  · intro hChanged
    change row.crossed
    unfold ChangeRow.crossed
    rw [hChanged, Bool.true_or]
  · intro hSubmitted
    apply Or.inl
    change row.crossed
    unfold ChangeRow.crossed
    rw [hSubmitted, Bool.or_true]

theorem turn_knows (t : Turn) (hClean : t.clean s)
    (hKnows : ∀ job ∈ s.current, Knows s.world.row job) :
    ∀ job ∈ (turn env s t).1.current, Knows (turn env s t).1.world.row job := by
  rcases s with ⟨w, current⟩
  cases t with
  | loadFails => exact hKnows
  | op op =>
    cases op with
    | start task_id =>
      cases current with
      | some job => exact hKnows
      | none =>
        unfold turn step
        dsimp only
        split
        · exact hKnows
        · intro job hJob
          cases hJob
          exact start_knows task_id
    | step draw =>
      cases current with
      | none => exact hKnows
      | some job =>
        intro job' hNext
        exact advance_knows (hKnows job rfl) (hClean job rfl) hNext
    | edit account => exact hKnows
    | remove account_id => exact hKnows

/- In turns of a row none of which misses, the row that a run leaves when it ends with an exception
   is never failed with one of its times set, and is resumable whenever one is set. -/
theorem recorded_outcome (env : Env) (row : ChangeRow) (accounts : Accounts) (turns : List Turn)
    (hClean : Steps (turn env) (fun s t => t.clean s) (State.initial row accounts) turns) :
    Steps (turn env)
      (fun s t => (turn env s t).2 → (turn env s t).1.world.row.settled)
      (State.initial row accounts) turns := by
  rw [Machine.steps_iff_forall_split]
  intro before t after hSplit hEnds
  rw [hSplit, steps_append] at hClean
  have hKnows := Machine.run_induction_of_steps
      (P := fun s : State => ∀ job ∈ s.current, Knows s.world.row job)
      (fun s t hKnows hClean => turn_knows t hClean hKnows) (fun job hJob => by cases hJob) hClean.1
  have hLast := hClean.2.1
  generalize Machine.run (turn env) (State.initial row accounts) before = s at hKnows hLast hEnds
  rcases s with ⟨w, current⟩
  cases t with
  | loadFails => exact hLast (Option.isNone_iff_eq_none.mp hEnds)
  | op op =>
    cases op with
    | step draw =>
      cases current with
      | none => cases hEnds
      | some job => exact ends_settled (hKnows job rfl) (hLast job rfl) hEnds
    | _ => cases hEnds

/- The state after turns of a change that is prepared. -/
def prepared (turns : List Turn) : State := Machine.run (turn plainEnv)
    (State.initial (preparedRow 1 "a@x.com" "b@x.com" (some { email := "b@x.com" }) false)
      sourceAccounts)
    turns

/- A run up to the mark of its request, and up to the last step of a run whose request raises. -/
def markingTurns : List Turn := .op (.start "task-1") :: List.replicate 14 (.op (.step goodDraw))

def unknownTurns : List Turn := markingTurns ++ [.op (.step goodDraw),
      .op (.step { goodDraw with ending := .failed }),
      .op (.step goodDraw), .op (.step goodDraw),
      .op (.step goodDraw)]

/- A request without an answer is recorded as resumable. -/
theorem recorded_outcome_unknown :
    (turn plainEnv (prepared unknownTurns) (.op (.step goodDraw))).2 ∧
      (turn plainEnv (prepared unknownTurns) (.op (.step goodDraw))).1.world.row.settled ∧
      (prepared unknownTurns).world.row.status = .halfDone := by
  have hEnds : (turn plainEnv (prepared unknownTurns) (.op (.step goodDraw))).2 := by
    decide +kernel
  have hSettled := recorded_outcome plainEnv
      (preparedRow 1 "a@x.com" "b@x.com" (some { email := "b@x.com" }) false)
      sourceAccounts (unknownTurns ++ [.op (.step goodDraw)]) (by decide +kernel)
  rw [steps_append] at hSettled
  exact ⟨hEnds, hSettled.2.1 hEnds, by decide +kernel⟩

/- The update that marks the row raises after its commit: the
   row is failed, with the mark of the request set. -/
theorem marked_and_failed :
    ¬ ∀ (env : Env) (row : ChangeRow) (accounts : Accounts) (turns : List Turn),
        Steps (turn env)
          (fun s t => (turn env s t).2 → (turn env s t).1.world.row.settled)
          (State.initial row accounts) turns := by
  intro hAll
  have hSteps := hAll plainEnv
      (preparedRow 1 "a@x.com" "b@x.com" (some { email := "b@x.com" }) false) sourceAccounts
      ((markingTurns ++ [.op (.step { goodDraw with ending := .failed, took_place := true })]) ++
        [.op (.step goodDraw)])
  rw [steps_append] at hSteps
  have hSettled := hSteps.2.1 (by decide +kernel)
  exact absurd hSettled (by decide +kernel)

end EmailChange
