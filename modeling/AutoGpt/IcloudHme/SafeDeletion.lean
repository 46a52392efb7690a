import AutoGpt.IcloudHme.Deletable

/-
  Every step of the worker that meets its condition leaves the
  candidates that it may still delete dead, and so every call
  of `client.delete` is safe.

  The main theorems are:
    * `IcloudHme.stepJob_knows`
    * `IcloudHme.deletes_safely`
    * `IcloudHme.deletes_living`
-/

open List

----
-- What A Job Knows
----

namespace IcloudHme

/- What holds of the candidates that are not reached yet. -/
def Run.RestDead (env : Env) (tables : Tables) (run : Run) (temp : Option Nat) : Prop :=
  ∀ cand ∈ run.rest, StillDead env run.config tables cand (cand.ids ++ temp.toList)

/- What holds of a candidate whose accounts are checked. -/
def Probe.OwnDead (env : Env) (tables : Tables) (p : Probe) (left : List Nat) : Prop :=
  p.AllDead → StillDead env p.run.config tables p.cand (left ++ p.checked.map Prod.fst)

/- What a job knows: all candidates that it may still delete are still dead, only one account is
   checked for an orphan, and a candidate that is about to be deleted has dead accounts only. -/
def Job.Knows (env : Env) (tables : Tables) : Job → Prop
| .next run => run.RestDead env tables none
| .probe p left => p.OwnDead env tables left ∧ p.run.RestDead env tables p.tempAccount ∧
      ∀ id ∈ p.temp, left = [id] ∨ left = []
| .login p account_id _ left => p.OwnDead env tables (account_id :: left) ∧
      p.run.RestDead env tables p.tempAccount ∧
      ∀ id ∈ p.temp, account_id = id ∧ left = []
| .cleanup p account_id verdict => p.OwnDead env tables [] ∧
      p.run.RestDead env tables p.tempAccount ∧
      p.temp = some account_id ∧
      verdict ≠ some .alive ∧
      (verdict = some .dead → p.AllDead)
| .deactivate p => p.OwnDead env tables [] ∧ p.run.RestDead env tables none ∧ p.AllDead
| .delete p => p.OwnDead env tables [] ∧ p.run.RestDead env tables none ∧ p.AllDead
| .retire p => p.run.RestDead env tables none
| _ => True

def Job.Good (env : Env) (tables : Tables) (job : Job) : Prop :=
  ∀ run ∈ job.run?, run.config.recheck_before_delete → job.Knows env tables

theorem restDead_iff {run : Run} :
    (∀ entry ∈ run.pending temp, StillDead env run.config tables entry.1 entry.2) ↔
      run.RestDead env tables temp := by
  exact forall_mem_map

theorem ownDead_iff {p : Probe} {left : List Nat} :
    (∀ entry ∈ p.own left, StillDead env p.run.config tables entry.1 entry.2) ↔
      p.OwnDead env tables left := by
  unfold Probe.own Probe.OwnDead
  by_cases hAll : p.AllDead
  · rw [if_pos hAll]
    simp [hAll]
  · rw [if_neg hAll]
    simp [hAll]

theorem Job.Knows.change {job : Job} {run : Run} (hKnows : job.Knows env tables)
    (hRun : job.run? = some run)
    (hPending : ∀ entry ∈ job.pending, StillDead env run.config tables' entry.1 entry.2) :
    job.Knows env tables' := by
  cases job with
  | idle => exact trivial
  | list run => exact trivial
  | finish run => exact trivial
  | next run =>
    cases hRun
    exact restDead_iff.mp hPending
  | retire p =>
    cases hRun
    exact restDead_iff.mp hPending
  | probe p left =>
    cases hRun
    have hBoth := forall_mem_append.mp hPending
    exact ⟨ownDead_iff.mp hBoth.1, restDead_iff.mp hBoth.2, hKnows.2.2⟩
  | login p account_id original_status left =>
    cases hRun
    have hBoth := forall_mem_append.mp hPending
    exact ⟨ownDead_iff.mp hBoth.1, restDead_iff.mp hBoth.2, hKnows.2.2⟩
  | cleanup p account_id verdict =>
    cases hRun
    have hBoth := forall_mem_append.mp hPending
    exact ⟨ownDead_iff.mp hBoth.1, restDead_iff.mp hBoth.2, hKnows.2.2⟩
  | deactivate p =>
    cases hRun
    have hBoth := forall_mem_append.mp hPending
    exact ⟨ownDead_iff.mp hBoth.1, restDead_iff.mp hBoth.2, hKnows.2.2⟩
  | delete p =>
    cases hRun
    have hBoth := forall_mem_append.mp hPending
    exact ⟨ownDead_iff.mp hBoth.1, restDead_iff.mp hBoth.2, hKnows.2.2⟩

----
-- Steps Of The Worker
----

theorem listCandidates_knows (run : Run) : (listCandidates env run tables).Knows env tables := by
  intro cand hMem
  have hListed := mem_of_mem_take hMem
  have hDead := stillDead_of_mem_list hListed
  exact hDead.mono fun id hId => mem_append_left _ hId

variable {p : Probe}
theorem probeVerdict_alive (hVerdict : probeVerdict checked = some .alive) :
    .alive ∈ checked.map Prod.snd := by
  unfold probeVerdict at hVerdict
  split at hVerdict
  next hAlive => exact hAlive
  next _ => split at hVerdict <;> cases hVerdict

theorem probeVerdict_not_alive (hVerdict : probeVerdict checked ≠ some .alive) :
    .alive ∉ checked.map Prod.snd := by
  intro hAlive
  unfold probeVerdict at hVerdict
  rw [if_pos hAlive] at hVerdict
  exact hVerdict rfl

theorem probeVerdict_dead (hVerdict : probeVerdict checked = some .dead) :
    .dead ∈ checked.map Prod.snd := by
  unfold probeVerdict at hVerdict
  split at hVerdict
  next _ => cases hVerdict
  next _ =>
    split at hVerdict
    next hDead => exact hDead
    next _ => cases hVerdict

/- A dead verdict is one of dead accounts only, unless one is without a verdict. -/
theorem allDead_of_verdict (hVerdict : probeVerdict p.checked = some .dead)
    (hKeeps : .keep ∈ p.checked.map Prod.snd → .dead ∈ p.checked.map Prod.snd →
      .alive ∈ p.checked.map Prod.snd) :
    p.AllDead := by
  have hNotAlive : .alive ∉ p.checked.map Prod.snd :=
    probeVerdict_not_alive (by rw [hVerdict]; nofun)
  intro entry hMem
  have hSnd := mem_map_of_mem (f := Prod.snd) hMem
  cases hEntry : entry.2 with
  | dead => rfl
  | alive =>
    rw [hEntry] at hSnd
    exact absurd hSnd hNotAlive
  | keep =>
    rw [hEntry] at hSnd
    exact absurd (hKeeps hSnd (probeVerdict_dead hVerdict)) hNotAlive

theorem confirmedDead_knows (hRest : p.run.RestDead env tables none)
    (hOwn : p.OwnDead env tables []) (hAll : p.AllDead) : (confirmedDead p).Knows env tables := by
  unfold confirmedDead
  split
  · exact ⟨hOwn, hRest, hAll⟩
  · exact hRest

theorem afterVerdict_knows (hRest : p.run.RestDead env tables none) (hOwn : p.OwnDead env tables [])
    (hAll : verdict = some .dead → p.AllDead) : (afterVerdict p verdict).Knows env tables := by
  unfold afterVerdict
  split
  next _ => exact hRest
  next _ =>
    apply confirmedDead_knows
    · exact hRest
    · exact hOwn
    · exact hAll rfl
  next _ _ => exact hRest

/- The next candidate. -/
theorem nextCandidate_knows {run : Run} (hOn : run.config.recheck_before_delete)
    (hRest : run.RestDead env tables none) :
    (nextCandidate draw run tables).2.Knows env (nextCandidate draw run tables).1 := by
  unfold nextCandidate
  split
  next _ => exact trivial
  next cand rest hRun =>
    have hCand := hRest cand (by rw [hRun]; simp)
    have hOthers : Run.RestDead env tables { run with rest := rest }
          none := by
      intro other hMem
      exact hRest other (by rw [hRun]; simp [hMem])
    split
    · exact trivial
    · dsimp only
      rw [if_neg (by rw [hOn]; nofun)]
      split
      next hKind =>
        refine ⟨fun _ => ?_, hOthers, nofun⟩
        apply hCand.mono
        intro id hId
        simpa [Candidate.ids, hKind] using hId
      next hKind =>
        have hNone : cand.ids = [] := by simp [Candidate.ids, hKind]
        split
        · dsimp only
          apply afterVerdict_knows
          · exact hOthers
          · intro _
            apply hCand.mono
            intro id hId
            simp [hNone] at hId
          · nofun
        · refine ⟨fun _ => ?_, ?_, ?_⟩
          · apply (hCand.createProbeAccount _).mono
            intro id hId
            simpa [hNone] using hId
          · intro other hMem
            apply ((hOthers other hMem).createProbeAccount _).mono
            intro id hId
            simpa [Probe.tempAccount] using hId
          · intro id hId
            cases hId
            exact .inl rfl

theorem tempAccount_add {verdict : Verdict} (hVerdict : verdict ≠ .alive) :
    (p.add account_id verdict).tempAccount = p.tempAccount := by
  unfold Probe.tempAccount Probe.add
  simp only [map_append, mem_append, map_cons, map_nil, mem_singleton]
  have hOther : ¬ (Verdict.alive = verdict) := fun hSame => hVerdict hSame.symm
  simp only [hOther, or_false]

theorem tempAccount_add_alive (p : Probe) (account_id : Nat) :
    (p.add account_id .alive).tempAccount = none := by
  unfold Probe.tempAccount Probe.add
  simp

theorem Probe.OwnDead.add {verdict : Verdict} (hOwn : p.OwnDead env tables (account_id :: left)) :
    (p.add account_id verdict).OwnDead env tables left := by
  intro hAll
  have hBefore : p.AllDead := by
    intro entry hMem
    exact hAll entry (mem_append_left _ hMem)
  apply (hOwn hBefore).mono
  intro id hId
  simp only [Probe.add, map_append, map_cons,
    map_nil, mem_append, mem_cons, not_mem_nil, or_false] at hId ⊢
  rcases hId with (hHead | hLeft) | hChecked
  · exact .inr (.inr hHead)
  · exact .inl hLeft
  · exact .inr (.inl hChecked)

theorem classifyRecheckResult_failed (dead_statuses : List String)
    (hFailed : result.ok = false) : classifyRecheckResult env dead_statuses result ≠ .alive := by
  unfold classifyRecheckResult
  rw [if_neg (by rw [hFailed]; nofun)]
  split <;> nofun

theorem recheckTarget_failed
    (hTarget : recheckTarget accounts account_id mailbox_found = .error result) :
    result.ok = false := by
  unfold recheckTarget at hTarget
  split at hTarget
  next _ => rw [← Except.error.inj hTarget]
  next _ =>
    split at hTarget
    next _ => rw [← Except.error.inj hTarget]
    next _ =>
      split at hTarget
      next _ => rw [← Except.error.inj hTarget]
      next _ =>
        split at hTarget
        next _ => cases hTarget
        next _ => rw [← Except.error.inj hTarget]

theorem finishProbe_knows (hOwn : p.OwnDead env tables [])
    (hRest : p.run.RestDead env tables p.tempAccount)
    (hKeeps : .keep ∈ p.checked.map Prod.snd → .dead ∈ p.checked.map Prod.snd →
      .alive ∈ p.checked.map Prod.snd) :
    (finishProbe p).Knows env tables := by
  have hAll : probeVerdict p.checked = some .dead → p.AllDead :=
    fun hVerdict => allDead_of_verdict hVerdict hKeeps
  have hNoTemp : p.tempAccount = none → (afterVerdict p (probeVerdict p.checked)).Knows env
        tables := by
    intro hNone
    rw [hNone] at hRest
    exact afterVerdict_knows hRest hOwn hAll
  unfold finishProbe
  dsimp only
  split
  next hTemp =>
    apply hNoTemp
    unfold Probe.tempAccount
    rw [hTemp]
    split <;> rfl
  next account_id hTemp =>
    split
    next hAlive =>
      apply hNoTemp
      unfold Probe.tempAccount
      rw [if_pos (probeVerdict_alive hAlive)]
    next hNot => exact ⟨hOwn, hRest, hTemp, hNot, hAll⟩

theorem probeNext_knows (hKnows : (Job.probe p left).Knows env tables)
    (hKeeps : (Job.probe p left).KeepsDead env tables draw) :
    (probeNext env draw p left tables).Knows env tables := by
  rcases hKnows with ⟨hOwn, hRest, hTemp⟩
  cases left with
  | nil => exact finishProbe_knows hOwn hRest hKeeps
  | cons account_id left =>
    have hLeft : ∀ id ∈ p.temp, account_id = id ∧ left = [] := by
      intro id hId
      rcases hTemp id hId with hOne | hNone
      · exact cons.inj hOne
      · cases hNone
    unfold probeNext
    dsimp only
    split
    next hZero =>
      refine ⟨fun hAll => ?_, hRest, ?_⟩
      · have hDead := hOwn hAll
        refine ⟨hDead.1, ?_⟩
        intro account hMem
        have hBoth := hDead.2 account hMem
        refine ⟨hBoth.1, ?_⟩
        have hPositive := tables.positive account (mem_matching.mp hMem).1
        rcases mem_cons.mp hBoth.2 with hHead | hTail
        · omega
        · exact hTail
      · exact fun id hId => .inr (hLeft id hId).2
    next _ =>
      split
      next result hTarget =>
        refine ⟨hOwn.add, ?_, ?_⟩
        · rw [tempAccount_add
            (classifyRecheckResult_failed _ (recheckTarget_failed hTarget))]
          exact hRest
        · exact fun id hId => .inr (hLeft id hId).2
      next account _ => exact ⟨hOwn, hRest, hLeft⟩

/- The candidates after the login of a recheck. -/
theorem login_knows (hKnows : (Job.login p account_id original_status left).Knows env tables)
    (hKeeps : (Job.login p account_id original_status left).KeepsDead env tables draw)
    (dead_statuses : List String) :
    let after := finishRecheck env dead_statuses account_id original_status draw.login tables
    (Job.probe (p.add account_id after.2) left).Knows env
      after.1 := by
  rcases hKnows with ⟨hOwn, hRest, hTemp⟩
  have hLeft : ∀ id ∈ p.temp, left = [id] ∨ left = [] := fun id hId => .inr (hTemp id hId).2
  have hUnchanged : (Job.probe (p.add account_id .keep) left).Knows env
        tables := by
    have hKeep : Verdict.keep ≠ .alive := nofun
    refine ⟨hOwn.add, ?_, hLeft⟩
    rw [tempAccount_add hKeep]
    exact hRest
  unfold finishRecheck
  cases hFound : tables.accounts.find? account_id with
  | none => exact hUnchanged
  | some account =>
    dsimp only
    split
    · exact hUnchanged
    · cases hLogin : draw.login with
      | interrupted => exact hUnchanged
      | session status =>
        refine ⟨?_, ?_, hLeft⟩
        · intro hAll
          have hNot := hAll (account_id, .alive) (mem_append_right _ (mem_singleton.mpr rfl))
          cases hNot
        · rw [tempAccount_add_alive]
          intro cand hMem
          have hRevive := hKeeps (by rw [hLogin]; rfl)
          simp only [Option.toList_none, append_nil]
          apply (hRest cand hMem).revive
          · exact fun _ => rfl
          · exact fun _ => rfl
          · exact fun account hIs => hRevive account hIs cand hMem
          · intro id hId
            unfold Probe.tempAccount at hId
            split at hId
            · cases hId
            · exact (hTemp id hId).1
      | failed error_text =>
        have hUpdate : ∀ {cand : Candidate} {ids : List Nat},
              StillDead env p.run.config tables cand ids →
              StillDead env p.run.config
                (tables.updateAccount account_id (Account.recheckFailed env original_status
                    (env.classifyRecheckError error_text)) (fun _ => rfl))
                cand ids := by
          intro cand ids hDead
          apply hDead.updateAccount
          · exact fun _ => rfl
          · exact fun _ => rfl
          · exact recheckFailed_alive _ _
        refine ⟨fun hAll => ?_, ?_, hLeft⟩
        · exact hUpdate (hOwn.add hAll)
        · rw [tempAccount_add
            (classifyRecheckResult_failed _ rfl)]
          exact fun cand hMem => hUpdate (hRest cand hMem)

theorem cleanup_knows (hKnows : (Job.cleanup p account_id verdict).Knows env tables) :
    (afterVerdict p verdict).Knows env (tables.deleteAccount account_id) := by
  rcases hKnows with ⟨hOwn, hRest, hTemp, _, hAll⟩
  have hIs : ∀ id ∈ p.tempAccount, id = account_id := by
    intro id hId
    unfold Probe.tempAccount at hId
    split at hId
    · cases hId
    · rw [hTemp] at hId
      exact (Option.some.inj hId).symm
  apply afterVerdict_knows
  · intro cand hMem
    simp only [Option.toList_none, append_nil]
    exact StillDead.deleteAccount _ account_id (hRest cand hMem) hIs
  · intro hAllDead
    have hDead := hOwn hAllDead
    apply StillDead.deleteAccount none
    · simpa using hDead
    · nofun
  · exact hAll

theorem afterDeactivate_knows (apple : Apple) (hKnows : (Job.delete p).Knows env s.tables) :
    (afterDeactivate apple p s).job.Knows env (afterDeactivate apple p s).tables := by
  unfold afterDeactivate
  split
  · exact trivial
  · exact trivial
  · exact hKnows

theorem afterDelete_knows (apple : Apple) (hKnows : (Job.delete p).Knows env s.tables) :
    (afterDelete apple p s).job.Knows env (afterDelete apple p s).tables := by
  unfold afterDelete
  split
  · exact hKnows.2.1
  · exact trivial
  · exact afterDeactivate_knows apple hKnows

----
-- Runs
----

/- A job of a run with this configuration, if of any. -/
def Job.Of (config : Config) (job : Job) : Prop := ∀ run ∈ job.run?, run.config = config

theorem of_run {job : Job} {run : Run} (hRun : job.run? = some run)
    (hConfig : run.config = config) : job.Of config := by
  intro other hOther
  rw [hRun] at hOther
  rw [← Option.some.inj hOther]
  exact hConfig

theorem afterVerdict_of (p : Probe) (verdict : Option Verdict) :
    (afterVerdict p verdict).Of p.run.config := by
  unfold afterVerdict confirmedDead
  dsimp only
  split
  · exact of_run rfl rfl
  · split <;> exact of_run rfl rfl
  · exact of_run rfl rfl

theorem nextCandidate_of (run : Run) (tables : Tables) :
    (nextCandidate draw run tables).2.Of run.config := by
  unfold nextCandidate
  split
  next _ => exact of_run rfl rfl
  next cand rest _ =>
    split
    · exact of_run rfl rfl
    · dsimp only
      split
      · unfold confirmedDead
        split <;> exact of_run rfl rfl
      · split
        · exact of_run rfl rfl
        · split
          · exact afterVerdict_of { run := { run with rest := rest }, cand := cand } none
          · exact of_run rfl rfl

theorem probeNext_of (p : Probe) (left : List Nat) (tables : Tables) :
    (probeNext env draw p left tables).Of p.run.config := by
  unfold probeNext
  split
  · unfold finishProbe
    dsimp only
    split
    · exact afterVerdict_of _ _
    · split
      · exact afterVerdict_of _ _
      · exact of_run rfl rfl
  · split
    · exact of_run rfl rfl
    · split
      · exact of_run rfl rfl
      · exact of_run rfl rfl

theorem afterDeactivate_of (apple : Apple) (p : Probe) (s : State) :
    (afterDeactivate apple p s).job.Of p.run.config := by
  unfold afterDeactivate
  split <;> exact of_run rfl rfl

theorem afterDelete_of (apple : Apple) (p : Probe) (s : State) :
    (afterDelete apple p s).job.Of p.run.config := by
  unfold afterDelete
  split
  · exact of_run rfl rfl
  · exact of_run rfl rfl
  · exact afterDeactivate_of apple p s

/- A run keeps its configuration, and what it knows. -/
theorem stepJob_good {s : State} (hGood : s.job.Good env s.tables)
    (hKeeps : ∀ run ∈ s.job.run?, run.config.recheck_before_delete →
        s.job.KeepsDead env s.tables draw) :
    (stepJob env draw s).1.job.Good env (stepJob env draw s).1.tables := by
  intro run' hRun' hOn'
  unfold stepJob at hRun' ⊢
  cases hJob : s.job with
  | idle =>
    simp only [hJob] at hRun'
    cases hRun'
  | list run => exact listCandidates_knows run
  | next run =>
    rw [hJob] at hGood hRun'
    have hOn := nextCandidate_of run s.tables run' hRun'
    rw [hOn] at hOn'
    exact nextCandidate_knows hOn' (hGood run rfl hOn')
  | probe p left =>
    rw [hJob] at hGood hKeeps hRun'
    have hOn := probeNext_of p left s.tables run' hRun'
    rw [hOn] at hOn'
    exact probeNext_knows (hGood p.run rfl hOn') (hKeeps p.run rfl hOn')
  | login p account_id original_status left =>
    rw [hJob] at hGood hKeeps hRun'
    cases hRun'
    exact login_knows (hGood p.run rfl hOn') (hKeeps p.run rfl hOn') _
  | cleanup p account_id verdict =>
    rw [hJob] at hGood hRun'
    have hOn := afterVerdict_of p verdict run' hRun'
    rw [hOn] at hOn'
    exact cleanup_knows (hGood p.run rfl hOn')
  | deactivate p =>
    rw [hJob] at hGood hRun'
    have hOn := afterDeactivate_of draw.apple p s run' hRun'
    rw [hOn] at hOn'
    exact afterDeactivate_knows _ (hGood p.run rfl hOn')
  | delete p =>
    rw [hJob] at hGood hRun'
    have hOn := afterDelete_of draw.apple p s run' hRun'
    rw [hOn] at hOn'
    exact afterDelete_knows _ (hGood p.run rfl hOn')
  | retire p =>
    rw [hJob] at hGood hRun'
    cases hRun'
    exact fun cand hMem => (hGood p.run rfl hOn' cand hMem).retireAlias _ _
  | finish run => exact trivial

theorem good_step (st : State) (op : Op) (hGood : st.job.Good env st.tables)
    (hKeeps : KeepsDead env st op) : (step env st op).1.job.Good env (step env st op).1.tables := by
  cases op with
  | change tables =>
    intro run hRun hOn
    exact (hGood run hRun hOn).change hRun (hKeeps run hRun hOn)
  | start config request active_tasks =>
    simp only [step, start]
    repeat' split
    all_goals first
      | exact hGood
      | (intro run _ _
         exact trivial)
  | step draw => exact stepJob_good hGood hKeeps
  | restart =>
    intro run hRun
    cases hRun

theorem calledDelete_job (hCalled : (step env st op).2 = .calledDelete anonymous_id) :
    ∃ p, st.job = .delete p ∧ p.cand.anonymous_id = anonymous_id := by
  cases op with
  | change tables => cases hCalled
  | start config request active_tasks =>
    simp only [step, start] at hCalled
    repeat' split at hCalled
    all_goals cases hCalled
  | restart => cases hCalled
  | step draw =>
    unfold step stepJob at hCalled
    cases hJob : st.job with
    | delete p =>
      simp only [hJob] at hCalled
      exact ⟨p, rfl, Answer.calledDelete.inj hCalled⟩
    | finish run =>
      simp only [hJob, finishRun] at hCalled
      cases hCalled
    | _ =>
      simp only [hJob] at hCalled
      cases hCalled

/- In a run whose steps and changes keep the candidates dead, every deletion is safe. -/
theorem deletes_safely (env : Env) (tables : Tables) (ops : List Op) (op : Op)
    (hSteps : Machine.Steps (step env) (KeepsDead env) { tables := tables } ops) :
    DeletesSafely env (run env tables ops) op := by
  have hGood : (run env tables ops).job.Good env (run env tables ops).tables := by
    refine Machine.run_induction_of_steps (P := fun st : State => st.job.Good env st.tables)
        good_step ?_ hSteps
    intro run hRun
    cases hRun
  intro anonymous_id hCalled
  rcases calledDelete_job hCalled with ⟨p, hJob, hId⟩
  refine ⟨p, hJob, hId, ?_⟩
  intro hOn
  rw [hJob] at hGood
  rcases hGood p.run rfl hOn with ⟨hOwn, _, hAll⟩
  have hDead := hOwn hAll
  refine ⟨hDead.1, ?_⟩
  intro account hMem
  have hBoth := hDead.2 account hMem
  refine ⟨hBoth.1, ?_, ?_⟩
  · have hChecked : account.id ∈ p.checked.map Prod.fst := hBoth.2
    rcases mem_map.mp hChecked with ⟨entry, hEntry, hIs⟩
    have hVerdict := hAll entry hEntry
    rw [← hIs, ← hVerdict]
    exact hEntry
  · exact fun entry hEntry _ => hAll entry hEntry

/- An alias that was registered with two accounts, which are invalid. -/
def plainEnv : Env where
  lower := id
  lower_empty := rfl
  lower_invalid := rfl
  classifyRecheckError := id
  isAccountDeactivatedMessage := fun _ => false

def registered : Alias where
  id := 1
  anonymous_id := "alias-1"
  hme := "one@icloud.com"
  bound_account_email := "two@example.com"
  status := "registered"

def invalidAccounts : Accounts := (KeyedTable.insertNew .empty
      { id := 1, email := "one@icloud.com", status := "invalid" }
    ).insertNew { id := 2, email := "two@example.com", status := "invalid" }

def tablesWith (row : Alias) (hRow : row.anonymous_id = "alias-1") :
    Tables where
  aliases := KeyedTable.insertNew .empty row
  accounts := invalidAccounts
  stripped := by
    intro other hMem
    rw [mem_singleton.mp hMem, hRow]
    decide
  positive := by decide

def oneAlias : Tables := tablesWith registered rfl

def listed : List Op := [.start { icloud_cookie := "cookie" } {} false, .step {}, .step {}]

/- Its two accounts are rechecked and end like this. -/
def rechecks (first second : Login) : List Op :=
  [.step {}, .step { login := first }, .step {}, .step { login := second }, .step {}, .step {}]

def deactivated : Login := .failed "account_deactivated"

/- Both accounts are dead. -/
theorem deletes_safely_both_dead :
    DeletesSafely plainEnv (run plainEnv oneAlias (listed ++ rechecks deactivated deactivated))
      (.step {}) :=
  deletes_safely plainEnv oneAlias _ _ (by decide +kernel)

def Job.deletesDead (env : Env) (tables : Tables) : Job → Bool
| .delete p => !p.run.config.recheck_before_delete ||
      decide (Safe env tables p)
| _ => true

theorem not_deletesSafely (anonymous_id : String)
    (hCalled : (step env st op).2 = .calledDelete anonymous_id)
    (hNot : st.job.deletesDead env st.tables = false) : ¬ DeletesSafely env st op := by
  intro hSafely
  rcases hSafely anonymous_id hCalled with ⟨p, hJob, _, hSafe⟩
  rw [hJob] at hNot
  simp only [Job.deletesDead, Bool.or_eq_false_iff,
    Bool.not_eq_false', decide_eq_false_iff_not] at hNot
  exact hNot.2 (hSafe hNot.1)

def claimedMeanwhile : Op := .change (tablesWith { registered with status := "in_use" } rfl)

/- The alias is deleted although the recheck of one account was
   interrupted, and although a task has claimed it since. -/
theorem deletes_living :
    (¬ DeletesSafely plainEnv (run plainEnv oneAlias (listed ++ rechecks deactivated .interrupted))
        (.step {})) ∧ ¬ DeletesSafely plainEnv
          (run plainEnv oneAlias (listed ++ [claimedMeanwhile] ++ rechecks deactivated deactivated))
          (.step {}) := by
  constructor
  · apply not_deletesSafely "alias-1"
    · decide +kernel
    · decide +kernel
  · apply not_deletesSafely "alias-1"
    · decide +kernel
    · decide +kernel

end IcloudHme
