import AutoGpt.LocalStatus.CandidateLoop

/-
  What a call of the candidate loop has done when it ends:
  which candidates it has probed, what their pools were told,
  and which candidate the caller keeps.

  Main theorems: `ProbeCandidates.dynamicLoop_settled`, `ProbeCandidates.staticLoop_settled`,
  `ProbeCandidates.candidates_settled`
-/

open List

----
-- Probes And Reports
----

namespace ProbeCandidates

def probes (log : List Event) : List (Candidate × Outcome) := log.filterMap fun event =>
    match event with
    | .probed candidate outcome => some (candidate, outcome)
    | _ => none

def reports (log : List Event) : List Report := log.filterMap fun event =>
    match event with
    | .reported report => some report
    | _ => none

/- The lines that were probed, as far as they have a key. -/
def probedKeys (log : List Event) : List String :=
  ((probes log).map fun p => candidateKey p.1).filter fun key => key ≠ ""

/- A proxy transport failure: an exception with such a text, or a probe that names one. -/
def transportFailure (env : TextEnv) : Outcome → Bool
| .raised text => isTransportError env text 0
| .returned probe => probeProxyFailure env probe ≠ ""

/- The report that is due for a probe. An exception that says
   nothing about the proxy asks for none. -/
def owed (env : TextEnv) (p : Candidate × Outcome) :
    Option Report :=
  match p.2 with
  | .returned probe => report? (probeProxyFailure env probe = "") p.1
  | .raised text =>
    if isTransportError env text 0 then report? false p.1
    else none

/- The call goes on: every probe was a transport failure with its report, and the candidate that the
   caller still keeps is none of those probed. -/
structure Going (env : TextEnv) (saved : Option Candidate) (w : World) :
    Prop where
  failed : ∀ p ∈ probes w.log, transportFailure env p.2
  reported : reports w.log = (probes w.log).filterMap (owed env)
  kept : ∀ c ∈ w.candidate, saved = some c ∧ ∀ p ∈ probes w.log, candidateKey p.1 ≠ candidateKey c

/- The call has ended: every probe had its report; a returned probe is the first one that is no
   transport failure and its candidate is kept; and with an error no candidate is kept whose line
   has failed. -/
structure Settled (env : TextEnv) (saved : Option Candidate) (w : World)
    (result : Except Error Probe) : Prop where
  reported : reports w.log = (probes w.log).filterMap (owed env)
  returned : ∀ probe, result = .ok probe → ∃ failed candidate, probes w.log =
            failed ++ [(candidate, .returned probe)] ∧
          (∀ p ∈ failed, transportFailure env p.2) ∧
          transportFailure env (.returned probe) = false ∧ w.candidate = some candidate
  raised : ∀ error, result = .error error → ∀ c ∈ w.candidate, saved = some c ∧
          ∀ p ∈ probes w.log, transportFailure env p.2 → candidateKey p.1 ≠ candidateKey c

----
-- One Candidate
----

variable {env : Env}

theorem probes_append (log log' : List Event) :
    probes (log ++ log') = probes log ++ probes log' := by
  exact filterMap_append

theorem reports_append (log log' : List Event) :
    reports (log ++ log') = reports log ++ reports log' := by
  exact filterMap_append

theorem probes_reportCandidate (success : Bool) (candidate : Candidate) (w : World) :
    probes (reportCandidate success candidate w).log = probes w.log := by
  unfold reportCandidate
  cases report? success candidate with
  | none => rfl
  | some report =>
    unfold World.record
    rw [probes_append]
    exact append_nil _

theorem reports_reportCandidate (success : Bool) (candidate : Candidate) (w : World) :
    reports (reportCandidate success candidate w).log =
      reports w.log ++ (report? success candidate).toList := by
  unfold reportCandidate
  cases report? success candidate with
  | none => exact (append_nil _).symm
  | some report =>
    unfold World.record
    rw [reports_append]
    rfl

theorem candidate_reportCandidate (success : Bool) (candidate : Candidate) (w : World) :
    (reportCandidate success candidate w).candidate = w.candidate := by
  unfold reportCandidate
  cases report? success candidate with
  | none => rfl
  | some report => rfl

theorem log_clearReusableCandidate (candidate : Candidate) (w : World) :
    (clearReusableCandidate candidate w).log = w.log := by
  unfold clearReusableCandidate
  cases w.candidate with
  | none => rfl
  | some reusable =>
    dsimp only
    split
    · rfl
    · rfl

/- What is kept after a failure was kept before, and is not the line that failed. -/
theorem mem_clearReusableCandidate {candidate c : Candidate}
    (hKept : c ∈ (clearReusableCandidate candidate w).candidate) :
    c ∈ w.candidate ∧ candidateKey candidate ≠ candidateKey c := by
  unfold clearReusableCandidate at hKept
  cases hReusable : w.candidate with
  | none =>
    rw [hReusable] at hKept
    dsimp only at hKept
    rw [hReusable] at hKept
    cases hKept
  | some reusable =>
    rw [hReusable] at hKept
    dsimp only at hKept
    by_cases hSame : candidateKey reusable = candidateKey candidate
    · rw [if_pos hSame] at hKept
      cases hKept
    · rw [if_neg hSame, hReusable] at hKept
      have hIs : reusable = c := Option.some.inj hKept
      rw [← hIs]
      exact ⟨rfl, Ne.symm hSame⟩

theorem reported_snoc {log : List Event}
    (hBefore : reports log = (probes log).filterMap (owed env.toTextEnv))
    (hOwed : rest = (owed env.toTextEnv p).toList) :
    reports log ++ rest = (probes log ++ [p]).filterMap (owed env.toTextEnv) := by
  have hOne : [p].filterMap (owed env.toTextEnv) = (owed env.toTextEnv p).toList := by
    cases hReport : owed env.toTextEnv p with
    | none => exact filterMap_cons_none hReport
    | some report => exact filterMap_cons_some hReport
  rw [filterMap_append, hBefore, hOwed, hOne]

/- How the probe of one candidate ends, for a call that was going on. -/
theorem runCandidate_going (candidate : Candidate) (hGoing : Going env.toTextEnv saved w) :
    ∃ outcome, probes (runCandidate env candidate w).1.log =
          probes w.log ++ [(candidate, outcome)] ∧
        match (runCandidate env candidate w).2 with
        | .failed _ => Going env.toTextEnv saved (runCandidate env candidate w).1
        | .result probe => Settled env.toTextEnv saved (runCandidate env candidate w).1 (.ok probe)
        | .raised error => Settled env.toTextEnv saved (runCandidate env candidate w).1
              (.error error) := by
  have hProbed : ∀ outcome, probes (w.record (.probed candidate outcome)).log =
          probes w.log ++ [(candidate, outcome)] := by
    intro outcome
    unfold World.record
    rw [probes_append]
    rfl
  have hReported :
      ∀ outcome, reports (w.record (.probed candidate outcome)).log = reports w.log := by
    intro outcome
    unfold World.record
    rw [reports_append]
    exact append_nil _
  -- A transport failure is reported and clears its line.
  have hFails : ∀ outcome, transportFailure env.toTextEnv outcome →
        owed env.toTextEnv (candidate, outcome) = report? false candidate →
        probes (clearReusableCandidate candidate
                (reportCandidate false candidate (w.record (.probed candidate outcome)))).log =
            probes w.log ++ [(candidate, outcome)] ∧ Going env.toTextEnv saved
            (clearReusableCandidate candidate
              (reportCandidate false candidate (w.record (.probed candidate outcome)))) := by
    intro outcome hTransport hOwed
    have hProbes : probes
            (clearReusableCandidate candidate
              (reportCandidate false candidate (w.record (.probed candidate outcome)))).log =
          probes w.log ++ [(candidate, outcome)] := by
      rw [log_clearReusableCandidate, probes_reportCandidate, hProbed]
    refine ⟨hProbes, ?_, ?_, ?_⟩
    · intro p hp
      rw [hProbes] at hp
      rcases mem_append.mp hp with hOld | hNew
      · exact hGoing.failed p hOld
      · rw [mem_singleton.mp hNew]
        exact hTransport
    · rw [hProbes, log_clearReusableCandidate, reports_reportCandidate, hReported]
      exact reported_snoc hGoing.reported (by rw [hOwed])
    · intro c hKept
      rcases mem_clearReusableCandidate hKept with ⟨hBefore, hOther⟩
      rw [candidate_reportCandidate] at hBefore
      rcases hGoing.kept c hBefore with ⟨hSaved, hLines⟩
      refine ⟨hSaved, ?_⟩
      intro p hp
      rw [hProbes] at hp
      rcases mem_append.mp hp with hOld | hNew
      · exact hLines p hOld
      · rw [mem_singleton.mp hNew]
        exact hOther
  unfold runCandidate
  cases hOutcome : env.probe w.log candidate with
  | raised text =>
    dsimp only
    by_cases hTransport : isTransportError env.toTextEnv text 0
    · rw [if_pos hTransport]
      rcases hFails (.raised text) hTransport
          (by unfold owed; exact if_pos hTransport) with
        ⟨hProbes, hNext⟩
      exact ⟨.raised text, hProbes, hNext⟩
    · rw [if_neg hTransport]
      refine ⟨.raised text, hProbed _, ?_, ?_, ?_⟩
      · rw [hProbed, hReported, ← append_nil (reports w.log)]
        refine reported_snoc hGoing.reported ?_
        unfold owed
        dsimp only
        rw [if_neg hTransport]
        rfl
      · intro probe hOk
        cases hOk
      · intro error _ c hKept
        rcases hGoing.kept c hKept with ⟨hSaved, hLines⟩
        refine ⟨hSaved, ?_⟩
        intro p hp hFailed
        rw [hProbed] at hp
        rcases mem_append.mp hp with hOld | hNew
        · exact hLines p hOld
        · rw [mem_singleton.mp hNew] at hFailed
          exact absurd hFailed hTransport
  | returned probe =>
    dsimp only
    by_cases hFailure : probeProxyFailure env.toTextEnv probe = ""
    · rw [if_neg (not_not.mpr hFailure)]
      have hProbes : probes
              (reportCandidate true candidate
                (w.record (.probed candidate (.returned probe)))).log =
            probes w.log ++ [(candidate, .returned probe)] := by
        rw [probes_reportCandidate, hProbed]
      refine ⟨.returned probe, hProbes, ?_, ?_, ?_⟩
      · dsimp only
        rw [hProbes, reports_reportCandidate, hReported]
        refine reported_snoc hGoing.reported ?_
        unfold owed
        dsimp only
        rw [decide_eq_true hFailure]
      · intro found hOk
        cases hOk
        refine ⟨probes w.log, candidate, hProbes, hGoing.failed, ?_, rfl⟩
        unfold transportFailure
        dsimp only
        rw [hFailure]
        rfl
      · intro error hError
        cases hError
    · rw [if_pos hFailure]
      rcases hFails (.returned probe)
          (by unfold transportFailure
              exact decide_eq_true hFailure)
          (by unfold owed
              dsimp only
              rw [decide_eq_false hFailure]) with
        ⟨hProbes, hNext⟩
      exact ⟨.returned probe, hProbes, hNext⟩

----
-- The Loops
----

theorem Going.settled (hGoing : Going env.toTextEnv saved w) (error : Error) :
    Settled env.toTextEnv saved w (.error error) := by
  refine ⟨hGoing.reported, ?_, ?_⟩
  · intro probe hOk
    cases hOk
  · intro other _ c hKept
    rcases hGoing.kept c hKept with ⟨hSaved, hLines⟩
    exact ⟨hSaved, fun p hp _ => hLines p hp⟩

theorem Going.resolved (hGoing : Going env.toTextEnv saved w) (single : Bool) :
    Going env.toTextEnv saved (w.record (.resolved single)) := by
  have hProbes : probes (w.record (.resolved single)).log = probes w.log := by
    unfold World.record
    rw [probes_append]
    exact append_nil _
  have hReports : reports (w.record (.resolved single)).log = reports w.log := by
    unfold World.record
    rw [reports_append]
    exact append_nil _
  refine ⟨?_, ?_, ?_⟩
  · rw [hProbes]
    exact hGoing.failed
  · rw [hProbes, hReports]
    exact hGoing.reported
  · rw [hProbes]
    exact hGoing.kept

theorem nextLine_world (env : Env) (reusable : Option Candidate) (w : World) :
    (nextLine env reusable w).1 = w ∨ (nextLine env reusable w).1 = w.record (.resolved true) := by
  unfold nextLine
  cases reusable with
  | some candidate => exact .inl rfl
  | none =>
    right
    unfold allocate
    cases env.resolve w.log true with
    | error text =>
      dsimp only
      split
      · rfl
      · rfl
    | ok candidates =>
      cases candidates with
      | nil => rfl
      | cons candidate rest => rfl

theorem Going.nextLine (hGoing : Going env.toTextEnv saved w) (reusable : Option Candidate) :
    Going env.toTextEnv saved (nextLine env reusable w).1 ∧
      probes (nextLine env reusable w).1.log = probes w.log := by
  rcases nextLine_world env reusable w with hSame | hResolved
  · rw [hSame]
    exact ⟨hGoing, rfl⟩
  · rw [hResolved]
    refine ⟨hGoing.resolved true, ?_⟩
    unfold World.record
    rw [probes_append]
    exact append_nil _

/- The keys of the lines probed so far are the attempted ones, and none was probed twice. -/
structure Attempted (keys : List String) (log : List Event) :
    Prop where
  mem : ∀ key ∈ probedKeys log, key ∈ keys
  nodup : (probedKeys log).Nodup

theorem probedKeys_snoc (hProbes : probes log' = probes log ++ [(candidate, outcome)]) :
    probedKeys log' = probedKeys log ++
        if candidateKey candidate = "" then []
        else [candidateKey candidate] := by
  unfold probedKeys
  rw [hProbes, map_append, filter_append]
  congr 1
  by_cases hEmpty : candidateKey candidate = ""
  · simp [hEmpty]
  · simp [hEmpty]

theorem Attempted.snoc {keys : List String} (hAttempted : Attempted keys log)
    (hNew : ¬ (candidateKey candidate ≠ "" ∧ candidateKey candidate ∈ keys))
    (hProbes : probes log' = probes log ++ [(candidate, outcome)]) :
    Attempted
      (if candidateKey candidate = "" then keys
        else candidateKey candidate :: keys) log' := by
  have hKeys := probedKeys_snoc hProbes
  by_cases hEmpty : candidateKey candidate = ""
  · rw [if_pos hEmpty] at hKeys ⊢
    rw [append_nil] at hKeys
    refine ⟨?_, ?_⟩
    · rw [hKeys]
      exact hAttempted.mem
    · rw [hKeys]
      exact hAttempted.nodup
  · rw [if_neg hEmpty] at hKeys ⊢
    have hFresh : candidateKey candidate ∉ keys := by
      intro hMem
      exact hNew ⟨hEmpty, hMem⟩
    refine ⟨?_, ?_⟩
    · intro key hKey
      rw [hKeys] at hKey
      rcases mem_append.mp hKey with hOld | hLast
      · exact mem_cons_of_mem _ (hAttempted.mem key hOld)
      · rw [mem_singleton.mp hLast]
        exact mem_cons_self
    · rw [hKeys, nodup_append]
      refine ⟨hAttempted.nodup, pairwise_singleton _ _, ?_⟩
      intro key hKey other hOther hSame
      rw [mem_singleton] at hOther
      rw [hSame, hOther] at hKey
      exact hFresh (hAttempted.mem _ hKey)

/- The dynamic mode, by induction on the attempts that are left: the call ends settled, has probed
   at most one line for each attempt, and none of them twice. -/
theorem dynamicLoop_settled (left : Nat) (reusable : Option Candidate)
    (keys : List String) (last_error : Option Error) (hGoing : Going env.toTextEnv saved w)
    (hAttempted : Attempted keys w.log) :
    Settled env.toTextEnv saved (dynamicLoop env left reusable keys last_error w).1
        (dynamicLoop env left reusable keys last_error w).2 ∧ (probes
          (dynamicLoop env left reusable keys last_error w).1.log).length ≤
        (probes w.log).length + left ∧
      (probedKeys (dynamicLoop env left reusable keys last_error w).1.log).Nodup := by
  induction left generalizing reusable keys last_error w with
  | zero => exact ⟨hGoing.settled _, le_rfl, hAttempted.nodup⟩
  | succ left ih =>
    rcases hGoing.nextLine reusable with ⟨hNext, hProbes⟩
    have hLength : (probes (nextLine env reusable w).1.log).length = (probes w.log).length :=
      congrArg List.length hProbes
    have hKeys : Attempted keys (nextLine env reusable w).1.log := by
      refine ⟨?_, ?_⟩
      · unfold probedKeys
        rw [hProbes]
        exact hAttempted.mem
      · unfold probedKeys
        rw [hProbes]
        exact hAttempted.nodup
    unfold dynamicLoop
    rcases hLine : nextLine env reusable w with ⟨next, allocation⟩
    rw [hLine] at hNext hLength hKeys
    dsimp only at hNext hLength hKeys ⊢
    cases allocation with
    | raised error =>
      dsimp only
      exact ⟨hNext.settled _, by omega, hKeys.nodup⟩
    | skipped error =>
      dsimp only
      rcases ih none keys (some error) hNext hKeys with ⟨hSettled, hCount, hNodup⟩
      exact ⟨hSettled, by omega, hNodup⟩
    | line candidate =>
      dsimp only
      by_cases hRepeated : candidateKey candidate ≠ "" ∧ candidateKey candidate ∈ keys
      · rw [if_pos hRepeated]
        rcases ih none keys (some .repeated) hNext
            hKeys with
          ⟨hSettled, hCount, hNodup⟩
        exact ⟨hSettled, by omega, hNodup⟩
      · rw [if_neg hRepeated]
        rcases runCandidate_going candidate hNext with ⟨outcome, hProbed, hEnds⟩
        have hKeysNext := hKeys.snoc hRepeated hProbed
        have hCountNext : (probes
                (runCandidate env candidate
                  next).1.log).length =
              (probes w.log).length + 1 := by
          rw [hProbed, length_append, hLength]
          rfl
        rcases hRun : runCandidate env candidate next with ⟨after, ending⟩
        rw [hRun] at hEnds hKeysNext hCountNext
        dsimp only at hEnds hKeysNext hCountNext ⊢
        cases ending with
        | result probe =>
          dsimp only
          exact ⟨hEnds, by omega, hKeysNext.nodup⟩
        | raised error =>
          dsimp only
          exact ⟨hEnds, by omega, hKeysNext.nodup⟩
        | failed error =>
          dsimp only
          rcases ih none _ (some error) hEnds
              hKeysNext with
            ⟨hSettled, hCount, hNodup⟩
          exact ⟨hSettled, by omega, hNodup⟩

theorem staticLoop_settled (candidates : List Candidate) (last_error : Option Error)
    (hGoing : Going env.toTextEnv saved w) :
    Settled env.toTextEnv saved (staticLoop env candidates last_error w).1
      (staticLoop env candidates last_error w).2 := by
  induction candidates generalizing last_error w with
  | nil => exact hGoing.settled _
  | cons candidate rest ih =>
    rcases runCandidate_going candidate hGoing with ⟨outcome, -, hEnds⟩
    unfold staticLoop
    rcases hRun : runCandidate env candidate w with ⟨after, ending⟩
    rw [hRun] at hEnds
    dsimp only at hEnds ⊢
    cases ending with
    | result probe => exact hEnds
    | raised error => exact hEnds
    | failed error => exact ih (some error) hEnds

----
-- Whole Calls
----

theorem going_start (env : TextEnv) (saved : Option Candidate) :
    Going env saved { candidate := saved } := by
  refine ⟨?_, rfl, ?_⟩
  · intro p hp
    cases hp
  · intro c hKept
    refine ⟨hKept, ?_⟩
    intro p hp
    cases hp

/- Every call of the loop ends settled, and in the dynamic mode it has probed at most the attempt
   budget of lines, none with a key twice. -/
theorem candidates_settled (env : Env) (params : Params) (saved : Option Candidate) :
    Settled env.toTextEnv saved (run env params saved).1 (run env params saved).2 ∧
      ∀ budget, dynamicProxyPolicy env.toTextEnv params = .ok (true, budget) →
          (probes (run env params saved).1.log).length ≤ budget ∧
            (probedKeys (run env params saved).1.log).Nodup := by
  have hStart := going_start env.toTextEnv saved
  unfold run
  rcases hPolicy : dynamicProxyPolicy env.toTextEnv params with
    error | ⟨_ | _, budget⟩
  · refine ⟨hStart.settled _, ?_⟩
    intro budget hOk
    cases hOk
  · dsimp only
    constructor
    · cases env.resolve [] false with
      | error text => exact (hStart.resolved false).settled _
      | ok candidates => exact staticLoop_settled _ none (hStart.resolved false)
    · intro budget hOk
      cases hOk
  · dsimp only
    have hLoop := dynamicLoop_settled budget saved [] none hStart
        ⟨fun key hKey => (by cases hKey), nodup_nil⟩
    refine ⟨hLoop.1, ?_⟩
    intro other hOk
    cases hOk
    refine ⟨?_, hLoop.2.2⟩
    have hCount := hLoop.2.1
    have hNone : probes ({ candidate := saved } : World).log = [] := rfl
    rw [hNone] at hCount
    simpa only [length_nil, Nat.zero_add] using hCount

/- A pool line whose probe raises something that says nothing about the proxy. -/
def brokenEnv : Env where
  lower := fun text => text
  http_status_codes := fun _ => []
  resolve := fun _ _ => .ok [{ proxy_url := "http://p1", proxy_pool := some { name := "pool" } }]
  probe := fun _ _ => .raised "invalid JSON"

/- Its pool is told nothing about the line that was probed. -/
theorem broken_probe_unreported :
    (probes (run brokenEnv { proxy_mode := "global" } none).1.log).map (fun p => p.1.proxy_url) =
        ["http://p1"] ∧ reports (run brokenEnv { proxy_mode := "global" } none).1.log = [] ∧
      ¬ ∀ p ∈ probes (run brokenEnv { proxy_mode := "global" } none).1.log, ((reports
            (run brokenEnv { proxy_mode := "global" } none).1.log).filter fun report =>
          report.proxy_url = p.1.proxy_url).length = 1 := by
  decide

end ProbeCandidates
