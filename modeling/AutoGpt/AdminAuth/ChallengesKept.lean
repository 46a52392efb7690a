import AutoGpt.AdminAuth.Challenges
import AutoGpt.AdminAuth.Credentials

/-
  The sessions that a temporary token leads to, and the
  promises of the pending challenges over whole runs.

  Main theorems: `AdminAuth.Ticketed.advance`, `AdminAuth.challenges_kept`
-/

open List

----
-- Jobs Of A Challenge
----

namespace AdminAuth

def Job.issuing : Job → Bool
| .issue _ => true
| .persist _ _ => true
| _ => false

/- The jobs of `verify_totp_route` for a temporary token. -/
def TotpJob (temp_token : String) : Job → Prop
| .totp token _ => token = temp_token
| .totpCheck token _ _ => token = temp_token
| .issue _ => True
| .persist _ _ => True
| .verify _ (.issued _) => True
| .verifyRow _ _ (.issued _) => True
| .touch _ (.issued _) => True
| .finished _ => True
| _ => False

/- What a step adds to the sessions of a token. -/
def stored (w w' : World) : Nat := if w'.log.issued = w.log.issued then 0 else 1

/- A request for a token becomes one that stores a session only with an accepted code, and stores
   one only once. -/
structure Spends (temp_token : String) (l : Ledger) (env : Env) (w : World)
    (job : Job) (next : World × Job) : Prop where
  totpJob : TotpJob temp_token next.2
  spent : next.2.issuing.toNat + stored w next.1 ≤
      job.issuing.toNat + (evaluation? env w l job).toList.countP (Evaluation.accepts temp_token)

theorem Spends.quiet {next : World × Job} (hJob : TotpJob temp_token next.2)
    (hIssuing : next.2.issuing = false) (hSame : next.1.log.issued = w.log.issued) :
    Spends temp_token l env w job next where
  totpJob := hJob
  spent := by
    unfold stored
    rw [hIssuing, if_pos hSame]
    exact Nat.zero_le _

theorem checkChallenge_issued (code secret : String) :
    (checkChallenge env temp_token code secret w).1.log = w.log := by
  unfold checkChallenge
  repeat' split
  all_goals rfl

theorem found_of_accepted
    (hAccepted : (checkChallenge env temp_token code secret w).2 = .accepted epoch) :
    ∃ pending, Found env w temp_token pending ∧ secret ≠ "" ∧
      verifyTotp env secret code w.clock = some true := by
  unfold checkChallenge at hAccepted
  cases hFind : (cleanPending w).find? temp_token with
  | none =>
    rw [hFind] at hAccepted
    cases hAccepted
  | some pending =>
    rw [hFind] at hAccepted
    dsimp only at hAccepted
    split at hAccepted
    next hCurrent =>
      split at hAccepted
      next _ => cases hAccepted
      next hSecret =>
        split at hAccepted
        next _ => cases hAccepted
        next hVerdict => exact ⟨pending, ⟨hFind, hCurrent⟩, hSecret, hVerdict⟩
        next _ =>
          split at hAccepted
          next _ => cases hAccepted
          next _ => cases hAccepted
    next _ => cases hAccepted

theorem checkChallenge_spends (code secret : String) :
    Spends temp_token l env w (.totpCheck temp_token code secret)
      (totpCheck env temp_token code secret w) := by
  by_cases hAccepted : ∃ epoch, (checkChallenge env temp_token code secret w).2 = .accepted epoch
  · rcases hAccepted with ⟨epoch, hAccepted⟩
    refine { totpJob := ?_, spent := ?_ }
    · unfold totpCheck
      dsimp only
      rw [hAccepted]
      trivial
    · rcases found_of_accepted hAccepted with
        ⟨pending, hFound, hSecret, hVerdict⟩
      rw [evaluation?_of_found l code hFound hSecret, hVerdict]
      unfold totpCheck stored
      dsimp only
      rw [hAccepted, if_pos (by rw [checkChallenge_issued])]
      simp [ChallengeState.job, Job.issuing, accepts_judged]
  · refine Spends.quiet ?_ ?_ ?_
    · unfold totpCheck
      dsimp only
      cases hState : (checkChallenge env temp_token code secret w).2 with
      | accepted epoch => exact absurd ⟨epoch, hState⟩ hAccepted
      | _ => trivial
    · unfold totpCheck
      dsimp only
      cases hState : (checkChallenge env temp_token code secret w).2 with
      | accepted epoch => exact absurd ⟨epoch, hState⟩ hAccepted
      | _ => rfl
    · unfold totpCheck
      rw [checkChallenge_issued]

/- Every step of a request for a token. -/
theorem advance_spends (env : Env) (client : Client) (draw : Draw) (w : World) (l : Ledger)
    (hJob : TotpJob temp_token job) :
    Spends temp_token l env w job (advance env draw client w job) := by
  cases job with
  | totp token code => exact Spends.quiet hJob rfl rfl
  | totpCheck token code secret =>
    have hToken : token = temp_token := hJob
    rw [hToken]
    exact checkChallenge_spends code secret
  | issue checked => exact
        { totpJob := trivial, spent := by simp [advance, issueToken, stored, Job.issuing] }
  | persist claims checked =>
    refine { totpJob := ?_, spent := ?_ }
    · simp only [advance, persistToken]
      split <;> trivial
    · have hDone : (advance env draw client w (.persist claims checked)).2.issuing = false := by
        simp only [advance, persistToken]
        split <;> rfl
      have hOnce : stored w (advance env draw client w (.persist claims checked)).1 ≤ 1 := by
        unfold stored
        split
        · exact Nat.zero_le _
        · exact le_rfl
      rw [hDone]
      simp only [Bool.toNat_false, Job.issuing, Bool.toNat_true]
      omega
  | verify claims route =>
    cases route with
    | issued token =>
      have hDone : TotpJob temp_token (verifyClaims claims (.issued token) w).2 ∧
          (verifyClaims claims (.issued token) w).2.issuing = false ∧
          (verifyClaims claims (.issued token) w).1 = w := by
        unfold verifyClaims
        split
        · exact ⟨trivial, rfl, rfl⟩
        · exact ⟨trivial, rfl, rfl⟩
      refine Spends.quiet hDone.1 hDone.2.1 ?_
      simp only [advance]
      rw [hDone.2.2]
    | _ => exact hJob.elim
  | verifyRow claims now route =>
    cases route with
    | issued token =>
      refine Spends.quiet ?_ ?_ ?_
      · simp only [advance, verifyRow]
        repeat' split
        all_goals trivial
      · simp only [advance, verifyRow]
        repeat' split
        all_goals rfl
      · simp only [advance, verifyRow]
        repeat' split
        all_goals rfl
    | _ => exact hJob.elim
  | touch t route =>
    cases route with
    | issued token =>
      refine Spends.quiet trivial rfl ?_
      simp only [advance, touchRow]
      split <;> rfl
    | _ => exact hJob.elim
  | finished answer => exact Spends.quiet trivial rfl rfl
  | _ => exact hJob.elim

----
-- Tickets
----

/- The request of a token that is about to store a session. -/
def owes (temp_token : String) (x : Request × Task) : Bool :=
  decide (x.1.temp_token? = some temp_token) && x.2.job.issuing

/- The sessions of a token, stored or about to be, are not
   more than the codes that were accepted for it. -/
structure Ticketed (w : World) (l : Ledger) : Prop where
  length_eq : l.requests.length = w.jobs.length
  jobs_of : ∀ (i : Nat) (request : Request) (task : Task) (temp_token : String),
      l.requests[i]? = some request →
        request.temp_token? = some temp_token → w.jobs[i]? = some task → TotpJob temp_token task.job
  sessions_le : ∀ temp_token, (l.requests.zip w.jobs).countP (owes temp_token) +
          l.sessions.count temp_token ≤ l.accepted temp_token

variable {l : Ledger}

theorem zip_set {α β : Type} {as : List α} {bs : List β} {a : α} (b : β) (hAt : as[i]? = some a) :
    as.zip (bs.set i b) = (as.zip bs).set i (a, b) := by
  induction as generalizing bs i with
  | nil => cases hAt
  | cons first as ih =>
    cases bs with
    | nil => rfl
    | cons second bs =>
      cases i with
      | zero =>
        have hFirst : first = a := by simpa using hAt
        rw [hFirst]
        rfl
      | succ i =>
        have hRest : as[i]? = some a := by simpa using hAt
        simpa using ih hRest

theorem countP_zip_set {α β : Type} (test : α × β → Bool)
    {as : List α} {bs : List β} {a : α} {b : β} (b' : β)
    (hA : as[i]? = some a) (hB : bs[i]? = some b) :
    (as.zip (bs.set i b')).countP test + (test (a, b)).toNat =
      (as.zip bs).countP test + (test (a, b')).toNat := by
  obtain ⟨hLengthA, hGetA⟩ := List.getElem?_eq_some_iff.mp hA
  obtain ⟨hLengthB, hGetB⟩ := List.getElem?_eq_some_iff.mp hB
  have hLength : i < (as.zip bs).length := by
    rw [length_zip]
    omega
  have hGet : (as.zip bs)[i] = (a, b) := by rw [getElem_zip, hGetA, hGetB]
  have hCount := countP_set (p := test) (a := (a, b')) hLength
  have hPositive : test (a, b) → 0 < (as.zip bs).countP test := by
    intro hTest
    rw [countP_pos_iff]
    exact ⟨_, getElem_mem hLength, by rw [hGet]; exact hTest⟩
  rw [zip_set b' hA, hCount, hGet]
  cases hOld : test (a, b) with
  | false => cases test (a, b') <;> simp
  | true =>
    have hSome := hPositive hOld
    cases test (a, b') <;> simp <;> omega

theorem Ledger.accepted_append {l' : Ledger}
    (hEvaluations : l'.evaluations = l.evaluations ++ new) (temp_token : String) :
    l'.accepted temp_token =
      l.accepted temp_token + new.countP (Evaluation.accepts temp_token) := by
  unfold Ledger.accepted
  rw [hEvaluations, countP_append]

/- A request arrives; it owes no session. -/
theorem Ticketed.arrive (hTicketed : Ticketed w l) (client : Client) (request : Request) :
    Ticketed { w with jobs := w.jobs ++ [{ client := client, job := request.job }] }
      { l with requests := l.requests ++ [request] } where
  length_eq := by simp [hTicketed.length_eq]
  jobs_of := by
    intro i other task temp_token hRequest hToken hTask
    rw [getElem?_append] at hRequest hTask
    rw [hTicketed.length_eq] at hRequest
    split at hTask
    next hOld =>
      rw [if_pos hOld] at hRequest
      exact hTicketed.jobs_of i other task temp_token hRequest hToken hTask
    next hNew =>
      rw [if_neg hNew] at hRequest
      cases hIndex : i - w.jobs.length with
      | zero =>
        rw [hIndex] at hRequest hTask
        simp only [getElem?_cons_zero, Option.some.injEq] at hRequest hTask
        rw [← hTask]
        rw [← hRequest] at hToken
        cases request with
        | totp token code => exact Option.some.inj hToken
        | _ => simp [Request.temp_token?] at hToken
      | succ j =>
        rw [hIndex] at hTask
        simp at hTask
  sessions_le := by
    intro temp_token
    have hZip : (l.requests ++ [request]).zip
            (w.jobs ++ [{ client := client, job := request.job }]) =
          l.requests.zip w.jobs ++ [(request, { client := client, job := request.job })] := by
      rw [zip_append hTicketed.length_eq]
      rfl
    have hNone : owes temp_token
            (request, { client := client, job := request.job }) =
          false := by
      cases request <;> simp [owes, Request.job, Job.issuing]
    have hBefore := hTicketed.sessions_le temp_token
    rw [hZip, countP_append_one, hNone]
    exact hBefore

theorem Ticketed.ended (hTicketed : Ticketed w l) (hTask : w.jobs[i]? = some task) :
    Ticketed { w with jobs := w.jobs.set i { task with job := .finished .none } } l where
  length_eq := by simp [hTicketed.length_eq]
  jobs_of := by
    intro j request other temp_token hRequest hToken hOther
    rw [getElem?_set] at hOther
    split at hOther
    next hSame =>
      split at hOther
      next _ =>
        cases hOther
        trivial
      next _ => cases hOther
    next _ => exact hTicketed.jobs_of j request other temp_token hRequest hToken hOther
  sessions_le := by
    intro temp_token
    have hLength : i < l.requests.length := by
      rw [hTicketed.length_eq]
      exact (List.getElem?_eq_some_iff.mp hTask).1
    have hRequest : l.requests[i]? = some l.requests[i] := getElem?_eq_getElem hLength
    have hCount :=
      countP_zip_set (owes temp_token) { task with job := .finished .none } hRequest hTask
    have hNone : owes temp_token
            (l.requests[i], { task with job := .finished .none }) =
          false := by
      simp [owes, Job.issuing]
    rw [hNone, Bool.toNat_false] at hCount
    have hBefore := hTicketed.sessions_le temp_token
    dsimp only
    omega

theorem owes_eq (hToken : request.temp_token? = some temp_token) (task : Task) :
    owes temp_token (request, task) = task.job.issuing := by
  simp [owes, hToken]

theorem owes_other (hToken : request.temp_token? ≠ some temp_token) (task : Task) :
    owes temp_token (request, task) = false := by
  simp [owes, hToken]

theorem Ledger.sessions_advance (env : Env) (draw : Draw) (w : World) (task : Task)
    (hRequest : l.requests[i]? = some request) (temp_token : String) :
    (l.advance env draw i w task).sessions.count temp_token = l.sessions.count temp_token +
        if request.temp_token? = some temp_token then
          stored w (AdminAuth.advance env draw task.client w task.job).1
        else 0 := by
  unfold Ledger.advance stored
  dsimp only
  rw [hRequest, Option.bind_some]
  split
  next _ => simp
  next _ =>
    rw [count_append]
    cases hToken : request.temp_token? with
    | none => simp
    | some token =>
      by_cases hSame : token = temp_token
      · simp [hSame]
      · simp [hSame]

/- A step stores no session without an accepted code. -/
theorem Ticketed.advance (hTicketed : Ticketed w l) (hTask : w.jobs[i]? = some task) :
    Ticketed (w.run1 env draw i task) (l.advance env draw i w task) where
  length_eq := by
    have hJobs : (w.run1 env draw i task).jobs.length = w.jobs.length := by simp [World.run1]
    rw [hJobs]
    exact hTicketed.length_eq
  jobs_of := by
    intro j request other temp_token hRequest hToken hOther
    unfold World.run1 at hOther
    dsimp only at hOther
    rw [getElem?_set] at hOther
    split at hOther
    next hSame =>
      split at hOther
      next _ =>
        cases hOther
        rw [← hSame] at hRequest
        have hJob := hTicketed.jobs_of i request task temp_token hRequest hToken hTask
        exact (advance_spends env task.client draw w l hJob).totpJob
      next _ => cases hOther
    next _ => exact hTicketed.jobs_of j request other temp_token hRequest hToken hOther
  sessions_le := by
    intro temp_token
    have hLength : i < l.requests.length := by
      rw [hTicketed.length_eq]
      exact (List.getElem?_eq_some_iff.mp hTask).1
    have hRequest : l.requests[i]? = some l.requests[i] := getElem?_eq_getElem hLength
    have hCount := countP_zip_set (owes temp_token)
        { task with
          job := (AdminAuth.advance env draw task.client w
              task.job).2 }
        hRequest hTask
    have hSessions := Ledger.sessions_advance env draw w task hRequest temp_token
    have hAccepted : (l.advance env draw i w task).accepted temp_token = l.accepted temp_token +
            (evaluation? env w l task.job).toList.countP (Evaluation.accepts temp_token) :=
      Ledger.accepted_append rfl temp_token
    have hBefore := hTicketed.sessions_le temp_token
    have hRequests : (l.advance env draw i w task).requests = l.requests := rfl
    have hJobs : (w.run1 env draw i task).jobs = w.jobs.set i
            { task with
              job := (AdminAuth.advance env draw task.client w
                  task.job).2 } := rfl
    rw [hRequests, hJobs, hSessions, hAccepted]
    by_cases hToken : l.requests[i].temp_token? = some temp_token
    · have hSpends := (advance_spends env task.client draw w l
          (hTicketed.jobs_of i _ task temp_token hRequest hToken hTask)).spent
      rw [owes_eq hToken, owes_eq hToken] at hCount
      dsimp only at hCount
      rw [if_pos hToken]
      omega
    · rw [owes_other hToken, owes_other hToken] at hCount
      rw [if_neg hToken]
      omega

theorem Ticketed.congr (hTicketed : Ticketed w l) (hJobs : w'.jobs = w.jobs) :
    Ticketed w' l where
  length_eq := by
    rw [hJobs]
    exact hTicketed.length_eq
  jobs_of := by
    rw [hJobs]
    exact hTicketed.jobs_of
  sessions_le := by
    rw [hJobs]
    exact hTicketed.sessions_le

----
-- Orderly Runs
----

/- Both halves of what every orderly step keeps. -/
structure Watched (s : World × Ledger) : Prop where
  tracked : Tracked s.1 s.2
  ticketed : Ticketed s.1 s.2

/- An orderly step keeps the challenges and their tickets. -/
theorem watched_step (hWatched : Watched s) (op : Op)
    (hOrderly : Orderly env s op) : Watched (watch env s op).1 := by
  rcases s with ⟨w, l⟩
  rcases hWatched with ⟨hTracked, hTicketed⟩
  cases op with
  | arrive client request => exact
        { tracked := hTracked.subset (List.Subset.refl _) (le_rfl) rfl ⟨rfl, rfl, rfl⟩
          ticketed := hTicketed.arrive client request }
  | drop i =>
    have hSame : (watch env (w, l) (.drop i)).1.2 = l := rfl
    cases hTask : w.jobs[i]? with
    | none =>
      have hNext : (watch env (w, l) (.drop i)).1.1 = w := by simp [watch, step, hTask]
      refine { tracked := ?_, ticketed := ?_ }
      · rw [hNext, hSame]
        exact hTracked
      · rw [hNext, hSame]
        exact hTicketed
    | some task =>
      have hNext : (watch env (w, l) (.drop i)).1.1 =
            { w with
              jobs := w.jobs.set i
                  { task with job := .finished .none } } := by
        simp [watch, step, hTask]
      refine { tracked := ?_, ticketed := ?_ }
      · rw [hNext, hSame]
        exact hTracked.subset (List.Subset.refl _) (le_rfl) rfl ⟨rfl, rfl, rfl⟩
      · rw [hNext, hSame]
        exact hTicketed.ended hTask
  | restart =>
    refine
      { tracked := hTracked.subset (fun p hp => ?_) (le_rfl) rfl ⟨rfl, rfl, rfl⟩
        ticketed := { length_eq := rfl, jobs_of := ?_, sessions_le := ?_ } }
    · cases hp
    · intro i request task temp_token hRequest
      simp [watch, Ledger.after] at hRequest
    · intro temp_token
      have hBefore := hTicketed.sessions_le temp_token
      have hNone : (watch env (w, l) .restart).1.2.requests.zip
              (watch env (w, l) .restart).1.1.jobs = [] := rfl
      rw [hNone, countP_nil, Nat.zero_add]
      exact Nat.le_trans (Nat.le_add_left _ _) hBefore
  | advance i seconds draw =>
    have hWait : Tracked (w.wait seconds) l :=
      hTracked.subset (List.Subset.refl _) (Nat.le_add_right _ _) rfl ⟨rfl, rfl, rfl⟩
    have hSameJobs : Ticketed (w.wait seconds) l := hTicketed.congr rfl
    cases hTask : w.jobs[i]? with
    | none =>
      have hNext : (watch env (w, l) (.advance i seconds draw)).1 = (w.wait seconds, l) := by
        simp [watch, step, Ledger.after, hTask]
      rw [hNext]
      exact ⟨hWait, hSameJobs⟩
    | some task =>
      have hNext : (watch env (w, l) (.advance i seconds draw)).1 =
            ((w.wait seconds).run1 env draw i task,
              l.advance env draw i (w.wait seconds) task) := by
        simp [watch, step, Ledger.after, hTask]
      have hStep := hWait.advance i task (hOrderly task hTask)
      rw [hNext]
      exact
        { tracked := hStep.subset (List.Subset.refl _) (le_rfl) rfl ⟨rfl, rfl, rfl⟩
          ticketed := hSameJobs.advance hTask }

theorem Watched.kept (hWatched : Watched s) :
    ChallengesKept s.2 where
  one_session := by
    intro temp_token
    have hSessions := hWatched.ticketed.sessions_le temp_token
    have hOne := hWatched.tracked.accepted_le temp_token
    omega
  five_codes := hWatched.tracked.refused_le
  none_after := hWatched.tracked.none_after
  in_time := hWatched.tracked.in_time
  up_to_date := hWatched.tracked.up_to_date

theorem watched_init (config : Config) :
    Watched ({ config := config }, {}) where
  tracked :=
    { tokens_nodup := nodup_nil
      pending_created := fun p hp => by cases hp
      pending_refused := fun p hp => by cases hp
      pending_open := fun p hp => by cases hp
      pending_outdated := fun p hp => by cases hp
      evaluated_created := fun e he => by cases he
      outdated_created := nil_subset _
      accepted_le := fun _ => Nat.zero_le _
      refused_le := fun _ => Nat.zero_le _
      none_after := fun e he => by cases he
      in_time := fun e he => by cases he
      up_to_date := fun e he => by cases he }
  ticketed :=
    { length_eq := rfl
      jobs_of := by
        intro i request task temp_token hRequest
        simp at hRequest
      sessions_le := fun _ => le_rfl }

/- In every run whose steps are orderly, each temporary token leads to at most one session, at most
   five wrong codes are evaluated against it and none after the fifth, and no code is accepted for
   an expired or outdated challenge. -/
theorem challenges_kept (env : Env) (config : Config) (ops : List Op)
    (hOrderly : Machine.Steps (watch env) (Orderly env) ({ config := config }, {}) ops) :
    ChallengesKept (Machine.run (watch env) ({ config := config }, {}) ops).2 :=
  (Machine.run_induction_of_steps (P := Watched)
    (fun _ op hWatched hStep => watched_step hWatched op hStep) (watched_init config) hOrderly).kept

----
-- Disorderly Runs
----

/- The hash of the old password, and a second factor. -/
def totpConfig : Config where
  auth_password_hash := plainHash "old password"
  auth_totp_secret := "MFRGGZDF"

/- A login, a wrong code and the right one. -/
def loginWithTotp : List Op := [.arrive {} (.login "old password")] ++ advances 0 3 "c0" ++
    [.arrive {} (.totp "c0" "000000")] ++
    advances 1 2 "" ++
    [.arrive {} (.totp "c0" "287082")] ++
    advances 2 4 firstJti

/- The run is orderly, so its challenge is kept. -/
theorem loginWithTotp_kept :
    ChallengesKept
      (Machine.run (watch defaultEnv) ({ config := totpConfig }, {}) loginWithTotp).2 :=
  challenges_kept defaultEnv totpConfig loginWithTotp (by decide +kernel)

/- Three password changes of one session. The first has computed version 2 and waits; the third has
   checked its password and waits. The second writes version 2, and a login with its password gets a
   challenge of version 2. The third writes version 3; then the first writes version 2, and the code
   for the challenge arrives. -/
def versionComesBack : List Op :=
  let claims : Claims := ⟨firstJti, 1, 7, 604807⟩
  [.arrive {} (.login "old password")] ++ advances 0 3 "c0" ++ [.arrive {} (.totp "c0" "287082")] ++
    advances 1 4 firstJti ++ [.arrive {} (.changePassword claims "old password" "late password")] ++
    [.arrive {} (.changePassword claims "old password" "new password")] ++
    [.arrive {} (.changePassword claims "old password" "newer password")] ++
    advances 2 4 "" ++ advances 4 3 "" ++ advances 3 5 "" ++ [.arrive {} (.login "new password")] ++
    advances 5 3 "c1" ++ advances 4 2 "" ++ advances 2 1 "" ++ [.arrive {} (.totp "c1" "287082")] ++
    advances 6 4 secondJti

/- A code is accepted although the version has changed since the challenge was created. -/
theorem outdated_challenge_accepted :
    ¬ ChallengesKept
      (Machine.run (watch defaultEnv) ({ config := totpConfig }, {}) versionComesBack).2 := by
  have hEnd : ((Machine.run (watch defaultEnv)
            ({ config := totpConfig }, {})
            versionComesBack).2.evaluations.any fun e =>
          decide (e.verdict = some true) && e.outdated) =
        true := by
    decide +kernel
  intro hKept
  rw [any_eq_true] at hEnd
  rcases hEnd with ⟨e, he, hAccepted⟩
  rw [Bool.and_eq_true, decide_eq_true_eq] at hAccepted
  have hCurrent := hKept.up_to_date e he hAccepted.1
  rw [hAccepted.2] at hCurrent
  cases hCurrent

end AdminAuth
