import AutoGpt.AdminAuth.Effects

/-
  Changes of the administrator's credentials: which sessions
  are accepted, and which password is valid, after such a
  change has returned.

  The main theorems are:
    * `AdminAuth.credential_changes_respected`
    * `AdminAuth.login_outlives_change`
    * `AdminAuth.rehash_restores_password`
-/

----
-- Guarantees And Conditions
----

namespace AdminAuth

/- The stored hash verifies this password and no other. -/
def OnlyPassword (env : Env) (config : Config) (password : String) :
    Prop :=
  ∀ other, (verifyPassword env other (storedHash env config)).1 ↔ other = password

/- No accepted session is older than a credential change that has returned, and the stored hash
   verifies exactly the password of the last change. -/
structure Respected (env : Env) (w : World) : Prop where
  sessions : ∀ (claims : Claims) (now : Nat) (row : Session),
      claimsValid w.config claims now → w.sessions.find? claims.jti = some row →
      rowValid env claims now row → w.log.returned ≤ row.checked
  password : ∀ password, w.log.password = some password → OnlyPassword env w.config password

/- The credential change whose sessions a request has listed and is about to revoke. -/
def Job.listed : Job → Nat
| .revokeAll _ epoch _ _ => epoch
| _ => 0

/- A password check is newer than every credential change that
   has returned or is about to revoke the listed sessions. -/
def World.Recent (w : World) (checked : Nat) : Prop :=
  w.log.returned ≤ checked ∧ ∀ task ∈ w.jobs, task.job.listed ≤ checked

instance (w : World) (checked : Nat) :
    Decidable (w.Recent checked) :=
  inferInstanceAs (Decidable (_ ∧ _))

/- A token of the current version is stored for a recent check only. A version is written when the
   unrevoked sessions that it makes current are recent. A rehash writes a password that the stored
   hash still verifies. -/
def Settled (env : Env) (w : World) : Job → Prop
| .persist claims checked => claims.auth_version = authVersion w.config → w.Recent checked
| .replaceConfig _ version => ∀ row ∈ w.sessions.rows, row.instance_id = env.instance_id →
      row.revoked_at = 0 →
      row.auth_version = max 1 version →
      w.Recent row.checked
| .stepUpRehash password _ =>
    w.log.password = none ∨ (verifyPassword env password (storedHash env w.config)).1
| .loginRehash password _ =>
    w.log.password = none ∨ (verifyPassword env password (storedHash env w.config)).1
| _ => True

instance (env : Env) (w : World) (job : Job) :
    Decidable (Settled env w job) := by
  apply job.casesOn (motive := fun job => Decidable (Settled env w job)) <;> intros <;>
    dsimp only [Settled] <;> infer_instance

----
-- Live Sessions
----

/- A stored session that a token can still use. -/
structure World.Live (env : Env) (w : World) (row : Session) :
    Prop where
  found : w.sessions.find? row.jti = some row
  instance_eq : row.instance_id = env.instance_id
  not_revoked : row.revoked_at = 0
  current : row.auth_version = authVersion w.config

/- What a request that is about to revoke sessions leaves. -/
def Job.Covers (row : Session) : Job → Prop
| .revokeAll _ epoch jtis _ => row.jti ∈ jtis ∨ epoch ≤ row.checked
| _ => True

/- A request leaves no live session from before its change. -/
def Job.Sweeps (env : Env) (w : World) (job : Job) : Prop :=
  job.Sound env w ∧ ∀ row, w.Live env row → job.Covers row

structure Guarded (env : Env) (w : World) : Prop where
  started : w.clock ≠ 0
  recent : ∀ row, w.Live env row → w.log.returned ≤ row.checked
  password : ∀ password, w.log.password = some password → OnlyPassword env w.config password

variable {w w' : World}
variable {job : Job}

theorem Job.covers_of_listed {row : Session} (hListed : job.listed ≤ row.checked) :
    job.Covers row := by
  cases job with
  | revokeAll replace epoch jtis now => exact .inr hListed
  | _ => trivial

theorem Job.Covers.congr (hCovers : job.Covers row) (hJti : row.jti = row'.jti)
    (hChecked : row.checked = row'.checked) : job.Covers row' := by
  cases job with
  | revokeAll replace epoch jtis now =>
    unfold Job.Covers at hCovers ⊢
    rw [← hJti, ← hChecked]
    exact hCovers
  | _ => trivial

theorem RowMove.kept (hMove : RowMove env row job row') :
    row'.jti = row.jti ∧ row'.checked = row.checked ∧ row'.instance_id = row.instance_id ∧
      row'.auth_version = row.auth_version := by
  cases hMove with
  | _ => exact ⟨rfl, rfl, rfl, rfl⟩

theorem RowMove.not_revoked (hSound : job.Sound env w) {row row' : Session}
    (hMove : RowMove env row job row') (hZero : row'.revoked_at = 0) : row.revoked_at = 0 := by
  cases hMove with
  | same _ => exact hZero
  | touched t route _ => exact hZero
  | loggedOut jti now => exact absurd hZero hSound
  | revoked replace epoch jtis now => exact absurd hZero hSound.2

theorem Effect.live (hEffect : Effect env client w job w') (hSound : job.Sound env w)
    (hVersion : authVersion w'.config = authVersion w.config) (hLive : w'.Live env row') :
    (∃ row, w.Live env row ∧ row.jti = row'.jti ∧ row.checked = row'.checked) ∨
    ∃ claims checked, job = .persist claims checked ∧
      row' = newSession env client claims checked := by
  rcases hEffect.row hLive.found with ⟨row, hFound, hMove⟩ | ⟨claims, checked, hJob, hNew, _⟩
  · left
    have hKept := hMove.kept
    refine ⟨row, ?_, hKept.1.symm, hKept.2.1.symm⟩
    constructor
    · rw [← hKept.1]
      exact hFound
    · rw [← hKept.2.2.1]
      exact hLive.instance_eq
    · exact hMove.not_revoked hSound hLive.not_revoked
    · rw [← hVersion, ← hKept.2.2.2]
      exact hLive.current
  · exact .inr ⟨claims, checked, hJob, hNew⟩

----
-- One Step
----

theorem storedHash_hash (hHash : config.auth_password_hash = env.argon2_hash salt password) :
    storedHash env config = env.argon2_hash salt password := by
  have hNonempty : env.argon2_hash salt password ≠ "" := by
    intro hEmpty
    have hPrefix := env.hash_prefix salt password
    rw [hEmpty] at hPrefix
    exact absurd (List.IsPrefix.length_le hPrefix) (by decide)
  unfold storedHash configGet PyText.orElse
  rw [hHash, env.hash_stripped, if_neg hNonempty]

theorem onlyPassword_hash (hHash : config.auth_password_hash = env.argon2_hash salt password)
    (hLength : password.length ≤ 1024) : OnlyPassword env config password := by
  intro other
  rw [storedHash_hash hHash]
  exact verifyPassword_hash env salt hLength other

theorem length_of_verifyPassword
    (hValid : (verifyPassword env password stored).1) : password.length ≤ 1024 := by
  by_contra hLong
  unfold verifyPassword at hValid
  rw [if_pos (by omega)] at hValid
  cases hValid

theorem setHash_password
    (hPassword : ∀ password, w.log.password = some password → OnlyPassword env w.config password)
    (salt : Nat) (hCondition :
      w.log.password = none ∨ (verifyPassword env rehashed (storedHash env w.config)).1)
    (hLast : w.log.password = some password) :
    OnlyPassword env (w.setHash env salt rehashed).config
      password := by
  rcases hCondition with hNone | hValid
  · rw [hNone] at hLast
    cases hLast
  · have hSame : rehashed = password := (hPassword password hLast rehashed).mp hValid
    have hLength := length_of_verifyPassword hValid
    subst hSame
    exact onlyPassword_hash rfl hLength

theorem Effect.password (hEffect : Effect env client w job w') (hSound : job.Sound env w)
    (hSettled : Settled env w job)
    (hPassword : ∀ password, w.log.password = some password → OnlyPassword env w.config password)
    {password : String} (hLast : w'.log.password = some password) :
    OnlyPassword env w'.config password := by
  cases hEffect with
  | verified claims now route stored hFound hValid =>
    split at hLast
    · rw [if_pos (by assumption)]
      exact hPassword password hLast
    · rw [if_neg (by assumption)]
      exact hPassword password hLast
  | touched t route =>
    unfold touchRow at hLast ⊢
    dsimp only at hLast ⊢
    split at hLast
    · rw [if_pos (by assumption)]
      exact hPassword password hLast
    · rw [if_neg (by assumption)]
      exact hPassword password hLast
  | stepUpRehashed salt rehashed goal => exact setHash_password hPassword salt hSettled hLast
  | loginRehashed salt rehashed checked => exact setHash_password hPassword salt hSettled hLast
  | replaced draw replace version =>
    unfold replaceConfig at hLast ⊢
    have hChangeSound : replace.change.Sound := hSound
    cases hChange : replace.change with
    | passwordHash new =>
      rw [hChange] at hLast hChangeSound
      cases Option.some.inj hLast
      exact onlyPassword_hash rfl hChangeSound
    | totpSecret secret =>
      rw [hChange] at hLast
      exact hPassword password hLast
  | _ => exact hPassword password hLast

theorem route_listed (claims : Claims) (route : Route) : (route.job claims).listed = 0 := by
  cases route with
  | changePassword current_password new_password =>
    simp only [Route.job]
    split <;> rfl
  | _ => rfl

theorem goal_listed (goal : Goal) : goal.job.listed = 0 := by cases goal <;> rfl

theorem advance_listed (draw : Draw) (hJob : ∀ replace epoch, job ≠ .listSessions replace epoch) :
    (advance env draw client w job).2.listed = 0 := by
  cases job with
  | listSessions replace epoch => exact absurd rfl (hJob replace epoch)
  | verifyRow claims now route =>
    simp only [advance, verifyRow]
    repeat' split
    all_goals first | rfl | exact route_listed claims route
  | touch t route => exact route_listed t.claims route
  | stepUp password goal =>
    simp only [advance, stepUp]
    repeat' split
    all_goals first | rfl | exact goal_listed goal
  | stepUpRehash password goal => exact goal_listed goal
  | setup password allowed =>
    simp only [advance, setup]
    repeat' split
    all_goals rfl
  | login password =>
    simp only [advance, login]
    repeat' split
    all_goals rfl
  | totpCheck temp_token code secret =>
    simp only [advance, totpCheck, checkChallenge]
    repeat' split
    all_goals rfl
  | _ =>
    simp only [advance, verifyClaims, logoutRead, logoutWrite,
      enableRead, disableRead, enableCode, disableCode, revokeAll, loginTotp, persistToken]
    repeat' split
    all_goals rfl

theorem listSessions_covers (replace : Replace) (epoch : Nat)
    (hLive : w.Live env row) : (listSessions env replace epoch w).2.Covers row := by
  left
  apply List.mem_map.mpr
  refine ⟨row, List.mem_filter.mpr ⟨?_, ?_⟩, rfl⟩
  · exact (KeyedTable.mem_of_find? hLive.found).1
  · simp [hLive.instance_eq, hLive.not_revoked]

/- A step that changes neither the version nor what has returned keeps the live sessions recent. -/
theorem Effect.kept_row (hEffect : Effect env client w job w')
    (hHolds : w.Holds (Guarded env) (Job.Sweeps env)) (hSound : job.Sound env w)
    (hSettled : Settled env w job) (hVersion : authVersion w'.config = authVersion w.config)
    (hReturned : w'.log.returned = w.log.returned) {row' : Session} (hLive : w'.Live env row') :
    w'.log.returned ≤ row'.checked ∧ ∀ task ∈ w.jobs, task.job.Covers row' := by
  rw [hReturned]
  rcases hEffect.live hSound hVersion hLive with
    ⟨row, hOld, hJti, hChecked⟩ | ⟨claims, checked, hJob, hNew⟩
  · constructor
    · rw [← hChecked]
      exact hHolds.1.recent row hOld
    · intro task hTask
      have hCovers := (hHolds.2 task hTask).2 row hOld
      exact hCovers.congr hJti hChecked
  · have hCurrent := hLive.current
    rw [hVersion] at hCurrent
    subst hJob hNew
    have hRecent : w.Recent checked := hSettled hCurrent
    refine ⟨hRecent.1, ?_⟩
    intro task hTask
    exact Job.covers_of_listed (hRecent.2 task hTask)

theorem replaced_row (hSettled : Settled env w (.replaceConfig replace version))
    (hLive : (replaceConfig env draw replace version w).1.Live env row) : w.Recent row.checked := by
  have hStored := (KeyedTable.mem_of_find? hLive.found).1
  apply hSettled row hStored hLive.instance_eq hLive.not_revoked
  have hCurrent := hLive.current
  unfold replaceConfig authVersion replacedConfig at hCurrent
  cases hChange : replace.change with
  | passwordHash password =>
    rw [hChange] at hCurrent
    exact hCurrent
  | totpSecret secret =>
    rw [hChange] at hCurrent
    exact hCurrent

theorem revoked_row (hNow : now ≠ 0)
    (hCovers : ∀ row, w.Live env row → (Job.revokeAll replace epoch jtis now).Covers row)
    (hFound : (revokeSessions jtis now replace.reason w.sessions).find? row'.jti = some row')
    (hInstance : row'.instance_id = env.instance_id) (hZero : row'.revoked_at = 0)
    (hCurrent : row'.auth_version = authVersion w.config) :
    w.Live env row' ∧ epoch ≤ row'.checked := by
  rw [find?_revokeSessions, Option.map_eq_some_iff] at hFound
  rcases hFound with ⟨row, hRow, hSame⟩
  by_cases hListed : row.jti ∈ jtis
  · rw [if_pos hListed] at hSame
    rw [← hSame] at hZero
    exact absurd hZero hNow
  · rw [if_neg hListed] at hSame
    subst hSame
    have hLive : w.Live env row := ⟨hRow, hInstance, hZero, hCurrent⟩
    rcases hCovers row hLive with hIn | hNewer
    · exact absurd hIn hListed
    · exact ⟨hLive, hNewer⟩

----
-- Runs
----

/- After every step that meets its condition, the live
   sessions are recent and covered by the other requests. -/
theorem Effect.live_recent (hEffect : Effect env client w job w')
    (hHolds : w.Holds (Guarded env) (Job.Sweeps env)) (hSweeps : job.Sweeps env w)
    (hSettled : Settled env w job) {row' : Session} (hLive : w'.Live env row') :
    w'.log.returned ≤ row'.checked ∧ ∀ task ∈ w.jobs, task.job.Covers row' := by
  have hKept := hEffect.kept_row hHolds hSweeps.1 hSettled
  cases hEffect with
  | verified claims now route stored hFound hValid =>
    split at hLive
    next hRenews =>
      rw [if_pos hRenews] at hKept ⊢
      exact hKept rfl rfl hLive
    next hRenews =>
      rw [if_neg hRenews] at hKept ⊢
      exact hKept rfl rfl hLive
  | touched t route =>
    unfold touchRow at hLive hKept ⊢
    dsimp only at hLive hKept ⊢
    split at hLive
    next hRenewal =>
      rw [if_pos hRenewal] at hKept ⊢
      exact hKept rfl rfl hLive
    next hRenewal =>
      rw [if_neg hRenewal] at hKept ⊢
      exact hKept rfl rfl hLive
  | replaced draw replace version =>
    have hRecent := replaced_row hSettled hLive
    refine ⟨hRecent.1, ?_⟩
    intro task hTask
    exact Job.covers_of_listed (hRecent.2 task hTask)
  | revoked replace epoch jtis now =>
    rcases revoked_row hSweeps.1.2 hSweeps.2 hLive.found
        hLive.instance_eq hLive.not_revoked hLive.current with
      ⟨hOld, hNewer⟩
    constructor
    · exact Nat.max_le.mpr ⟨hHolds.1.recent row' hOld, hNewer⟩
    · intro task hTask
      exact (hHolds.2 task hTask).2 row' hOld
  | _ => exact hKept rfl rfl hLive

theorem advance_covers (draw : Draw) {row : Session}
    (hLive : (advance env draw client w job).1.Live env row) :
    (advance env draw client w job).2.Covers row := by
  by_cases hListing : ∃ replace epoch, job = .listSessions replace epoch
  · rcases hListing with ⟨replace, epoch, hJob⟩
    subst hJob
    exact listSessions_covers replace epoch hLive
  · apply Job.covers_of_listed
    rw [advance_listed draw]
    · exact Nat.zero_le _
    · intro replace epoch hJob
      exact hListing ⟨replace, epoch, hJob⟩

theorem guarded_advance (draw : Draw) (client : Client)
    (hHolds : w.Holds (Guarded env) (Job.Sweeps env)) (hSweeps : job.Sweeps env w)
    (hSettled : Settled env w job) :
    Guarded env (advance env draw client w job).1 ∧
      (advance env draw client w job).2.Sweeps env (advance env draw client w job).1 ∧
      ∀ task ∈ w.jobs, task.job.Sweeps env (advance env draw client w job).1 := by
  have hEffect : Effect env client w job (advance env draw client w job).1 :=
    advance_effect draw job
  have hStarted : (advance env draw client w job).1.clock ≠ 0 := by
    rw [hEffect.same_jobs.2]
    exact hHolds.1.started
  refine ⟨⟨hStarted, ?_, ?_⟩, ⟨?_, ?_⟩, ?_⟩
  · intro row hLive
    exact (hEffect.live_recent hHolds hSweeps hSettled hLive).1
  · intro password hLast
    exact hEffect.password hSweeps.1 hSettled hHolds.1.password hLast
  · exact advance_sound draw hHolds.1.started hSweeps.1
  · intro row hLive
    exact advance_covers draw hLive
  · intro task hTask
    refine ⟨(hHolds.2 task hTask).1.mono hEffect.later, ?_⟩
    intro row hLive
    exact (hEffect.live_recent hHolds hSweeps hSettled hLive).2 task hTask

theorem World.Idle.live (hIdle : w.Idle w') (hLive : w'.Live env row) : w.Live env row := by
  rcases hLive with ⟨hFound, hInstance, hZero, hCurrent⟩
  rw [hIdle.sessions_eq] at hFound
  rw [hIdle.config_eq] at hCurrent
  exact ⟨hFound, hInstance, hZero, hCurrent⟩

theorem World.Idle.guarded (hIdle : w.Idle w') (hGuarded : Guarded env w) : Guarded env w' := by
  have hClock := hIdle.clock_le
  have hStarted := hGuarded.started
  constructor
  · omega
  · intro row hLive
    rw [hIdle.log_eq]
    exact hGuarded.recent row (hIdle.live hLive)
  · rw [hIdle.log_eq, hIdle.config_eq]
    exact hGuarded.password

theorem Guarded.respected (hGuarded : Guarded env w) : Respected env w := by
  refine ⟨?_, hGuarded.password⟩
  intro claims now row hClaims hFound hValid
  have hFields := rowValid_fields hValid
  have hJti := (KeyedTable.mem_of_find? hFound).2
  apply hGuarded.recent
  constructor
  · rw [hJti]
    exact hFound
  · exact hFields.1
  · exact hFields.2.2.2.2.1
  · rw [hFields.2.1]
    unfold claimsValid at hClaims
    simp only [Bool.and_eq_true, decide_eq_true_eq] at hClaims
    exact hClaims.2

/- In every run whose steps all meet the condition, no accepted session comes from a password check
   before a credential change that has returned, and the stored hash verifies the password of the
   last change and no other. -/
theorem credential_changes_respected (env : Env) (config : Config) (ops : List Op)
    (hSettled : Machine.Steps (step env) (OnJob (Settled env)) { config := config } ops) :
    Respected env (run env config ops) := by
  have hInit : World.Holds (Guarded env) (Job.Sweeps env) { config := config } := by
    refine ⟨⟨Nat.one_ne_zero, ?_, ?_⟩, ?_⟩
    · intro row hLive
      exact Nat.zero_le _
    · intro password hLast
      cases hLast
    · intro task hTask
      cases hTask
  apply Guarded.respected
  refine (run_jobs_of_steps (P := Guarded env) (Q := Job.Sweeps env) ?_ ?_ ?_ ?_ ?_
      hInit hSettled).1
  · exact fun w w' hIdle hGuarded => hIdle.guarded hGuarded
  · intro w w' job hIdle hSweeps
    refine ⟨hSweeps.1.mono hIdle.later, ?_⟩
    exact fun row hLive => hSweeps.2 row (hIdle.live hLive)
  · intro w request
    refine ⟨Request.job_sound request, ?_⟩
    intro row hLive
    cases request <;> trivial
  · exact fun w => ⟨trivial, fun row hLive => trivial⟩
  · exact fun draw client w job hHolds hSweeps hStep =>
      guarded_advance draw client hHolds hSweeps hStep

----
-- Unsettled Runs
----

def defaultEnv : Env := plainEnv (Settings.ofRaw (12 * 3600) 3600 (7 * 86400))

/- A request makes some steps, one second each. -/
def advances (job count : Nat) (token : String) : List Op :=
  List.replicate count (.advance job 1 { token := token })

def firstJti : String := "aaaaaaaaaaaaaaaaaaaaaaaaaaaaaaaaaaaaaaaaaaaaaaaa"

def secondJti : String := "bbbbbbbbbbbbbbbbbbbbbbbbbbbbbbbbbbbbbbbbbbbbbbbb"

/- The hash of an old password, as it is written now and as it was written before. -/
def currentConfig : Config where
  auth_password_hash := plainHash "old password"

def legacyConfig : Config where
  auth_password_hash := "d4053d947fdb0170c0c4adc8302bc5ef" ++ "5882649251ab0b9af89e2c5f8c8abc21"

/- A login, and the password change of its session. -/
def loginThenChange : List Op := [.arrive {} (.login "old password")] ++ advances 0 6 firstJti ++
    [.arrive {} (.changePassword ⟨firstJti, 1, 4, 604804⟩ "old password" "new password")] ++
    advances 1 7 ""

/- The run meets the condition, so its end is as promised. -/
theorem loginThenChange_respected :
    Respected defaultEnv (run defaultEnv currentConfig loginThenChange) :=
  credential_changes_respected defaultEnv currentConfig loginThenChange (by decide +kernel)

/- A second login has checked the old password, and issues its token after the change. -/
def loginAcrossChange : List Op := [.arrive {} (.login "old password")] ++ advances 0 6 firstJti ++
    [.arrive {} (.login "old password")] ++
    advances 1 1 secondJti ++
    [.arrive {} (.changePassword ⟨firstJti, 1, 4, 604804⟩ "old password" "new password")] ++
    advances 2 7 "" ++ advances 1 5 secondJti

/- A second login has checked the old password against its
   legacy hash, and writes the new hash after the change. -/
def rehashAfterChange : List Op := [.arrive {} (.login "old password")] ++ advances 0 1 firstJti ++
    [.arrive {} (.login "old password")] ++
    advances 1 7 secondJti ++
    [.arrive {} (.changePassword ⟨secondJti, 1, 6, 604806⟩ "old password" "new password")] ++
    advances 2 7 "" ++ advances 0 1 ""

/- The late token is accepted after the change has returned,
   and the late rehash writes the old password back. -/
theorem credential_change_undone :
    ¬ Respected defaultEnv (run defaultEnv currentConfig loginAcrossChange) ∧
      ¬ Respected defaultEnv (run defaultEnv legacyConfig rehashAfterChange) := by
  constructor
  · have hEnd :
        let w := run defaultEnv currentConfig loginAcrossChange
        let claims : Claims := ⟨secondJti, 2, 17, 604817⟩
        let row := newSession defaultEnv {} claims 0
        claimsValid w.config claims 20 ∧ w.sessions.find? secondJti = some row ∧
          rowValid defaultEnv claims 20 row ∧ row.checked < w.log.returned := by
      decide +kernel
    intro hRespected
    have hRecent := hRespected.sessions _ _ _ hEnd.1 hEnd.2.1 hEnd.2.2.1
    exact Nat.not_lt.mpr hRecent hEnd.2.2.2
  · have hEnd :
        let w := run defaultEnv legacyConfig rehashAfterChange
        w.log.password = some "new password" ∧
          (verifyPassword defaultEnv "old password" (storedHash defaultEnv w.config)).1 := by
      decide +kernel
    intro hRespected
    have hSame := (hRespected.password _ hEnd.1 "old password").mp hEnd.2
    exact absurd hSame (by decide)

end AdminAuth
