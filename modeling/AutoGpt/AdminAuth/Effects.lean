import AutoGpt.AdminAuth.Requests

/-
  What a step of a request can do to the stores. The rules at
  the end turn facts about one step of one request into facts
  about every run.

  The main theorems are:
    * `AdminAuth.Effect.row`
    * `AdminAuth.Effect.sound`
    * `AdminAuth.run_jobs_of_steps`
-/

open List
open KeyedTable

----
-- Effects
----

namespace AdminAuth

/- The update of `verify_token` is going to renew. -/
def renews (env : Env) (client : Client) (claims : Claims) (now : Nat) (stored : Session) : Bool :=
  ((touchOf env claims now client stored).bind Touch.renewal).isSome

/- The world after a step. A quiet step writes at most the pending challenges; every other step is
   listed with the tests that it has passed. -/
inductive Effect (env : Env) (client : Client) (w : World) :
    Job → World → Prop where
| quiet
    (job : Job) (pending : KeyedTable Pending String Pending.temp_token) :
    Effect env client w job { w with pending := pending }
| verified
    (claims : Claims) (now : Nat) (route : Route) (stored : Session)
    (hFound : w.sessions.find? claims.jti = some stored)
    (hValid : rowValid env claims now stored) :
    Effect env client w (.verifyRow claims now route)
      (if renews env client claims now stored then w.use claims.jti now
        else (w.use claims.jti now).complete claims.jti now)
| touched (t : Touch) (route : Route) :
    Effect env client w (.touch t route) (touchRow env t route w).1
| loggedOut (jti : String) (now : Nat) :
    Effect env client w (.logoutWrite jti now)
      { w with sessions := revokeSessions [jti] now "logout" w.sessions }
| stepUpRehashed (salt : Nat) (password : String) (goal : Goal) :
    Effect env client w (.stepUpRehash password goal) (w.setHash env salt password)
| loginRehashed (salt : Nat) (password : String) (checked : Nat) :
    Effect env client w (.loginRehash password checked) (w.setHash env salt password)
| replaced (draw : Draw) (replace : Replace) (version : Int) :
    Effect env client w (.replaceConfig replace version)
      (replaceConfig env draw replace version w).1
| revoked
    (replace : Replace) (epoch : Nat) (jtis : List String) (now : Nat) :
    Effect env client w (.revokeAll replace epoch jtis now)
      { w with
        sessions := revokeSessions jtis now replace.reason w.sessions,
        log := { w.log with returned := max w.log.returned epoch } }
| persisted
    (claims : Claims) (checked : Nat) (hJti : isJti claims.jti)
    (hNew : ∀ old ∈ w.log.issued, old.jti ≠ claims.jti) :
    Effect env client w (.persist claims checked)
      { w with
        sessions := persistSession env (newSession env client claims checked) w.sessions
        log :=
          { w.log with
            issued := w.log.issued ++ [claims],
            uses := w.log.uses ++ [(claims.jti, claims.iat)],
            completed := w.log.completed ++ [(claims.jti, claims.iat)] } }

theorem Effect.rfl_quiet (job : Job) : Effect env client w job w := Effect.quiet job w.pending

theorem verifyRow_effect (claims : Claims) (now : Nat) (route : Route) :
    Effect env client w (.verifyRow claims now route)
      (verifyRow env client claims now route w).1 := by
  unfold verifyRow
  cases hFound : w.sessions.find? claims.jti with
  | none => exact Effect.rfl_quiet _
  | some stored =>
    by_cases hValid : rowValid env claims now stored
    · have hEffect := @Effect.verified env client w claims now route stored hFound hValid
      dsimp only
      rw [if_pos hValid]
      unfold renews at hEffect
      cases hTouch : touchOf env claims now client stored with
      | none =>
        rw [hTouch] at hEffect
        exact hEffect
      | some t =>
        rw [hTouch] at hEffect
        exact hEffect
    · dsimp only
      rw [if_neg hValid]
      exact Effect.rfl_quiet _

theorem logoutWrite_effect (jti : String) (now : Nat) :
    Effect env client w (.logoutWrite jti now) (logoutWrite jti now w).1 := by
  unfold logoutWrite
  split
  · exact Effect.loggedOut jti now
  · exact Effect.rfl_quiet _

theorem revokeAll_effect (replace : Replace) (epoch : Nat) (jtis : List String) (now : Nat) :
    Effect env client w (.revokeAll replace epoch jtis now)
      (revokeAll replace epoch jtis now w).1 := by
  unfold revokeAll
  split
  · exact Effect.revoked replace epoch jtis now
  · exact Effect.rfl_quiet _

theorem persistToken_effect (claims : Claims) (checked : Nat) :
    Effect env client w (.persist claims checked) (persistToken env client claims checked w).1 := by
  unfold persistToken
  split
  next _ => exact Effect.rfl_quiet _
  next hAccepted =>
    rw [not_or] at hAccepted
    apply Effect.persisted claims checked
    · simpa using hAccepted.1
    · intro old hOld hSame
      apply hAccepted.2
      rw [any_eq_true]
      exact ⟨old, hOld, by simpa using hSame⟩

theorem totpCheck_effect (job : Job) (temp_token code secret : String) :
    Effect env client w job (totpCheck env temp_token code secret w).1 := by
  unfold totpCheck checkChallenge
  repeat' split
  all_goals exact Effect.quiet _ _

/- Every step has one of the effects. -/
theorem advance_effect (draw : Draw) (job : Job) :
    Effect env client w job (advance env draw client w job).1 := by
  cases job with
  | verifyRow claims now route => exact verifyRow_effect claims now route
  | touch t route => exact Effect.touched t route
  | logoutWrite jti now => exact logoutWrite_effect jti now
  | stepUpRehash password goal => exact Effect.stepUpRehashed draw.salt password goal
  | loginRehash password checked => exact Effect.loginRehashed draw.salt password checked
  | replaceConfig replace version => exact Effect.replaced draw replace version
  | revokeAll replace epoch jtis now => exact revokeAll_effect replace epoch jtis now
  | persist claims checked => exact persistToken_effect claims checked
  | totpCheck temp_token code secret => exact totpCheck_effect _ temp_token code secret
  | loginChallenge checked => exact Effect.quiet _ _
  | verify claims route =>
    simp only [advance, verifyClaims]
    split <;> exact Effect.rfl_quiet _
  | logoutRead jti =>
    simp only [advance, logoutRead]
    repeat' split
    all_goals exact Effect.rfl_quiet _
  | enableRead secret code current_password =>
    simp only [advance, enableRead]
    repeat' split
    all_goals exact Effect.rfl_quiet _
  | disableRead current_password code =>
    simp only [advance, disableRead]
    split <;> exact Effect.rfl_quiet _
  | stepUp password goal =>
    simp only [advance, stepUp]
    repeat' split
    all_goals exact Effect.rfl_quiet _
  | enableCode secret code =>
    simp only [advance, enableCode]
    split <;> exact Effect.rfl_quiet _
  | disableCode secret code =>
    simp only [advance, disableCode]
    split <;> exact Effect.rfl_quiet _
  | setup password allowed =>
    simp only [advance, setup]
    repeat' split
    all_goals exact Effect.rfl_quiet _
  | login password =>
    simp only [advance, login]
    repeat' split
    all_goals exact Effect.rfl_quiet _
  | loginTotp checked =>
    simp only [advance, loginTotp]
    split <;> exact Effect.rfl_quiet _
  | replaceVersion replace => exact Effect.rfl_quiet _
  | listSessions replace epoch => exact Effect.rfl_quiet _
  | totp temp_token code => exact Effect.rfl_quiet _
  | issue checked => exact Effect.rfl_quiet _
  | finished answer => exact Effect.rfl_quiet _

----
-- Rows
----

/- What a step of a job can do to a stored session. -/
inductive RowMove (env : Env) (row : Session) :
    Job → Session → Prop where
| same (job : Job) : RowMove env row job row
| touched
    (t : Touch) (route : Route) (hApplies : t.applies env row) :
    RowMove env row (.touch t route) (row.touched t)
| loggedOut (jti : String) (now : Nat) :
    RowMove env row (.logoutWrite jti now) (row.revoked now "logout")
| revoked
    (replace : Replace) (epoch : Nat) (jtis : List String) (now : Nat) :
    RowMove env row (.revokeAll replace epoch jtis now) (row.revoked now replace.reason)

theorem find?_touchSessions (t : Touch) (sessions : Sessions) (jti : String) :
    (touchSessions env t sessions).find? jti = (sessions.find? jti).map fun row =>
        if t.applies env row then row.touched t else row :=
  find?_updateWhere sessions (t.applies env) (Session.touched t) (fun _ => rfl) jti

theorem find?_revokeSessions (jtis : List String) (now : Nat) (reason : String)
    (sessions : Sessions) (jti : String) :
    (revokeSessions jtis now reason sessions).find? jti = (sessions.find? jti).map fun row =>
        if row.jti ∈ jtis then row.revoked now reason
        else row := by
  have hFind := find?_updateWhere sessions (fun row => decide (row.jti ∈ jtis))
      (Session.revoked now reason) (fun _ => rfl) jti
  refine Eq.trans hFind ?_
  simp only [decide_eq_true_eq]

theorem row_of_persistSession (hFound : (persistSession env row sessions).find? jti = some row') :
    row' = row ∨ sessions.find? jti = some row' := by
  unfold persistSession at hFound
  rw [find?_deleteWhere] at hFound
  have hInserted : (sessions.insertNew row).find? jti = some row' :=
    (Option.filter_eq_some_iff.mp hFound).1
  cases hTaken : sessions.find? row.jti with
  | none =>
    rw [find?_insertNew sessions hTaken] at hInserted
    split at hInserted
    · exact .inl (Option.some.inj hInserted).symm
    · exact .inr hInserted
  | some old =>
    have hMem : row.jti ∈ sessions.rows.map Session.jti := by
      have hOld := mem_of_find? hTaken
      exact mem_map.mpr ⟨old, hOld.1, hOld.2⟩
    unfold insertNew at hInserted
    rw [dif_pos hMem] at hInserted
    exact .inr hInserted

theorem find?_persistSession (hNew : sessions.find? row.jti = none) (jti : String) :
    (persistSession env row sessions).find? jti = (if row.jti = jti then some row
        else sessions.find? jti).filter fun old => !(decide (old.instance_id = env.instance_id) &&
            decide (old.expires_at + 30 * 86400 < row.issued_at)) := by
  unfold persistSession
  rw [find?_deleteWhere, find?_insertNew sessions hNew]

/- A stored session is a new one or comes from an older row of the same token. -/
theorem Effect.row (hEffect : Effect env client w job w')
    (hFound : w'.sessions.find? jti = some row') :
    (∃ row, w.sessions.find? jti = some row ∧ RowMove env row job row') ∨
    ∃ claims checked, job = .persist claims checked ∧ row' = newSession env client claims checked ∧
      ∀ old ∈ w.log.issued, old.jti ≠ claims.jti := by
  cases hEffect with
  | quiet _ pending => exact .inl ⟨row', hFound, .same _⟩
  | verified claims now route stored hStored hValid =>
    left
    split at hFound
    all_goals exact ⟨row', hFound, .same _⟩
  | touched t route =>
    left
    have hTouched : (touchSessions env t w.sessions).find? jti = some row' := by
      unfold touchRow at hFound
      dsimp only at hFound
      split at hFound <;> exact hFound
    rw [find?_touchSessions, Option.map_eq_some_iff] at hTouched
    rcases hTouched with ⟨row, hRow, hSame⟩
    refine ⟨row, hRow, ?_⟩
    by_cases hApplies : t.applies env row
    · rw [if_pos hApplies] at hSame
      rw [← hSame]
      exact .touched t route hApplies
    · rw [if_neg hApplies] at hSame
      rw [← hSame]
      exact .same _
  | loggedOut out now =>
    left
    rw [find?_revokeSessions, Option.map_eq_some_iff] at hFound
    rcases hFound with ⟨row, hRow, hSame⟩
    refine ⟨row, hRow, ?_⟩
    rw [← hSame]
    split
    · exact .loggedOut out now
    · exact .same _
  | revoked replace epoch jtis now =>
    left
    rw [find?_revokeSessions, Option.map_eq_some_iff] at hFound
    rcases hFound with ⟨row, hRow, hSame⟩
    refine ⟨row, hRow, ?_⟩
    rw [← hSame]
    split
    · exact .revoked replace epoch jtis now
    · exact .same _
  | stepUpRehashed salt password goal => exact .inl ⟨row', hFound, .same _⟩
  | loginRehashed salt password checked => exact .inl ⟨row', hFound, .same _⟩
  | replaced draw replace version => exact .inl ⟨row', hFound, .same _⟩
  | persisted claims checked hJti hNew =>
    rcases row_of_persistSession hFound with hIs | hOld
    · exact .inr ⟨claims, checked, rfl, hIs, hNew⟩
    · exact .inl ⟨row', hOld, .same _⟩

----
-- Passing Time
----

/- The same stores and log at the same or a later time. -/
structure World.Idle (w w' : World) : Prop where
  clock_le : w.clock ≤ w'.clock
  config_eq : w'.config = w.config
  sessions_eq : w'.sessions = w.sessions
  log_eq : w'.log = w.log

structure World.Later (w w' : World) : Prop where
  clock_le : w.clock ≤ w'.clock
  issued_le : w.log.issued ⊆ w'.log.issued
  uses_le : w.log.uses ⊆ w'.log.uses
  completed_le : w.log.completed ⊆ w'.log.completed

variable {w w' : World}
theorem World.Idle.later (hIdle : w.Idle w') : w.Later w' where
  clock_le := hIdle.clock_le
  issued_le := by rw [hIdle.log_eq]; exact List.Subset.refl _
  uses_le := by rw [hIdle.log_eq]; exact List.Subset.refl _
  completed_le := by
    rw [hIdle.log_eq]
    exact List.Subset.refl _

theorem Effect.later (hEffect : Effect env client w job w') : w.Later w' := by
  cases hEffect with
  | verified claims now route stored hFound hValid =>
    split
    · exact ⟨le_rfl, List.Subset.refl _, subset_append_left _ _, List.Subset.refl _⟩
    · exact ⟨le_rfl, List.Subset.refl _, subset_append_left _ _,
          subset_append_left _ _⟩
  | touched t route =>
    unfold touchRow
    split
    · exact ⟨le_rfl, List.Subset.refl _, List.Subset.refl _, subset_append_left _ _⟩
    · exact ⟨le_rfl, List.Subset.refl _, List.Subset.refl _, List.Subset.refl _⟩
  | persisted claims checked hJti hNew => exact ⟨le_rfl, subset_append_left _ _,
          subset_append_left _ _, subset_append_left _ _⟩
  | _ => exact ⟨le_rfl, List.Subset.refl _, List.Subset.refl _, List.Subset.refl _⟩

theorem Effect.same_jobs (hEffect : Effect env client w job w') :
    w'.jobs = w.jobs ∧ w'.clock = w.clock := by
  cases hEffect with
  | verified claims now route stored hFound hValid => split <;> exact ⟨rfl, rfl⟩
  | touched t route =>
    unfold touchRow
    split <;> exact ⟨rfl, rfl⟩
  | _ => exact ⟨rfl, rfl⟩

----
-- Sound Requests
----

/- A new password has passed `_validate_new_password`. -/
def Change.Sound : Change → Prop
| .passwordHash password => password.length ≤ 1024
| .totpSecret _ => True

/- The change that a route asks for is sound. -/
def Goal.Sound : Goal → Prop
| .changePassword password => password.length ≤ 1024
| _ => True

/- What a request holds fits what the system has logged. -/
def Job.Sound (env : Env) (w : World) : Job → Prop
| .verifyRow _ now _ => now ≤ w.clock
| .touch t _ => t.now ≤ w.clock ∧ (t.claims.jti, t.now) ∈ w.log.uses ∧
      ∀ expires_at, t.renewal = some expires_at →
        expires_at = min (t.now + env.settings.idle_timeout) t.claims.exp
| .logoutWrite _ now => now ≠ 0
| .stepUp _ goal => goal.Sound
| .stepUpRehash _ goal => goal.Sound
| .replaceVersion replace => replace.change.Sound
| .replaceConfig replace _ => replace.change.Sound
| .listSessions replace _ => replace.change.Sound
| .revokeAll replace _ _ now => replace.change.Sound ∧ now ≠ 0
| .persist claims _ =>
    claims.iat ≤ w.clock ∧ claims.exp = claims.iat + env.settings.absolute_timeout
| _ => True

variable {job : Job}

theorem Job.Sound.mono (hSound : job.Sound env w) (hLater : w.Later w') : job.Sound env w' := by
  have hClock := hLater.clock_le
  cases job with
  | verifyRow claims now route => exact Nat.le_trans hSound hClock
  | touch t route => exact ⟨Nat.le_trans hSound.1 hClock, hLater.uses_le hSound.2.1, hSound.2.2⟩
  | persist claims checked => exact ⟨Nat.le_trans hSound.1 hClock, hSound.2⟩
  | _ => exact hSound

theorem newPasswordError_none (hNone : newPasswordError password = none) :
    password.length ≤ 1024 := by
  unfold newPasswordError at hNone
  split at hNone
  · cases hNone
  · split at hNone
    · cases hNone
    · omega

theorem Goal.job_sound {goal : Goal} (hSound : goal.Sound) : goal.job.Sound env w := by
  cases goal with
  | changePassword password => exact hSound
  | enableTotp secret code => trivial
  | disableTotp secret code => trivial

theorem Route.job_sound (claims : Claims) (route : Route) : (route.job claims).Sound env w := by
  cases route with
  | changePassword current_password new_password =>
    simp only [Route.job]
    split
    next _ _ => trivial
    next hValid => exact newPasswordError_none hValid
  | _ => trivial

theorem Request.job_sound (request : Request) : request.job.Sound env w := by
  cases request <;> trivial

theorem touchOf_renewal (hTouch : touchOf env claims now client stored = some t)
    (hRenewal : t.renewal = some expires_at) :
    expires_at = min (now + env.settings.idle_timeout)
        stored.absolute_expires_at := by
  unfold touchOf at hTouch
  dsimp only at hTouch
  split at hTouch
  · rw [← Option.some.inj hTouch] at hRenewal
    dsimp only at hRenewal
    split at hRenewal
    · exact (Option.some.inj hRenewal).symm
    · cases hRenewal
  · cases hTouch

theorem touchOf_fields
    (hTouch : touchOf env claims now client stored = some t) : t.claims = claims ∧ t.now = now := by
  unfold touchOf at hTouch
  dsimp only at hTouch
  split at hTouch
  · rw [← Option.some.inj hTouch]
    exact ⟨rfl, rfl⟩
  · cases hTouch

theorem rowValid_fields (hValid : rowValid env claims now stored) :
    stored.instance_id = env.instance_id ∧ stored.auth_version = claims.auth_version ∧
      stored.issued_at = claims.iat ∧ stored.absolute_expires_at = claims.exp ∧
      stored.revoked_at = 0 ∧ now < stored.expires_at ∧ now < stored.absolute_expires_at ∧
      stored.expires_at ≤ stored.absolute_expires_at := by
  simpa [rowValid, and_assoc] using hValid

theorem verifyRow_sound (hNow : now ≤ w.clock) :
    (verifyRow env client claims now route w).2.Sound env
      (verifyRow env client claims now route w).1 := by
  unfold verifyRow
  split
  next _ => trivial
  next stored hFound =>
    split
    next hValid =>
      split
      next _ => exact Route.job_sound claims route
      next t hTouch =>
        have hFields := touchOf_fields hTouch
        have hExp := (rowValid_fields hValid).2.2.2.1
        refine ⟨?_, ?_, ?_⟩
        · rw [hFields.2]
          split <;> exact hNow
        · rw [hFields.1, hFields.2]
          split
          all_goals
            exact mem_append_right _ (mem_singleton_self _)
        · intro expires_at hRenewal
          rw [touchOf_renewal hTouch hRenewal, hFields.1, hFields.2, hExp]
    next _ => trivial

theorem setup_sound (password : String) (allowed : Bool) :
    (setup env password allowed w).2.Sound env (setup env password allowed w).1 := by
  cases hError : newPasswordError password with
  | some detail =>
    simp only [setup, hError]
    trivial
  | none =>
    have hLength := newPasswordError_none hError
    simp only [setup, hError]
    generalize storedHash env w.config = stored
    repeat' split
    all_goals first | exact hLength | trivial

theorem totpCheck_sound (temp_token code secret : String) :
    (totpCheck env temp_token code secret w).2.Sound env
      (totpCheck env temp_token code secret w).1 := by
  unfold totpCheck checkChallenge
  repeat' split
  all_goals trivial

/- The next step of a sound request is sound. -/
theorem advance_sound (draw : Draw) (hClock : w.clock ≠ 0) (hSound : job.Sound env w) :
    (advance env draw client w job).2.Sound env (advance env draw client w job).1 := by
  cases job with
  | verifyRow claims now route => exact verifyRow_sound hSound
  | touch t route => exact Route.job_sound t.claims route
  | setup password allowed => exact setup_sound password allowed
  | totpCheck temp_token code secret => exact totpCheck_sound temp_token code secret
  | stepUpRehash password goal => exact Goal.job_sound hSound
  | replaceVersion replace => exact hSound
  | replaceConfig replace version => exact hSound
  | listSessions replace epoch => exact ⟨hSound, hClock⟩
  | issue checked => exact ⟨le_rfl, rfl⟩
  | verify claims route =>
    simp only [advance, verifyClaims]
    split
    · exact le_rfl
    · trivial
  | stepUp password goal =>
    simp only [advance, stepUp]
    generalize storedHash env w.config = stored
    split
    · trivial
    · split
      · exact hSound
      · exact Goal.job_sound hSound
  | logoutRead jti =>
    simp only [advance, logoutRead]
    repeat' split
    all_goals first | exact hClock | trivial
  | logoutWrite jti now =>
    simp only [advance, logoutWrite]
    split <;> trivial
  | enableRead secret code current_password =>
    simp only [advance, enableRead]
    generalize totpSecret env w.config = stored
    repeat' split
    all_goals trivial
  | disableRead current_password code =>
    simp only [advance, disableRead]
    generalize totpSecret env w.config = stored
    split <;> trivial
  | enableCode secret code =>
    simp only [advance, enableCode]
    split <;> trivial
  | disableCode secret code =>
    simp only [advance, disableCode]
    split <;> trivial
  | revokeAll replace epoch jtis now =>
    simp only [advance, revokeAll]
    repeat' split
    all_goals trivial
  | login password =>
    simp only [advance, login]
    generalize storedHash env w.config = stored
    repeat' split
    all_goals trivial
  | loginTotp checked =>
    simp only [advance, loginTotp]
    generalize totpSecret env w.config = stored
    split <;> trivial
  | persist claims checked =>
    simp only [advance, persistToken]
    split <;> trivial
  | loginRehash password checked => trivial
  | loginChallenge checked => trivial
  | totp temp_token code => trivial
  | finished answer => trivial

----
-- Runs
----

/- A condition on a step: on the request that makes it and on the world at that time. -/
def OnJob (C : World → Job → Prop) (w : World) : Op → Prop
| .advance i seconds _ =>
    match w.jobs[i]? with
    | none => True
    | some task => C (w.wait seconds) task.job
| _ => True

instance
    {C : World → Job → Prop} [∀ w job, Decidable (C w job)] (w : World) (op : Op) :
    Decidable (OnJob C w op) := by
  unfold OnJob
  split
  · split <;> infer_instance
  · infer_instance

/- A property of worlds, and one that all requests have. -/
def World.Holds (P : World → Prop) (Q : World → Job → Prop) (w : World) : Prop :=
  P w ∧ ∀ task ∈ w.jobs, Q w task.job

variable {Q C : World → Job → Prop}
variable (hIdle : ∀ w w' : World, w.Idle w' → P w → P w')
  (hIdleJob : ∀ (w w' : World) job, w.Idle w' → Q w job → Q w' job)
  (hArrive : ∀ w (request : Request), Q w request.job) (hEnd : ∀ w, Q w (.finished .none))
  (hAdvance : ∀ draw client w job, w.Holds P Q → Q w job → C w job →
        P (advance env draw client w job).1 ∧
          Q (advance env draw client w job).1 (advance env draw client w job).2 ∧
          ∀ task ∈ w.jobs, Q (advance env draw client w job).1 task.job)
include hIdle hIdleJob hArrive hEnd hAdvance

/- The rule for one operation: passing time keeps both properties, requests arrive with theirs, and
   a step that meets its condition keeps them. -/
theorem step_jobs (op : Op) (hHolds : w.Holds P Q) (hCondition : OnJob C w op) :
    (step env w op).1.Holds P Q := by
  rcases hHolds with ⟨hP, hQ⟩
  cases op with
  | arrive client request =>
    have hSame : w.Idle { w with jobs := w.jobs ++ [{ client := client, job := request.job }] } :=
      ⟨le_rfl, rfl, rfl, rfl⟩
    refine ⟨hIdle _ _ hSame hP, ?_⟩
    intro task hTask
    rcases mem_append.mp hTask with hOld | hNew
    · exact hIdleJob _ _ _ hSame (hQ task hOld)
    · rw [mem_singleton.mp hNew]
      exact hArrive _ request
  | drop i =>
    simp only [step]
    cases hJob : w.jobs[i]? with
    | none => exact ⟨hP, hQ⟩
    | some task =>
      have hSame : w.Idle { w with jobs := w.jobs.set i { task with job := .finished .none } } :=
        ⟨le_rfl, rfl, rfl, rfl⟩
      refine ⟨hIdle _ _ hSame hP, ?_⟩
      intro other hOther
      rcases mem_or_eq_of_mem_set hOther with hOld | hNew
      · exact hIdleJob _ _ _ hSame (hQ other hOld)
      · rw [hNew]
        exact hEnd _
  | restart =>
    have hSame : w.Idle { w with jobs := [], pending := .empty } := ⟨le_rfl, rfl, rfl, rfl⟩
    refine ⟨hIdle _ _ hSame hP, ?_⟩
    intro task hTask
    cases hTask
  | advance i seconds draw =>
    have hWait : w.Idle (w.wait seconds) := ⟨Nat.le_add_right _ _, rfl, rfl, rfl⟩
    have hWaited : (w.wait seconds).Holds P Q := ⟨hIdle _ _ hWait hP,
        fun task hTask => hIdleJob _ _ _ hWait (hQ task hTask)⟩
    simp only [OnJob] at hCondition
    simp only [step]
    cases hJob : w.jobs[i]? with
    | none => exact hWaited
    | some task =>
      rw [hJob] at hCondition
      have hTask := mem_of_getElem? hJob
      rcases hAdvance draw task.client (w.wait seconds)
          task.job hWaited (hWaited.2 task hTask)
          hCondition with
        ⟨hNextP, hNext, hOthers⟩
      have hSame : (advance env draw task.client (w.wait seconds) task.job).1.Idle
            ((w.wait seconds).run1 env draw i task) := ⟨le_rfl, rfl, rfl, rfl⟩
      refine ⟨hIdle _ _ hSame hNextP, ?_⟩
      intro other hOther
      rcases mem_or_eq_of_mem_set hOther with hOld | hNew
      · exact hIdleJob _ _ _ hSame (hOthers other hOld)
      · rw [hNew]
        exact hIdleJob _ _ _ hSame hNext

theorem run_jobs_of_steps (hHolds : w.Holds P Q)
    (hSteps : Machine.Steps (step env) (OnJob C) w ops) :
    (Machine.run (step env) w ops).Holds P Q :=
  Machine.run_induction_of_steps
    (fun _ op hStart hStep => step_jobs hIdle hIdleJob hArrive hEnd hAdvance op hStart hStep)
    hHolds hSteps

end AdminAuth
