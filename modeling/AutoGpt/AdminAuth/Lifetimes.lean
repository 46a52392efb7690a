import AutoGpt.AdminAuth.Effects

/-
  How long a session lives: its deadlines over a whole run,
  how a use prolongs it, and when it is over.

  The main theorems are:
    * `AdminAuth.sessions_keep_lifetimes`
    * `AdminAuth.renewal_lost_or_late`
-/

open KeyedTable (mem_of_find?)
open List
open Option
open Bool

----
-- Guarantees And Conditions
----

namespace AdminAuth

/- `verify_token` accepts the token at this time. -/
def World.Accepts (env : Env) (w : World) (claims : Claims) (now : Nat) :
    Prop :=
  claimsValid w.config claims now ∧
    ∃ row, w.sessions.find? claims.jti = some row ∧ rowValid env claims now row

/- Deadlines are those of the signed token. A token that is current and not revoked is accepted
   until its deadline, as long as its last use is not too long ago. A token without a use for the
   idle timeout is rejected. -/
structure Lifetimes (env : Env) (w : World) : Prop where
  bounded : ∀ jti row, w.sessions.find? jti = some row → row.expires_at ≤ row.absolute_expires_at ∧
        ∃ claims ∈ w.log.issued, claims.jti = jti ∧ claims.exp = row.absolute_expires_at
  used : ∀ claims ∈ w.log.issued, ∀ used now, (claims.jti, used) ∈ w.log.completed → w.clock ≤ now →
      now ≤ used + (env.settings.idle_timeout - env.settings.renew_interval) → now < claims.exp →
      claims.auth_version = authVersion w.config →
      (∀ row, w.sessions.find? claims.jti = some row → row.revoked_at = 0) →
      w.Accepts env claims now
  unused : ∀ claims now,
      (∀ used, (claims.jti, used) ∈ w.log.uses → used + env.settings.idle_timeout ≤ now) →
      ¬ w.Accepts env claims now

/- The deadline of a session never goes back. A revoked session stays revoked, and neither a revoked
   nor an expired session is prolonged. -/
structure Aged (w : World) (row row' : Session) : Prop where
  absolute : row'.absolute_expires_at = row.absolute_expires_at
  mono : row.expires_at ≤ row'.expires_at
  revoked : row.revoked_at ≠ 0 → row'.revoked_at ≠ 0 ∧ row'.expires_at = row.expires_at
  expired : row.expires_at ≤ w.clock → row'.expires_at = row.expires_at

/- A renewal that is about to be written finds its session. Where it prolongs the session, the
   session is not expired by now. Where it is dropped although the session is not revoked, because
   another request has seen activity in between, it is not needed: the session already lives as long
   as the use promises, or that time is over. -/
def Touch.Timely (env : Env) (t : Touch) (clock : Nat) (row : Session) :
    Prop :=
  match t.renewal with
  | none => True
  | some expires_at =>
    (t.applies env row → row.expires_at < expires_at → clock < row.expires_at) ∧
    (t.applies env row = false → row.revoked_at = 0 → t.now + (env.settings.idle_timeout -
          env.settings.renew_interval) < max row.expires_at clock ∨
      row.expires_at = row.absolute_expires_at)

def Timely (env : Env) (w : World) : Job → Prop
| .touch t _ =>
    match w.sessions.find? t.claims.jti with
    | none => True
    | some row => t.Timely env w.clock row
| _ => True

instance
    (env : Env) (t : Touch) (clock : Nat) (row : Session) : Decidable (t.Timely env clock row) := by
  unfold Touch.Timely
  split <;> infer_instance

instance (env : Env) (w : World) (job : Job) :
    Decidable (Timely env w job) := by
  unfold Timely
  split
  · split <;> infer_instance
  · infer_instance

----
-- Kept Deadlines
----

/- A row belongs to the token that was issued for it. -/
structure Session.Of (env : Env) (row : Session) (claims : Claims) : Prop where
  jti_eq : row.jti = claims.jti
  instance_eq : row.instance_id = env.instance_id
  version_eq : row.auth_version = claims.auth_version
  issued_eq : row.issued_at = claims.iat
  exp_eq : row.absolute_expires_at = claims.exp

/- A row lives as long as a use at this time promises. -/
def Session.Serves (env : Env) (row : Session) (clock used : Nat) : Prop :=
  used + (env.settings.idle_timeout - env.settings.renew_interval) < max row.expires_at clock ∨
    row.expires_at = row.absolute_expires_at

structure Kept (env : Env) (w : World) : Prop where
  started : w.clock ≠ 0
  token : ∀ claims ∈ w.log.issued, isJti claims.jti ∧ claims.iat ≤ w.clock ∧
        claims.exp = claims.iat + env.settings.absolute_timeout
  unique : ∀ claims ∈ w.log.issued, ∀ other ∈ w.log.issued, claims.jti = other.jti → claims = other
  row_token :
    ∀ jti row, w.sessions.find? jti = some row → ∃ claims ∈ w.log.issued, row.Of env claims
  row_bound : ∀ jti row, w.sessions.find? jti = some row → row.expires_at ≤ row.absolute_expires_at
  row_use : ∀ jti row, w.sessions.find? jti = some row →
      ∃ used, (jti, used) ∈ w.log.uses ∧ row.expires_at ≤ used + env.settings.idle_timeout
  use_token : ∀ jti used, (jti, used) ∈ w.log.uses → ∃ claims ∈ w.log.issued, claims.jti = jti
  use_row : ∀ jti used, (jti, used) ∈ w.log.uses →
      ∀ row, w.sessions.find? jti = some row → used < row.expires_at
  use_lost :
    ∀ jti used, (jti, used) ∈ w.log.uses → w.sessions.find? jti = none → used + 30 * 86400 < w.clock
  completed : ∀ jti used, (jti, used) ∈ w.log.completed → (jti, used) ∈ w.log.uses ∧
        ∀ row, w.sessions.find? jti = some row → row.revoked_at = 0 → row.Serves env w.clock used

----
-- Guarantees Of The Invariant
----

variable {w w' : World}

theorem Kept.accepts (hKept : Kept env w)
    (hIssued : claims ∈ w.log.issued) (hClock : w.clock ≤ now) (hExp : now < claims.exp)
    (hVersion : claims.auth_version = authVersion w.config)
    (hFound : w.sessions.find? claims.jti = some row) (hZero : row.revoked_at = 0)
    (hAlive : now < row.expires_at) : w.Accepts env claims now := by
  have hToken := hKept.token claims hIssued
  have hBound := hKept.row_bound _ row hFound
  have hMax := env.settings.absolute_le_max
  have hPos := env.settings.renew_pos
  have hRenew := env.settings.renew_le_idle
  have hIdle := env.settings.idle_le_absolute
  rcases hKept.row_token _ row hFound with ⟨other, hOther, hOf⟩
  have hSame : other = claims := by
    apply hKept.unique other hOther claims hIssued
    rw [← hOf.jti_eq]
    exact (mem_of_find? hFound).2
  subst hSame
  have hRowExp := hOf.exp_eq
  refine ⟨?_, row, hFound, ?_⟩
  · simp only [claimsValid, and_eq_true, decide_eq_true_eq]
    refine ⟨⟨⟨⟨⟨hToken.1, ?_⟩, hExp⟩, ?_⟩, ?_⟩, hVersion⟩
    all_goals omega
  · simp only [rowValid, and_eq_true, decide_eq_true_eq]
    refine ⟨⟨⟨⟨⟨⟨⟨hOf.instance_eq, hOf.version_eq⟩,
        hOf.issued_eq⟩, hOf.exp_eq⟩, hZero⟩, hAlive⟩, ?_⟩, hBound⟩
    omega

theorem Kept.lifetimes (hKept : Kept env w) : Lifetimes env w := by
  constructor
  · intro jti row hFound
    refine ⟨hKept.row_bound jti row hFound, ?_⟩
    rcases hKept.row_token jti row hFound with ⟨claims, hIssued, hOf⟩
    refine ⟨claims, hIssued, ?_, hOf.exp_eq.symm⟩
    rw [← hOf.jti_eq]
    exact (mem_of_find? hFound).2
  · intro claims hIssued used now hUsed hClock hGap hExp
      hVersion hActive
    have hCompleted := hKept.completed _ _ hUsed
    have hMax := env.settings.absolute_le_max
    have hIdle := env.settings.idle_le_absolute
    unfold maxAbsoluteTimeout at hMax
    cases hFound : w.sessions.find? claims.jti with
    | none =>
      have hLost := hKept.use_lost _ _ hCompleted.1 hFound
      omega
    | some row =>
      have hZero := hActive row hFound
      have hServes := hCompleted.2 row hFound hZero
      apply hKept.accepts hIssued hClock hExp hVersion hFound hZero
      rcases hServes with hLong | hFull
      · omega
      · rcases hKept.row_token _ row hFound with
          ⟨other, hOther, hOf⟩
        have hSame : other = claims := by
          apply hKept.unique other hOther claims hIssued
          rw [← hOf.jti_eq]
          exact (mem_of_find? hFound).2
        rw [hFull, hOf.exp_eq, hSame]
        exact hExp
  · intro claims now hUnused hAccepts
    rcases hAccepts.2 with ⟨row, hFound, hValid⟩
    have hFields := rowValid_fields hValid
    rcases hKept.row_use _ row hFound with ⟨used, hUsed, hBound⟩
    have hOver := hUnused used hUsed
    omega

----
-- One Step
----

theorem Session.Serves.mono {row row' : Session}
    (hServes : row.Serves env clock used) (hClock : clock ≤ clock')
    (hLonger : row.expires_at ≤ row'.expires_at)
    (hBound : row'.expires_at ≤ row'.absolute_expires_at)
    (hAbsolute : row'.absolute_expires_at = row.absolute_expires_at) :
    row'.Serves env clock' used := by
  unfold Session.Serves at hServes ⊢
  omega

/- The invariant does not see the credentials, and time may pass. -/
theorem Kept.congr (hKept : Kept env w) (hClock : w.clock ≤ w'.clock)
    (hSessions : w'.sessions = w.sessions) (hIssued : w'.log.issued = w.log.issued)
    (hUses : w'.log.uses = w.log.uses) (hCompleted : w'.log.completed = w.log.completed) :
    Kept env w' := by
  have hStarted := hKept.started
  constructor
  · omega
  · rw [hIssued]
    intro claims hMem
    have hToken := hKept.token claims hMem
    exact ⟨hToken.1, Nat.le_trans hToken.2.1 hClock, hToken.2.2⟩
  · rw [hIssued]
    exact hKept.unique
  · rw [hSessions, hIssued]
    exact hKept.row_token
  · rw [hSessions]
    exact hKept.row_bound
  · rw [hSessions, hUses]
    exact hKept.row_use
  · rw [hUses, hIssued]
    exact hKept.use_token
  · rw [hSessions, hUses]
    exact hKept.use_row
  · rw [hSessions, hUses]
    intro jti used hUsed hLost
    exact Nat.lt_of_lt_of_le (hKept.use_lost jti used hUsed hLost) hClock
  · rw [hSessions, hUses, hCompleted]
    intro jti used hMem
    have hDone := hKept.completed jti used hMem
    refine ⟨hDone.1, ?_⟩
    intro row hFound hZero
    exact
      (hDone.2 row hFound hZero).mono hClock (le_rfl) (hKept.row_bound jti row hFound) rfl

theorem Kept.use (hKept : Kept env w)
    (hFound : w.sessions.find? jti = some row) (hAlive : now < row.expires_at) :
    Kept env (w.use jti now) := by
  constructor
  · exact hKept.started
  · exact hKept.token
  · exact hKept.unique
  · exact hKept.row_token
  · exact hKept.row_bound
  · intro other old hOld
    rcases hKept.row_use other old hOld with ⟨used, hUsed, hBound⟩
    exact ⟨used, mem_append_left _ hUsed, hBound⟩
  · intro other used hUsed
    rcases mem_append.mp hUsed with hBefore | hNew
    · exact hKept.use_token other used hBefore
    · cases mem_singleton.mp hNew
      rcases hKept.row_token jti row hFound with ⟨claims, hIssued, hOf⟩
      refine ⟨claims, hIssued, ?_⟩
      rw [← hOf.jti_eq]
      exact (mem_of_find? hFound).2
  · intro other used hUsed old hOld
    rcases mem_append.mp hUsed with hBefore | hNew
    · exact hKept.use_row other used hBefore old hOld
    · cases mem_singleton.mp hNew
      cases some.inj (hFound.symm.trans hOld)
      exact hAlive
  · intro other used hUsed hLost
    rcases mem_append.mp hUsed with hBefore | hNew
    · exact hKept.use_lost other used hBefore hLost
    · cases mem_singleton.mp hNew
      cases hFound.symm.trans hLost
  · intro other used hUsed
    have hDone := hKept.completed other used hUsed
    exact ⟨mem_append_left _ hDone.1, hDone.2⟩

theorem Kept.complete (hKept : Kept env w)
    (hUsed : (jti, now) ∈ w.log.uses) (hServes :
      ∀ row, w.sessions.find? jti = some row → row.revoked_at = 0 → row.Serves env w.clock now) :
    Kept env (w.complete jti now) := by
  constructor
  · exact hKept.started
  · exact hKept.token
  · exact hKept.unique
  · exact hKept.row_token
  · exact hKept.row_bound
  · exact hKept.row_use
  · exact hKept.use_token
  · exact hKept.use_row
  · exact hKept.use_lost
  · intro other used hMem
    rcases mem_append.mp hMem with hBefore | hNew
    · exact hKept.completed other used hBefore
    · cases mem_singleton.mp hNew
      exact ⟨hUsed, hServes⟩

structure Session.Prolonged (env : Env) (w : World) (row row' : Session) : Prop where
  jti_eq : row'.jti = row.jti
  of_token : ∀ claims, row.Of env claims → row'.Of env claims
  absolute_eq : row'.absolute_expires_at = row.absolute_expires_at
  mono : row.expires_at ≤ row'.expires_at
  bound : row'.expires_at ≤ row'.absolute_expires_at
  use : row'.expires_at = row.expires_at ∨
      ∃ used, (row.jti, used) ∈ w.log.uses ∧ row'.expires_at ≤ used + env.settings.idle_timeout
  not_revoked : row'.revoked_at = 0 → row.revoked_at = 0

theorem Session.Of.touched {row : Session} (hOf : row.Of env claims) (t : Touch) :
    (row.touched t).Of env claims :=
  ⟨hOf.jti_eq, hOf.instance_eq, hOf.version_eq, hOf.issued_eq, hOf.exp_eq⟩

theorem Session.Of.revoked {row : Session} (hOf : row.Of env claims) (now : Nat) (reason : String) :
    (row.revoked now reason).Of env claims :=
  ⟨hOf.jti_eq, hOf.instance_eq, hOf.version_eq, hOf.issued_eq, hOf.exp_eq⟩

theorem Touch.applies_fields {t : Touch} (hApplies : t.applies env row) :
    row.jti = t.claims.jti ∧ row.revoked_at = 0 ∧ row.absolute_expires_at = t.claims.exp := by
  simp only [Touch.applies, and_eq_true, decide_eq_true_eq] at hApplies
  rcases hApplies with ⟨⟨⟨⟨⟨⟨⟨hJti, _⟩, _⟩, hZero⟩, _⟩, hExp⟩, _⟩, _⟩
  exact ⟨hJti, hZero, hExp⟩

theorem expires_touched (t : Touch) (row : Session) :
    (row.touched t).expires_at =
      match t.renewal with
      | none => row.expires_at
      | some expires_at => max row.expires_at expires_at := rfl

section

variable (hKept : Kept env w)
include hKept

/- The update of `verify_token` prolongs a session at most by the idle timeout after the use. -/
theorem touched_prolonged {t : Touch} (hSound : (Job.touch t route).Sound env w)
    (hFound : w.sessions.find? jti = some row) (hApplies : t.applies env row) :
    row.Prolonged env w (row.touched t) := by
  have hFields := Touch.applies_fields hApplies
  have hBound := hKept.row_bound jti row hFound
  have hExpires := expires_touched t row
  have hAbsolute : (row.touched t).absolute_expires_at = row.absolute_expires_at := rfl
  cases hRenewal : t.renewal with
  | none =>
    rw [hRenewal] at hExpires
    dsimp only at hExpires
    exact
      { jti_eq := rfl, of_token := fun claims hOf => hOf.touched t, absolute_eq := rfl,
        mono := Nat.le_of_eq hExpires.symm, bound := by omega, use := .inl hExpires,
        not_revoked := fun hZero => hZero }
  | some expires_at =>
    have hDeadline := hSound.2.2 expires_at hRenewal
    rw [hRenewal] at hExpires
    dsimp only at hExpires
    refine
      { jti_eq := rfl, of_token := fun claims hOf => hOf.touched t, absolute_eq := rfl,
        mono := by omega, bound := by omega, use := ?_, not_revoked := fun hZero => hZero }
    by_cases hLonger : expires_at ≤ row.expires_at
    · left
      omega
    · right
      refine ⟨t.now, ?_, by omega⟩
      rw [hFields.1]
      exact hSound.2.1

theorem Session.Prolonged.refl {jti : String}
    (hFound : w.sessions.find? jti = some row) : row.Prolonged env w row :=
  { jti_eq := rfl, of_token := fun _ hOf => hOf, absolute_eq := rfl, mono := le_rfl,
    bound := hKept.row_bound jti row hFound, use := .inl rfl, not_revoked := fun hZero => hZero }

theorem revoked_prolonged {jti : String}
    (hFound : w.sessions.find? jti = some row) (hNow : now ≠ 0) (reason : String) :
    row.Prolonged env w (row.revoked now reason) :=
  { jti_eq := rfl, of_token := fun _ hOf => hOf.revoked now reason, absolute_eq := rfl,
    mono := le_rfl, bound := hKept.row_bound jti row hFound, use := .inl rfl,
    not_revoked := fun hZero => absurd hZero hNow }

/- An update of the rows that prolongs them keeps the invariant. -/
theorem Kept.moved {sessions : Sessions} (f : Session → Session)
    (hFind : ∀ jti, sessions.find? jti = (w.sessions.find? jti).map f)
    (hRow : ∀ jti row, w.sessions.find? jti = some row → row.Prolonged env w (f row)) :
    Kept env { w with sessions := sessions } := by
  have hBack : ∀ jti row', sessions.find? jti = some row' →
        ∃ row, w.sessions.find? jti = some row ∧ row.Prolonged env w row' := by
    intro jti row' hFound
    rw [hFind, map_eq_some_iff] at hFound
    rcases hFound with ⟨row, hOld, hSame⟩
    refine ⟨row, hOld, ?_⟩
    rw [← hSame]
    exact hRow jti row hOld
  constructor
  · exact hKept.started
  · exact hKept.token
  · exact hKept.unique
  · intro jti row' hFound
    rcases hBack jti row' hFound with ⟨row, hOld, hLong⟩
    rcases hKept.row_token jti row hOld with ⟨claims, hIssued, hOf⟩
    exact ⟨claims, hIssued, hLong.of_token claims hOf⟩
  · intro jti row' hFound
    rcases hBack jti row' hFound with ⟨row, hOld, hLong⟩
    exact hLong.bound
  · intro jti row' hFound
    rcases hBack jti row' hFound with ⟨row, hOld, hLong⟩
    rcases hLong.use with hSame | ⟨used, hUsed, hBound⟩
    · rw [hSame]
      exact hKept.row_use jti row hOld
    · rw [(mem_of_find? hOld).2] at hUsed
      exact ⟨used, hUsed, hBound⟩
  · exact hKept.use_token
  · intro jti used hUsed row' hFound
    rcases hBack jti row' hFound with ⟨row, hOld, hLong⟩
    exact Nat.lt_of_lt_of_le (hKept.use_row jti used hUsed row hOld) hLong.mono
  · intro jti used hUsed hLost
    apply hKept.use_lost jti used hUsed
    rw [hFind] at hLost
    exact map_eq_none_iff.mp hLost
  · intro jti used hMem
    have hDone := hKept.completed jti used hMem
    refine ⟨hDone.1, ?_⟩
    intro row' hFound hZero
    rcases hBack jti row' hFound with ⟨row, hOld, hLong⟩
    exact (hDone.2 row hOld (hLong.not_revoked hZero)).mono (le_rfl) hLong.mono hLong.bound
        hLong.absolute_eq

theorem Kept.revoke (jtis : List String) {now : Nat} (hNow : now ≠ 0) (reason : String) :
    Kept env { w with sessions := revokeSessions jtis now reason w.sessions } := by
  apply hKept.moved _ (find?_revokeSessions jtis now reason w.sessions)
  intro jti row hFound
  split
  · exact revoked_prolonged hKept hFound hNow reason
  · exact Session.Prolonged.refl hKept hFound

theorem Kept.touch {t : Touch} (hSound : (Job.touch t route).Sound env w) :
    Kept env { w with sessions := touchSessions env t w.sessions } := by
  apply hKept.moved _ (find?_touchSessions t w.sessions)
  intro jti row hFound
  split
  next hApplies => exact touched_prolonged hKept hSound hFound hApplies
  next _ => exact Session.Prolonged.refl hKept hFound

theorem touched_serves {t : Touch}
    (hSound : (Job.touch t route).Sound env w) (hTimely : Timely env w (.touch t route))
    (hRenewal : t.renewal = some expires_at)
    (hFound' : (touchSessions env t w.sessions).find? t.claims.jti = some row')
    (hZero : row'.revoked_at = 0) : row'.Serves env w.clock t.now := by
  have hDeadline := hSound.2.2 expires_at hRenewal
  have hPos := env.settings.renew_pos
  have hRenew := env.settings.renew_le_idle
  rw [find?_touchSessions, map_eq_some_iff] at hFound'
  rcases hFound' with ⟨row, hFound, hSame⟩
  unfold Timely at hTimely
  simp only [hFound, Touch.Timely, hRenewal] at hTimely
  by_cases hApplies : t.applies env row
  · rw [if_pos hApplies] at hSame
    have hFields := Touch.applies_fields hApplies
    have hLong := touched_prolonged hKept hSound hFound hApplies
    have hExpires := expires_touched t row
    rw [hRenewal] at hExpires
    dsimp only at hExpires
    subst hSame
    have hBound := hLong.bound
    have hAbsolute := hLong.absolute_eq
    unfold Session.Serves
    omega
  · rw [if_neg hApplies] at hSame
    subst hSame
    exact hTimely.2 (not_eq_true _ ▸ hApplies) hZero

end

theorem serves_of_not_renews (hRenews : renews env client claims now row = false)
    (hBound : row.expires_at ≤ row.absolute_expires_at) : row.Serves env w.clock now := by
  have hPos := env.settings.renew_pos
  have hRenew := env.settings.renew_le_idle
  have hNot : ¬ (row.expires_at + env.settings.renew_interval ≤ now + env.settings.idle_timeout ∧
          row.expires_at < min (now + env.settings.idle_timeout) row.absolute_expires_at) := by
    intro hRenewed
    unfold renews touchOf at hRenews
    dsimp only at hRenews
    rw [if_pos (.inr hRenewed), if_pos hRenewed] at hRenews
    cases hRenews
  unfold Session.Serves
  omega

theorem Kept.verify (hKept : Kept env w) (hFound : w.sessions.find? claims.jti = some row)
    (hValid : rowValid env claims now row) :
    Kept env
      (if renews env client claims now row then w.use claims.jti now
        else (w.use claims.jti now).complete claims.jti now) := by
  have hFields := rowValid_fields hValid
  have hUsed := hKept.use hFound hFields.2.2.2.2.2.1
  split
  next _ => exact hUsed
  next hRenews =>
    apply hUsed.complete
    · exact mem_append_right _ (mem_singleton_self _)
    · intro old hOld hZero
      cases some.inj (hFound.symm.trans hOld)
      exact serves_of_not_renews (not_eq_true _ ▸ hRenews) hFields.2.2.2.2.2.2.2

theorem find?_persisted (hKept : Kept env w)
    (hNew : ∀ old ∈ w.log.issued, old.jti ≠ claims.jti) (jti : String) :
    (persistSession env (newSession env client claims checked)
        w.sessions).find? jti =
      (if claims.jti = jti then some (newSession env client claims checked)
        else w.sessions.find? jti).filter fun old => !(decide (old.instance_id = env.instance_id) &&
            decide (old.expires_at + 30 * 86400 < claims.iat)) := by
  apply find?_persistSession
  cases hTaken : w.sessions.find? claims.jti with
  | none => exact hTaken
  | some row =>
    rcases hKept.row_token _ row hTaken with ⟨old, hOld, hOf⟩
    exfalso
    apply hNew old hOld
    rw [← hOf.jti_eq]
    exact (mem_of_find? hTaken).2

theorem persisted_row (hKept : Kept env w) (hNew : ∀ old ∈ w.log.issued, old.jti ≠ claims.jti)
    (hFound : (persistSession env (newSession env client claims checked)
        w.sessions).find? jti = some row') :
    (claims.jti = jti ∧ row' = newSession env client claims checked) ∨
      (claims.jti ≠ jti ∧ w.sessions.find? jti = some row') := by
  rw [find?_persisted hKept hNew] at hFound
  have hKeptRow := (filter_eq_some_iff.mp hFound).1
  split at hKeptRow
  next hSame => exact .inl ⟨hSame, (some.inj hKeptRow).symm⟩
  next hOther => exact .inr ⟨hOther, hKeptRow⟩

theorem newSession_of (claims : Claims) (checked : Nat) :
    (newSession env client claims checked).Of env claims :=
  ⟨rfl, rfl, rfl, rfl, rfl⟩

theorem expires_newSession (claims : Claims) (checked : Nat) :
    (newSession env client claims checked).expires_at = min (claims.iat + env.settings.idle_timeout)
        claims.exp := rfl

theorem persisted_lost (hKept : Kept env w)
    (hNew : ∀ old ∈ w.log.issued, old.jti ≠ claims.jti) (hExp : claims.iat ≤ claims.exp) (hLost :
      (persistSession env (newSession env client claims checked) w.sessions).find? jti = none) :
    claims.jti ≠ jti ∧
      ∀ row, w.sessions.find? jti = some row → row.expires_at + 30 * 86400 < claims.iat := by
  rw [find?_persisted hKept hNew] at hLost
  by_cases hSame : claims.jti = jti
  · rw [if_pos hSame, filter_eq_none_iff] at hLost
    have hRemoved := hLost _ rfl
    simp only [not_eq_true, not_eq_false', and_eq_true, decide_eq_true_eq,
      expires_newSession] at hRemoved
    have hEarly := of_decide_eq_true hRemoved.2
    omega
  · refine ⟨hSame, ?_⟩
    intro row hFound
    rw [if_neg hSame, hFound, filter_eq_none_iff] at hLost
    have hRemoved := hLost row rfl
    simp only [not_eq_true, not_eq_false',
      and_eq_true, decide_eq_true_eq] at hRemoved
    exact hRemoved.2

/- A new session keeps the invariant. -/
theorem Kept.persist (hKept : Kept env w)
    (hSound : (Job.persist claims checked).Sound env w) (hJti : isJti claims.jti)
    (hNew : ∀ old ∈ w.log.issued, old.jti ≠ claims.jti) :
    Kept env
      { w with
        sessions := persistSession env (newSession env client claims checked) w.sessions
        log :=
          { w.log with
            issued := w.log.issued ++ [claims],
            uses := w.log.uses ++ [(claims.jti, claims.iat)],
            completed := w.log.completed ++ [(claims.jti, claims.iat)] } } := by
  have hIat := hSound.1
  have hExp := hSound.2
  have hPos := env.settings.renew_pos
  have hRenew := env.settings.renew_le_idle
  have hIdle := env.settings.idle_le_absolute
  have hUnused : ∀ used, (claims.jti, used) ∉ w.log.uses := by
    intro used hUsed
    rcases hKept.use_token _ _ hUsed with ⟨old, hOld, hSame⟩
    exact hNew old hOld hSame
  have hDeadline : (newSession env client claims checked).expires_at =
        min (claims.iat + env.settings.idle_timeout)
          claims.exp :=
    expires_newSession claims checked
  have hAbsolute : (newSession env client claims checked).absolute_expires_at = claims.exp := rfl
  constructor
  · exact hKept.started
  · intro token hToken
    rcases mem_append.mp hToken with hOld | hIs
    · exact hKept.token token hOld
    · rw [mem_singleton.mp hIs]
      exact ⟨hJti, hIat, hExp⟩
  · intro token hToken other hOther hSame
    rcases mem_append.mp hToken with hOld | hIs
    · rcases mem_append.mp hOther with hOld' | hIs'
      · exact hKept.unique token hOld other hOld' hSame
      · rw [mem_singleton.mp hIs'] at hSame
        exact absurd hSame (hNew token hOld)
    · rcases mem_append.mp hOther with hOld' | hIs'
      · rw [mem_singleton.mp hIs] at hSame
        exact absurd hSame.symm (hNew other hOld')
      · rw [mem_singleton.mp hIs, mem_singleton.mp hIs']
  · intro jti row hFound
    rcases persisted_row hKept hNew hFound with ⟨_, hIs⟩ | ⟨_, hOld⟩
    · rw [hIs]
      exact ⟨claims, mem_append_right _ (mem_singleton_self _), newSession_of _ _⟩
    · rcases hKept.row_token jti row hOld with
        ⟨token, hToken, hOf⟩
      exact ⟨token, mem_append_left _ hToken, hOf⟩
  · intro jti row hFound
    rcases persisted_row hKept hNew hFound with ⟨_, hIs⟩ | ⟨_, hOld⟩
    · rw [hIs]
      omega
    · exact hKept.row_bound jti row hOld
  · intro jti row hFound
    rcases persisted_row hKept hNew hFound with ⟨hSame, hIs⟩ | ⟨_, hOld⟩
    · rw [hIs, ← hSame]
      refine ⟨claims.iat, mem_append_right _ (mem_singleton_self _), ?_⟩
      omega
    · rcases hKept.row_use jti row hOld with
        ⟨used, hUsed, hBound⟩
      exact ⟨used, mem_append_left _ hUsed, hBound⟩
  · intro jti used hUsed
    rcases mem_append.mp hUsed with hOld | hIs
    · rcases hKept.use_token jti used hOld with
        ⟨token, hToken, hSame⟩
      exact ⟨token, mem_append_left _ hToken, hSame⟩
    · cases mem_singleton.mp hIs
      exact ⟨claims, mem_append_right _ (mem_singleton_self _), rfl⟩
  · intro jti used hUsed row hFound
    rcases mem_append.mp hUsed with hOld | hIs
    · rcases persisted_row hKept hNew hFound with
        ⟨hSame, _⟩ | ⟨_, hFound⟩
      · rw [← hSame] at hOld
        exact absurd hOld (hUnused used)
      · exact hKept.use_row jti used hOld row hFound
    · cases mem_singleton.mp hIs
      rcases persisted_row hKept hNew hFound with ⟨_, hIs⟩ | ⟨hOther, _⟩
      · rw [hIs]
        omega
      · exact absurd rfl hOther
  · intro jti used hUsed hLost
    have hRemoved := persisted_lost hKept hNew (by omega) hLost
    rcases mem_append.mp hUsed with hOld | hIs
    · cases hFound : w.sessions.find? jti with
      | none => exact hKept.use_lost jti used hOld hFound
      | some row =>
        have hBefore := hKept.use_row jti used hOld row hFound
        have hAfter := hRemoved.2 row hFound
        dsimp only
        omega
    · cases mem_singleton.mp hIs
      exact absurd rfl hRemoved.1
  · intro jti used hMem
    rcases mem_append.mp hMem with hOld | hIs
    · have hDone := hKept.completed jti used hOld
      refine ⟨mem_append_left _ hDone.1, ?_⟩
      intro row hFound hZero
      rcases persisted_row hKept hNew hFound with ⟨hSame, _⟩ | ⟨_, hFound⟩
      · rw [← hSame] at hDone
        exact absurd hDone.1 (hUnused used)
      · exact hDone.2 row hFound hZero
    · cases mem_singleton.mp hIs
      refine ⟨mem_append_right _ (mem_singleton_self _), ?_⟩
      intro row hFound hZero
      rcases persisted_row hKept hNew hFound with ⟨_, hIs⟩ | ⟨hOther, _⟩
      · rw [hIs]
        unfold Session.Serves
        omega
      · exact absurd rfl hOther

----
-- Runs
----

theorem Effect.kept (hEffect : Effect env client w job w') (hKept : Kept env w)
    (hSound : job.Sound env w) (hTimely : Timely env w job) : Kept env w' := by
  cases hEffect with
  | verified claims now route stored hFound hValid => exact hKept.verify hFound hValid
  | touched t route =>
    have hTouched := hKept.touch hSound
    unfold touchRow
    split
    next hRenews =>
      rcases isSome_iff_exists.mp hRenews with ⟨expires_at, hRenewal⟩
      apply hTouched.complete hSound.2.1
      intro row' hFound' hZero
      exact touched_serves hKept hSound hTimely hRenewal hFound' hZero
    next _ => exact hTouched
  | loggedOut jti now => exact hKept.revoke [jti] hSound "logout"
  | revoked replace epoch jtis now =>
    exact (hKept.revoke jtis hSound.2 replace.reason).congr (le_rfl) rfl rfl rfl rfl
  | persisted claims checked hJti hNew => exact hKept.persist hSound hJti hNew
  | _ => exact hKept.congr (le_rfl) rfl rfl rfl rfl

theorem kept_advance (draw : Draw) (client : Client) (hHolds : w.Holds (Kept env) (Job.Sound env))
    (hSound : job.Sound env w) (hTimely : Timely env w job) :
    Kept env (advance env draw client w job).1 ∧
      (advance env draw client w job).2.Sound env (advance env draw client w job).1 ∧
      ∀ task ∈ w.jobs, task.job.Sound env (advance env draw client w job).1 := by
  have hEffect : Effect env client w job (advance env draw client w job).1 :=
    advance_effect draw job
  refine ⟨hEffect.kept hHolds.1 hSound hTimely, ?_, ?_⟩
  · exact advance_sound draw hHolds.1.started hSound
  · exact fun task hTask => (hHolds.2 task hTask).mono hEffect.later

theorem kept_run (env : Env) (config : Config)
    (hTimely : Machine.Steps (step env) (OnJob (Timely env)) { config := config } ops) :
    (run env config ops).Holds (Kept env) (Job.Sound env) := by
  have hInit : World.Holds (Kept env) (Job.Sound env) { config := config } := by
    refine ⟨⟨Nat.one_ne_zero, ?_, ?_, ?_, ?_, ?_, ?_, ?_, ?_, ?_⟩, ?_⟩
    · exact nofun
    · exact nofun
    · exact nofun
    · exact nofun
    · exact nofun
    · exact nofun
    · exact nofun
    · exact nofun
    · exact nofun
    · exact nofun
  refine run_jobs_of_steps ?_ ?_ ?_ ?_ ?_ hInit hTimely
  · intro w w' hIdle hKept
    refine hKept.congr hIdle.clock_le hIdle.sessions_eq ?_ ?_ ?_
    all_goals rw [hIdle.log_eq]
  · exact fun w w' job hIdle hSound => hSound.mono hIdle.later
  · exact fun w request => Request.job_sound request
  · exact fun w => trivial
  · exact fun draw client w job hHolds hSound hStep => kept_advance draw client hHolds hSound hStep

/- A session that has been seen, at any later time. -/
structure Seen (w₀ : World) (row : Session) (w : World) :
    Prop where
  started : w.clock ≠ 0
  clock_le : w₀.clock ≤ w.clock
  issued : ∃ claims ∈ w.log.issued, claims.jti = row.jti
  aged : ∀ row', w.sessions.find? row.jti = some row' → Aged w₀ row row'

/- A move of a timely step ages the session. -/
theorem RowMove.aged {w₀ : World} (hMove : RowMove env row job row')
    (hSound : job.Sound env w) (hTimely : Timely env w job) (hClock : w₀.clock ≤ w.clock)
    (hFound : w.sessions.find? row₀.jti = some row) (hAged : Aged w₀ row₀ row) :
    Aged w₀ row₀ row' := by
  rcases hAged with ⟨hAbsolute, hMono, hRevoked, hExpired⟩
  cases hMove with
  | same _ => exact ⟨hAbsolute, hMono, hRevoked, hExpired⟩
  | touched t route hApplies =>
    have hFields := Touch.applies_fields hApplies
    have hExpires := expires_touched t row
    have hJti := (mem_of_find? hFound).2
    have hLonger : row.expires_at ≤ (row.touched t).expires_at := by
      rw [hExpires]
      split <;> omega
    refine ⟨hAbsolute, Nat.le_trans hMono hLonger, ?_, ?_⟩
    · intro hGone
      exact absurd hFields.2.1 (hRevoked hGone).1
    · intro hOver
      have hSame := hExpired hOver
      rw [← hJti, hFields.1] at hFound
      unfold Timely at hTimely
      cases hRenewal : t.renewal with
      | none =>
        rw [hExpires, hRenewal]
        exact hSame
      | some expires_at =>
        simp only [hFound, Touch.Timely, hRenewal] at hTimely
        have hInTime := hTimely.1 hApplies
        rw [hExpires, hRenewal]
        dsimp only
        omega
  | loggedOut jti now =>
    refine ⟨hAbsolute, hMono, ?_, hExpired⟩
    exact fun hGone => ⟨hSound, (hRevoked hGone).2⟩
  | revoked replace epoch jtis now =>
    refine ⟨hAbsolute, hMono, ?_, hExpired⟩
    exact fun hGone => ⟨hSound.2, (hRevoked hGone).2⟩

theorem Effect.aged (hEffect : Effect env client w job w')
    (hSound : job.Sound env w) (hTimely : Timely env w job) (hSeen : Seen w₀ row₀ w) :
    Seen w₀ row₀ w' := by
  have hSame := hEffect.same_jobs
  refine ⟨?_, ?_, ?_, ?_⟩
  · rw [hSame.2]
    exact hSeen.started
  · rw [hSame.2]
    exact hSeen.clock_le
  · rcases hSeen.issued with ⟨claims, hIssued, hJti⟩
    exact ⟨claims, hEffect.later.issued_le hIssued, hJti⟩
  · intro row' hFound'
    rcases hEffect.row hFound' with ⟨row, hFound, hMove⟩ | ⟨claims, checked, _, hIs, hNew⟩
    · exact hMove.aged hSound hTimely hSeen.clock_le hFound (hSeen.aged row hFound)
    · have hJti := (mem_of_find? hFound').2
      rw [hIs] at hJti
      rcases hSeen.issued with ⟨old, hOld, hOldJti⟩
      exact absurd (hOldJti.trans hJti.symm) (hNew old hOld)

/- In every run of timely renewals, deadlines are bounded by those of the tokens, used sessions
   stay, unused ones end, and from any state on no session goes back, and no revoked or expired one
   is prolonged. -/
theorem sessions_keep_lifetimes (env : Env) (config : Config) (ops more : List Op)
    (hTimely : Machine.Steps (step env) (OnJob (Timely env)) { config := config } (ops ++ more)) :
    Lifetimes env (run env config ops) ∧ ∀ jti row row',
        (run env config ops).sessions.find? jti = some row →
        (run env config (ops ++ more)).sessions.find? jti = some row' →
        Aged (run env config ops) row row' := by
  rw [Machine.steps_append] at hTimely
  have hHolds := kept_run env config hTimely.1
  refine ⟨hHolds.1.lifetimes, ?_⟩
  intro jti row row' hFound hFound'
  have hJti := (mem_of_find? hFound).2
  have hInit :
      World.Holds (Seen (run env config ops) row) (Job.Sound env) (run env config ops) := by
    refine ⟨⟨hHolds.1.started, le_rfl, ?_, ?_⟩, hHolds.2⟩
    · rcases hHolds.1.row_token jti row hFound with
        ⟨claims, hIssued, hOf⟩
      exact ⟨claims, hIssued, hOf.jti_eq.symm⟩
    · intro old hOld
      rw [hJti] at hOld
      cases some.inj (hFound.symm.trans hOld)
      exact ⟨rfl, le_rfl, fun hGone => ⟨hGone, rfl⟩, fun _ => rfl⟩
  have hSeen : (Machine.run (step env) (run env config ops) more).Holds
        (Seen (run env config ops) row) (Job.Sound env) := by
    refine run_jobs_of_steps ?_ ?_ ?_ ?_ ?_ hInit hTimely.2
    · intro w w' hIdle hSeen
      have hClock := hIdle.clock_le
      have hStarted := hSeen.started
      have hSince := hSeen.clock_le
      refine ⟨by omega, by omega, ?_, ?_⟩
      · rw [hIdle.log_eq]
        exact hSeen.issued
      · rw [hIdle.sessions_eq]
        exact hSeen.aged
    · exact fun w w' job hIdle hSound => hSound.mono hIdle.later
    · exact fun w request => Request.job_sound request
    · exact fun w => trivial
    · intro draw client w job hSeen hSound hStep
      have hEffect : Effect env client w job (advance env draw client w job).1 :=
        advance_effect draw job
      refine ⟨hEffect.aged hSound hStep hSeen.1, ?_, ?_⟩
      · exact advance_sound draw hSeen.1.started hSound
      · exact fun task hTask => (hSeen.2 task hTask).mono hEffect.later
  unfold run at hFound'
  rw [Machine.run_append, ← hJti] at hFound'
  exact hSeen.1.aged row' hFound'

----
-- Lost And Late Renewals
----

/- Twenty minutes without a use end a session. -/
def briefEnv : Env := plainEnv (Settings.ofRaw 1200 900 86400)

def briefConfig : Config where
  auth_password_hash := plainHash "old password"

def briefClaims : Claims where
  jti := "cccccccccccccccccccccccccccccccccccccccccccccccc"
  auth_version := 1
  iat := 1000
  exp := 87400

/- A request waits, and then makes some steps at once. -/
def waits (job seconds count : Nat) : List Op :=
  .advance job seconds { token := briefClaims.jti } ::
    List.replicate (count - 1) (.advance job 0 { token := briefClaims.jti })

/- A login, whose session is the first one. -/
def briefLogin : List Op := .arrive {} (.login "old password") :: waits 0 999 6

def briefUse : Op := .arrive {} (.api briefClaims)

/- A login, and a use after fifteen minutes that renews. -/
theorem briefUse_keeps_lifetimes :
    Lifetimes briefEnv (run briefEnv briefConfig briefLogin) ∧ ∀ jti row row',
        (run briefEnv briefConfig briefLogin).sessions.find? jti = some row →
        (run briefEnv briefConfig (briefLogin ++ briefUse :: waits 1 900 3)).sessions.find?
            jti = some row' → Aged (run briefEnv briefConfig briefLogin) row row' :=
  sessions_keep_lifetimes briefEnv briefConfig briefLogin
    (briefUse :: waits 1 900 3) (by decide +kernel)

/- Uses after 300, 599 and 899 seconds need no renewal. The use after 900 seconds needs one, but the
   one before it writes its activity in between. -/
def renewalLost : List Op := briefLogin ++ [briefUse] ++ waits 1 300 3 ++
    [briefUse] ++ waits 2 299 2 ++
    [briefUse] ++ waits 3 300 2 ++
    [briefUse] ++ waits 4 1 2 ++
    waits 3 0 1 ++ waits 4 0 1

/- A use reads the session in its last second, and its renewal
   is to be written five seconds after the end. -/
def renewalLate : List Op := briefLogin ++ [briefUse] ++ waits 1 1199 2 ++ waits 2 6 1

/- The session is rejected 300 seconds after its last use; and the expired session is revived. -/
theorem renewal_lost_or_late :
    ¬ Lifetimes briefEnv (run briefEnv briefConfig renewalLost) ∧
      ¬ ∀ jti row row', (run briefEnv briefConfig renewalLate).sessions.find? jti = some row →
        (run briefEnv briefConfig (renewalLate ++ waits 1 0 1)).sessions.find? jti = some row' →
        Aged (run briefEnv briefConfig renewalLate) row row' := by
  constructor
  · have hEnd :
        let w := run briefEnv briefConfig renewalLost
        briefClaims ∈ w.log.issued ∧ (briefClaims.jti, 1900) ∈ w.log.completed ∧ w.clock ≤ 2200 ∧
          briefClaims.auth_version = authVersion w.config ∧
          ((w.sessions.find? briefClaims.jti).all fun row => decide (row.revoked_at = 0) &&
              decide (row.expires_at = 2200)) := by
      decide +kernel
    rcases hEnd with ⟨hIssued, hUsed, hClock, hVersion, hRows⟩
    intro hLifetimes
    have hRow : ∀ row,
          (run briefEnv briefConfig renewalLost).sessions.find? briefClaims.jti = some row →
          row.revoked_at = 0 ∧ row.expires_at = 2200 := by
      intro row hFound
      rw [hFound] at hRows
      simpa using hRows
    have hAccepts := hLifetimes.used briefClaims hIssued 1900 2200 hUsed hClock
        (by decide) (by decide) hVersion (fun row hFound => (hRow row hFound).1)
    rcases hAccepts.2 with ⟨row, hFound, hValid⟩
    have hAlive := (rowValid_fields hValid).2.2.2.2.2.1
    have hOver := (hRow row hFound).2
    omega
  · have hEnd :
        let w := run briefEnv briefConfig renewalLate
        let w' := run briefEnv briefConfig (renewalLate ++ waits 1 0 1)
        w.clock = 2205 ∧ (w.sessions.find? briefClaims.jti).map Session.expires_at = some 2200 ∧
          (w'.sessions.find? briefClaims.jti).map Session.expires_at = some 3399 := by
      decide +kernel
    rcases hEnd with ⟨hClock, hBefore, hAfter⟩
    rcases map_eq_some_iff.mp hBefore with ⟨row, hFound, hExpires⟩
    rcases map_eq_some_iff.mp hAfter with ⟨row', hFound', hExpires'⟩
    intro hAll
    have hAged := hAll _ row row' hFound hFound'
    have hSame := hAged.expired (by omega)
    omega

end AdminAuth
