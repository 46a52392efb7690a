import AutoGpt.AuthLifecycle.Expiry

/-
  The derived state next to the components that it sums up.
  Every probe derives it anew; a capture changes the access
  state and the material without deriving it.

  Main theorems: `derived_kept_iff`, `derived_sound_iff`
-/

open Machine (Steps run)
open Option
open Machine

----
-- The Derived State
----

namespace AuthLifecycle

/- The evidence decides the derived state alone. -/
def EvidenceState.Blocks (evidence : EvidenceState) : Prop :=
  evidence = .deactivated_confirmed ∨ evidence = .banned_suspected

/- The derived state is that of the stored components. -/
def Projection.Agrees (p : Projection) : Prop := p.derived.state = p.rederived.state

/- A dead access token is not summed up as a valid one. -/
def Projection.NotMisleading (p : Projection) : Prop :=
  p.access_token.state ∈ [.expired, .revoked, .not_present] →
    p.derived.state ∉ [.at_only_valid, .refresh_failed_at_valid]

/- Only a valid access token is summed up as valid: the table of `derive_state`, line by line. -/
theorem derive_state_valid (rt_state : RtState)
    (evidence : EvidenceState) (at_present rt_present : Bool) (hState : at_state ≠ .valid) :
    (derive_state at_state rt_state evidence at_present rt_present).state ∉
      [.at_only_valid, .refresh_failed_at_valid] := by
  cases at_state with
  | valid => exact absurd rfl hState
  | unknown =>
    cases evidence <;> cases rt_state <;>
      cases at_present <;> cases rt_present <;> decide
  | expired =>
    cases evidence <;> cases rt_state <;>
      cases at_present <;> cases rt_present <;> decide
  | revoked =>
    cases evidence <;> cases rt_state <;>
      cases at_present <;> cases rt_present <;> decide
  | unauthorized_unknown =>
    cases evidence <;> cases rt_state <;>
      cases at_present <;> cases rt_present <;> decide
  | not_present =>
    cases evidence <;> cases rt_state <;>
      cases at_present <;> cases rt_present <;> decide

theorem Projection.Agrees.not_misleading {p : Projection} (hAgrees : p.Agrees) :
    p.NotMisleading := by
  intro hDead
  have hState : p.access_token.state ≠ .valid := by
    intro hValid
    rw [hValid] at hDead
    revert hDead
    decide
  rw [hAgrees]
  exact derive_state_valid _ _ _ _ hState

/- With an access token, its state may become `expired`, or `unknown` for `not_present`, without
   another summary. -/
def Insensitive (rt_state : RtState) (evidence : EvidenceState)
    (expired : Bool) (at_state : AtState) : Prop :=
  if expired then at_state = .expired ∨ evidence.Blocks ∨
      rt_state = .valid ∧ at_state ∈ [.valid, .unknown] ∨
      rt_state.isFailure ∧ at_state ∈ [.revoked, .unauthorized_unknown, .not_present]
  else at_state ≠ .not_present ∨ evidence.Blocks ∨ rt_state ≠ .valid ∧ rt_state.isFailure = false

/- The access state that a capture leaves, with a token. -/
def presentState (expired : Bool) (at_state : AtState) :
    AtState :=
  if expired then .expired
  else if at_state = .not_present then .unknown
  else at_state

theorem insensitive_iff (rt_state : RtState) (evidence : EvidenceState)
    (rt_present expired : Bool) (at_state : AtState) :
    (derive_state at_state rt_state evidence true
          rt_present).state =
        (derive_state (presentState expired at_state) rt_state evidence true rt_present).state ↔
      Insensitive rt_state evidence expired at_state := by
  cases evidence with
  | deactivated_confirmed =>
    cases expired with
    | true => exact ⟨fun _ => .inr (.inl (.inl rfl)), fun _ => rfl⟩
    | false => exact ⟨fun _ => .inr (.inl (.inl rfl)), fun _ => rfl⟩
  | banned_suspected =>
    cases expired with
    | true => exact ⟨fun _ => .inr (.inl (.inr rfl)), fun _ => rfl⟩
    | false => exact ⟨fun _ => .inr (.inl (.inr rfl)), fun _ => rfl⟩
  | unknown =>
    unfold Insensitive EvidenceState.Blocks
    cases expired <;> cases rt_present <;>
      cases rt_state <;> cases at_state <;> decide
  | active_confirmed =>
    unfold Insensitive EvidenceState.Blocks
    cases expired <;> cases rt_present <;>
      cases rt_state <;> cases at_state <;> decide

----
-- Probes And New Projections
----

/- The revision and the presence flags are of one material. -/
def Projection.Tied (env : Env) (p : Projection) : Prop :=
  ∃ c, p.material_revision = env.material_hash c ∧ p.material = materialOf c

theorem build_sound
    (hBuilt : build_account_lifecycle_projection env account values now = some projection) :
    projection.Agrees ∧ projection.Tied env := by
  unfold build_account_lifecycle_projection at hBuilt
  dsimp only [bind_eq_bind] at hBuilt
  rcases bind_eq_some_iff.mp hBuilt with ⟨at_state, _, hBuilt⟩
  rw [← some.inj hBuilt]
  refine ⟨?_, credentials account values, rfl, rfl⟩
  dsimp only [Projection.Agrees, Projection.rederived, materialOf]

theorem probe_sound (hNext : apply_probe_lifecycle env account values probe clock = some next) :
    next.Agrees ∧ next.Tied env := by
  rcases bind_eq_some_iff.mp hNext with ⟨projection, _, hNext⟩
  rcases bind_eq_some_iff.mp hNext with ⟨refresh, _, hNext⟩
  rcases bind_eq_some_iff.mp hNext with ⟨states, _, hNext⟩
  rcases bind_eq_some_iff.mp hNext with ⟨state, _, hNext⟩
  rcases bind_eq_some_iff.mp hNext with ⟨http_status, _, hNext⟩
  rw [← some.inj hNext]
  exact ⟨rfl, credentials account values, rfl, rfl⟩

theorem loaded_sound (hStored : ∀ p, values.chatgpt_auth_lifecycle = some p → p.Agrees ∧ p.Tied env)
    (hLoaded : projection_from_extra_or_account env account values now = some projection) :
    projection.Agrees ∧ projection.Tied env := by
  unfold projection_from_extra_or_account at hLoaded
  cases hFound : values.chatgpt_auth_lifecycle with
  | some existing =>
    rw [hFound] at hLoaded
    rw [← some.inj hLoaded]
    exact hStored existing hFound
  | none =>
    rw [hFound] at hLoaded
    exact build_sound hLoaded

----
-- Captures
----

/- The access token that a capture has timed. -/
def timedAccess (env : Env) (account : Account) (values : Values)
    (projection : Projection) (capture : Capture) (captured_at : String) : AccessToken :=
  capturedTiming env account (timingValues env capture
      (materialChanged env projection (credentials account values)) projection.access_token
      (stampedValues (credentials account values)
        (materialChanged env projection (credentials account values)) captured_at values))
    (credentials account values) capture
    (materialChanged env projection (credentials account values))
    captured_at projection.access_token

/- The capture leaves the derived state right. Changed material resets it to `unknown`, and that is
   right for an access token alone whose expiry has not passed; otherwise it stays, and that is
   right if it does not depend on the new access state. -/
def Settled (env : Env) (account : Account) (values : Values)
    (projection : Projection) (capture : Capture) (captured_at : String) : Prop :=
  let c := credentials account values
  let expiry := (timedAccess env account values projection capture captured_at).expires_at
  if materialChanged env projection c then
    c.access_token ≠ "" ∧ c.refresh_token = "" ∧ expiredBy env expiry captured_at = some false
  else
    c.access_token = "" ∨ ∃ expired, expiredBy env expiry captured_at = some expired ∧
          Insensitive projection.refresh_token.state projection.account_evidence.state expired
            projection.access_token.state

theorem capturedTiming_state (account : Account) (timing_values : Values)
    (c : Credentials) (capture : Capture) (changed : Bool)
    (captured_at : String) (access : AccessToken) :
    (capturedTiming env account timing_values c capture changed
      captured_at access).state = access.state := by
  unfold capturedTiming AccessToken.withTiming
  dsimp only
  split
  · rfl
  · rfl

theorem capturedAccess_state {captured_at : String} {access next : AccessToken}
    (hNext : capturedAccess env c changed captured_at access = some next) :
    (c.access_token = "" ∧ next.state =
          if changed then .not_present
          else access.state) ∨
      c.access_token ≠ "" ∧ ∃ expired, expiredBy env access.expires_at captured_at = some expired ∧
            next.state = presentState expired
                (if changed then .unknown
                  else access.state) := by
  rcases bind_eq_some_iff.mp hNext with ⟨expired, hExpired, hNext⟩
  unfold tokenExpired at hExpired
  dsimp only at hNext
  by_cases hToken : c.access_token = ""
  · left
    rw [if_pos hToken, if_pos hToken, some.injEq] at hNext
    rw [← hNext]
    refine ⟨hToken, ?_⟩
    split
    · rfl
    · rfl
  · right
    rw [if_neg hToken] at hExpired
    rw [if_neg hToken, if_neg hToken, some.injEq] at hNext
    rw [← hNext]
    refine ⟨hToken, expired, hExpired, ?_⟩
    cases changed with
    | true =>
      cases expired with
      | true => rfl
      | false => rfl
    | false =>
      cases expired with
      | true => rfl
      | false => rfl

/- The parts of a projection that a capture leaves. -/
theorem capture_parts {capture : Capture} {captured_at : String}
    (hNext : apply_material_capture env account values capture captured_at = some next) :
    ∃ projection after access, projection_from_extra_or_account env account values
          captured_at = some projection ∧
        next.chatgpt_auth_lifecycle = some after ∧
        after.Tied env ∧
        capturedAccess env (credentials account values)
            (materialChanged env projection (credentials account values)) captured_at
            (timedAccess env account values projection capture captured_at) = some access ∧
        after =
          { (if materialChanged env projection
                  (credentials account values) then
                resetEvidence (credentials account values) projection
              else projection) with
            material_revision := env.material_hash (credentials account values)
            material := materialOf (credentials account values)
            access_token := access
            web_session := after.web_session
            updated_at := captured_at } := by
  rcases bind_eq_some_iff.mp hNext with ⟨projection, hLoaded, hNext⟩
  rcases bind_eq_some_iff.mp hNext with ⟨access, hAccess, hNext⟩
  rw [← some.inj hNext]
  refine ⟨projection, _, access, hLoaded, rfl, ⟨credentials account values, rfl, rfl⟩, ?_, ?_⟩
  · unfold timedAccess
    exact hAccess
  · dsimp only

theorem material_of_unchanged
    (hTied : projection.Tied env) (hSame : ¬ materialChanged env projection c) :
    projection.material = materialOf c := by
  rcases hTied with ⟨c', hRevision, hMaterial⟩
  unfold materialChanged at hSame
  rw [hRevision, Bool.and_eq_true, bne_iff_ne, bne_iff_ne] at hSame
  rw [hMaterial]
  exact env.material_of_hash c' c
      (not_not.mp (fun hOther => hSame ⟨env.material_hash_ne c', hOther⟩))

----
-- Derived States After Captures
----

theorem reset_state_iff (at_present rt_present expired : Bool) :
    DerivedState.unknown = (derive_state
          (if at_present then presentState expired .unknown
          else .not_present)
          (if rt_present then .not_attempted
          else .not_present)
          .unknown at_present rt_present).state ↔
      at_present ∧ rt_present = false ∧ expired = false := by
  cases at_present <;> cases rt_present <;>
    cases expired <;> decide

variable {projection after : Projection}
theorem changed_agrees_iff
    (hChanged : materialChanged env projection (credentials account values))
    (hAccess : capturedAccess env (credentials account values) true captured_at
          (timedAccess env account values projection capture captured_at) = some access)
    (hDerived : after.derived.state = .unknown)
    (hRederived : after.rederived = derive_state access.state
          (if (credentials account values).refresh_token ≠ ""
            then .not_attempted
            else .not_present)
          .unknown
          ((credentials account values).access_token != "")
          ((credentials account values).refresh_token != "")) :
    after.Agrees ↔ Settled env account values projection capture
        captured_at := by
  unfold Projection.Agrees Settled
  rw [hDerived, hRederived, if_pos hChanged]
  generalize credentials account values = c at hAccess ⊢
  generalize timedAccess env account values projection capture captured_at = timed at hAccess ⊢
  have hPresence : (if c.refresh_token ≠ "" then RtState.not_attempted
        else .not_present) =
        if (c.refresh_token != "") then .not_attempted
        else .not_present := by
    simp only [bne_iff_ne]
  rw [hPresence]
  rcases capturedAccess_state hAccess with ⟨hToken, hState⟩ | ⟨hToken, expired, hExpired, hState⟩
  · have hReset := reset_state_iff false (c.refresh_token != "") false
    rw [if_pos rfl] at hState
    have hAbsent : (c.access_token != "") = false := by
      rw [hToken]
      rfl
    rw [if_neg Bool.false_ne_true] at hReset
    rw [hState, hAbsent, hReset]
    constructor
    · rintro ⟨h, _⟩
      cases h
    · exact fun h => absurd hToken h.1
  · have hReset := reset_state_iff true (c.refresh_token != "") expired
    rw [if_pos rfl] at hState hReset
    have hPresent : (c.access_token != "") := bne_iff_ne.mpr hToken
    rw [hState, hPresent, hReset, hExpired]
    constructor
    · rintro ⟨_, hRefresh, hExpired⟩
      rw [bne_eq_false_iff_eq] at hRefresh
      exact ⟨hToken, hRefresh, congrArg some hExpired⟩
    · rintro ⟨_, hRefresh, hExpired⟩
      exact ⟨rfl, bne_eq_false_iff_eq.mpr hRefresh, some.inj hExpired⟩

theorem unchanged_agrees_iff
    (hSame : ¬ materialChanged env projection (credentials account values))
    (hAccess : capturedAccess env (credentials account values) false captured_at
          (timedAccess env account values projection capture captured_at) = some access)
    (hAgrees : projection.Agrees) (hTied : projection.Tied env)
    (hDerived : after.derived = projection.derived)
    (hRederived : after.rederived = derive_state access.state projection.refresh_token.state
          projection.account_evidence.state ((credentials account values).access_token != "")
          ((credentials account values).refresh_token != "")) :
    after.Agrees ↔ Settled env account values projection capture
        captured_at := by
  have hMaterial := material_of_unchanged hTied hSame
  have hTimed : (timedAccess env account values projection capture
          captured_at).state =
        projection.access_token.state :=
    capturedTiming_state _ _ _ _ _ _ _
  unfold Projection.Agrees Projection.rederived at hAgrees
  rw [hMaterial] at hAgrees
  unfold materialOf at hAgrees
  unfold Projection.Agrees Settled
  dsimp only at hAgrees ⊢
  rw [hDerived, hRederived, if_neg hSame, hAgrees]
  generalize credentials account values = c at hAccess ⊢
  generalize timedAccess env account values projection capture
    captured_at = timed at hAccess hTimed ⊢
  rcases capturedAccess_state hAccess with ⟨hToken, hState⟩ | ⟨hToken, expired, hExpired, hState⟩
  · rw [if_neg Bool.false_ne_true, hTimed] at hState
    rw [hState]
    exact ⟨fun _ => .inl hToken, fun _ => rfl⟩
  · rw [if_neg Bool.false_ne_true, hTimed] at hState
    have hPresent : (c.access_token != "") := bne_iff_ne.mpr hToken
    rw [hState, hPresent, insensitive_iff]
    constructor
    · exact fun h => .inr ⟨expired, hExpired, h⟩
    · rintro (h | ⟨found, hFound, h⟩)
      · exact absurd h hToken
      · rw [hExpired, some.injEq] at hFound
        rw [hFound]
        exact h

/- A capture that returns keeps the derived state right exactly when it settles. -/
theorem capture_sound_iff
    (hStored : ∀ p, values.chatgpt_auth_lifecycle = some p → p.Agrees ∧ p.Tied env)
    (hNext : apply_material_capture env account values capture captured_at = some next) :
    ∃ projection after, projection_from_extra_or_account env account values
          captured_at = some projection ∧
        next.chatgpt_auth_lifecycle = some after ∧
        after.Tied env ∧
        (after.Agrees ↔ Settled env account values projection capture captured_at) := by
  rcases capture_parts hNext with
    ⟨projection, after, access, hLoaded, hAfter, hTied, hAccess, hParts⟩
  refine ⟨projection, after, hLoaded, hAfter, hTied, ?_⟩
  rcases loaded_sound hStored hLoaded with ⟨hAgrees, hBefore⟩
  cases hChanged : materialChanged env projection (credentials account values) with
  | true =>
    rw [hChanged] at hAccess
    rw [if_pos hChanged] at hParts
    refine changed_agrees_iff hChanged hAccess ?_ ?_
    · rw [hParts]
      rfl
    · rw [hParts]
      dsimp only [Projection.rederived, resetEvidence, materialOf]
  | false =>
    have hSame : ¬ materialChanged env projection (credentials account values) := by
      rw [hChanged]
      exact Bool.false_ne_true
    rw [hChanged] at hAccess
    rw [if_neg hSame] at hParts
    refine unchanged_agrees_iff hSame hAccess hAgrees hBefore ?_ ?_
    · rw [hParts]
    · rw [hParts]
      dsimp only [Projection.rederived, materialOf]

----
-- Runs
----

/- The stored derived state is right, and not misleading. -/
def DerivedSound (s : Stored) : Prop :=
  ∀ p, s.values.chatgpt_auth_lifecycle = some p → p.Agrees ∧ p.NotMisleading

def Settles (env : Env) (s : Stored) : LifecycleOp → Prop
| .apply_material_capture capture clock => apply_material_capture env s.account s.values capture
        clock = none ∨
      ∃ projection, projection_from_extra_or_account env s.account s.values
            clock = some projection ∧ Settled env s.account s.values projection capture clock
| _ => True

/- The stored projection is of one material. -/
def TiedStored (env : Env) (s : Stored) : Prop :=
  ∀ p, s.values.chatgpt_auth_lifecycle = some p → p.Tied env

theorem DerivedSound.stored (hSound : DerivedSound s) (hTied : TiedStored env s) :
    ∀ p, s.values.chatgpt_auth_lifecycle = some p → p.Agrees ∧ p.Tied env :=
  fun p hStored => ⟨(hSound p hStored).1, hTied p hStored⟩

theorem tied_step (hTied : TiedStored env s) (op : LifecycleOp) :
    TiedStored env (lifecycleStep env s op).1 := by
  intro p hStored
  cases op with
  | apply_probe_lifecycle probe clock =>
    unfold lifecycleStep at hStored
    dsimp only at hStored
    split at hStored
    · exact hTied p hStored
    next next hNext =>
      rw [← some.inj hStored]
      exact (probe_sound hNext).2
  | apply_material_capture capture clock =>
    unfold lifecycleStep at hStored
    dsimp only at hStored
    split at hStored
    · exact hTied p hStored
    next next hNext =>
      rcases capture_parts hNext with ⟨_, after, _, _, hAfter, hAfterTied, _⟩
      rw [hAfter, some.injEq] at hStored
      rw [← hStored]
      exact hAfterTied
  | save account values => exact hTied p hStored

theorem derived_kept_iff {s : Stored} (hSound : DerivedSound s) (hTied : TiedStored env s)
    (op : LifecycleOp) : DerivedSound (lifecycleStep env s op).1 ↔ Settles env s op := by
  cases op with
  | apply_probe_lifecycle probe clock =>
    refine ⟨fun _ => trivial, fun _ => ?_⟩
    intro p hStored
    unfold lifecycleStep at hStored
    dsimp only at hStored
    split at hStored
    · exact hSound p hStored
    next next hNext =>
      rw [← some.inj hStored]
      have hAgrees := (probe_sound hNext).1
      exact ⟨hAgrees, hAgrees.not_misleading⟩
  | apply_material_capture capture clock =>
    unfold lifecycleStep Settles
    dsimp only
    cases hNext : apply_material_capture env s.account s.values capture clock with
    | none => exact ⟨fun _ => .inl rfl, fun _ => hSound⟩
    | some next =>
      rcases capture_sound_iff (hSound.stored hTied) hNext
        with ⟨projection, after, hLoaded, hAfter, _, hIff⟩
      constructor
      · intro hNextSound
        exact .inr ⟨projection, hLoaded, hIff.mp (hNextSound after hAfter).1⟩
      · rintro (h | ⟨found, hFound, hSettled⟩)
        · cases h
        · rw [hLoaded, some.injEq] at hFound
          subst hFound
          intro p hStored
          dsimp only at hStored
          rw [hAfter, some.injEq] at hStored
          subst hStored
          have hAgrees := hIff.mpr hSettled
          exact ⟨hAgrees, hAgrees.not_misleading⟩
  | save account values => exact ⟨fun _ => trivial, fun _ => hSound⟩

/- From an account without a projection, the derived state is right in every state of a run exactly
   when every capture of the run settles. -/
theorem derived_sound_iff (env : Env) (s : Stored) (ops : List LifecycleOp)
    (hFresh : s.values.chatgpt_auth_lifecycle = none) :
    (∀ before after, ops = before ++ after → DerivedSound (run (lifecycleStep env) s before)) ↔
      Steps (lifecycleStep env) (Settles env) s
        ops := by
  have hNone : ∀ p, ¬ s.values.chatgpt_auth_lifecycle = some p := by
    intro p hStored
    rw [hFresh] at hStored
    cases hStored
  have hTied : ∀ before, TiedStored env (run (lifecycleStep env) s before) := by
    intro before
    have hStep : ∀ s op, TiedStored env s → TiedStored env (lifecycleStep env s op).1 :=
      fun _ op hHere => tied_step hHere op
    exact @Machine.run_induction _ _ _ (lifecycleStep env) (TiedStored env) hStep s
        (fun p hStored => absurd hStored (hNone p)) before
  constructor
  · intro hSound
    rw [steps_iff_forall_split]
    intro before op after hSplit
    have hBefore := hSound before (op :: after) hSplit
    have hAfter := hSound (before ++ [op]) after (by simp [hSplit])
    rw [run_append] at hAfter
    exact (derived_kept_iff hBefore (hTied before) op).mp hAfter
  · intro hSteps before after hSplit
    rw [hSplit, steps_append] at hSteps
    have hStep : ∀ s op, (DerivedSound s ∧ TiedStored env s) → Settles env s op →
            DerivedSound (lifecycleStep env s op).1 ∧ TiedStored env (lifecycleStep env s op).1 :=
      fun s op hHere hSettles =>
        ⟨(derived_kept_iff hHere.1 hHere.2 op).mpr hSettles, tied_step hHere.2 op⟩
    exact (@Machine.run_induction_of_steps _ _ _ (lifecycleStep env)
        (fun s => DerivedSound s ∧ TiedStored env s) (Settles env) hStep s
        ⟨fun p hStored => absurd hStored (hNone p), fun p hStored => absurd hStored (hNone p)⟩
        before hSteps.1).1

def validProbe : Probe where
  auth := { http_status := some 200 }

/- A capture without credentials, and a probe after it. -/
theorem no_material_sound :
    DerivedSound (run (lifecycleStep sampleEnv) {}
        [.apply_material_capture {} "2026-01-01T00:00:00Z",
          .apply_probe_lifecycle validProbe "2026-01-01T00:00:00Z"]) := by
  have hSteps : Steps (lifecycleStep sampleEnv)
        (Settles sampleEnv) {}
        [.apply_material_capture {} "2026-01-01T00:00:00Z",
          .apply_probe_lifecycle validProbe "2026-01-01T00:00:00Z"] := by
    refine ⟨.inr ⟨_, rfl, ?_⟩, trivial, trivial⟩
    unfold Settled
    rw [if_neg (by decide +kernel)]
    exact .inl (by decide +kernel)
  exact (derived_sound_iff sampleEnv {} _ rfl).mpr hSteps _ [] (List.append_nil _).symm

def summary (s : Stored) : Option (AtState × DerivedState) :=
  s.values.chatgpt_auth_lifecycle.map (fun p => (p.access_token.state, p.derived.state))

/- The probe finds the token valid; the capture finds its ten days over, and the account still
   counts as `at_only_valid`. -/
theorem expired_token_summed_up_as_valid :
    ¬ ∀ (env : Env) (s : Stored) (ops : List LifecycleOp), s.values.chatgpt_auth_lifecycle = none →
        ∀ p, (run (lifecycleStep env) s
              ops).values.chatgpt_auth_lifecycle = some p →
            p.NotMisleading := by
  intro hAll
  have hRun := hAll sampleEnv atOnly
      [.apply_probe_lifecycle validProbe "2026-01-01T00:00:00Z",
        .apply_material_capture {} "2026-06-01T00:00:00Z"]
      rfl
  have hSummary : summary
          (run (lifecycleStep sampleEnv) atOnly [.apply_probe_lifecycle validProbe
                "2026-01-01T00:00:00Z", .apply_material_capture {} "2026-06-01T00:00:00Z"]) =
        some (.expired, .at_only_valid) := by
    decide +kernel
  rcases map_eq_some_iff.mp hSummary with ⟨p, hStored, hStates⟩
  rw [Prod.mk.injEq] at hStates
  have hMisleads := hRun p hStored
  unfold Projection.NotMisleading at hMisleads
  rw [hStates.1, hStates.2] at hMisleads
  exact hMisleads (by decide) (by decide)

end AuthLifecycle
