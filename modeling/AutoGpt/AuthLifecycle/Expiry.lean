import AutoGpt.AuthLifecycle.Model

/-
  The confidence of a stored expiry. Probes and captures
  recompute the timing from the evidence at hand, and only a
  capture falls back to the stored expiry.

  Main theorems: `timing_exact_iff`, `exact_kept_iff`, `exact_stays_iff`
-/

open PyText (orElse)
open Machine (Steps run)
open Option
open Machine

----
-- Evidence
----

namespace AuthLifecycle

variable (env : Env)

def TokenExpiry (c : Credentials) : Prop :=
  iso_from_value env (env.jwt_times c.access_token).exp ≠ ""

/- A time that parses, from another source than the AT-only policy. -/
def ExactTime (expires_at source : String) : Prop :=
  iso_from_value env expires_at ≠ "" ∧ source ≠ accessTokenOnlyExpirySource

/- The expiry that `extra` states is an exact one. -/
def ExplicitExact (values : Values) : Prop :=
  ExactTime env (explicitExpiryValue values) (explicitExpirySource values)

theorem issuedTiming_expires_at (values : Values) (token : String) :
    (issuedTiming env values token).expires_at = iso_from_value env (env.jwt_times token).exp := by
  unfold issuedTiming token_timing
  dsimp only
  split
  · dsimp only
  · dsimp only

theorem issuedTiming_confidence (values : Values) (token : String) :
    (issuedTiming env values token).expiry_confidence =
      if iso_from_value env (env.jwt_times token).exp ≠ "" then .exact
      else .unknown := by
  unfold issuedTiming token_timing
  dsimp only
  split
  · dsimp only
  · dsimp only

theorem explicitTiming_exact_iff (values : Values) (token : String) :
    (explicitTiming env values token).expiry_confidence = .exact ↔
      iso_from_value env (env.jwt_times token).exp ≠ "" ∨ ExplicitExact env values := by
  unfold explicitTiming ExplicitExact ExactTime
  dsimp only
  rw [issuedTiming_expires_at]
  by_cases hExp : iso_from_value env (env.jwt_times token).exp = ""
  · by_cases hExplicit : iso_from_value env (explicitExpiryValue values) = ""
    · rw [if_neg (fun h => h.2 hExplicit), issuedTiming_confidence, if_neg (not_not.mpr hExp)]
      constructor
      · exact nofun
      · rintro (h | h)
        · exact absurd hExp h
        · exact absurd hExplicit h.1
    · rw [if_pos ⟨hExp, hExplicit⟩]
      by_cases hPolicy : explicitExpirySource values = accessTokenOnlyExpirySource
      · rw [if_pos hPolicy]
        constructor
        · exact nofun
        · rintro (h | h)
          · exact absurd hExp h
          · exact absurd hPolicy h.2
      · rw [if_neg hPolicy]
        exact ⟨fun _ => .inr ⟨hExplicit, hPolicy⟩, fun _ => rfl⟩
  · rw [if_neg (fun h => hExp h.1), issuedTiming_confidence, if_pos hExp]
    exact ⟨fun _ => .inl hExp, fun _ => rfl⟩

theorem explicitTiming_unknown {values : Values}
    (hNone : (explicitTiming env values token).expires_at = "") :
    (explicitTiming env values token).expiry_confidence ≠ .exact := by
  rw [Ne, explicitTiming_exact_iff]
  unfold explicitTiming at hNone
  dsimp only at hNone
  rw [issuedTiming_expires_at] at hNone
  split at hNone
  next hTimed =>
    dsimp only at hNone
    exact absurd hNone hTimed.2
  next hPlain =>
    rw [issuedTiming_expires_at] at hNone
    rintro (hExp | hExact)
    · exact hExp hNone
    · exact hPlain ⟨hNone, hExact.1⟩

/- A timing is exact by the token or by a stated expiry, and by nothing else. -/
theorem timing_exact_iff (account : Account) (values : Values) (c : Credentials)
    (captured_at : String) (policy : Bool) (clock : String) :
    (access_token_timing env account values c captured_at policy clock).expiry_confidence = .exact ↔
      TokenExpiry env c ∨ ExplicitExact env values := by
  unfold TokenExpiry
  rw [← explicitTiming_exact_iff]
  unfold access_token_timing
  dsimp only
  by_cases hSet : (explicitTiming env values c.access_token).expires_at ≠ "" ∨ c.access_token = ""
  · rw [if_pos hSet]
  · rw [if_neg hSet]
    have hNone : (explicitTiming env values c.access_token).expires_at = "" :=
      not_not.mp (fun h => hSet (.inl h))
    have hUnknown := explicitTiming_unknown env hNone
    split
    · exact Iff.rfl
    · split
      · exact Iff.rfl
      · constructor
        · exact nofun
        · exact fun h => absurd h hUnknown

end AuthLifecycle

----
-- Calls
----

namespace AuthLifecycle

/- The expiry left by a probe is exact by the refresh attempt,
   by the evidence, or, without a token, by what was stored. -/
theorem probedTiming_exact_iff (hExact : access.expiry_confidence = .exact)
    (account : Account) (values : Values) (attempt : RefreshAttempt) (now clock : String) :
    (probedTiming env account values attempt now clock
        access).expiry_confidence = .exact ↔
      attempt.access_token_expires_at ≠ "" ∨ (credentials account values).access_token = "" ∨
        TokenExpiry env (credentials account values) ∨
        ExplicitExact env values := by
  unfold probedTiming
  by_cases hAttempt : attempt.access_token_expires_at ≠ ""
  · rw [if_pos hAttempt]
    exact ⟨fun _ => .inl hAttempt, fun _ => rfl⟩
  · rw [if_neg hAttempt]
    by_cases hToken : (credentials account values).access_token = ""
    · rw [if_neg (not_not.mpr hToken)]
      exact ⟨fun _ => .inr (.inl hToken), fun _ => hExact⟩
    · rw [if_pos hToken]
      unfold AccessToken.withTiming
      rw [timing_exact_iff]
      constructor
      · exact fun h => .inr (.inr h)
      · rintro (h | h | h)
        · exact absurd h hAttempt
        · exact absurd h hToken
        · exact h

theorem confidence_of_probe (hStored : values.chatgpt_auth_lifecycle = some projection)
    (hNext : apply_probe_lifecycle env account values probe clock = some next) :
    next.access_token.expiry_confidence = (probedTiming env account values probe.refresh_attempt
        (orElse probe.checked_at clock) clock projection.access_token).expiry_confidence := by
  unfold apply_probe_lifecycle projection_from_extra_or_account at hNext
  rw [hStored] at hNext
  dsimp only [bind_eq_bind, bind_some] at hNext
  rcases bind_eq_some_iff.mp hNext with ⟨refresh, _, hNext⟩
  rcases bind_eq_some_iff.mp hNext with ⟨states, _, hNext⟩
  rcases bind_eq_some_iff.mp hNext with ⟨state, _, hNext⟩
  rcases bind_eq_some_iff.mp hNext with ⟨http_status, _, hNext⟩
  rw [← some.inj hNext]

/- The expiry that a capture without a usable argument has: the one that `extra` states, which a
   changed material drops and the stored one replaces if it does not parse. -/
def CarriesExact (env : Env) (values : Values) (projection : Projection)
    (c : Credentials) (capture : Capture) : Prop :=
  capture.access_token_expires_at = "" ∧
    if materialChanged env projection c then
      ExactTime env values.local_auth.access_token_expires_at (orElse
          values.local_auth.access_token_expiry_source "oauth_expires_in")
    else if iso_from_value env values.access_token_expires_at = "" ∧
        projection.access_token.expires_at ≠ "" then
      ExactTime env projection.access_token.expires_at
        (orElse projection.access_token.expiry_source (orElse
            values.local_auth.access_token_expiry_source "oauth_expires_in"))
    else ExplicitExact env values

/- The capture has evidence of an exact expiry. -/
def CaptureExact (env : Env) (account : Account) (values : Values)
    (projection : Projection) (capture : Capture) : Prop :=
  iso_from_value env capture.access_token_expires_at ≠ "" ∨
    TokenExpiry env (credentials account values) ∨
    CarriesExact env values projection (credentials account values) capture

theorem explicitExact_timingValues
    (hParses : iso_from_value env capture.access_token_expires_at = "") :
    ExplicitExact env
        (timingValues env capture (materialChanged env projection c) projection.access_token
          (stampedValues c (materialChanged env projection c) captured_at values)) ↔
      CarriesExact env values projection c capture := by
  have hStamped : ∀ changed, stampedValues c changed captured_at values =
          { values with
            access_token_captured_at :=
              (stampedValues c changed captured_at values).access_token_captured_at } := by
    intro changed
    unfold stampedValues
    split
    · rfl
    · rfl
  unfold CarriesExact timingValues
  by_cases hArgument : capture.access_token_expires_at = ""
  · rw [if_neg (not_not.mpr hArgument), hStamped]
    by_cases hChanged : materialChanged env projection c
    · rw [if_pos hChanged, if_pos hChanged]
      exact ⟨fun h => ⟨hArgument, h⟩, fun h => h.2⟩
    · rw [if_neg hChanged, if_neg hChanged]
      by_cases hFeeds : iso_from_value env values.access_token_expires_at = "" ∧
            projection.access_token.expires_at ≠ ""
      · rw [if_pos hFeeds, if_pos hFeeds]
        have hExpiry : orElse projection.access_token.expires_at
                values.local_auth.access_token_expires_at =
              projection.access_token.expires_at :=
          if_neg hFeeds.2
        unfold ExplicitExact explicitExpiryValue explicitExpirySource
        rw [hExpiry]
        exact ⟨fun h => ⟨hArgument, h⟩, fun h => h.2⟩
      · rw [if_neg hFeeds, if_neg hFeeds]
        exact ⟨fun h => ⟨hArgument, h⟩, fun h => h.2⟩
  · rw [if_pos hArgument]
    have hExpiry : orElse capture.access_token_expires_at
            values.local_auth.access_token_expires_at =
          capture.access_token_expires_at :=
      if_neg hArgument
    constructor
    · intro hExact
      unfold ExplicitExact explicitExpiryValue at hExact
      rw [hStamped] at hExact
      dsimp only at hExact
      rw [hExpiry] at hExact
      exact absurd hParses hExact.1
    · exact fun h => absurd h.1 hArgument

theorem capturedTiming_exact_iff (account : Account) (values : Values)
    (projection : Projection) (capture : Capture) (captured_at : String) :
    (capturedTiming env account
        (timingValues env capture (materialChanged env projection (credentials account values))
          projection.access_token (stampedValues (credentials account values)
            (materialChanged env projection (credentials account values)) captured_at values))
        (credentials account values) capture
        (materialChanged env projection (credentials account values))
        captured_at
        projection.access_token).expiry_confidence = .exact ↔
      CaptureExact env account values projection capture := by
  unfold capturedTiming CaptureExact
  by_cases hParses : iso_from_value env capture.access_token_expires_at = ""
  · rw [if_neg (not_not.mpr hParses)]
    unfold AccessToken.withTiming
    rw [timing_exact_iff, explicitExact_timingValues hParses]
    exact ⟨.inr, fun h => h.elim (absurd hParses) (fun h => h)⟩
  · rw [if_pos hParses]
    exact ⟨fun _ => .inl hParses, fun _ => rfl⟩

theorem confidence_of_capturedAccess
    (hNext : capturedAccess env c changed captured_at access = some next) :
    next.expiry_confidence = access.expiry_confidence := by
  unfold capturedAccess at hNext
  rcases bind_eq_some_iff.mp hNext with ⟨expired, _, hNext⟩
  dsimp only at hNext
  split at hNext
  · rw [← some.inj hNext]
    split
    · rfl
    · rfl
  · rw [← some.inj hNext]
    dsimp only
    split
    · rfl
    · rfl

theorem confidence_of_capture (hStored : values.chatgpt_auth_lifecycle = some projection)
    (hNext : apply_material_capture env account values capture captured_at = some next) :
    ∃ after, next.chatgpt_auth_lifecycle = some after ∧
      (after.access_token.expiry_confidence = .exact ↔
        CaptureExact env account values projection capture) := by
  rw [← capturedTiming_exact_iff _ _ _ _ captured_at]
  unfold apply_material_capture projection_from_extra_or_account at hNext
  rw [hStored] at hNext
  dsimp only [bind_eq_bind, bind_some] at hNext
  rcases bind_eq_some_iff.mp hNext with ⟨access, hAccess, hNext⟩
  rw [← some.inj hNext]
  refine ⟨_, rfl, ?_⟩
  rw [← confidence_of_capturedAccess hAccess]

----
-- Runs
----

def ExactStored (s : Stored) : Prop := ∃ projection,
    s.values.chatgpt_auth_lifecycle = some projection ∧
      projection.access_token.expiry_confidence = .exact

/- The call raises, or it has evidence of an exact expiry: from the token, from the refresh attempt
   or the argument, or as `extra` states it. A probe without a token leaves the expiry alone. -/
def KeepsExact (env : Env) (s : Stored) : LifecycleOp → Prop
| .apply_probe_lifecycle probe clock => apply_probe_lifecycle env s.account s.values probe clock =
        none ∨
      probe.refresh_attempt.access_token_expires_at ≠ "" ∨
      (credentials s.account s.values).access_token = "" ∨
      TokenExpiry env (credentials s.account s.values) ∨
      ExplicitExact env s.values
| .apply_material_capture capture clock => apply_material_capture env s.account s.values capture
        clock = none ∨
      ∃ projection, s.values.chatgpt_auth_lifecycle = some projection ∧
          CaptureExact env s.account s.values projection capture
| .save _ _ => True

theorem exact_kept_iff (hExact : ExactStored s) (op : LifecycleOp) :
    ExactStored (lifecycleStep env s op).1 ↔ KeepsExact env s op := by
  rcases hExact with ⟨projection, hStored, hConfidence⟩
  cases op with
  | apply_probe_lifecycle probe clock =>
    unfold lifecycleStep KeepsExact
    dsimp only
    cases hNext : apply_probe_lifecycle env s.account s.values probe clock with
    | none => exact ⟨fun _ => .inl rfl, fun _ => ⟨projection, hStored, hConfidence⟩⟩
    | some next =>
      have hTiming := @probedTiming_exact_iff env _ hConfidence
          s.account s.values probe.refresh_attempt (orElse probe.checked_at clock) clock
      rw [← confidence_of_probe hStored hNext] at hTiming
      constructor
      · rintro ⟨after, hAfter, hStill⟩
        cases hAfter
        exact .inr (hTiming.mp hStill)
      · rintro (h | h)
        · cases h
        · exact ⟨next, rfl, hTiming.mpr h⟩
  | apply_material_capture capture clock =>
    unfold lifecycleStep KeepsExact
    dsimp only
    cases hNext : apply_material_capture env s.account s.values capture clock with
    | none => exact ⟨fun _ => .inl rfl, fun _ => ⟨projection, hStored, hConfidence⟩⟩
    | some next =>
      rcases confidence_of_capture hStored hNext with ⟨after, hAfter, hTiming⟩
      constructor
      · rintro ⟨found, hFound, hStill⟩
        rw [hAfter, some.injEq] at hFound
        subst hFound
        exact .inr ⟨projection, hStored, hTiming.mp hStill⟩
      · rintro (h | ⟨found, hFound, hEvidence⟩)
        · cases h
        · rw [hStored, some.injEq] at hFound
          subst hFound
          exact ⟨after, hAfter, hTiming.mpr hEvidence⟩
  | save account values => exact ⟨fun _ => trivial, fun _ => ⟨projection, hStored, hConfidence⟩⟩

/- Once an exact expiry is stored, it stays exact over a run of calls and saves exactly when every
   call has its own evidence of an exact expiry. -/
theorem exact_stays_iff (env : Env) (s : Stored) (ops : List LifecycleOp) (hExact : ExactStored s) :
    (∀ before after, ops = before ++ after →
      ExactStored (run (lifecycleStep env) s before)) ↔
      Steps (lifecycleStep env) (KeepsExact env) s
        ops := by
  constructor
  · intro hStays
    rw [steps_iff_forall_split]
    intro before op after hSplit
    have hBefore := hStays before (op :: after) hSplit
    have hAfter := hStays (before ++ [op]) after (by simp [hSplit])
    rw [run_append] at hAfter
    exact (exact_kept_iff hBefore op).mp hAfter
  · intro hSteps before after hSplit
    rw [hSplit, steps_append] at hSteps
    have hStep :
        ∀ s op, ExactStored s → KeepsExact env s op → ExactStored (lifecycleStep env s op).1 :=
      fun _ op hStill hKeeps => (exact_kept_iff hStill op).mpr hKeeps
    exact @Machine.run_induction_of_steps _ _ _
        (lifecycleStep env) ExactStored (KeepsExact env) hStep s hExact before hSteps.1

/- Material by the presence of its four parts. -/
def materialOfFlags (access refresh session cookies : Bool) : Material where
  type :=
    if refresh then .refresh_token
    else if access then .access_token_only
    else .unknown
  has_access_token := access
  has_refresh_token := refresh
  has_session_token := session
  has_cookies := cookies

theorem materialOf_eq_flags (c : Credentials) :
    materialOf c = materialOfFlags (c.access_token != "")
        (c.refresh_token != "") (c.session_token != "") (c.cookies != "") := by
  unfold materialOf materialOfFlags
  simp only [bne_iff_ne]

/- A text for each kind of material; an access token alone has
   the hash of `["at-opaque","","",""]`. -/
def sampleHash (access refresh session cookies : Bool) :
    String :=
  if access && !refresh && !session && !cookies then
    "4ae7ce7c200f94899bfdcf73fff26280" ++ "d372fd4ed55f80fc1572b1ae9078eec5"
  else
    String.ofList ([access, refresh, session, cookies].map (fun flag => if flag then '1' else '0'))

theorem sampleHash_ne :
    ∀ access refresh session cookies, sampleHash access refresh session cookies ≠ "" := by
  decide

theorem material_of_sampleHash :
    ∀ a r s c a' r' s' c', sampleHash a r s c = sampleHash a' r' s' c' →
        materialOfFlags a r s c = materialOfFlags a' r' s' c' := by
  decide

/- Three times, an opaque token, and texts in lower case. -/
def sampleEnv : Env where
  lower := id
  parse_time := fun text =>
    if text = "2026-01-01T00:00:00Z" then some 1767225600000000
    else if text = "2026-01-11T00:00:00Z" then some 1768089600000000
    else if text = "2026-06-01T00:00:00Z" then some 1780272000000000
    else none
  isoformat := fun epoch =>
    if epoch = 1767225600000000 then "2026-01-01T00:00:00Z"
    else if epoch = 1768089600000000 then "2026-01-11T00:00:00Z"
    else "2026-06-01T00:00:00Z"
  jwt_times := fun _ => {}
  material_hash := fun c => sampleHash (c.access_token != "") (c.refresh_token != "")
      (c.session_token != "") (c.cookies != "")
  safe_text := id
  material_hash_ne := fun _ => sampleHash_ne _ _ _ _
  material_of_hash := by
    intro c c' hSame
    rw [materialOf_eq_flags, materialOf_eq_flags]
    exact material_of_sampleHash _ _ _ _ _ _ _ _ hSame

/- An access token without a refresh token. -/
def atOnly : Stored where
  values := { access_token := "at-opaque", created_at := "2026-01-01T00:00:00Z" }

/- A refresh attempt that says when the token expires. -/
def refreshedProbe : Probe where
  auth := { http_status := some 200 }
  refresh_attempt :=
    { attempted := true, success := true, http_status := some 200,
      access_token_expires_at := "2026-06-01T00:00:00Z" }

def refreshedStored : Stored :=
  (lifecycleStep sampleEnv atOnly (.apply_probe_lifecycle refreshedProbe "2026-01-01T00:00:00Z")).1

def storedConfidence (s : Stored) : Option Confidence :=
  s.values.chatgpt_auth_lifecycle.map (·.access_token.expiry_confidence)

theorem exactStored_of_confidence (hConfidence : storedConfidence s = some .exact) :
    ExactStored s :=
  map_eq_some_iff.mp hConfidence

theorem refreshedStored_exact : ExactStored refreshedStored :=
  exactStored_of_confidence (by decide +kernel)

/- A further refresh and a capture with its expiry keep it exact. -/
theorem refreshedStored_stays_exact :
    ExactStored (run (lifecycleStep sampleEnv) refreshedStored
        [.apply_probe_lifecycle refreshedProbe "2026-01-01T00:00:00Z", .apply_material_capture
            { access_token_expires_at := "2026-06-01T00:00:00Z" } "2026-01-01T00:00:00Z"]) := by
  have hSteps : Steps (lifecycleStep sampleEnv)
        (KeepsExact sampleEnv) refreshedStored
        [.apply_probe_lifecycle refreshedProbe "2026-01-01T00:00:00Z", .apply_material_capture
            { access_token_expires_at := "2026-06-01T00:00:00Z" } "2026-01-01T00:00:00Z"] := by
    refine ⟨?_, ?_, trivial⟩
    · exact .inr (.inl (by decide +kernel))
    · have hStored : ExactStored
            (lifecycleStep sampleEnv refreshedStored
              (.apply_probe_lifecycle refreshedProbe "2026-01-01T00:00:00Z")).1 :=
        exactStored_of_confidence (by decide +kernel)
      rcases hStored with ⟨projection, hProjection, _⟩
      exact .inr ⟨projection, hProjection, .inl (by decide +kernel)⟩
  exact (exact_stays_iff sampleEnv refreshedStored _
      refreshedStored_exact).mpr hSteps _ [] (List.append_nil _).symm

/- The next probe, without a refresh attempt, replaces the exact expiry by the AT-only estimate. -/
theorem exact_expiry_estimated_again :
    ¬ ∀ (env : Env) (s : Stored) (probe : Probe) (clock : String),
      ExactStored s → ExactStored (lifecycleStep env s (.apply_probe_lifecycle probe clock)).1 := by
  intro hStays
  have hStill := hStays sampleEnv refreshedStored { auth := { http_status := some 200 } }
      "2026-01-01T00:00:00Z" refreshedStored_exact
  rcases hStill with ⟨projection, hStored, hExact⟩
  have hEstimated : storedConfidence
          (lifecycleStep sampleEnv refreshedStored (.apply_probe_lifecycle
              { auth := { http_status := some 200 } } "2026-01-01T00:00:00Z")).1 =
        some .estimated := by
    decide +kernel
  unfold storedConfidence at hEstimated
  rw [hStored, map_some, hExact] at hEstimated
  cases hEstimated

end AuthLifecycle
