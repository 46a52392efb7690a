import AutoGpt.AdminAuth.Requests
import AutoGpt.AdminAuth.Throttle
import AutoGpt.AdminAuth.TokenText

/-
  `POST /verify-totp` of `api/auth.py` as a whole: the
  throttle, the pending challenge, and what a code that is not
  accepted leaves behind.

  Main theorems: `AdminTotp.verifyTotpRoute_handled_iff`, `AdminTotp.errors_closed_iff`
-/

open PyText (isAscii strip)
open KeyedTable
open AdminAuth

----
-- The Route
----

namespace AdminTotp

open AdminAuth (Env World Pending)
open AdminThrottle (ThrottleRow Limits Dialect)

/- The stores of the route; `row` is the throttle of the client at the stage "totp". -/
structure RouteState where
  world : World
  row : Option ThrottleRow := none

/- How the throttle registers a failure, and the seconds that
   pass before it does and before the answer. -/
structure Registration where
  dialect : Dialect
  limits : Limits
  register_delay : Nat := 0
  answer_delay : Nat := 0

/- The end of the route; an accepted challenge goes on with `create_token`. -/
inductive Ending where
| accepted (checked : Nat)
| raised (status_code : Nat) (detail : String)
| escaped (exception : String)

/- `int(row.blocked_until if row else 0)`. -/
def blockedUntil (row : Option ThrottleRow) : Int := (row.map ThrottleRow.blocked_until).getD 0

/- The row after `_register_failure`. -/
def registered (r : Registration) (st : RouteState) :
    ThrottleRow :=
  AdminThrottle.registerFailure r.dialect r.limits (st.world.clock + r.register_delay : Nat) st.row

def tooManyAttempts : Ending := .raised 429 "登录尝试过于频繁，请稍后再试"

/- `_raise_login_failure`. -/
def raiseLoginFailure (r : Registration) (st : RouteState)
    (detail : String) (status_code : Nat) : Ending :=
  let now : Nat := st.world.clock + r.register_delay + r.answer_delay
  if now < (registered r st).blocked_until then tooManyAttempts
  else .raised status_code detail

/- `verify_totp_route`. -/
def verifyTotpRoute (env : Env) (r : Registration) (temp_token code : String)
    (st : RouteState) : RouteState × Ending :=
  if st.world.clock < blockedUntil st.row then (st, tooManyAttempts)
  else
    let secret := totpSecret env st.world.config
    let checked := checkChallenge env temp_token code secret st.world
    let failed : RouteState := { world := checked.1, row := some (registered r st) }
    match checked.2 with
    | .invalid => (failed, raiseLoginFailure r st "临时令牌无效或已过期，请重新登录" 401)
    | .totp_disabled => ({ st with world := checked.1 }, .raised 400 "2FA 未启用")
    | .attempts_exhausted => (failed, .raised 401 "验证码错误次数过多，请重新输入密码")
    | .invalid_code => (failed, raiseLoginFailure r st "验证码错误" 400)
    | .accepted epoch => ({ world := checked.1, row := none }, .accepted epoch)
    | .escaped => ({ st with world := checked.1 }, .escaped "TypeError")

/- The challenge is in the table, has not expired, and belongs to the current credentials. -/
def Live (env : Env) (w : World) (temp_token : String) (pending : Pending) : Prop :=
  (cleanPending w).find? temp_token = some pending ∧ pending.current env w

/- One more failure of a challenge; the fifth removes it. -/
def FailureCounted (temp_token : String) (pending : Pending) (w : World) :
    Prop :=
  w.pending.find? temp_token =
    if totpChallengeMaxFailures ≤ pending.failure_count + 1 then none
    else some { pending with failure_count := pending.failure_count + 1 }

/- A refused request raises an `HTTPException`, counts the
   failure and registers it with the throttle. -/
structure FailureHandled (r : Registration) (st : RouteState)
    (temp_token : String) (pending : Pending) (result : RouteState × Ending) : Prop where
  raises : ∃ status_code detail, result.2 = .raised status_code detail
  counted : FailureCounted temp_token pending result.1.world
  throttled : result.1.row = some (registered r st)

/- What becomes of a request on a live challenge. -/
def Handled (r : Registration) (st : RouteState) (temp_token : String) (pending : Pending)
    (result : RouteState × Ending) : Prop :=
  (∃ epoch, result.2 = .accepted epoch) ∨ FailureHandled r st temp_token pending result

/- Six decimal digits that are not all ASCII. -/
def ForeignDigits (code : String) : Prop :=
  PyText.isSixDigits (strip code) ∧ isAscii (strip code) = false

----
-- Refused Codes
----

theorem registered_ne (hClock : 0 < st.world.clock) : st.row ≠ some (registered r st) := by
  intro hSame
  have hMaximum := r.limits.maximum_bounds.1
  have hWindow := r.limits.window_bounds.1
  cases hRow : st.row with
  | none =>
    rw [hRow] at hSame
    cases hSame
  | some row =>
    rw [hRow, Option.some.injEq] at hSame
    unfold registered AdminThrottle.registerFailure at hSame
    rw [hRow] at hSame
    cases hDialect : r.dialect with
    | sqliteOrPostgresql =>
      rw [hDialect] at hSame
      dsimp only at hSame
      rw [AdminThrottle.upsert_some, AdminThrottle.countedRow] at hSame
      split at hSame
      next hReset =>
        unfold AdminThrottle.resetWindow at hReset
        rw [hSame] at hReset
        simp only [decide_eq_true_eq] at hReset
        omega
      next _ =>
        have hCount := congrArg ThrottleRow.failure_count hSame
        dsimp only at hCount
        omega
    | other =>
      rw [hDialect] at hSame
      dsimp only at hSame
      rw [AdminThrottle.lockedWrite_some, AdminThrottle.countedRow] at hSame
      split at hSame
      next hRolled =>
        unfold AdminThrottle.rolledOver at hRolled
        rw [hSame] at hRolled
        simp only [Bool.or_eq_true, decide_eq_true_eq] at hRolled
        omega
      next _ =>
        have hCount := congrArg ThrottleRow.failure_count hSame
        dsimp only at hCount
        omega

theorem Live.found (hLive : Live env w temp_token pending) :
    w.pending.find? temp_token = some pending := by
  have hClean := hLive.1
  unfold cleanPending at hClean
  rw [find?_deleteWhere] at hClean
  exact (Option.filter_eq_some_iff.mp hClean).1

/- A challenge that is stored as it was has not been counted. -/
theorem not_counted_of_found (hFound : w.pending.find? temp_token = some pending) :
    ¬ FailureCounted temp_token pending w := by
  intro hCounted
  unfold FailureCounted at hCounted
  rw [hFound] at hCounted
  split at hCounted
  next _ => cases hCounted
  next _ =>
    have hCount := congrArg Pending.failure_count (Option.some.inj hCounted)
    dsimp only at hCount
    omega

theorem checkChallenge_of_live (hLive : Live env w temp_token pending) (secret : String) :
    checkChallenge env temp_token code secret w =
      if secret = "" then (dropPending temp_token w, .totp_disabled)
      else
        match verifyTotp env secret code w.clock with
        | none => ({ w with pending := cleanPending w }, .escaped)
        | some true => (dropPending temp_token w, .accepted pending.checked)
        | some false =>
          if totpChallengeMaxFailures ≤ pending.failure_count + 1 then
            (dropPending temp_token w, .attempts_exhausted)
          else (failPending temp_token w, .invalid_code) := by
  unfold checkChallenge
  rw [hLive.1]
  dsimp only
  rewrite [if_pos hLive.2]
  by_cases hSecret : secret = ""
  · simp only [if_pos hSecret]
  · cases verifyTotp env secret code w.clock with
    | none => simp only [if_neg hSecret]
    | some valid =>
      cases valid with
      | true => simp only [if_neg hSecret]
      | false => simp only [if_neg hSecret]

theorem find?_dropPending :
    (dropPending temp_token w).pending.find? temp_token = none := by
  unfold dropPending
  rw [find?_deleteWhere, Option.filter_eq_none_iff]
  intro p hp
  simp [(mem_of_find? hp).2]

theorem dropPending_counted
    (hLast : totpChallengeMaxFailures ≤ pending.failure_count + 1) :
    FailureCounted temp_token pending (dropPending temp_token w) := by
  unfold FailureCounted
  rw [if_pos hLast, find?_dropPending]

theorem failPending_counted (hLive : Live env w temp_token pending)
    (hLast : ¬ totpChallengeMaxFailures ≤ pending.failure_count + 1) :
    FailureCounted temp_token pending (failPending temp_token w) := by
  unfold FailureCounted failPending
  rw [if_neg hLast]
  rw [find?_updateKey_self, hLive.1]
  rfl

theorem raiseLoginFailure_raises (detail : String) (status_code : Nat) :
    ∃ status_code' detail',
      raiseLoginFailure r st detail status_code = .raised status_code' detail' := by
  unfold raiseLoginFailure tooManyAttempts
  dsimp only
  split
  · exact ⟨_, _, rfl⟩
  · exact ⟨_, _, rfl⟩

/- The requests on a live challenge whose refusal is counted: the throttle lets them pass, the
   second factor is configured, and the code can be compared. -/
structure Comparable (env : Env) (st : RouteState) (code : String) : Prop where
  admitted : ¬ st.world.clock < blockedUntil st.row
  configured : totpSecret env st.world.config ≠ ""
  comparable : ¬ ForeignDigits code

theorem handled_of_comparable (hLive : Live env st.world temp_token pending)
    (hCode : Comparable env st code) :
    Handled r st temp_token pending (verifyTotpRoute env r temp_token code st) := by
  unfold verifyTotpRoute
  rw [if_neg hCode.admitted]
  dsimp only
  rw [checkChallenge_of_live hLive, if_neg hCode.configured]
  cases hVerified : verifyTotp env (totpSecret env st.world.config) code
        st.world.clock with
  | none => exact absurd (verifyTotp_eq_none_iff.mp hVerified) hCode.comparable
  | some valid =>
    cases valid with
    | true => exact .inl ⟨pending.checked, rfl⟩
    | false =>
      right
      by_cases hLast : totpChallengeMaxFailures ≤ pending.failure_count + 1
      · dsimp only
        rw [if_pos hLast]
        exact { raises := ⟨401, _, rfl⟩, counted := dropPending_counted hLast, throttled := rfl }
      · dsimp only
        rw [if_neg hLast]
        exact
          { raises := raiseLoginFailure_raises _ _, counted := failPending_counted hLive hLast,
            throttled := rfl }

theorem not_handled_of_not_comparable (hClock : 0 < st.world.clock)
    (hLive : Live env st.world temp_token pending) (hCode : ¬ Comparable env st code) :
    ¬ Handled r st temp_token pending (verifyTotpRoute env r temp_token code st) := by
  unfold verifyTotpRoute
  by_cases hAdmitted : ¬ st.world.clock < blockedUntil st.row
  · rw [if_neg hAdmitted]
    dsimp only
    rw [checkChallenge_of_live hLive]
    by_cases hSecret : AdminAuth.totpSecret env st.world.config = ""
    · rw [if_pos hSecret]
      rintro (⟨epoch, hAccepted⟩ | hHandled)
      · cases hAccepted
      · exact registered_ne hClock hHandled.throttled
    · rw [if_neg hSecret]
      have hForeign : ForeignDigits code := by
        by_contra hComparable
        exact hCode ⟨hAdmitted, hSecret, hComparable⟩
      rw [AdminAuth.verifyTotp_eq_none_iff.mpr hForeign]
      rintro (⟨epoch, hAccepted⟩ | hHandled)
      · cases hAccepted
      · rcases hHandled.raises with
          ⟨status_code, detail, hRaised⟩
        cases hRaised
  · rw [if_pos (not_not.mp hAdmitted)]
    rintro (⟨epoch, hAccepted⟩ | hHandled)
    · cases hAccepted
    · exact not_counted_of_found hLive.found hHandled.counted

theorem verifyTotpRoute_handled_iff (hClock : 0 < st.world.clock)
    (hLive : Live env st.world temp_token pending) :
    Handled r st temp_token pending
        (verifyTotpRoute env r temp_token code st) ↔
      Comparable env st code := by
  constructor
  · intro hHandled
    by_contra hCode
    exact not_handled_of_not_comparable hClock hLive hCode hHandled
  · exact handled_of_comparable hLive

----
-- Closed Errors
----

open AdminToken

  (Libraries verifyToken Escapes decodePart b64urlDecode)

/- `verify_token` returns claims or raises an HTTP error on every text but those whose signature has
   a foreign character or covers an infinite number; and a code for a live challenge is accepted, or
   refused and counted, exactly when the request is admitted, a secret is configured and the code is
   not made of foreign digits. -/
theorem errors_closed_iff (env : Env) (lib : Libraries) (config : AdminAuth.Config)
    (storage : AdminToken.Storage) (request : Option AdminAuth.Client) (now : Nat) (token : String)
    (r : Registration) (st : RouteState) (temp_token code : String) (pending : Pending)
    (hClock : 0 < st.world.clock) (hLive : Live env st.world temp_token pending) :
    ((verifyToken env lib config storage request now token).2.closed ↔ ¬ Escapes lib token) ∧
      (Handled r st temp_token pending (verifyTotpRoute env r temp_token code st) ↔
        Comparable env st code) :=
  ⟨AdminToken.verifyToken_closed_iff token, verifyTotpRoute_handled_iff hClock hLive⟩

/- The header of every token, and an empty payload. -/
def plainHeader : List UInt8 :=
  "\x7b\"alg\":\"HS256\",\"typ\":\"JWT\"\x7d".toList.map fun c => UInt8.ofNat c.toNat

def plainLibraries : Libraries where
  b64decode := fun text =>
    if text = "eyJhbGciOiJIUzI1NiIsInR5cCI6IkpXVCJ9" then some plainHeader
    else if text = "e30=" then some [123, 125]
    else none
  b64encode := fun _ => String.ofList (List.replicate 43 'A')
  hmac_sha256 := fun _ => List.replicate 32 0
  loads := fun bytes =>
    if bytes = plainHeader then some (.object [("alg", .string "HS256"), ("typ", .string "JWT")])
    else if bytes = [123, 125] then some (.object [])
    else none
  parse_int := fun _ => none
  text := fun _ => ""
  b64encode_ascii := fun _ => by decide

theorem decodePart_plainHeader :
    decodePart plainLibraries "eyJhbGciOiJIUzI1NiIsInR5cCI6IkpXVCJ9" =
      some (.object [("alg", .string "HS256"), ("typ", .string "JWT")]) := by
  have hAscii : isAscii "eyJhbGciOiJIUzI1NiIsInR5cCI6IkpXVCJ9" := by decide
  have hPadded : "eyJhbGciOiJIUzI1NiIsInR5cCI6IkpXVCJ9" ++ String.ofList
            (List.replicate ((4 - "eyJhbGciOiJIUzI1NiIsInR5cCI6IkpXVCJ9".length % 4) % 4) '=') =
        "eyJhbGciOiJIUzI1NiIsInR5cCI6IkpXVCJ9" := by
    decide
  unfold decodePart b64urlDecode
  rw [if_pos hAscii, hPadded]
  simp [plainLibraries]

theorem decodePart_plainPayload : decodePart plainLibraries "e30" = some (.object []) := by
  have hAscii : isAscii "e30" := by decide
  have hPadded :
      "e30" ++ String.ofList (List.replicate ((4 - "e30".length % 4) % 4) '=') = "e30=" := by
    decide
  have hOther : ([123, 125] : List UInt8) ≠ plainHeader := by decide
  unfold decodePart b64urlDecode
  rw [if_pos hAscii, hPadded]
  simp [plainLibraries, hOther]

def plainEnv : Env := AdminAuth.plainEnv (AdminAuth.Settings.ofRaw 1200 900 86400)

def plainPending : Pending where
  temp_token := "c1"
  instance_id := "primary"
  auth_version := 1
  expires_at := 1300
  checked := 0

def plainState : RouteState where
  world :=
    { clock := 1000, config := { auth_totp_secret := "MFRGGZDF" },
      pending := empty.put plainPending }

def plainRegistration : Registration where
  dialect := .sqliteOrPostgresql
  limits := AdminThrottle.throttleLimits (fun _ _ => none) "totp"

theorem plainPending_live : Live plainEnv plainState.world "c1" plainPending :=
  ⟨by decide, by decide⟩

/- A token with its right header is refused, and a wrong code is counted. -/
theorem errors_closed_plain :
    ((verifyToken plainEnv plainLibraries {} { sessions := .empty } none 1000
          "eyJhbGciOiJIUzI1NiIsInR5cCI6IkpXVCJ9.e30.A" ).2.closed ↔
        ¬ Escapes plainLibraries "eyJhbGciOiJIUzI1NiIsInR5cCI6IkpXVCJ9.e30.A") ∧
      (Handled plainRegistration plainState "c1" plainPending
          (verifyTotpRoute plainEnv plainRegistration "c1" "000000" plainState) ↔
        Comparable plainEnv plainState "000000") :=
  errors_closed_iff plainEnv plainLibraries {} { sessions := .empty } none 1000 _ plainRegistration
    plainState "c1" "000000" plainPending (by decide) plainPending_live

/- A signature with an accent, and a code of full-width digits: both comparisons raise a
   `TypeError`. The challenge and the throttle stay as they were. -/
theorem foreign_text_escapes :
    ¬ (verifyToken plainEnv plainLibraries {} { sessions := .empty } none 1000
          "eyJhbGciOiJIUzI1NiIsInR5cCI6IkpXVCJ9.e30.é" ).2.closed ∧
      ¬ Handled plainRegistration plainState "c1" plainPending
          (verifyTotpRoute plainEnv plainRegistration "c1" "１２３４５６" plainState) := by
  constructor
  · rw [AdminToken.verifyToken_closed_iff, not_not]
    refine ⟨"eyJhbGciOiJIUzI1NiIsInR5cCI6IkpXVCJ9", "e30", "é",
        .object [("alg", .string "HS256"), ("typ", .string "JWT")], .object [], ?_, ?_, ?_, ?_, ?_⟩
    · decide
    · exact decodePart_plainHeader
    · exact decodePart_plainPayload
    · rfl
    · exact .inl (by decide)
  · rw [verifyTotpRoute_handled_iff (by decide)
      plainPending_live]
    intro hComparable
    exact hComparable.comparable ⟨by decide, by decide⟩

end AdminTotp
