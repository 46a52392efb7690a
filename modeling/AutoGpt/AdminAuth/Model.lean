import AutoGpt.Library.KeyedTable
import AutoGpt.Library.PyText

/-
  The data of `api/auth.py`: the stored administrator
  credentials, the session rows behind the bearer tokens, and
  the tests that a password and a token have to pass.
-/

open PyText (isAscii isSixDigits strip)

----
-- Settings
----

namespace AdminAuth

/- `_SESSION_ACTIVITY_INTERVAL_SECONDS`. -/
def activityInterval : Nat := 5 * 60

/- `_MAX_SESSION_ABSOLUTE_TIMEOUT_SECONDS`. -/
def maxAbsoluteTimeout : Nat := 30 * 24 * 60 * 60

/- `_MIN_PASSWORD_LENGTH`. -/
def minPasswordLength : Nat := 12

/- `_TOTP_CHALLENGE_MAX_FAILURES`. -/
def totpChallengeMaxFailures : Nat := 5

/- `_bounded_integer`, after the text was parsed. -/
def boundedInteger (value : Int) (minimum maximum : Nat) :
    Nat :=
  (max (minimum : Int) (min (maximum : Int) value)).toNat

/- The three timeouts, within the bounds of their readers. -/
structure Settings where
  idle_timeout : Nat
  renew_interval : Nat
  absolute_timeout : Nat
  renew_pos : 0 < renew_interval
  renew_le_idle : renew_interval ≤ idle_timeout
  idle_le_absolute : idle_timeout ≤ absolute_timeout
  absolute_le_max : absolute_timeout ≤ maxAbsoluteTimeout

theorem boundedInteger_le (value : Int) (hBounds : minimum ≤ maximum) :
    minimum ≤ boundedInteger value minimum maximum ∧
      boundedInteger value minimum maximum ≤ maximum := by
  unfold boundedInteger
  omega

/- `_session_idle_timeout_seconds` and its two siblings. -/
def Settings.ofRaw (idle renew absolute : Int) : Settings :=
  let idle_timeout := boundedInteger idle 300 (7 * 24 * 60 * 60)
  let configured := boundedInteger absolute idle_timeout maxAbsoluteTimeout
  have hIdle := boundedInteger_le idle (show 300 ≤ 7 * 24 * 60 * 60 by omega)
  have hMax : idle_timeout ≤ maxAbsoluteTimeout :=
    Nat.le_trans hIdle.2 (show 7 * 24 * 60 * 60 ≤ 30 * 24 * 60 * 60 by omega)
  have hRenew :=
    boundedInteger_le renew (show 60 ≤ idle_timeout from Nat.le_trans (by omega) hIdle.1)
  have hAbsolute := boundedInteger_le absolute hMax
  { idle_timeout := idle_timeout, renew_interval := boundedInteger renew 60 idle_timeout,
    absolute_timeout := max idle_timeout configured,
    renew_pos := Nat.lt_of_lt_of_le (by omega) hRenew.1, renew_le_idle := hRenew.2,
    idle_le_absolute := Nat.le_max_left _ _, absolute_le_max := Nat.max_le.mpr ⟨hMax, hAbsolute.2⟩ }

----
-- Credentials
----

/- The configuration keys that the module writes. -/
structure Config where
  auth_password_hash : String := ""
  auth_totp_secret : String := ""
  auth_version : Int := 1

/- The instance and its libraries. A password hasher has the documented behaviour: its hashes verify
   the hashed password and no other one. `totp_at` is `_totp_at`: no text, or six digits. -/
structure Env where
  instance_id : String
  settings : Settings
  env_password_hash : String
  env_totp_secret : String
  argon2_hash : Nat → String → String
  argon2_verify : String → String → Bool
  argon2_needs_rehash : String → Bool
  sha256_hex : String → String
  lower : String → String
  totp_secret_valid : String → Bool
  totp_at : String → Int → String
  hash_prefix : ∀ salt password, "$argon2".toList <+: (argon2_hash salt password).toList
  hash_stripped : ∀ salt password, strip (argon2_hash salt password) = argon2_hash salt password
  verify_hash :
    ∀ salt password other, argon2_verify (argon2_hash salt password) other ↔ other = password
  totp_ascii : ∀ secret counter, isAscii (totp_at secret counter)

/- `config_store.get` of a local key. -/
def configGet (value fallback : String) : String := PyText.orElse (strip value) fallback

/- `_cfg().get("auth_password_hash", "")`. -/
def storedHash (env : Env) (config : Config) : String :=
  configGet config.auth_password_hash env.env_password_hash

/- `_cfg().get("auth_totp_secret", "")`. -/
def totpSecret (env : Env) (config : Config) : String :=
  configGet config.auth_totp_secret env.env_totp_secret

/- `_auth_version`. -/
def authVersion (config : Config) : Int := max 1 config.auth_version

/- `_LEGACY_SHA256_RE`. -/
def isLegacyHash (value : String) : Bool := decide (value.toList.length = 64) &&
    value.toList.all fun c => ('0' ≤ c && c ≤ '9') || ('a' ≤ c && c ≤ 'f') || ('A' ≤ c && c ≤ 'F')

/- `value.startswith("$argon2")`. -/
def isArgon2 (value : String) : Bool := "$argon2".toList.isPrefixOf value.toList

/- `_verify_password`: valid, and to be rehashed. -/
def verifyPassword (env : Env) (password stored : String) :
    Bool × Bool :=
  if 1024 < password.length then (false, false)
  else
    let value := strip stored
    if isArgon2 value then
      if env.argon2_verify value password then (true, env.argon2_needs_rehash value)
      else (false, false)
    else if isLegacyHash value then
      let valid := decide (env.sha256_hex password = env.lower value)
      (valid, valid)
    else (false, false)

/- `hmac.compare_digest` of two texts: a `TypeError` unless both are ASCII. -/
def compareDigest (a b : String) : Option Bool :=
  if isAscii a && isAscii b then some (decide (a = b))
  else none

/- `verify_totp`, or the `TypeError` of its comparison. -/
def verifyTotp (env : Env) (secret code : String) (now : Nat) :
    Option Bool :=
  let counter : Int := now / 30
  let user_code := strip code
  if isSixDigits user_code = false then some false
  else
    ([-1, 0, 1] : List Int).anyM fun delta =>
      compareDigest (env.totp_at secret (counter + delta)) user_code

theorem anyM_eq_some {α : Type} {p : α → Option Bool} {q : α → Bool}
    (hAnswers : ∀ a, p a = some (q a)) (as : List α) : as.anyM p = some (as.any q) := by
  induction as with
  | nil => rfl
  | cons a as ih =>
    rw [List.anyM, hAnswers a]
    cases hFirst : q a with
    | true => simp [hFirst]
    | false => simpa [hFirst] using ih

/- A code of ASCII characters is compared with the codes of three windows. -/
theorem verifyTotp_of_ascii (env : Env) (secret : String) {code : String} (now : Nat)
    (hAscii : isAscii (strip code)) :
    verifyTotp env secret code now = some
        (isSixDigits (strip code) &&
          ([-1, 0, 1] : List Int).any fun delta =>
            decide (env.totp_at secret ((now / 30 : Nat) + delta) = strip code)) := by
  have hAnswers : ∀ delta : Int, compareDigest
            (env.totp_at secret ((now / 30 : Nat) + delta))
            (strip code) =
          some (decide (env.totp_at secret ((now / 30 : Nat) + delta) = strip code)) := by
    intro delta
    simp [compareDigest, env.totp_ascii, hAscii]
  unfold verifyTotp
  dsimp only
  cases hDigits : isSixDigits (strip code) with
  | false => rfl
  | true =>
    rw [if_neg (by simp), Bool.true_and]
    exact anyM_eq_some hAnswers _

theorem verifyTotp_eq_none_iff :
    verifyTotp env secret code now = none ↔ isSixDigits (strip code) ∧
        isAscii (strip code) = false := by
  cases hAscii : isAscii (strip code) with
  | true =>
    rw [verifyTotp_of_ascii env secret now hAscii]
    simp
  | false =>
    unfold verifyTotp
    dsimp only
    cases hDigits : isSixDigits (strip code) with
    | false => simp
    | true => simp [compareDigest, hAscii, List.anyM]

theorem verifyPassword_hash (env : Env) (salt : Nat)
    (hLength : password.length ≤ 1024) (other : String) :
    (verifyPassword env other (env.argon2_hash salt password)).1 ↔ other = password := by
  have hArgon2 : isArgon2 (env.argon2_hash salt password) := by
    unfold isArgon2
    rw [List.isPrefixOf_iff_prefix]
    exact env.hash_prefix salt password
  have hVerify := env.verify_hash salt password other
  unfold verifyPassword
  rw [env.hash_stripped]
  simp only [hArgon2, if_true]
  by_cases hLong : 1024 < other.length
  · rw [if_pos hLong]
    constructor
    · intro h
      cases h
    · intro hSame
      rw [hSame] at hLong
      omega
  · rw [if_neg hLong]
    split
    next hValid => exact iff_of_true rfl (hVerify.mp hValid)
    next hInvalid =>
      constructor
      · intro h
        cases h
      · exact fun hSame => absurd (hVerify.mpr hSame) hInvalid

----
-- Sessions
----

/- The payload of a signed token. Signature, `sub`, `iss` and `aud` are those of this instance. -/
structure Claims where
  jti : String
  auth_version : Int
  iat : Nat
  exp : Nat
deriving DecidableEq

structure Client where
  client_ip : String := ""
  user_agent : String := ""

/- `AdminAuthSessionModel`. `checked` is the number of credential writes before the password check
   of the session; it is not stored, and no method reads it. -/
structure Session where
  jti : String
  instance_id : String
  auth_version : Int
  issued_at : Nat
  last_seen_at : Nat
  expires_at : Nat
  absolute_expires_at : Nat
  revoked_at : Nat := 0
  revoke_reason : String := ""
  client_ip : String := ""
  user_agent : String := ""
  checked : Nat
deriving DecidableEq

abbrev Sessions := KeyedTable Session String Session.jti

/- `_JTI_RE`. -/
def isJti (value : String) : Bool := decide (value.toList.length = 48) &&
    value.toList.all fun c => ('0' ≤ c && c ≤ '9') || ('a' ≤ c && c ≤ 'f')

/- The checks of `verify_token` on the claims. -/
def claimsValid (config : Config) (claims : Claims) (now : Nat) : Bool :=
  isJti claims.jti && decide (claims.iat ≤ now + 60) &&
    decide (now < claims.exp) &&
    decide (claims.iat < claims.exp) &&
    decide (claims.exp - claims.iat ≤ maxAbsoluteTimeout) &&
    decide (claims.auth_version = authVersion config)

/- The checks of `verify_token` on the stored row. -/
def rowValid (env : Env) (claims : Claims) (now : Nat) (stored : Session) : Bool :=
  decide (stored.instance_id = env.instance_id) &&
    decide (stored.auth_version = claims.auth_version) &&
    decide (stored.issued_at = claims.iat) &&
    decide (stored.absolute_expires_at = claims.exp) &&
    decide (stored.revoked_at = 0) &&
    decide (now < stored.expires_at) &&
    decide (now < stored.absolute_expires_at) &&
    decide (stored.expires_at ≤ stored.absolute_expires_at)

/- The conditional update that `verify_token` computes: the last activity that it read, if that is
   to be replaced, and the renewed deadline, if there is one. -/
structure Touch where
  claims : Claims
  now : Nat
  client : Client
  activity : Option Nat
  renewal : Option Nat

/- The values and conditions of the update, if one is due. -/
def touchOf (env : Env) (claims : Claims) (now : Nat)
    (client : Client) (stored : Session) : Option Touch :=
  let idle_timeout := env.settings.idle_timeout
  let renew_interval := env.settings.renew_interval
  let activity_due := stored.last_seen_at + activityInterval ≤ now
  let renewal_due := stored.expires_at + renew_interval ≤ now + idle_timeout
  let new_expires_at := min (now + idle_timeout) stored.absolute_expires_at
  let renewed := renewal_due ∧ stored.expires_at < new_expires_at
  if activity_due ∨ renewed then some
      { claims := claims
        now := now
        client := client
        activity :=
          if activity_due then some stored.last_seen_at
          else none
        renewal := if renewed then some new_expires_at else none }
  else none

/- The `where` clause of the update. -/
def Touch.applies (env : Env) (t : Touch) (row : Session) :
    Bool :=
  decide (row.jti = t.claims.jti) &&
    decide (row.instance_id = env.instance_id) &&
    decide (row.auth_version = t.claims.auth_version) &&
    decide (row.revoked_at = 0) &&
    decide (t.now < row.expires_at) &&
    decide (row.absolute_expires_at = t.claims.exp) &&
    decide (t.now < row.absolute_expires_at) &&
    (t.activity.all fun last_seen_at => decide (row.last_seen_at = last_seen_at))

def Session.touched (t : Touch) (row : Session) : Session :=
  { row with
    last_seen_at := if t.activity.isSome then t.now else row.last_seen_at
    client_ip :=
      if t.activity.isSome then t.client.client_ip
      else row.client_ip
    user_agent :=
      if t.activity.isSome then t.client.user_agent
      else row.user_agent
    expires_at :=
      match t.renewal with
      | none => row.expires_at
      | some new_expires_at => max row.expires_at new_expires_at }

/- The conditional update of `verify_token`. -/
def touchSessions (env : Env) (t : Touch) (sessions : Sessions) :
    Sessions :=
  sessions.updateWhere (t.applies env) (Session.touched t) (fun _ => rfl)

/- `row.revoked_at = now`. -/
def Session.revoked (now : Nat) (reason : String) (row : Session) : Session :=
  { row with revoked_at := now, revoke_reason := reason }

/- The commit of `_revoke_session` or `_revoke_all_sessions` on the rows that were read. -/
def revokeSessions (jtis : List String) (now : Nat) (reason : String)
    (sessions : Sessions) : Sessions :=
  sessions.updateWhere (fun row => decide (row.jti ∈ jtis))
    (Session.revoked now reason) (fun _ => rfl)

/- The new row and the removal of long expired ones. -/
def persistSession (env : Env) (row : Session) (sessions : Sessions) :
    Sessions :=
  (sessions.insertNew row).deleteWhere fun old => decide (old.instance_id = env.instance_id) &&
      decide (old.expires_at + 30 * 86400 < row.issued_at)

----
-- A Plain Hasher
----

theorem strip_delimited {s : String} {cs : List Char} (hText : s.toList = '$' :: (cs ++ ['$'])) :
    strip s = s := by
  have hBlank : PyText.isSpace '$' = false := by decide
  unfold strip
  rw [PyText.strip_of_ends, String.ofList_toList]
  · intro c hc
    rw [hText] at hc
    rwa [← Option.some.inj hc]
  · rw [hText]
    intro hSome
    simpa using hBlank

def plainHash (password : String) : String := "$argon2id$" ++ password ++ "$"

/- An instance with hashes of that kind, and with the SHA-256 sum of one password. -/
def plainEnv (settings : Settings) : Env where
  instance_id := "primary"
  settings := settings
  env_password_hash := ""
  env_totp_secret := ""
  argon2_hash := fun _ password => plainHash password
  argon2_verify := fun stored password => decide (stored = plainHash password)
  argon2_needs_rehash := fun _ => false
  sha256_hex := fun password =>
    if password = "old password" then
      "d4053d947fdb0170c0c4adc8302bc5ef" ++ "5882649251ab0b9af89e2c5f8c8abc21"
    else ""
  lower := fun text => String.ofList (text.toList.map Char.toLower)
  totp_secret_valid := fun secret => decide (secret ≠ "")
  totp_at := fun secret _ => if secret = "" then "" else "287082"
  hash_prefix := by
    intro salt password
    unfold plainHash
    simp
  hash_stripped := by
    intro salt password
    refine @strip_delimited _ ("argon2id$".toList ++ password.toList) ?_
    simp [plainHash]
  verify_hash := by
    intro salt password other
    rw [decide_eq_true_eq]
    constructor
    · intro hSame
      simpa [plainHash] using hSame.symm
    · intro hSame
      rw [hSame]
  totp_ascii := by
    intro secret counter
    split
    next _ => decide
    next _ => decide

end AdminAuth
