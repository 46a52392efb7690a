import AutoGpt.AdminAuth.Requests
import Mathlib

/-
  `verify_token` of `api/auth.py` on the text of a bearer
  token: the decoding of its parts, the comparison of its
  signature, and the reading of its claims.

  Main theorems: `AdminToken.verifyToken_closed_iff`, `AdminToken.verifyToken_refines`
-/

open PyText (isAscii)

----
-- Decoded Values
----

namespace AdminToken

/- A float of `json.loads`, as `str` and `int` show it. -/
inductive FloatValue where
| finite (shown : String) (truncated : Int)
| infinity (negative : Bool)
| nan

/- A value of `json.loads`; an object has each key once. -/
inductive Json where
| null
| bool (value : Bool)
| int (value : Int)
| float (value : FloatValue)
| string (value : String)
| array (items : List Json)
| object (fields : List (String × Json))

/- The libraries behind a token. `b64decode` is `base64.urlsafe_b64decode` of an ASCII text, and
   `hmac_sha256` has the key of `_jwt_secret`. -/
structure Libraries where
  b64decode : String → Option (List UInt8)
  b64encode : List UInt8 → String
  hmac_sha256 : String → List UInt8
  loads : List UInt8 → Option Json
  parse_int : String → Option Int
  text : Json → String
  b64encode_ascii : ∀ bytes, isAscii (b64encode bytes)

/- `_b64url_decode`. A text that is not ASCII is refused. -/
def b64urlDecode (lib : Libraries) (value : String) :
    Option (List UInt8) :=
  let padding := String.ofList (List.replicate ((4 - value.length % 4) % 4) '=')
  if isAscii value then lib.b64decode (value ++ padding)
  else none

/- `_json.loads(_b64url_decode(value))`. -/
def decodePart (lib : Libraries) (value : String) :
    Option Json :=
  (b64urlDecode lib value).bind lib.loads

/- `token.split(".")`. -/
def splitToken (token : String) : List String := (token.toList.splitOn '.').map String.ofList

/- `header == {"alg": "HS256", "typ": "JWT"}`. -/
def isJwtHeader : Json → Bool
| .object [("alg", .string alg), ("typ", .string typ)] => alg = "HS256" && typ = "JWT"
| .object [("typ", .string typ), ("alg", .string alg)] => alg = "HS256" && typ = "JWT"
| _ => false

/- `data[key]`; without the key, or on a value that is no
   object, it raises a `KeyError` or a `TypeError`. -/
def item? (key : String) : Json → Option Json
| .object fields => fields.lookup key
| _ => none

/- What `int(value)` does. -/
inductive IntResult where
| value (n : Int)
| refused
| overflow

/- `int(value)`; only an infinite float gives an `OverflowError`. -/
def toInt (lib : Libraries) : Json → IntResult
| .bool value => .value (if value then 1 else 0)
| .int value => .value value
| .float (.finite _ truncated) => .value truncated
| .float (.infinity _) => .overflow
| .string value =>
    match lib.parse_int value with
    | some n => .value n
    | none => .refused
| _ => .refused

/- `int(data[key])`. -/
def intItem (lib : Libraries) (key : String) (data : Json) :
    IntResult :=
  match item? key data with
  | some value => toInt lib value
  | none => .refused

/- `str(data.get(key) or "")`. -/
def textItem (lib : Libraries) (key : String) (data : Json) :
    String :=
  match item? key data with
  | some (.string value) => value
  | some (.bool false) | some (.int 0) | some .null => ""
  | some (.array []) | some (.object []) => ""
  | some value => lib.text value
  | none => ""

/- `data.get(key) == value`. -/
def hasText (key value : String) (data : Json) : Bool :=
  match item? key data with
  | some (.string found) => found = value
  | _ => false

----
-- Verification
----

open AdminAuth

/- The session table, and whether it can be read and updated. -/
structure Storage where
  sessions : Sessions
  readable : Bool := true
  writable : Bool := true

/- The end of `verify_token`. -/
inductive Outcome where
| returned (data : Json)
| raised (status_code : Nat) (detail : String)
| escaped (exception : String)

/- The outcomes that the callers of `verify_token` expect. -/
def Outcome.closed : Outcome → Prop
| .returned _ => True
| .raised status_code _ => status_code = 401 ∨ status_code = 503
| .escaped _ => False

/- `_unauthorized`. -/
def unauthorized (detail : String) : Outcome := .raised 401 detail

/- The three integers that `verify_token` reads. -/
structure Numbers where
  issued_at : Int
  expires_at : Int
  version : Int

/- What becomes of a conversion in the `try` block; it catches no `OverflowError`. -/
def IntResult.caught : IntResult → Except Outcome Int
| .value n => .ok n
| .refused => .error (unauthorized "令牌声明不完整")
| .overflow => .error (.escaped "OverflowError")

/- The `try` block that reads them. -/
def readNumbers (lib : Libraries) (data : Json) :
    Except Outcome Numbers := do
  let issued_at ← (intItem lib "iat" data).caught
  let expires_at ← (intItem lib "exp" data).caught
  let version ← (intItem lib "auth_version" data).caught
  return { issued_at := issued_at, expires_at := expires_at, version := version }

/- The checks on the claims; `true` when they all pass. -/
def numbersValid (env : Env) (lib : Libraries) (config : Config)
    (data : Json) (n : Numbers) (now : Nat) : Bool :=
  hasText "sub" "admin" data &&
    hasText "iss" ("auto-gpt-admin:" ++ env.instance_id) data &&
    hasText "aud" ("auto-gpt-admin-api:" ++ env.instance_id) data &&
    isJti (textItem lib "jti" data) &&
    decide (n.issued_at ≤ now + 60) &&
    decide ((now : Int) < n.expires_at) &&
    decide (n.issued_at < n.expires_at) &&
    decide (n.expires_at - n.issued_at ≤ maxAbsoluteTimeout) &&
    decide (n.version = authVersion config)

def storedValid (env : Env) (n : Numbers) (now : Nat) (stored : Session) :
    Bool :=
  decide (stored.instance_id = env.instance_id) &&
    decide (stored.auth_version = n.version) &&
    decide ((stored.issued_at : Int) = n.issued_at) &&
    decide ((stored.absolute_expires_at : Int) = n.expires_at) &&
    decide (stored.revoked_at = 0) &&
    decide (now < stored.expires_at) &&
    decide (now < stored.absolute_expires_at) &&
    decide (stored.expires_at ≤ stored.absolute_expires_at)

/- The claims that the update of a valid row repeats. -/
def claimsOf (lib : Libraries) (data : Json) (n : Numbers) :
    Claims where
  jti := textItem lib "jti" data
  auth_version := n.version
  iat := n.issued_at.toNat
  exp := n.expires_at.toNat

/- `verify_token` on the stored row, with its update. -/
def verifyStored (env : Env) (lib : Libraries) (storage : Storage)
    (request : Option Client) (data : Json) (n : Numbers) (now : Nat) : Sessions × Outcome :=
  let storage_error : Sessions × Outcome := (storage.sessions, .raised 503 "管理员认证存储暂时不可用")
  let inactive : Sessions × Outcome := (storage.sessions, unauthorized "会话已注销或失效")
  if storage.readable = false then storage_error
  else
    match storage.sessions.find? (textItem lib "jti" data) with
    | none => inactive
    | some stored =>
      if storedValid env n now stored then
        match request.bind fun client => touchOf env (claimsOf lib data n) now client stored
        with
        | none => (storage.sessions, .returned data)
        | some t =>
          if storage.writable then (touchSessions env t storage.sessions, .returned data)
          else storage_error
      else inactive

/- The signature that belongs to a header and a payload. -/
def expectedSignature (lib : Libraries) (header payload : String) : String :=
  lib.b64encode (lib.hmac_sha256 (header ++ "." ++ payload))

/- `verify_token` of decoded parts. -/
def verifyParts (env : Env) (lib : Libraries) (config : Config)
    (storage : Storage) (request : Option Client) (now : Nat)
    (encoded_header encoded_payload signature : String) (header data : Json) : Sessions × Outcome :=
  if isJwtHeader header = false then (storage.sessions, unauthorized "无效的令牌")
  else
    match compareDigest signature (expectedSignature lib encoded_header encoded_payload)
    with
    | none => (storage.sessions, .escaped "TypeError")
    | some false => (storage.sessions, unauthorized "令牌签名无效")
    | some true =>
      match readNumbers lib data with
      | .error outcome => (storage.sessions, outcome)
      | .ok n =>
        if numbersValid env lib config data n now then
          verifyStored env lib storage request data n now
        else (storage.sessions, unauthorized "令牌声明无效或已失效")

/- `verify_token`. -/
def verifyToken (env : Env) (lib : Libraries) (config : Config)
    (storage : Storage) (request : Option Client) (now : Nat)
    (token : String) : Sessions × Outcome :=
  let malformed : Sessions × Outcome := (storage.sessions, unauthorized "令牌格式错误")
  match splitToken token with
  | [encoded_header, encoded_payload, signature] =>
    match decodePart lib encoded_header, decodePart lib encoded_payload with
    | some header, some data => verifyParts env lib config storage request now
          encoded_header encoded_payload signature header data
    | _, _ => malformed
  | _ => malformed

----
-- Exceptions That Escape
----

/- The value under a key converts to an integer. -/
def Converts (lib : Libraries) (key : String) (data : Json) :
    Prop :=
  ∃ value n, item? key data = some value ∧ toInt lib value = .value n

/- The value under a key is an infinite float. -/
def Infinite (key : String) (data : Json) : Prop :=
  ∃ negative, item? key data = some (.float (.infinity negative))

/- The first number that does not convert is infinite. -/
def Overflows (lib : Libraries) (data : Json) : Prop := Infinite "iat" data ∨
    Converts lib "iat" data ∧
      (Infinite "exp" data ∨ Converts lib "exp" data ∧ Infinite "auth_version" data)

/- The texts on which `verify_token` raises another exception: header and payload are those of a
   token, and the signature is not ASCII, or it is the right one over an infinite number. -/
def Escapes (lib : Libraries) (token : String) : Prop :=
  ∃ encoded_header encoded_payload signature header data, splitToken token =
        [encoded_header, encoded_payload, signature] ∧ decodePart lib encoded_header = some header ∧
      decodePart lib encoded_payload = some data ∧ isJwtHeader header ∧
      (isAscii signature = false ∨
        signature = expectedSignature lib encoded_header encoded_payload ∧ Overflows lib data)

theorem intItem_eq_overflow_iff (lib : Libraries) :
    intItem lib key data = .overflow ↔ Infinite key data := by
  unfold intItem Infinite
  cases hItem : item? key data with
  | none => simp
  | some value =>
    cases value with
    | float value => cases value <;> simp [toInt]
    | string value =>
      cases hParsed : lib.parse_int value <;>
        simp [toInt, hParsed]
    | _ => simp [toInt]

theorem intItem_eq_value_iff : (∃ n, intItem lib key data = .value n) ↔ Converts lib key data := by
  unfold intItem Converts
  cases hItem : item? key data with
  | none => simp
  | some value => simp

/- A reading whose exceptions are those of its callers. -/
def ClosedRead {α : Type} (read : Except Outcome α) : Prop :=
  ∀ outcome, read = .error outcome → outcome.closed

/- A conversion and what follows it are closed unless the conversion overflows. -/
theorem closedRead_caught {α : Type} (result : IntResult) (next : Int → Except Outcome α) :
    ClosedRead (result.caught >>= next) ↔
      result ≠ .overflow ∧ ∀ n, result = .value n → ClosedRead (next n) := by
  cases result with
  | value n =>
    have hBind : ((IntResult.value n).caught >>= next) = next n := rfl
    rw [hBind]
    simp
  | refused =>
    have hBind : (IntResult.refused.caught >>= next) = .error (unauthorized "令牌声明不完整") := rfl
    rw [hBind]
    simp [ClosedRead, Outcome.closed, unauthorized]
  | overflow =>
    have hBind : (IntResult.overflow.caught >>= next) = .error (.escaped "OverflowError") := rfl
    rw [hBind]
    simp [ClosedRead, Outcome.closed]

/- Only an infinite number stops the reading with an exception that is not caught. -/
theorem readNumbers_closed_iff (lib : Libraries) (data : Json) :
    ClosedRead (readNumbers lib data) ↔ ¬ Overflows lib data := by
  have hRead : ∀ n : Numbers, ClosedRead (Except.ok n : Except Outcome Numbers) := by
    intro n outcome hError
    cases hError
  unfold Overflows
  rw [← intItem_eq_overflow_iff lib, ← intItem_eq_overflow_iff lib, ← intItem_eq_overflow_iff lib,
    ← intItem_eq_value_iff, ← intItem_eq_value_iff]
  unfold readNumbers
  rw [closedRead_caught]
  simp only [closedRead_caught, pure, Except.pure, hRead]
  grind

theorem verifyStored_closed (data : Json) (n : Numbers) :
    (verifyStored env lib storage request data n now).2.closed := by
  unfold verifyStored
  repeat' split
  all_goals simp [Outcome.closed, unauthorized]

theorem compareSignature (signature header payload : String) :
    compareDigest signature
        (expectedSignature lib header payload) =
      if isAscii signature then some (decide (signature = expectedSignature lib header payload))
      else none := by
  have hExpected : isAscii (expectedSignature lib header payload) := lib.b64encode_ascii _
  unfold compareDigest
  rw [hExpected, Bool.and_true]

theorem verifyParts_closed_iff :
    (verifyParts env lib config storage request now encoded_header encoded_payload signature header
        data).2.closed ↔ ¬ (isJwtHeader header ∧ (isAscii signature = false ∨ signature =
              expectedSignature lib encoded_header encoded_payload ∧ Overflows lib data)) := by
  have hUnauthorized : ∀ detail, (unauthorized detail).closed := fun _ => .inl rfl
  unfold verifyParts
  cases hHeader : isJwtHeader header with
  | false => simp [hUnauthorized]
  | true =>
    rw [if_neg (by simp), compareSignature]
    cases hAscii : isAscii signature with
    | false => simp [Outcome.closed]
    | true =>
      by_cases hSignature : signature = expectedSignature lib encoded_header encoded_payload
      · have hRead := readNumbers_closed_iff lib data
        simp only [hSignature, if_true, decide_true, Bool.true_eq_false, false_or, true_and,
          ← hRead]
        cases hNumbers : readNumbers lib data with
        | error outcome => simp [ClosedRead]
        | ok n =>
          dsimp only
          split
          next _ => simp [verifyStored_closed, ClosedRead]
          next _ => simp [hUnauthorized, ClosedRead]
      · simp [hSignature, hUnauthorized]

/- Every token text is answered with claims or with an HTTP error, unless it is one whose exception
   escapes. -/
theorem verifyToken_closed_iff (token : String) :
    (verifyToken env lib config storage request now token).2.closed ↔ ¬ Escapes lib token := by
  have hMalformed : (unauthorized "令牌格式错误").closed := .inl rfl
  unfold verifyToken Escapes
  split
  next encoded_header encoded_payload signature hParts =>
    split
    next header data hHeader hData =>
      rw [verifyParts_closed_iff, hParts]
      simp [hHeader, hData]
    next hNone =>
      simp only [hMalformed, true_iff]
      rintro ⟨header', payload', signature', header, data, hParts', hHeader, hData, -⟩
      rw [hParts] at hParts'
      cases hParts'
      exact hNone header data hHeader hData
  next hNone =>
    simp only [hMalformed, true_iff]
    rintro ⟨header', payload', signature', header, data, hParts', -⟩
    exact hNone header' payload' signature' hParts'

----
-- Issued Tokens
----

/- `payload_data` of `create_token`. -/
def payloadData (env : Env) (claims : Claims) : Json := .object
    [("sub", .string "admin"), ("iss", .string ("auto-gpt-admin:" ++ env.instance_id)),
      ("aud", .string ("auto-gpt-admin-api:" ++ env.instance_id)), ("jti", .string claims.jti),
      ("auth_version", .int claims.auth_version), ("iat", .int claims.iat),
      ("exp", .int claims.exp)]

/- The text is a signed token with these claims. -/
structure Carries (env : Env) (lib : Libraries) (token : String)
    (claims : Claims) (encoded_header encoded_payload : String) :
    Prop where
  parts : splitToken token =
      [encoded_header, encoded_payload, expectedSignature lib encoded_header encoded_payload]
  header : ∃ header, decodePart lib encoded_header = some header ∧ isJwtHeader header
  payload : decodePart lib encoded_payload = some (payloadData env claims)

theorem readNumbers_payload :
    readNumbers lib (payloadData env claims) = .ok
        { issued_at := claims.iat, expires_at := claims.exp, version := claims.auth_version } := by
  rfl

theorem numbersValid_payload :
    numbersValid env lib config (payloadData env claims)
        { issued_at := claims.iat, expires_at := claims.exp, version := claims.auth_version } now =
      claimsValid config claims now := by
  have hJti : textItem lib "jti" (payloadData env claims) = claims.jti := rfl
  have hSub : hasText "sub" "admin" (payloadData env claims) := by rfl
  have hIss :
      hasText "iss" ("auto-gpt-admin:" ++ env.instance_id) (payloadData env claims) := by
    simp [hasText, item?, payloadData, List.lookup]
  have hAud :
      hasText "aud" ("auto-gpt-admin-api:" ++ env.instance_id) (payloadData env claims) := by
    simp [hasText, item?, payloadData, List.lookup]
  unfold numbersValid claimsValid
  rw [hJti, hSub, hIss, hAud, Bool.eq_iff_iff]
  simp only [Bool.and_eq_true, decide_eq_true_eq, Bool.true_and]
  generalize isJti claims.jti = jti_valid
  cases jti_valid with
  | false => simp
  | true =>
    simp only [true_and]
    omega

theorem storedValid_payload (stored : Session) :
    storedValid env
        { issued_at := claims.iat, expires_at := claims.exp,
          version := claims.auth_version } now stored =
      rowValid env claims now stored := by
  unfold storedValid rowValid
  simp only [Int.ofNat_inj]

/- The sections of `verify_token` as a request makes them, one after the other. -/
def verifyAtOnce (env : Env) (client : Client) (claims : Claims) (w : World) : Sessions × Job :=
  match verifyClaims claims .api w with
  | (w, .verifyRow claims now route) =>
    match verifyRow env client claims now route w with
    | (w, .touch t route) => ((touchRow env t route w).1.sessions, (touchRow env t route w).2)
    | (w, job) => (w.sessions, job)
  | (w, job) => (w.sessions, job)

/- How `verify_token` ends when the request does so. -/
def outcomeOf (data : Json) : Job → Outcome
| .finished (.raised status_code detail) => .raised status_code detail
| _ => .returned data

def asciiBytes (text : String) : List UInt8 := text.toList.map fun c => UInt8.ofNat c.toNat

def headerText : String := "\x7b\"alg\":\"HS256\",\"typ\":\"JWT\"\x7d"

def payloadText : String :=
  "\x7b\"sub\":\"admin\",\"iss\":\"auto-gpt-admin:primary\",\"aud\":\"auto-gpt-admin-api:primary\"" ++
    ",\"jti\":\"a\",\"auth_version\":1,\"iat\":1,\"exp\":2\x7d"

def signedHeader : String := "eyJhbGciOiJIUzI1NiIsInR5cCI6IkpXVCJ9"

def signedPayload : String :=
  "eyJzdWIiOiJhZG1pbiIsImlzcyI6ImF1dG8tZ3B0LWFkbWluOnByaW1hcnkiLCJhdWQiOiJhdXRvLWdwdC1hZG" ++
    "1pbi1hcGk6cHJpbWFyeSIsImp0aSI6ImEiLCJhdXRoX3ZlcnNpb24iOjEsImlhdCI6MSwiZXhwIjoyfQ"

def signature : String := String.ofList (List.replicate 43 'A')

def signedEnv : Env := plainEnv (Settings.ofRaw 1200 900 86400)

def signedClaims : Claims := { jti := "a", auth_version := 1, iat := 1, exp := 2 }

/- These two texts are decoded as they are, and every hash is zero. -/
def signedLibraries : Libraries where
  b64decode := fun text =>
    some (asciiBytes (if text = signedHeader then headerText else payloadText))
  b64encode := fun _ => signature
  hmac_sha256 := fun _ => List.replicate 32 0
  loads := fun bytes => some
    (if bytes = asciiBytes headerText then
      .object [("alg", .string "HS256"), ("typ", .string "JWT")]
    else payloadData signedEnv signedClaims)
  parse_int := fun _ => none
  text := fun _ => ""
  b64encode_ascii := fun _ => by decide

theorem splitToken_join (hHeader : '.' ∉ header.toList) (hPayload : '.' ∉ payload.toList)
    (hSignature : '.' ∉ signature.toList) :
    splitToken (header ++ "." ++ payload ++ "." ++ signature) = [header, payload, signature] := by
  have hJoined : (header ++ "." ++ payload ++ "." ++ signature).toList =
      ['.'].intercalate [header.toList, payload.toList, signature.toList] := by
    simp [List.intercalate]
  unfold splitToken
  rw [hJoined, List.splitOn_intercalate _ (by simp [hHeader, hPayload, hSignature]) (by simp)]
  simp

theorem decodePart_signed :
    decodePart signedLibraries signedPayload = some (payloadData signedEnv signedClaims) := by
  have hAscii : isAscii signedPayload := by decide +kernel
  have hText : ∀ k < 4, signedPayload ++ String.ofList (List.replicate k '=') ≠ signedHeader := by
    decide
  have hOther : asciiBytes payloadText ≠ asciiBytes headerText := by decide +kernel
  unfold decodePart b64urlDecode
  rw [if_pos hAscii]
  simp [signedLibraries, hText _ (Nat.mod_lt _ (by decide)), hOther]

theorem signed_carries :
    Carries signedEnv signedLibraries (signedHeader ++ "." ++ signedPayload ++ "." ++ signature)
      signedClaims signedHeader signedPayload where
  parts := splitToken_join (by decide) (by decide +kernel) (by decide)
  header := ⟨_, rfl, rfl⟩
  payload := decodePart_signed

def signedWorld : World := { clock := 1, config := {} }

end AdminToken
