import AutoGpt.Library.PyText
import Mathlib

/-
  `sanitize_task_detail` of `chatgpt_core/task_logging.py`:
  the copy of a nested detail that is stored with a task log.
-/

----
-- Details
----

namespace TaskLogging

/- A key of a mapping. `shown` is `str(key)`. -/
inductive Key where
| text (value : String)
| other (shown : String) (truthy : Bool)
deriving DecidableEq

/- A nested detail. A number is an `int`, a `float` or a `bool`; `shown` is its `str`, `truthy` its
   `bool`, and `length` its `len`, where it has one. -/
inductive Detail where
| none
| number (shown : String) (truthy : Bool)
| text (value : String)
| other (shown : String) (truthy : Bool) (length : Option Nat)
| list (items : List Detail)
| tuple (items : List Detail)
| mapping (items : List (Key × Detail))

/- `isinstance(value, (Mapping, list, tuple))`. -/
def Detail.isContainer : Detail → Bool
| .list _ | .tuple _ | .mapping _ => true
| _ => false

/- `bool(value)`. -/
def Detail.truthy : Detail → Bool
| .none => false
| .number _ truthy => truthy
| .text value => value ≠ ""
| .other _ truthy _ => truthy
| .list items => !items.isEmpty
| .tuple items => !items.isEmpty
| .mapping items => !items.isEmpty

/- The brackets around the text of a container. -/
def brackets : List Char := ['(', '[', '\x7b']

/- The redactors of free texts, and the text operations of the language. A redactor is given
   `str(value or "")`. The text of a container has a bracket, and `lower` of an ASCII text is known.
   -/
structure Redaction where
  redact_log_text : String → String
  redact_url : String → String
  redact_proxy_url : String → String
  redact_raw_email_api_line : String → String
  redact_raw_phone_line : String → String
  lower : String → String
  splitlines : String → List String
  container_str : Detail → String
  container_bracket : ∀ d, d.isContainer → ∃ c ∈ brackets, c ∈ (container_str d).toList
  lower_ascii : ∀ s, PyText.isAscii s → lower s = String.ofList (s.toList.map Char.toLower)

variable (env : Redaction)

/- `str(value)`. -/
def Detail.str : Detail → String
| .none => "None"
| .number shown _ => shown
| .text value => value
| .other shown _ _ => shown
| d => env.container_str d

/- `str(value or "")`. -/
def Detail.orEmpty (d : Detail) : String := if d.truthy then d.str env else ""

/- `str(key)`. -/
def Key.shown : Key → String
| .text value => value
| .other shown _ => shown

/- `str(key or "")`. -/
def Key.orEmpty : Key → String
| .text value => value
| .other shown truthy => if truthy then shown else ""

----
-- Keys
----

def tokenKeys : List String := ["token", "access_token", "accesstoken", "refresh_token",
    "refreshtoken", "id_token", "idtoken", "session_token",
    "sessiontoken", "bearer", "authorization", "api_key",
    "apikey", "x_api_key", "xapikey", "api_secret",
    "apisecret", "secret", "auth_token", "authtoken",
    "csrf_token", "csrftoken", "client_secret",
    "clientsecret", "miyaip_crc", "miyaipcrc",
    "miyaip_key_name", "miyaipkeyname"]

def passwordKeys : List String := ["password", "login_password", "loginpassword",
    "chatgpt_phone_signup_password",
    "chatgptphonesignuppassword"]

def cookieKeys : List String := ["cookie", "cookies", "cookie_header", "cookieheader",
    "set-cookie", "setcookie", "next_auth_session",
    "nextauthsession", "oai-client-auth-session",
    "oaiclientauthsession", "login_session", "loginsession"]

def proxyKeys : List String := ["proxy", "proxy_url", "proxyurl", "proxy_used",
    "proxyused", "specified", "proxy_template",
    "proxytemplate", "dynamic_proxy_template",
    "dynamicproxytemplate", "runtime_proxy", "runtimeproxy"]

def urlKeys : List String := ["api_url", "apiurl", "detail_url", "detailurl",
    "continue_url", "continueurl", "callback_url",
    "callbackurl", "url", "endpoint", "base_url", "baseurl"]

def fullUrlKeys : List String := ["approval_url", "approvalurl", "provider_redirect_url",
    "providerredirecturl", "long_url", "longurl"]

def emailLinesKeys : List String :=
  ["email_api_lines", "emailapi_lines", "email_api_accounts", "emailapiaccounts"]

def emailLinesCompactKeys : List String := ["emailapilines", "emailapiaccounts"]

def rawLineKeys : List String := ["raw_line", "rawline", "phone_signup_raw_line",
    "phonesignuprawline", "email_api_line", "emailapiline"]

def textKeys : List String :=
  ["reason", "message", "raw_error", "rawerror", "last_error", "lasterror"]

def textListKeys : List String := ["logs", "errors", "action_logs", "actionlogs"]

def bodyKeys : List String := ["raw_message", "rawmessage", "body", "html", "text", "content"]

def otpKeys : List String := ["otp", "verification_code", "verificationcode",
    "email_otp", "emailotp", "phone_otp", "phoneotp",
    "authorization_code", "authorizationcode", "auth_code",
    "authcode"]

def phoneKeys : List String := ["phone", "phone_number", "phonenumber"]

/- `text.replace("-", "_")`. -/
def underscored (s : String) : String :=
  String.ofList (s.toList.map fun c => if c = '-' then '_' else c)

/- `re.sub(r"[^a-z0-9]", "", text)`. -/
def compacted (s : String) : String := String.ofList
    (s.toList.filter fun c => ('a' ≤ c && c ≤ 'z') || ('0' ≤ c && c ≤ '9'))

variable (env : Redaction)

/- `_norm_key`. -/
def normKey (key : Key) : String := env.lower (underscored (PyText.strip key.orEmpty))

/- `_compact_key`. -/
def compactKey (key : Key) : String := compacted (env.lower key.orEmpty)

/- The branches of `_sanitize_mapping_item`. -/
inductive Treatment where
| token
| password
| cookie
| proxy
| fullUrl
| url
| emailLines
| rawEmailLine
| rawPhoneLine
| boundPhoneLines
| mailboxState
| body
| freeText
| textList
| otp
| phone
| other
deriving DecidableEq

/- `"email" in text`. -/
def hasEmail (s : String) : Bool := decide ("email".toList <:+: s.toList)

/- The tests of `_sanitize_mapping_item` on its key. -/
def treatment (nk ck : String) : Treatment :=
  if ck ∈ tokenKeys then .token
  else if ck ∈ passwordKeys then .password
  else if nk ∈ cookieKeys ∨ ck ∈ cookieKeys then .cookie
  else if nk ∈ proxyKeys ∨ ck ∈ proxyKeys then .proxy
  else if nk ∈ fullUrlKeys ∨ ck ∈ fullUrlKeys then .fullUrl
  else if nk ∈ urlKeys ∨ ck ∈ urlKeys then .url
  else if nk ∈ emailLinesKeys ∨ ck ∈ emailLinesCompactKeys then .emailLines
  else if nk ∈ rawLineKeys ∨ ck ∈ rawLineKeys then
    if hasEmail nk ∨ hasEmail ck then .rawEmailLine
    else .rawPhoneLine
  else if nk = "bound_phone_lines" ∨ ck = "boundphonelines" then .boundPhoneLines
  else if nk = "mailbox_state" ∨ ck = "mailboxstate" then .mailboxState
  else if nk ∈ bodyKeys ∨ ck ∈ bodyKeys then .body
  else if nk ∈ textKeys ∨ ck ∈ textKeys then .freeText
  else if nk ∈ textListKeys ∨ ck ∈ textListKeys then .textList
  else if nk ∈ otpKeys ∨ ck ∈ otpKeys ∨ ck = "code" then .otp
  else if nk ∈ phoneKeys then .phone
  else .other

----
-- Sanitizing
----

def redacted : String := "[REDACTED]"

def redactedToken : String := "[REDACTED_TOKEN]"

def redactedOtp : String := "[REDACTED_OTP]"

/- `[A-Za-z0-9._~+/=-]`. -/
def isCodeChar (c : Char) : Bool := c.isAlphanum || c ∈ ['.', '_', '~', '+', '/', '=', '-']

variable (env : Redaction)

/- `_looks_sensitive_code`. -/
def looksSensitiveCode (d : Detail) : Bool :=
  let text := (PyText.strip (d.orEmpty env)).toList
  if text = [] then false
  else
    (decide (4 ≤ text.length ∧ text.length ≤ 8) && text.all PyText.isDecimal) ||
      (decide (12 ≤ text.length) && text.all isCodeChar)

/- `value.get(key)` with a text as the key. -/
def get? (key : String) :
    List (Key × Detail) → Option Detail
| [] => none
| (k, value) :: items => if k = .text key then some value else get? key items

/- `value or other` of looked up values. -/
def orElse (value other : Option Detail) : Option Detail :=
  match value with
  | some d => if d.truthy then some d else other
  | none => other

/- `str(value or "")` of a looked up value. -/
def shownOr (value : Option Detail) : String :=
  match value with
  | some d => d.orEmpty env
  | none => ""

/- `len(value)`, or 0 when it has none. -/
def Detail.count : Detail → Nat
| .text value => value.length
| .other _ _ length => length.getD 0
| .list items | .tuple items => items.length
| .mapping items => items.length
| _ => 0

/- `value.get("account")`, if it is a mapping. -/
def accountOf (items : List (Key × Detail)) :
    List (Key × Detail) :=
  match get? "account" items with
  | some (.mapping account) => account
  | _ => []

/- The value behind the provider of a mailbox state. -/
def providerOf (items : List (Key × Detail)) : Option Detail := orElse (get? "provider" items)
    (orElse (get? "mail_provider" items) (get? "provider" (accountOf items)))

def emailOf (items : List (Key × Detail)) : Option Detail :=
  orElse (get? "email" items) (get? "email" (accountOf items))

def beforeCount (items : List (Key × Detail)) : Nat :=
  match orElse (get? "before_ids" items) ((get? "before_message_ids" items).filter Detail.truthy)
  with
  | some before_ids => before_ids.count
  | none => 0

def trueOf (value : Bool) : Detail := .number (if value then "True" else "False") value

/- `summarize_mailbox_state`. -/
def summarizeMailboxState : Detail → Detail
| .mapping items => .mapping
      [(.text "has_state", trueOf true), (.text "provider", .text (shownOr env (providerOf items))),
        (.text "email", .text (shownOr env (emailOf items))),
        (.text "before_count", .number (toString (beforeCount items)) (beforeCount items ≠ 0))]
| d => .mapping [(.text "has_state", trueOf d.truthy)]

/- `value in (None, "")`. -/
def Detail.isBlank : Detail → Bool
| .none => true
| .text value => value = ""
| _ => false

/- The redacted lines of a list, or the one of a text. -/
def redactLines (redact : String → String) (whole : Detail → Detail) :
    Detail → Detail
| .list items | .tuple items => .list (items.map fun item => .text (redact (item.orEmpty env)))
| d => whole d

/- `_sanitize_mapping_item`; `deep` is the sanitized value, which the branches that go on with the
   value return. -/
def sanitizeMappingItem (key : Key) (value deep : Detail) : Detail :=
  match treatment (normKey env key) (compactKey env key) with
  | .token => .text (if value.orEmpty env = "" then "" else redactedToken)
  | .password => .text (if value.orEmpty env = "" then "" else redacted)
  | .cookie => .text (if value.isBlank then "" else redacted)
  | .proxy =>
    match value with
    | .none | .number _ _ => value
    | .list _ | .tuple _ | .mapping _ => deep
    | _ => .text (env.redact_proxy_url (value.orEmpty env))
  | .fullUrl => .text (value.orEmpty env)
  | .url => .text (env.redact_url (value.orEmpty env))
  | .emailLines => redactLines env env.redact_raw_email_api_line (fun d => .text
            ("\n".intercalate ((env.splitlines (d.orEmpty env)).map env.redact_raw_email_api_line)))
        value
  | .rawEmailLine => .text (env.redact_raw_email_api_line (value.orEmpty env))
  | .rawPhoneLine => .text (env.redact_raw_phone_line (value.orEmpty env))
  | .boundPhoneLines => redactLines env env.redact_raw_phone_line
        (fun d => .text (env.redact_raw_phone_line (d.orEmpty env))) value
  | .mailboxState => summarizeMailboxState env value
  | .body => .text (if value.isBlank then "" else redacted)
  | .freeText =>
    match value with
    | .text text => .text (env.redact_log_text text)
    | _ => deep
  | .textList => deep
  | .otp =>
    if looksSensitiveCode env value then .text redactedOtp
    else deep
  | .phone => .text (value.orEmpty env)
  | .other => deep

/- A later item of a mapping has the same text as its key. -/
def repeats (key : Key) (items : List (Key × Detail)) : Bool :=
  items.any fun item => item.1.shown = key.shown

mutual

/- `sanitize_task_detail`. Of the keys with one text the last one counts; the order of the keys is
   that of their last occurrences. -/
def sanitizeTaskDetail : Detail → Detail
| .mapping items => .mapping (sanitizeItems items)
| .list items => .list (sanitizeList items)
| .tuple items => .tuple (sanitizeList items)
| .text value => .text (env.redact_log_text value)
| .none => .none
| .number shown truthy => .number shown truthy
| .other shown truthy length => .other shown truthy length

def sanitizeList : List Detail → List Detail
| [] => []
| d :: ds => sanitizeTaskDetail d :: sanitizeList ds

def sanitizeItems : List (Key × Detail) → List (Key × Detail)
| [] => []
| (key, value) :: items =>
    if repeats key items then sanitizeItems items
    else
      (.text key.shown, sanitizeMappingItem env key value (sanitizeTaskDetail value)) ::
        sanitizeItems items

end

end TaskLogging
