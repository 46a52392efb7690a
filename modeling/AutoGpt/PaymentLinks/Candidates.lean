import AutoGpt.PaymentLinks.Import

/-
  The current payment links that a cleanup looks at
  (`services/chatgpt_core/pix_payment_link_cleanup.py`): the
  expiry of a link by its payment type, the expiry that the
  generation history knows, and the candidates that a scan of
  the accounts finds.
-/

open PyText (orElse strip)

----
-- Payment Types
----

namespace PaymentLinks

/- `PAYMENT_LINK_TYPE_ORDER`. -/
inductive PaymentType where
| hosted
| paypal
| ideal
| upi
| pix
| twint
| kakao_pay
| team
| other
deriving DecidableEq

def PaymentType.name : PaymentType → String
| .hosted => "hosted"
| .paypal => "paypal"
| .ideal => "ideal"
| .upi => "upi"
| .pix => "pix"
| .twint => "twint"
| .kakao_pay => "kakao_pay"
| .team => "team"
| .other => "other"

def PAYMENT_LINK_TYPES : List PaymentType :=
  [.hosted, .paypal, .ideal, .upi, .pix, .twint, .kakao_pay, .team, .other]

def PaymentType.ofName (name : String) : Option PaymentType :=
  PAYMENT_LINK_TYPES.find? (fun t => t.name = name)

/- `int(value.timestamp())` of an aware `datetime`, which is the integer of its microseconds since
   the epoch. -/
def epoch_seconds (t : Int) : Int := t.tdiv 1000000

/- `datetime.fromtimestamp(epoch, timezone.utc)`. -/
def from_epoch (epoch : Int) : Int := epoch * 1000000

/- What the scan takes from elsewhere: digits and times as Python reads and writes them, the expiry
   inside a QR answer, the classification of a payload, a JSON text inside a JSON text, and the
   texts that SQLite gives to a number and to a nested JSON value. -/
structure ScanEnv extends Env where
  decimal : String → Option Nat
  fromtimestamp : Time → Option Int
  fromisoformat : String → Option Int
  isoformat : Int → String
  extract_payment_link_qr_expires_at : Dict Value → Option Int
  payment_link_platform_from_payload : Dict Value → String
  json_object : String → Option (Dict Value)
  sql_number : String → String
  sql_json : String → String

----
-- Times
----

variable (env : ScanEnv)

/- A number as a time; a large one counts milliseconds. -/
def utc_number (t : Time) : Option Int :=
  if ((10000000000 : ℚ) : Time) < t then env.fromtimestamp (milliseconds t)
  else env.fromtimestamp t

/- `_utc_datetime(value)`. -/
def utc_datetime (v : Value) : Option Int :=
  match v with
  | .num t _ => utc_number env t
  | v =>
    let raw := strip v.str
    if raw = "" then none
    else
      match env.decimal raw with
      | some n => utc_number env ((n : ℚ) : Time)
      | none => env.fromisoformat raw

def generated_at (payload : Dict Value) : Option Int :=
  utc_datetime env ((get payload "generated_at").or (get payload "created_at"))

def hours (n : Int) : Int := n * 3600000000

/- The date in Beijing, eight hours ahead of UTC. -/
def beijing_date (t : Int) : Int := (t + hours 8) / hours 24

def beijing_time (t : Int) : Int := (t + hours 8) % hours 24

def PIX_DAILY_EXPIRY_TIME : Int := hours 11

def daily_expiry (date : Int) : Int := date * hours 24 + PIX_DAILY_EXPIRY_TIME - hours 8

def pix_schedule_expires_at (generated : Int) : Int :=
  if PIX_DAILY_EXPIRY_TIME ≤ beijing_time generated then daily_expiry (beijing_date generated + 1)
  else daily_expiry (beijing_date generated)

def latest_pix_expiry_cutoff (now : Int) : Int :=
  if beijing_time now < PIX_DAILY_EXPIRY_TIME then daily_expiry (beijing_date now - 1)
  else daily_expiry (beijing_date now)

theorem latest_pix_expiry_cutoff_bounds (now : Int) :
    latest_pix_expiry_cutoff now ≤ now ∧ now < latest_pix_expiry_cutoff now + hours 24 := by
  unfold latest_pix_expiry_cutoff daily_expiry beijing_time beijing_date PIX_DAILY_EXPIRY_TIME hours
  split <;> omega

----
-- Expiry
----

def MAX_PAYMENT_LINK_EXPIRES_AT_EPOCH : Nat := 253402300799

def UPI_QR_EXPIRY_TOLERANCE_SECONDS : Int := 60

def IDEAL_LINK_VALIDITY_SECONDS : Int := 900

def TEAM_LINK_VALIDITY_SECONDS : Int := 86400

/- A deadline with its source; `none` when it is missing. -/
abbrev Expiry := Option Int × String

def missing_expiry : Expiry := (none, "missing")

/- `normalize_payment_link_expires_at(value)`. -/
def normalize_payment_link_expires_at (v : Value) :
    Option Int :=
  match v with
  | .bool _ => none
  | v =>
    let text := strip v.str
    match env.decimal text with
    | none => none
    | some n =>
      if text.toList.length ≤ 12 ∧ 0 < n ∧ n ≤ MAX_PAYMENT_LINK_EXPIRES_AT_EPOCH then some n
      else none

/- The deadline that the provider issued. -/
def provider_epoch (payload : Dict Value) : Option Int :=
  normalize_payment_link_expires_at env (get payload "link_expires_at")

def pix_effective_expires_at (payload : Dict Value) : Expiry :=
  match provider_epoch env payload with
  | some epoch => (some (from_epoch epoch), "provider")
  | none =>
    match generated_at env payload with
    | some generated => (some (pix_schedule_expires_at generated), "beijing_11")
    | none => missing_expiry

/- A deadline of unknown source is that of a QR code. -/
def upi_expiry_plausible (payload : Dict Value) (epoch : Int) : Bool :=
  match generated_at env payload with
  | some generated =>
    epoch ≤ epoch_seconds generated + UPI_QR_VALIDITY_SECONDS + UPI_QR_EXPIRY_TOLERANCE_SECONDS
  | none => false

def upi_effective_expires_at (payload : Dict Value) : Expiry :=
  match env.extract_payment_link_qr_expires_at payload with
  | some epoch => (some (from_epoch epoch), "upi_qr_code")
  | none =>
    match provider_epoch env payload with
    | none => missing_expiry
    | some epoch =>
      let source := env.lower (strip (get payload "link_expiry_source").str)
      if source = "checkout_session" then missing_expiry
      else if source = "" ∧ upi_expiry_plausible env payload epoch = false then missing_expiry
      else (some (from_epoch epoch), orElse source "upi_qr_code")

/- A fixed lifetime from the generation on. -/
def lifetime_expires_at (validity : Int) (source : String) (payload : Dict Value) : Expiry :=
  match generated_at env payload with
  | some generated => (some (generated + from_epoch validity), source)
  | none => missing_expiry

def ideal_effective_expires_at (payload : Dict Value) :
    Expiry :=
  lifetime_expires_at env IDEAL_LINK_VALIDITY_SECONDS "ideal_generated_15m" payload

def team_effective_expires_at (payload : Dict Value) :
    Expiry :=
  lifetime_expires_at env TEAM_LINK_VALIDITY_SECONDS "team_generated_24h" payload

def provider_effective_expires_at (payload : Dict Value) :
    Expiry :=
  match provider_epoch env payload with
  | none => missing_expiry
  | some epoch =>
    let source := env.lower (strip ((get payload "link_expiry_source").or (.text "provider")).show)
    (some (from_epoch epoch), orElse source "provider")

/- `payment_link_effective_expires_at(payload, type)`. -/
def payment_link_effective_expires_at (payload : Dict Value)
    (payment_type : PaymentType) : Expiry :=
  match payment_type with
  | .upi => upi_effective_expires_at env payload
  | .pix => pix_effective_expires_at env payload
  | .ideal => ideal_effective_expires_at env payload
  | .team => team_effective_expires_at env payload
  | _ => provider_effective_expires_at env payload

----
-- Current URLs
----

/- `_CURRENT_LINK_URL_FIELDS`. -/
def CURRENT_LINK_URL_FIELDS : List String :=
  ["url", "paypal_url", "provider_redirect_url", "approval_url", "checkout_url", "cashier_url"]

/- The first of some texts that is not empty. -/
def firstGiven (texts : List String) : String := (texts.find? (fun s => s ≠ "")).getD ""

/- `_current_payment_link_url(payload)`. -/
@[irreducible]
def current_payment_link_url (payload : Dict Value) : String :=
  firstGiven (CURRENT_LINK_URL_FIELDS.map (fun key => strip (get payload key).str))

/- SQL `trim(text)`: only spaces. -/
def sql_trim (s : String) : String :=
  String.ofList ((s.toList.dropWhile (fun c => c = ' ')).rdropWhile (fun c => c = ' '))

/- `json_extract` as text; `none` is NULL. -/
def json_extract (v : Value) : Option String :=
  match v with
  | .null => none
  | .bool b => some (if b then "1" else "0")
  | .num _ shown => some (env.sql_number shown)
  | .text s => some s
  | .other shown => some (env.sql_json shown)

/- The `coalesce` of the guard over the URL fields. -/
def sql_payload_url (payload : Dict Value) : String := firstGiven (CURRENT_LINK_URL_FIELDS.filterMap
    (fun key => (json_extract env (get payload key)).map sql_trim))

/- The object at `chatgpt_last_payment_link`. -/
def last_payment_link (extra : Extra) : Option (Dict Value) :=
  match extra with
  | none => none
  | some extra =>
    match extra.lookup "chatgpt_last_payment_link" with
    | some (.dict payload) => some payload
    | _ => none

/- The URL that the guard of the `UPDATE` sees. -/
def sql_current_url (extra : Extra) : String :=
  match last_payment_link extra with
  | some payload => sql_payload_url env payload
  | none => ""

----
-- Candidates
----

structure Database where
  accounts : Accounts
  generations : Generations

/- `PaymentLinkCandidate`. -/
structure Candidate where
  account_id : Nat
  current_url : String
  payload : Dict Value
  payment_marker : Dict Value
  link_status : String
  generated_at : Option Int
  expires_at : Option Int
  expiry_source : String
  payment_type : PaymentType

variable (env : ScanEnv)

def normalize_payment_link_status (v : Value) : String := env.lower (strip v.str)

/- A field that the history row gives when the payload does not. -/
def withColumn (payload : Dict Value) (key column : String) : Dict Value :=
  if (get payload key).truthy = false ∧ column ≠ "" then payload.insert key (.text column)
  else payload

/- The payload of a generation, with its URL and columns. -/
def history_payload (g : Generation) (url : String) :
    Dict Value :=
  let payload := (g.result_json.getD ∅).insert "url" (.text url)
  withColumn (withColumn payload "generated_at" g.generated_at) "link_type" g.link_type

/- SQL `lower(trim(text))`. -/
def sql_lower_trim (s : String) : String := String.ofList ((sql_trim s).toList.map Char.toLower)

/- The expiry that a generation knows for its URL. -/
def history_entry (g : Generation) :
    Option ((Nat × String) × (Int × String)) :=
  let url := strip g.url
  if sql_lower_trim g.status ≠ "succeeded" ∨ sql_trim g.url = "" ∨ g.account_id = 0 ∨ url = "" then
    none
  else
    let payload := history_payload g url
    match PaymentType.ofName (env.payment_link_platform_from_payload payload) with
    | none => none
    | some payment_type =>
      match payment_link_effective_expires_at env payload payment_type with
      | (none, _) => none
      | (some expiry, source) => some ((g.account_id, url), (epoch_seconds expiry, source))

/- `history_expiry.get(key)`; later rows are on top. -/
def history_expiry (g : Generations) (key : Nat × String) : Option (Int × String) :=
  ((g.table.rows.filterMap (history_entry env)).reverse.find? (fun e => e.1 = key)).map Prod.snd

/- The object at `baxigpt_cdk`, also when it is a text. -/
def payment_marker (extra : Dict Entry) : Dict Value :=
  match extra.lookup "baxigpt_cdk" with
  | some (.dict marker) => marker
  | some (.plain (.text s)) => (env.json_object s).getD ∅
  | _ => ∅

/- The type of the current link of a payload. -/
def candidate_type (payload : Dict Value) (url : String) :
    PaymentType :=
  (PaymentType.ofName
    (env.payment_link_platform_from_payload (payload.insert "url" (.text url)))).getD .other

/- The expiry of a candidate, from the history if need be. -/
def candidate_expiry (g : Generations) (account_id : Nat) (url : String)
    (payload : Dict Value) : Expiry :=
  let own := payment_link_effective_expires_at env payload (candidate_type env payload url)
  match own.1 with
  | some _ => own
  | none =>
    match history_expiry env g (account_id, url) with
    | some (epoch, source) => (some (from_epoch epoch), orElse source own.2)
    | none => own

/- The candidate of a payload with a current URL. -/
def candidate (g : Generations) (account_id : Nat) (extra : Dict Entry)
    (payload : Dict Value) : Candidate :=
  let url := current_payment_link_url payload
  let expiry := candidate_expiry env g account_id url payload
  { account_id := account_id, current_url := url, payload := payload,
    payment_marker := payment_marker env extra,
    link_status := normalize_payment_link_status env (get payload "link_status"),
    generated_at := generated_at env payload, expires_at := expiry.1, expiry_source := expiry.2,
    payment_type := candidate_type env payload url }

def account_candidate (g : Generations) (r : Account) :
    Option Candidate :=
  if r.platform ≠ "chatgpt" then none
  else
    match r.extra, last_payment_link r.extra with
    | some extra, some payload =>
      if current_payment_link_url payload = "" then none
      else some (candidate env g r.id extra payload)
    | _, _ => none

/- `_load_current_payment_link_candidates`. -/
def load_current_payment_link_candidates (payment_type : PaymentType)
    (db : Database) : List Candidate :=
  (db.accounts.rows.filterMap
    (account_candidate env db.generations)).filter (fun c => c.payment_type = payment_type)

end PaymentLinks
