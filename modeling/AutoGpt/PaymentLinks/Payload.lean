import AutoGpt.Library.PyText
import AutoGpt.Library.PyUrl
import Mathlib.Algebra.Field.Rat
import Mathlib.Algebra.Order.Ring.Cast
import Mathlib.Algebra.Order.Ring.Rat
import Mathlib.Data.Finmap
import Mathlib.Data.String.Basic
import Mathlib.Order.WithBotTop

/-
  Payment-link payloads as the long-link history import reads
  and writes them (`services/long_link_history_sync.py`): the
  values of decoded JSON, their normalisation, the times that
  are compared, and the decision whether a source row takes
  the place of an account's current link.
-/

----
-- Decoded Values
----

namespace PaymentLinks

/- A time as a float. The inner top is the infinite time, the outer one is NaN: no time is later
   than either. -/
abbrev Time := WithBot (WithTop (WithTop ℚ))

/- A decoded JSON value or a column. A number carries its text; an array or object inside a payload
   is the text that `str` shows of it, the empty text when it has no members. -/
inductive Value where
| null
| bool (b : Bool)
| num (t : Time) (shown : String)
| text (s : String)
| other (shown : String)
deriving DecidableEq

/- A Python `dict` with text keys. -/
abbrev Dict (V : Type) := Finmap (fun _ : String => V)

/- A value of `extra_json`: an object or something else. -/
inductive Entry where
| dict (fields : Dict Value)
| plain (v : Value)

/- A decoded `extra_json`; `none` is no valid JSON object. -/
abbrev Extra := Option (Dict Entry)

def Value.truthy : Value → Bool
| .null => false
| .bool b => b
| .num t _ => t ≠ ((0 : ℚ) : Time)
| .text s => s ≠ ""
| .other shown => shown ≠ ""

/- `value or other`. -/
def Value.or (a b : Value) : Value := if a.truthy then a else b

/- `str(value)`. -/
def Value.show : Value → String
| .null => "None"
| .bool b => if b then "True" else "False"
| .num _ shown => shown
| .text s => s
| .other shown => shown

/- `str(value or "")`. -/
def Value.str (v : Value) : String := if v.truthy then v.show else ""

/- `fields.get(key)`. -/
def get (fields : Dict Value) (key : String) : Value := (fields.lookup key).getD .null

theorem get_insert_self (fields : Dict Value) (key : String) (v : Value) :
    get (fields.insert key v) key = v := by
  unfold get
  rw [Finmap.lookup_insert]
  rfl

theorem get_insert_of_ne (fields : Dict Value) (hNe : key ≠ key') (v : Value) :
    get (fields.insert key' v) key = get fields key := by
  unfold get
  rw [Finmap.lookup_insert_of_ne _ hNe]

----
-- Normalisation
----

/- What the import takes from elsewhere: case mapping, the two readings of a time text, the ISO text
   of an epoch, and the checks in `urlsplit` that raise. -/
structure Env where
  lower : String → String
  upper : String → String
  float_text : String → Option Time
  iso_time : String → Option ℚ
  iso_epoch : Int → String
  url_raises : String → Bool
  payment_link_type_from_payload : Dict Value → String

/- `text[:limit]`. -/
@[irreducible]
def truncate (limit : Nat) (s : String) : String := String.ofList (s.toList.take limit)

/- `_safe_text(value, limit=...)`. -/
def safe_text (limit : Nat) (v : Value) : String := truncate limit (PyText.strip v.str)

variable (env : Env)

def normalized_email (v : Value) : String := env.lower (safe_text 320 v)

def isControl (c : Char) : Bool := c.toNat < 32 ∨ c.toNat = 127

/- `_valid_http_url(value)`. -/
@[irreducible]
def valid_http_url (v : Value) : String :=
  let url := safe_text 10000 v
  let parsed := PyUrl.urlsplit url.toList
  if url = "" ∨ url.toList.any isControl then ""
  else if env.url_raises url then ""
  else if (parsed.scheme ≠ "http".toList ∧ parsed.scheme ≠ "https".toList) ∨ parsed.netloc = [] then
    ""
  else url

/- `text.replace("-", "_")`. -/
def underscored (s : String) : String :=
  String.ofList (s.toList.map (fun c => if c = '-' then '_' else c))

/- Only ASCII letters, digits and underscores. -/
def isIdentifier (s : String) : Bool := s.toList.all (fun c => c.isAlphanum || c == '_')

def normalized_link_type (v : Value) : String :=
  let text := underscored (env.lower (safe_text 64 v))
  if text = "" then "hosted"
  else if isIdentifier text then text
  else "other"

def normalized_payment_method_type (v : Value) : String :=
  let text := underscored (env.lower (safe_text 80 v))
  if text = "" then ""
  else if isIdentifier text then text
  else ""

----
-- Times
----

/- `numeric / 1000`. -/
def milliseconds (t : Time) : Time := WithBot.map (WithTop.map (WithTop.map (· / 1000))) t

def timestamp_for_compare (v : Value) : Option Time :=
  match v with
  | .num t _ => some t
  | v =>
    let text := safe_text 128 v
    if text = "" then none
    else
      match env.float_text text with
      | some t =>
        if ((100000000000 : ℚ) : Time) < t then some (milliseconds t)
        else some t
      | none => (env.iso_time text).map (fun t => (t : Time))

/- `a or b` of two times; the time zero is false. -/
def orTime (a b : Option Time) : Option Time :=
  match a with
  | some t => if t = ((0 : ℚ) : Time) then b else some t
  | none => b

def epochTime (t : Int) : Time := ((t : ℚ) : Time)

theorem epochTime_lt_iff (a b : Int) : epochTime a < epochTime b ↔ a < b := by
  unfold epochTime
  rw [WithBotTop.coe_lt_coe, WithTop.coe_lt_coe, Int.cast_lt]

----
-- Source Rows
----

structure SourceLink where
  job_id : String
  completed_at : Int
  account_email : String
  url : String
  link_type : String
  source : String
  billing_country : String
  currency : String
  payment_method_type : String
  cs_id : String
  link_expires_at : Option Int
deriving DecidableEq

def SourceLink.request_id (s : SourceLink) : String := "long-link-history:" ++ s.job_id

def SourceLink.generated_at (env : Env) (s : SourceLink) : String :=
  if 0 < s.completed_at then env.iso_epoch s.completed_at
  else ""

/- `needle in text`. -/
def hasText (needle text : String) : Bool := text.toList.tails.any needle.toList.isPrefixOf

/- The link is also the account's PayPal URL. -/
def SourceLink.isPaypal (s : SourceLink) : Bool :=
  s.link_type = "paypal" ∨ hasText "paypal" s.payment_method_type

/- The fields that every payload of a source row has. -/
def record_fields (env : Env) (s : SourceLink) :
    List (String × Value) :=
  [("url", .text s.url), ("long_url", .text s.url), ("plan", .text "plus"),
    ("country", .text s.billing_country), ("currency", .text s.currency),
    ("billing_country", .text s.billing_country), ("payment_link_format", .text "long_link"),
    ("payment_source", .text "long_link"), ("link_type", .text s.link_type),
    ("source", .text "long_link_history_sync"), ("history_source", .text s.source),
    ("upstream", .text "openai_pay_long_link"), ("remote_job_id", .text s.job_id),
    ("remote_request_id", .text s.request_id), ("generated_at", .text (s.generated_at env)),
    ("created_at", .text (s.generated_at env))]

/- The fields that depend on what the source row has. -/
def optional_fields (s : SourceLink) :
    List (String × Value) :=
  (if s.payment_method_type ≠ "" then [("payment_method_type", .text s.payment_method_type)]
  else []) ++
  (if s.cs_id ≠ "" then [("cs_id", .text s.cs_id)] else []) ++
  (match s.link_expires_at with
  | some t =>
    if s.link_type = "pix" ∨ s.link_type = "upi" then
      [("link_expires_at", .num (epochTime t) (toString t))] ++
      (if s.link_type = "upi" then [("link_expiry_source", .text "upi_qr_code")]
      else [])
    else []
  | none => []) ++
  (if s.isPaypal then [("paypal_url", .text s.url)] else [])

/- The `dict` with the fields, later ones on top. -/
def ofFields (fields : List (String × Value)) : Dict Value :=
  fields.foldl (fun d f => d.insert f.1 f.2) ∅

/- `_record_payload(source)`. -/
def record_payload (env : Env) (s : SourceLink) :
    Dict Value :=
  ofFields (record_fields env s ++ optional_fields s)

----
-- Replacing The Current Link
----

def PAYMENT_LINK_CLEANED_STATUSES : List String := ["expired_cleaned", "paid_cleaned",
    "cancelled_cleaned",
    "upi_expired_cleaned",
    "upi_paid_cleaned",
    "upi_cancelled_cleaned",
    "ideal_expired_cleaned",
    "ideal_paid_cleaned",
    "ideal_cancelled_cleaned",
    "payment_link_deleted"]

variable (env : Env)

/- The link was cleaned: it is a tombstone without URL. -/
def is_tombstone (current : Dict Value) : Bool :=
  env.lower (safe_text 64 (get current "link_status")) ∈ PAYMENT_LINK_CLEANED_STATUSES

def current_time (current : Dict Value) : Option Time :=
  timestamp_for_compare env ((get current "generated_at").or (get current "created_at"))

/- Up to when a tombstone covers the history. -/
def tombstone_time (current : Dict Value) : Option Time := orTime
    (timestamp_for_compare env (get current "pix_cleanup_through_at"))
    (orTime (current_time env current) (timestamp_for_compare env (get current "cleaned_at")))

/- `_current_cache_should_be_replaced(extra, source)`. -/
def current_cache_should_be_replaced (extra : Dict Entry) (s : SourceLink) : Bool :=
  match extra.lookup "chatgpt_last_payment_link" with
  | some (.dict current) =>
    if is_tombstone env current then
      match tombstone_time env current with
      | some t => t < epochTime s.completed_at
      | none => false
    else if valid_http_url env (get current "url") = "" then true
    else
      match current_time env current with
      | some t => t < epochTime s.completed_at
      | none => false
  | _ => true

inductive CacheAction where
| invalid_extra
| updated
| retained
deriving DecidableEq

/- `_current_cache_action(account, source)`. -/
def current_cache_action (extra : Extra) (s : SourceLink) : CacheAction :=
  match extra with
  | none => .invalid_extra
  | some extra =>
    if current_cache_should_be_replaced env extra s then .updated
    else .retained

/- `extra_json` after the source row became the current link. -/
def withCurrentLink (extra : Dict Entry) (s : SourceLink) : Dict Entry :=
  let payload := record_payload env s
  let extra := extra.insert "chatgpt_last_payment_link" (.dict payload)
  if s.isPaypal then
    extra.insert "chatgpt_paypal_url" (.dict (payload.insert "paypal_url" (.text s.url)))
  else extra

theorem lookup_withCurrentLink (extra : Dict Entry) (s : SourceLink)
    (hLink : key ≠ "chatgpt_last_payment_link") (hPaypal : key ≠ "chatgpt_paypal_url") :
    (withCurrentLink env extra s).lookup key = extra.lookup key := by
  unfold withCurrentLink
  split
  · rw [Finmap.lookup_insert_of_ne _ hPaypal, Finmap.lookup_insert_of_ne _ hLink]
  · rw [Finmap.lookup_insert_of_ne _ hLink]

end PaymentLinks
