import AutoGpt.Library.SqlText
import AutoGpt.PaymentLinks.Candidates

/-
  The platform of an account's current payment link
  (`services/account_filters.py`), which is computed twice:
  in Python for a row of the list and in SQL for its filter.
-/

open PyUrl (Text urlsplit)

----
-- Platforms
----

namespace LinkPlatforms

open PaymentLinks

/- The public values of `payment_link_platform`. -/
inductive LinkPlatform where
| none
| team
| upi
| pix
| paypal
| ideal
| twint
| kakao_pay
| hosted
| other
deriving DecidableEq

/- `_PAYMENT_LINK_TYPE_ALIASES`. -/
def PAYMENT_LINK_TYPE_ALIASES : List (String × String) := [("payment", "hosted"), ("pay", "hosted"),
    ("long", "hosted"), ("chatgpt", "hosted"),
    ("chatgpt_hosted", "hosted"), ("stripe_hosted", "hosted"),
    ("checkout", "hosted"), ("pp", "paypal"),
    ("paypal_url", "paypal"), ("ideal_pay", "ideal"),
    ("qr", "pix"), ("pix_qr", "pix"), ("upi_qr", "upi"),
    ("upi_qr_code", "upi"), ("kakao", "kakao_pay"),
    ("kakaopay", "kakao_pay"), ("team_checkout", "team"),
    ("chatgptteamplan", "team")]

/- `_PAYMENT_LINK_CONCRETE_TYPES`. -/
def PAYMENT_LINK_CONCRETE_TYPES :
    List (String × LinkPlatform) :=
  [("paypal", .paypal), ("ideal", .ideal), ("upi", .upi), ("pix", .pix), ("twint", .twint),
    ("kakao_pay", .kakao_pay)]

/- `_PAYMENT_LINK_URL_FIELDS`, in the order of both sides. -/
def PAYMENT_LINK_URL_FIELDS : List String :=
  ["url", "paypal_url", "provider_redirect_url", "approval_url", "checkout_url", "cashier_url"]

/- The formats of PayPal and of hosted links. -/
def PAYPAL_FORMATS : List String := ["paypal", "paypal_url", "paypal_approval", "provider_url"]

def HOSTED_FORMATS : List String := ["short", "short_chatgpt", "long", "long_hosted", "hosted",
    "hosted_checkout", "pay_openai", "stripe_hosted"]

/- An object in `extra`. -/
def dictAt (extra : Extra) (key : String) :
    Option (Dict Value) :=
  match extra with
  | none => none
  | some extra =>
    match extra.lookup key with
    | some (.dict fields) => some fields
    | _ => none

----
-- The Platform In Python
----

variable (env : ScanEnv)

/- `_safe_str(value)` and `_lower_text(value)`. -/
def safe_str (v : Value) : String := PyText.strip v.str

def lower_text (v : Value) : String := env.lower (safe_str v)

/- `_normalize_payment_link_type(value)`. -/
def normalize_payment_link_type (v : Value) : String :=
  let normalized := underscored (lower_text env v)
  (PAYMENT_LINK_TYPE_ALIASES.lookup normalized).getD normalized

/- `_validated_payment_link_url(value)`. -/
def validated_payment_link_url (v : Value) : String :=
  let url := safe_str v
  let parsed := urlsplit url.toList
  if url = "" ∨ 8192 < url.length then ""
  else if env.url_raises url then ""
  else if (parsed.scheme ≠ "http".toList ∧ parsed.scheme ≠ "https".toList) ∨
      parsed.netloc = [] then ""
  else url

/- The first URL of a candidate that is valid. -/
def candidate_url (candidate : Dict Value) : Option String := (PAYMENT_LINK_URL_FIELDS.map
    (fun key => validated_payment_link_url env (get candidate key))).find? (fun url => url ≠ "")

def link_cleaned (last : Dict Value) : Bool :=
  lower_text env (get last "link_status") ∈ PAYMENT_LINK_CLEANED_STATUSES

/- `_account_payment_link_payload(account, extra)`. -/
def account_payment_link_payload (extra : Extra) :
    Dict Value :=
  let last := dictAt extra "chatgpt_last_payment_link"
  let legacy := dictAt extra "chatgpt_paypal_url"
  if last.any (link_cleaned env) then ∅
  else
    match candidate_url env (last.getD ∅) with
    | some url => (last.getD ∅).insert "url" (.text url)
    | none =>
      match candidate_url env (legacy.getD ∅) with
      | none => ∅
      | some url =>
        let payload := (legacy.getD ∅).insert "url" (.text url)
        if safe_str (get payload "link_type") = "" then payload.insert "link_type" (.text "paypal")
        else payload

/- `_payment_link_host_matches(host, *domains)`. -/
def payment_link_host_matches (host : Text) (domains : List String) : Bool :=
  domains.any (fun domain => host == domain.toList || ('.' :: domain.toList).isSuffixOf host)

/- `part in text`. -/
def contains (part : String) (text : Text) : Bool := decide (part.toList <:+: text)

/- `str.lower()` of a part of a URL. -/
def lowered (text : Text) : Text := (env.lower (String.ofList text)).toList

/- What `payment_link_platform_from_payload` reads of a payload. -/
structure LinkParts where
  link_type : String
  payment_method_type : String
  generation_kind : String
  plan : String
  plan_name : String
  link_format : String
  payment_source : String
  host : Text
  path : Text

def link_parts (payload : Dict Value) (url : String) :
    LinkParts :=
  let parsed := urlsplit url.toList
  { link_type := normalize_payment_link_type env (get payload "link_type")
    payment_method_type := normalize_payment_link_type env (get payload "payment_method_type")
    generation_kind := normalize_payment_link_type env (get payload "generation_kind")
    plan := normalize_payment_link_type env (get payload "plan")
    plan_name := normalize_payment_link_type env (get payload "plan_name")
    link_format := underscored (lower_text env (get payload "payment_link_format"))
    payment_source := underscored (lower_text env (get payload "payment_source"))
    host := lowered env (PyUrl.hostname (lowered env) parsed.netloc)
    path := lowered env parsed.path }

/- The conditions of the classifier, in its order. -/
def LinkParts.isTeam (parts : LinkParts) : Bool := parts.link_type == "team" ||
    parts.generation_kind == "team" ||
    parts.plan == "team" || parts.plan_name == "team"

def LinkParts.isUpi (parts : LinkParts) : Bool :=
  parts.link_type == "upi" || parts.payment_method_type == "upi"

def LinkParts.isPix (parts : LinkParts) : Bool :=
  parts.link_type == "pix" || parts.payment_method_type == "pix"

def LinkParts.concrete? (parts : LinkParts) :
    Option LinkPlatform :=
  [parts.link_type, parts.payment_method_type].findSome?
    (fun candidate => PAYMENT_LINK_CONCRETE_TYPES.lookup candidate)

def LinkParts.isPaypal (parts : LinkParts) : Bool := parts.link_format ∈ PAYPAL_FORMATS ||
    contains "paypal" parts.payment_source.toList ||
    payment_link_host_matches parts.host ["paypal.com"]

def LinkParts.isIdeal (parts : LinkParts) : Bool := parts.link_format ∈ ["ideal", "ideal_url"] ||
    parts.host == "pay.ideal.nl".toList && "/transactions/".toList.isPrefixOf parts.path

def LinkParts.isTwint (parts : LinkParts) : Bool :=
  parts.link_format ∈ ["twint", "twint_url"] || payment_link_host_matches parts.host ["twint.ch"]

def LinkParts.isKakao (parts : LinkParts) : Bool :=
  parts.link_format ∈ ["kakao_pay", "kakao_pay_url"] || payment_link_host_matches parts.host
      ["kakao.com", "kakaopay.com", "kakaopay.co.kr", "nicepay.com", "nicepay.co.kr"]

def LinkParts.isHosted (parts : LinkParts) : Bool := parts.link_type == "hosted" ||
    parts.payment_method_type == "hosted" ||
    parts.link_format ∈ HOSTED_FORMATS ||
    parts.payment_source == "chatgpt_hosted" ||
    payment_link_host_matches parts.host ["chatgpt.com"] ||
    parts.host == "pay.openai.com".toList ||
    ".openai.com".toList.isSuffixOf parts.host

def LinkParts.platform (parts : LinkParts) : LinkPlatform :=
  if parts.isTeam then .team
  else if parts.isUpi then .upi
  else if parts.isPix then .pix
  else if contains "/upi/instructions/" parts.path then .upi
  else if contains "/qr/instructions/" parts.path then .pix
  else
    match parts.concrete? with
    | some platform => platform
    | none =>
      if parts.isPaypal then .paypal
      else if parts.isIdeal then .ideal
      else if parts.isTwint then .twint
      else if parts.isKakao then .kakao_pay
      else if parts.isHosted then .hosted
      else .other

/- `payment_link_platform_from_payload(payload)`. -/
def payment_link_platform_from_payload (payload : Dict Value) : LinkPlatform :=
  let url := validated_payment_link_url env (get payload "url")
  if url = "" then .none
  else (link_parts env payload url).platform

/- The platform that a row of the list shows. -/
def account_payment_link_platform (extra : Extra) :
    LinkPlatform :=
  payment_link_platform_from_payload env (account_payment_link_payload env extra)

----
-- The Platform In SQL
----

/- SQL `lower(text)`. -/
def sql_lower (s : String) : String := String.ofList (s.toList.map Char.toLower)

/- SQL `lower(text) LIKE pattern`. -/
def sql_like (pattern : String) (s : String) : Bool :=
  SqlText.like pattern.toList (sql_lower s).toList

/- SQL `nullif(trim(value), '')`. -/
def sql_given (value : Option String) : Option String :=
  (value.map sql_trim).filter (fun s => s ≠ "")

/- A text that starts with the scheme and goes on with a host at the position. -/
def sql_scheme_valid (scheme : String) (position : Nat) (s : String) : Bool :=
  sql_like (scheme ++ "://%") s &&
    decide (position ≤ s.length ∧ s.length ≤ 8192) &&
    (((sql_lower s).toList.drop (position - 1)).take 1 ∉ [[], ['/'], ['?'], ['#']]) &&
    !SqlText.like "% %".toList s.toList

def sql_url_valid (s : String) : Bool := sql_scheme_valid "http" 8 s || sql_scheme_valid "https" 9 s

/- The first URL of an object that is valid, or ''. -/
def sql_link_url (fields : Dict Value) : String := sql_trim (((PAYMENT_LINK_URL_FIELDS.filterMap
      (fun key => (json_extract env (get fields key)).map sql_trim)).find? sql_url_valid).getD "")

/- The columns that the `CASE` reads. -/
structure LinkColumns where
  last_payment_link_url : String
  legacy_paypal_link_url : String
  payment_link_type : String
  payment_link_method_type : String
  payment_link_generation_kind : String
  payment_link_plan : String
  payment_link_plan_name : String
  payment_link_format : String
  payment_link_source : String
  payment_link_status : String

/- The test for a cleaned link in the columns. -/
def sql_link_cleaned (last : Dict Value) : Bool := sql_lower_trim
      ((json_extract env (get last "link_status")).getD "") ∈
    PAYMENT_LINK_CLEANED_STATUSES

/- A text column: the field of the last link, unless it was
   cleaned, else that of the legacy one, else a default. -/
def sql_column (last legacy : Dict Value) (key : String) (otherwise : String) : String :=
  let field :=
    if sql_link_cleaned env last then none
    else json_extract env (get last key)
  underscored (sql_lower_trim
      (((sql_given field).or (sql_given (json_extract env (get legacy key)))).getD otherwise))

/- A text column of the last link alone. -/
def sql_last_column (last : Dict Value) (key : String) :
    String :=
  underscored (sql_lower_trim ((sql_given (json_extract env (get last key))).getD ""))

def link_columns (extra : Extra) : LinkColumns :=
  let last := (dictAt extra "chatgpt_last_payment_link").getD ∅
  let legacy := dictAt extra "chatgpt_paypal_url"
  let column := sql_column env last (legacy.getD ∅)
  { last_payment_link_url :=
      if sql_link_cleaned env last then ""
      else sql_link_url env last
    legacy_paypal_link_url := sql_link_url env (legacy.getD ∅)
    payment_link_type := column "link_type" (if legacy.isSome then "paypal" else "")
    payment_link_method_type := column "payment_method_type" ""
    payment_link_generation_kind := sql_last_column env last "generation_kind"
    payment_link_plan := sql_last_column env last "plan"
    payment_link_plan_name := sql_last_column env last "plan_name"
    payment_link_format := column "payment_link_format" ""
    payment_link_source := column "payment_source" ""
    payment_link_status :=
      sql_lower_trim ((sql_given (json_extract env (get last "link_status"))).getD "") }

/- `payment_link_url`. -/
def LinkColumns.url (columns : LinkColumns) : String :=
  sql_trim (PyText.orElse columns.last_payment_link_url columns.legacy_paypal_link_url)

/- `payment_link_uses_legacy_paypal`. -/
def LinkColumns.uses_legacy (columns : LinkColumns) : Bool :=
  !sql_like "http://%" columns.last_payment_link_url &&
    !sql_like "https://%" columns.last_payment_link_url &&
    sql_url_valid columns.legacy_paypal_link_url

/- The patterns for both schemes and some ends. -/
def link_patterns (host : String) (ends : List String) :
    List String :=
  ends.flatMap (fun stop => ["http://" ++ host ++ stop, "https://" ++ host ++ stop])

def ANY_ENDS : List String := ["", "/%", "?%", "#%"]

def LinkColumns.url_like (columns : LinkColumns) (patterns : List String) : Bool :=
  patterns.any (fun pattern => sql_like pattern columns.url)

/- The conditions of the `CASE`, in its order. -/
def LinkColumns.isCleaned (columns : LinkColumns) : Bool :=
  columns.payment_link_status ∈ PAYMENT_LINK_CLEANED_STATUSES

def LinkColumns.isTeam (columns : LinkColumns) : Bool := columns.payment_link_type ∈
      ["team", "team_checkout", "chatgptteamplan"] ||
    columns.payment_link_generation_kind == "team_checkout" ||
    columns.payment_link_plan == "team" ||
    columns.payment_link_plan_name == "chatgptteamplan"

def UPI_TYPES : List String := ["upi", "upi_qr", "upi_qr_code"]

def PIX_TYPES : List String := ["pix", "qr", "pix_qr"]

def LinkColumns.isUpi (columns : LinkColumns) : Bool :=
  columns.payment_link_type ∈ UPI_TYPES || columns.payment_link_method_type ∈ UPI_TYPES

def LinkColumns.isPix (columns : LinkColumns) : Bool :=
  columns.payment_link_type ∈ PIX_TYPES || columns.payment_link_method_type ∈ PIX_TYPES

def SQL_CONCRETE_TYPES : List (LinkPlatform × List String) :=
  [(.paypal, ["paypal", "pp", "paypal_url"]), (.ideal, ["ideal", "ideal_pay"]), (.twint, ["twint"]),
    (.kakao_pay, ["kakao", "kakaopay", "kakao_pay"])]

def sql_concrete? (type : String) : Option LinkPlatform :=
  (SQL_CONCRETE_TYPES.find? (fun entry => type ∈ entry.2)).map (·.1)

def LinkColumns.isPaypal (columns : LinkColumns) : Bool :=
  columns.payment_link_format ∈ PAYPAL_FORMATS ||
    SqlText.like "%paypal%".toList columns.payment_link_source.toList ||
    columns.url_like (link_patterns "paypal.com" ANY_ENDS ++ link_patterns "%.paypal.com" ANY_ENDS)

def LinkColumns.isIdeal (columns : LinkColumns) : Bool :=
  columns.payment_link_format ∈ ["ideal", "ideal_url"] ||
    columns.url_like (link_patterns "pay.ideal.nl" ["/transactions/%"])

def LinkColumns.isTwint (columns : LinkColumns) : Bool :=
  columns.payment_link_format ∈ ["twint", "twint_url"] ||
    columns.url_like (link_patterns "twint.ch" ["/%"] ++ link_patterns "%.twint.ch" ["/%"])

def LinkColumns.isKakao (columns : LinkColumns) : Bool :=
  columns.payment_link_format ∈ ["kakao_pay", "kakao_pay_url"] || columns.url_like
      (["kakao.com", "kakaopay.com", "kakaopay.co.kr", "nicepay.com", "nicepay.co.kr"].flatMap
        (fun domain => link_patterns domain ["/%"] ++ link_patterns ("%." ++ domain) ["/%"]))

def HOSTED_TYPES : List String :=
  ["hosted", "payment", "pay", "long", "chatgpt", "chatgpt_hosted", "stripe_hosted", "checkout"]

def LinkColumns.isHosted (columns : LinkColumns) : Bool :=
  columns.payment_link_type ∈ HOSTED_TYPES || columns.payment_link_method_type ∈ HOSTED_TYPES ||
    columns.payment_link_format ∈ HOSTED_FORMATS ||
    columns.payment_link_source == "chatgpt_hosted" || columns.url_like
      (link_patterns "chatgpt.com" ANY_ENDS ++ link_patterns "%.chatgpt.com" ["", "/%"] ++
        link_patterns "pay.openai.com" ANY_ENDS ++ link_patterns "%.openai.com" ANY_ENDS)

/- The `CASE ... END AS payment_link_platform`. -/
def LinkColumns.platform (columns : LinkColumns) :
    LinkPlatform :=
  if columns.isCleaned then .none
  else if columns.uses_legacy then .paypal
  else if sql_url_valid columns.url = false then .none
  else if columns.isTeam then .team
  else if columns.isUpi then .upi
  else if columns.isPix then .pix
  else if sql_like "%/upi/instructions/%" columns.url then .upi
  else if sql_like "%/qr/instructions/%" columns.url then .pix
  else
    match sql_concrete? columns.payment_link_type with
    | some platform => platform
    | none =>
      match sql_concrete? columns.payment_link_method_type with
      | some platform => platform
      | none =>
        if columns.isPaypal then .paypal
        else if columns.isIdeal then .ideal
        else if columns.isTwint then .twint
        else if columns.isKakao then .kakao_pay
        else if columns.isHosted then .hosted
        else .other

/- The platform that the filter of the list reads. -/
def sql_payment_link_platform (extra : Extra) : LinkPlatform := (link_columns env extra).platform

end LinkPlatforms
