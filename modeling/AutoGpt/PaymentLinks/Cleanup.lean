import AutoGpt.PaymentLinks.Candidates

/-
  The cleanup of current payment links
  (`services/chatgpt_core/pix_payment_link_cleanup.py`): the
  category of each candidate, the tombstone that takes the
  place of a link, and the transaction that cleans a type's
  category.
-/

open PyText (strip)

----
-- Categories
----

namespace PaymentLinks

/- `PixCleanupMode`: what a cleanup asks for, and the category of a link. -/
inductive CleanupMode where
| valid
| expired
| paid
| cancelled
| unknown
deriving DecidableEq

def CleanupMode.name : CleanupMode → String
| .valid => "valid"
| .expired => "expired"
| .paid => "paid"
| .cancelled => "cancelled"
| .unknown => "unknown"

/- `StripePaymentDirectState`. -/
structure DirectState where
  success : Bool
  intent_state : String
  server_timestamp : Option Int
  payment_type : String
  expires_at : Option Int
  expiry_source : String

/- The direct scan results, by account id and URL. -/
abbrev DirectResults := Nat × String → Option DirectState

variable (env : ScanEnv)

/- `normalize_payment_link_type(value)`. -/
def normalize_payment_link_type (v : Value) : String :=
  let text := underscored (env.lower (strip v.str))
  if text = "qr" ∨ text = "pix_qr" then "pix"
  else if text = "upi_qr" ∨ text = "upi_qr_code" then "upi"
  else text

def payment_marker_timestamp (marker : Dict Value) :
    Option Int :=
  (["last_checked_at", "paid_at", "failed_at",
    "submitted_at"].filterMap (fun key => utc_datetime env (get marker key))).max?

/- The link is newer than what the marker tells. -/
def newer_than_marker (c : Candidate) : Bool :=
  match c.generated_at, payment_marker_timestamp env c.payment_marker with
  | some generated, some marker_at => marker_at < generated
  | _, _ => false

/- `_marker_applies_to_current_user_link(candidate)`. -/
def marker_applies_to_current_user_link (c : Candidate) : Bool :=
  let marker := c.payment_marker
  let marker_channel := normalize_payment_link_type env (get marker "payment_channel")
  let submit_mode := env.lower (strip (get marker "pix_submit_mode").str)
  c.payment_type = .pix ∧ (marker_channel = "" ∨ marker_channel = "pix") ∧
    submit_mode = "user_link" ∧ newer_than_marker env c = false ∧
    ((payment_marker_timestamp env marker).isSome ∨ c.link_status = "pix_submitted")

def PAID_LINK_STATUSES : List String := ["paid", "already_paid"]

def EXPIRED_LINK_STATUSES : List String := ["expired", "payment_expired"]

def CANCELLED_LINK_STATUSES : List String :=
  ["cancelled", "canceled", "payment_cancelled", "payment_canceled"]

def PAID_PAYMENT_STATUSES : List String := ["paid", "success", "completed"]

def CANCELLED_PAYMENT_STATUSES : List String :=
  ["cancelled", "canceled", "payment_cancelled", "payment_canceled"]

def marker_status (c : Candidate) : String :=
  normalize_payment_link_status env (get c.payment_marker "status")

def is_paid_candidate (c : Candidate) : Bool := c.link_status ∈ PAID_LINK_STATUSES ∨
    (c.link_status = "pix_submitted" ∧ marker_status env c ∈ PAID_PAYMENT_STATUSES ∧
      marker_applies_to_current_user_link env c)

/- `_payment_cancelled_evidence(marker)`. -/
def payment_cancelled_evidence (marker : Dict Value) : Bool :=
  let status := normalize_payment_link_status env
    ((get marker "upstream_status").or (get marker "status"))
  let text := " ".intercalate (["last_error_message", "error_code", "failure_status", "message"].map
        (fun key => env.lower (strip (get marker key).str)))
  status ∈ CANCELLED_PAYMENT_STATUSES ∨ ["支付已取消", "payment cancelled", "payment canceled",
      "payment_cancelled", "payment_canceled"].any (fun token => hasText token text)

def is_cancelled_candidate (c : Candidate) : Bool := c.link_status ∈ CANCELLED_LINK_STATUSES ∨
    (marker_status env c ∈ "failed" :: CANCELLED_PAYMENT_STATUSES ∧
      marker_applies_to_current_user_link env c ∧ payment_cancelled_evidence env c.payment_marker)

def is_expired_candidate (c : Candidate) : Bool := c.link_status ∈ EXPIRED_LINK_STATUSES

/- A direct state of another payment type is not trusted. -/
def trusted_state (direct_results : DirectResults) (c : Candidate) : Option DirectState :=
  (direct_results (c.account_id, c.current_url)).filter
    (fun d =>
      let state_type := normalize_payment_link_type env (.text d.payment_type)
      state_type = "" ∨ state_type = c.payment_type.name)

/- The candidate with the deadline of its direct state. -/
def with_direct_expiry (d : Option DirectState) (c : Candidate) : Candidate :=
  match d with
  | none => c
  | some d =>
    match d.expires_at with
    | none => c
    | some expires_at =>
      { c with
        expires_at := some expires_at,
        expiry_source := PyText.orElse d.expiry_source c.expiry_source }

def due (deadline : Option Int) (now : Option Int) : Bool :=
  match deadline, now with
  | some deadline, some now => deadline ≤ now
  | _, _ => false

/- The category by what the account and its marker say. -/
def local_category (now : Int) (c : Candidate) : CleanupMode :=
  if is_paid_candidate env c then .paid
  else if is_cancelled_candidate env c then .cancelled
  else if is_expired_candidate c then .expired
  else if due c.expires_at (some now) then .expired
  else if c.expires_at.isSome then .valid
  else .unknown

/- The one category of a candidate in `_base_report`. -/
def category (now : Int) (d : Option DirectState) (c : Candidate) : CleanupMode :=
  match d with
  | none => local_category env now c
  | some d =>
    if d.success = false then local_category env now c
    else if d.intent_state = "succeeded" then .paid
    else if d.intent_state = "canceled" ∨ d.intent_state = "cancelled" then .cancelled
    else if due c.expires_at d.server_timestamp then .expired
    else .valid

/- What a cleanup is asked for, and the direct scan results that it works with. -/
structure CleanupCall where
  payment_type : PaymentType
  cleanup_mode : CleanupMode
  now : Int
  direct_results : DirectResults

/- A candidate as the report sees it, when its category is the one that is asked for. -/
def eligible_candidate (call : CleanupCall) (c : Candidate) : Option Candidate :=
  let d := trusted_state env call.direct_results c
  let c := with_direct_expiry d c
  if category env call.now d c = call.cleanup_mode then some c
  else none

/- The eligible candidates of `_base_report`. -/
def eligible_candidates (call : CleanupCall) (db : Database) : List Candidate :=
  (load_current_payment_link_candidates env call.payment_type
    db).filterMap (eligible_candidate env call)

----
-- Tombstones
----

/- `_LINK_URL_FIELDS_TO_REMOVE`. -/
def LINK_URL_FIELDS_TO_REMOVE : List String := CURRENT_LINK_URL_FIELDS ++
    ["long_url", "stripe_redirect_url", "stripe_hosted_url", "chatgpt_checkout_url"]

def cleaned_status : PaymentType → CleanupMode → String
| .pix, .expired => "expired_cleaned"
| .pix, .paid => "paid_cleaned"
| .pix, .cancelled => "cancelled_cleaned"
| .upi, .expired => "upi_expired_cleaned"
| .upi, .paid => "upi_paid_cleaned"
| .upi, .cancelled => "upi_cancelled_cleaned"
| .ideal, .expired => "ideal_expired_cleaned"
| .ideal, .paid => "ideal_paid_cleaned"
| .ideal, .cancelled => "ideal_cancelled_cleaned"
| _, _ => "payment_link_deleted"

def cleaned_reason : CleanupMode → String
| .valid => "valid payment link was manually deleted"
| .expired => "payment link expired and was cleared"
| .paid => "payment link was paid and cleared"
| .cancelled => "payment was cancelled and the link was cleared"
| .unknown => "payment link with unknown status was manually deleted"

/- The latest of a time and those that are known. -/
def latest (t : Int) (others : List (Option Int)) : Int := others.reduceOption.foldl max t

/- Up to when the tombstone covers the history. -/
def cleanup_through_at (c : Candidate) (cleaned_at : Int) (mode : CleanupMode) : Int :=
  match mode with
  | .expired =>
    if c.payment_type = .pix then latest (latest_pix_expiry_cutoff cleaned_at) [c.generated_at]
    else latest cleaned_at [c.expires_at, c.generated_at]
  | _ => cleaned_at

/- The fields of the payload that are kept. -/
def kept_fields (payload : Dict Value) : Dict Value :=
  LINK_URL_FIELDS_TO_REMOVE.foldl (fun p key => p.erase key) payload

/- What is kept of the status that the link had. -/
def previous_status_fields (payload : Dict Value) :
    List (String × Value) :=
  let previous := strip (get payload "link_status").str
  if previous ≠ "" ∧ previous ∉ PAYMENT_LINK_CLEANED_STATUSES then
    [("previous_link_status", .text previous)]
  else []

def cleanup_fields (c : Candidate) (cleaned_at : Int)
    (mode : CleanupMode) : List (String × Value) :=
  let through_at := env.isoformat (cleanup_through_at c cleaned_at mode)
  [("link_status", .text (cleaned_status c.payment_type mode)),
    ("link_status_reason", .text (env.upper c.payment_type.name ++ " " ++ cleaned_reason mode)),
    ("link_status_updated_at", .text (env.isoformat cleaned_at)),
    ("cleaned_at", .text (env.isoformat cleaned_at)),
    ("payment_link_cleanup_through_at", .text through_at),
    ("payment_link_cleanup_mode", .text mode.name),
    ("payment_link_cleanup_type", .text c.payment_type.name),
    ("pix_cleanup_through_at", .text through_at), ("pix_cleanup_mode", .text mode.name),
    ("payment_link_type", .text c.payment_type.name), ("link_expiry_source", .text c.expiry_source)]

/- The fields that tell the expiry of a cleaned link. -/
def expiry_fields (c : Candidate) (mode : CleanupMode) :
    List (String × Value) :=
  (if mode = .expired then [("expired_at", .text ((c.expires_at.map env.isoformat).getD ""))]
  else []) ++
  (match c.expires_at with
  | some t => [("link_expires_at", .num (epochTime (epoch_seconds t)) (toString (epoch_seconds t)))]
  | none => [])

/- `payload.update(fields)`. -/
def updated (payload : Dict Value) (fields : List (String × Value)) : Dict Value :=
  fields.foldl (fun d f => d.insert f.1 f.2) payload

/- `_cleaned_link_payload(candidate, ...)`. -/
def cleaned_link_payload (c : Candidate) (cleaned_at : Int) (mode : CleanupMode) : Dict Value :=
  updated (kept_fields c.payload)
    (previous_status_fields c.payload ++ cleanup_fields env c cleaned_at mode ++
      expiry_fields env c mode)

----
-- Cleaning
----

/- The counts of a report that a cleanup gives or changes. -/
structure CleanupReport where
  eligible_links : Nat
  cleaned_links : Nat
  concurrent_skipped_links : Nat
  list_state_refreshed : Nat

/- `eligible_links` of `preview_payment_link_cleanup`. -/
def preview_payment_link_cleanup (call : CleanupCall) (db : Database) : Nat :=
  (eligible_candidates env call db).length

/- The `WHERE` of the update for a candidate. -/
def still_current (c : Candidate) (r : Account) : Bool :=
  r.id = c.account_id ∧ r.platform = "chatgpt" ∧ r.extra.isSome ∧
    sql_current_url env r.extra = c.current_url

/- The `SET` of the update for a candidate. -/
def cleaned_account (call : CleanupCall) (c : Candidate) (r : Account) : Account :=
  { r with
    extra := r.extra.map (fun extra => extra.insert "chatgpt_last_payment_link"
        (.dict (cleaned_link_payload env c call.now call.cleanup_mode)))
    cashier_url :=
      if r.cashier_url = c.current_url then ""
      else r.cashier_url
    updated_at := env.isoformat call.now }

theorem cleaned_account_id (call : CleanupCall) (c : Candidate) (r : Account) :
    (cleaned_account env call c r).id = r.id := rfl

/- The accounts inside the transaction, and whom it cleaned. -/
structure Cleaning where
  accounts : Accounts
  cleaned_ids : List Nat

/- The update for one candidate, counted by its row count. -/
def clean_candidate (call : CleanupCall) (s : Cleaning) (c : Candidate) : Cleaning where
  accounts := s.accounts.updateWhere (still_current env c) (cleaned_account env call c)
      (cleaned_account_id env call c)
  cleaned_ids :=
    if s.accounts.rows.countP (still_current env c) = 1 then s.cleaned_ids ++ [c.account_id]
    else s.cleaned_ids

def clean_candidates (call : CleanupCall) (accounts : Accounts) (cs : List Candidate) : Cleaning :=
  cs.foldl (clean_candidate env call) ⟨accounts, []⟩

/- The eligible candidates of the re-scan that were eligible in the first scan with the same URL. -/
def still_eligible (call : CleanupCall) (first now : Database) : List Candidate :=
  let keys := (eligible_candidates env call first).map (fun c => (c.account_id, c.current_url))
  (eligible_candidates env call now).filter (fun c => (c.account_id, c.current_url) ∈ keys)

/- The refreshes of the list state; without cleaned ids it is not called. -/
def refreshed_count (refreshed : List Nat → Nat) (cleaned_ids : List Nat) : Nat :=
  if cleaned_ids.isEmpty then 0 else refreshed cleaned_ids

/- `clean_payment_links`: the first scan reads one state of the database, the transaction starts on
   a later one. `refreshed` is how many of the given accounts the refresh of the list state reports.
   Without a report the transaction was rolled back. -/
def clean_payment_links (call : CleanupCall) (refreshed : List Nat → Nat) (first now : Database) :
    Option CleanupReport × Database :=
  let initial := eligible_candidates env call first
  if initial.isEmpty then (some
      { eligible_links := 0, cleaned_links := 0, concurrent_skipped_links := 0,
        list_state_refreshed := 0 }, now)
  else
    let s := clean_candidates env call now.accounts (still_eligible env call first now)
    let count := refreshed_count refreshed s.cleaned_ids
    if count ≠ s.cleaned_ids.length then (none, now)
    else
      (some
        { eligible_links := (eligible_candidates env call now).length
          cleaned_links := s.cleaned_ids.length
          concurrent_skipped_links := initial.length - s.cleaned_ids.length
          list_state_refreshed := count },
        { now with accounts := s.accounts })

end PaymentLinks
