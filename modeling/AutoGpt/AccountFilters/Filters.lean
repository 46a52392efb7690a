import AutoGpt.LocalStatus.ProbeRun
import Mathlib.Data.Finset.Union

/-
  Filtering the account list (`services/account_filters.py`):
  the values of a filter and their aliases, the conditions of
  the list query and the filter of rows in memory, and when
  both keep the same accounts.

  Main theorems: `AccountFilters.filters_agree_iff`
-/

open PyText (strip)
open List
open LocalStatus

----
-- Filter Values
----

namespace AccountFilters

/- A value of a request; a model counts as its fields, and
   another value comes with its `str()` and truth value. -/
inductive Raw where
| none
| bool (b : Bool)
| int (n : Int)
| text (s : String)
| items (values : List Raw)
| fields (entries : List (String × Raw))
| other (shown : String) (truthy : Bool)

/- Python functions on texts and values: `str()` of a list or a mapping, `str.upper()`, `int()`
   (`none` is a caught error, `some none` one that is not), and `json.loads`. -/
structure FilterEnv extends LocalStatus.ProbeEnv where
  shown : Raw → String
  upper : String → String
  int : Raw → Option (Option Int)
  loads : String → Option Raw

variable (env : FilterEnv)

/- `str(value)`. -/
def Raw.str : Raw → String
| .none => "None"
| .bool b => if b then "True" else "False"
| .int n => toString n
| .text s => s
| .other shown _ => shown
| value => env.shown value

/- `bool(value)`. -/
def Raw.truthy : Raw → Bool
| .none => false
| .bool b => b
| .int n => n ≠ 0
| .text s => s ≠ ""
| .items values => !values.isEmpty
| .fields entries => !entries.isEmpty
| .other _ truthy => truthy

/- `_safe_str(value)` and `_lower_text(value)`. -/
def safe_str (value : Raw) : String := if value.truthy then strip (value.str env) else ""

def lower_text (value : Raw) : String := env.lower (safe_str env value)

/- The stripped, lowered parts of a text between commas. -/
def pieces (s : String) : List String := (((s.toList.splitOn ',').map String.ofList).filter
    (fun item => strip item ≠ "")).map (fun item => env.lower (strip item))

/- The items of `_split_values`, which takes lists apart. -/
mutual
def valuesOf : Raw → List String
| .none => []
| .items values => valuesOfAll values
| value => pieces env (value.str env)
def valuesOfAll : List Raw → List String
| [] => []
| value :: values => valuesOf value ++ valuesOfAll values
end

/- `_split_values(value)`. -/
def split_values (value : Raw) : Finset String := (valuesOf env value).toFinset

def aliasesOf (aliases : List (String × List String)) (item : String) : Finset String :=
  ((aliases.lookup item).getD [item]).toFinset

/- The loop of the `_split_*_filter_values` functions. -/
def expand (aliases : List (String × List String)) (values : Finset String) : Finset String :=
  values.biUnion (aliasesOf aliases)

/- `_IDEA_SUBMIT_STATE_FILTER_ALIASES`. -/
def IDEA_SUBMIT_STATE_FILTER_ALIASES : List (String × List String) :=
  [("unsubmitted", ["available"]), ("available", ["available"]), ("not_submitted", ["available"]),
    ("pending_submit", ["available"]), ("submitting", ["submitted", "processing"]),
    ("pending", ["submitted", "processing"]), ("polling", ["submitted", "processing"]),
    ("submitted", ["submitted"]), ("processing", ["processing"]), ("paid", ["paid"]),
    ("success", ["paid"]), ("completed", ["paid"]), ("failed", ["failed"]), ("fail", ["failed"]),
    ("error", ["failed"]), ("timeout", ["timeout"]), ("manual_review", ["timeout"]),
    ("unknown_submit", ["timeout"]), ("stopped", ["stopped"]), ("unavailable", ["unavailable"])]

/- `_PHONE_BINDING_STATE_FILTER_ALIASES`. -/
def PHONE_BINDING_STATE_FILTER_ALIASES : List (String × List String) :=
  [("bound", ["confirmed"]), ("confirmed", ["confirmed"]), ("unbound", ["unconfirmed", "unknown"]),
    ("not_bound", ["unconfirmed", "unknown"]), ("not_confirmed", ["unconfirmed", "unknown"]),
    ("unconfirmed", ["unconfirmed"]), ("unknown", ["unknown"])]

/- `_PAYMENT_LINK_PRESENT_PLATFORMS`. -/
def PAYMENT_LINK_PRESENT_PLATFORMS : List String :=
  ["hosted", "paypal", "ideal", "upi", "pix", "twint", "kakao_pay", "team", "other"]

/- `_PAYMENT_LINK_PLATFORM_FILTER_ALIASES`. -/
def PAYMENT_LINK_PLATFORM_FILTER_ALIASES : List (String × List String) :=
  ["has_link", "current_has_link", "with_link", "has_payment_link"].map
      (fun name => (name, PAYMENT_LINK_PRESENT_PLATFORMS)) ++
    ["none", "without_link", "no_link", "no_payment_link", "current_no_link", "missing"].map
      (fun name => (name, ["none"])) ++
    [("pix", ["pix"]), ("upi", ["upi"]), ("paypal", ["paypal"]), ("paypal_url", ["paypal"]),
      ("ideal", ["ideal"]), ("ideal-pay", ["ideal"]), ("ideal_pay", ["ideal"]),
      ("twint", ["twint"]), ("kakao", ["kakao_pay"]), ("kakaopay", ["kakao_pay"]),
      ("kakao-pay", ["kakao_pay"]), ("kakao_pay", ["kakao_pay"]), ("team", ["team"]),
      ("team_checkout", ["team"]), ("chatgptteamplan", ["team"]), ("chatgpt", ["hosted", "team"])] ++
    ["hosted", "payment", "pay", "long", "chatgpt_hosted", "stripe_hosted"].map
      (fun name => (name, ["hosted"])) ++ [("other", ["other"])]

/- `_INTEGRATION_UPLOAD_STATE_FILTER_ALIASES`. -/
def INTEGRATION_UPLOAD_STATE_FILTER_ALIASES : List (String × List String) :=
  ["true", "uploaded", "exists"].map (fun name => (name, ["uploaded"])) ++
    ["false", "not_uploaded", "unknown", "not_found", "cross_workspace_only",
      "deleted_exact_match", "ambiguous", "unreachable"].map (fun name => (name, ["not_uploaded"]))

/- `SUBSCRIPTION_STATUS_FILTER_ALIASES`. -/
def SUBSCRIPTION_STATUS_FILTER_ALIASES : List (String × List String) :=
  [("unconfirmed", ["unconfirmable"]), ("unavailable", ["unconfirmable"]),
    ("waiting", ["pending_refresh"]), ("waiting_refresh", ["pending_refresh"]),
    ("stale", ["pending_refresh"])]

/- `_split_idea_submit_filter_values` and its siblings. -/
def split_idea_submit_filter_values (value : Raw) : Finset String :=
  expand IDEA_SUBMIT_STATE_FILTER_ALIASES (split_values env value)

def split_phone_binding_state_filter_values (value : Raw) : Finset String :=
  expand PHONE_BINDING_STATE_FILTER_ALIASES (split_values env value)

def split_payment_link_platform_filter_values (value : Raw) : Finset String :=
  expand PAYMENT_LINK_PLATFORM_FILTER_ALIASES (split_values env value)

def split_subscription_filter_values (value : Raw) : Finset String :=
  expand SUBSCRIPTION_STATUS_FILTER_ALIASES (split_values env value)

/- Both upload states together are no filter. -/
def uploadStates (values : Finset String) : Finset String :=
  let normalized := (expand INTEGRATION_UPLOAD_STATE_FILTER_ALIASES values).erase ""
  if normalized = {"uploaded", "not_uploaded"} then ∅ else normalized

/- `_split_integration_upload_state_filter_values`. -/
def split_integration_upload_state_filter_values (value : Raw) : Finset String :=
  uploadStates (split_values env value)

/- `_split_payment_method_state_filter_values`. -/
def split_payment_method_state_filter_values (value : Raw) : Finset String :=
  let states := split_values env value
  if "no_methods" ∈ states ∨ "unavailable" ∈ states then states ∪ {"no_methods", "unavailable"}
  else states

----
-- Both Filters
----

/- The list state of an account, with its status; the columns equal what the classifiers give. -/
structure Row where
  id : Nat
  status : String := ""
  manually_used : Bool := false
  auth_type : String := ""
  phone_binding_state : String := ""
  payment_link_platform : String := ""
  payment_link_generated : Bool := false
  subscription_type : String := "unknown"
  account_validity : String := ""
  sub2api_state : String := ""
  oaipay_state : String := ""
  idea_submit_state : String := ""
  submit_state : String := ""
  has_submitted : Bool := false
  revival_state : String := ""
deriving DecidableEq

structure ListFilter where
  manually_used : Option Bool := Option.none
  auth_type : Raw := .none
  phone_binding_state : Raw := .none
  payment_link_platform : Raw := .none
  payment_link_generated : Option Bool := Option.none
  subscription_type : Raw := .none
  account_validity_filter : Raw := .none
  sub2api_state : Raw := .none
  oaipay_state : Raw := .none
  idea_submit_state : Raw := .none
  submit_state : Raw := .none
  has_submitted : Option Bool := Option.none
  revival_state : Raw := .none

/- `column IN values`, where there are values. -/
def whereIn (values : Finset String) (column : String) : Bool := values = ∅ || column ∈ values

/- `column = value`, where there is one. -/
def whereIs (value : Option Bool) (column : Bool) : Bool := value.all (· == column)

/- `SUBSCRIPTION_STATUS_FILTER_VALUES`. -/
def SUBSCRIPTION_STATUS_FILTER_VALUES : Finset String := {"unconfirmable", "pending_refresh"}

/- `_subscription_filter_predicate(subscription_type)`. -/
def subscription_filter_predicate (values : Finset String) (row : Row) : Bool :=
  values = ∅ || row.subscription_type ∈ values \ SUBSCRIPTION_STATUS_FILTER_VALUES ||
    ("unconfirmable" ∈ values && row.subscription_type = "unknown" &&
      row.account_validity = "invalid") ||
    ("pending_refresh" ∈ values && row.subscription_type = "unknown" &&
      row.account_validity ≠ "invalid")

/- The conditions of `apply_account_list_state_filters`. -/
def apply_account_list_state_filters (f : ListFilter) (row : Row) : Bool :=
  whereIs f.manually_used row.manually_used &&
    whereIn (split_values env f.auth_type) row.auth_type &&
    whereIn (split_phone_binding_state_filter_values env f.phone_binding_state)
      row.phone_binding_state &&
    whereIn (split_payment_link_platform_filter_values env f.payment_link_platform)
      row.payment_link_platform && whereIs f.payment_link_generated row.payment_link_generated &&
    subscription_filter_predicate (split_subscription_filter_values env f.subscription_type) row &&
    whereIn (split_values env f.account_validity_filter) row.account_validity &&
    whereIn (split_integration_upload_state_filter_values env f.sub2api_state) row.sub2api_state &&
    whereIn (split_integration_upload_state_filter_values env f.oaipay_state) row.oaipay_state &&
    whereIn (split_idea_submit_filter_values env f.idea_submit_state) row.idea_submit_state &&
    whereIn (split_idea_submit_filter_values env f.submit_state) row.submit_state &&
    whereIs f.has_submitted row.has_submitted &&
    whereIn (split_values env f.revival_state) row.revival_state

/- `account_subscription_status(account)`. -/
def account_subscription_status (row : Row) : String :=
  let plan := row.subscription_type
  if plan = "free" then "free"
  else if isPaidSubscriptionPlan env.toProbeEnv plan then "plus"
  else if plan = "unknown" ∧
      (env.lower (strip row.status) = "invalid" ∨ row.account_validity = "invalid") then
    "unconfirmable"
  else "pending_refresh"

/- The test of a row in memory: the exact plan, or its status where a status is asked for. -/
def subscriptionKept (subscription_types : Finset String) (row : Row) : Bool :=
  let exact_match :=
    decide (row.subscription_type ∈ subscription_types \ SUBSCRIPTION_STATUS_FILTER_VALUES)
  let status_match := decide (subscription_types ∩ SUBSCRIPTION_STATUS_FILTER_VALUES ≠ ∅) &&
      decide (account_subscription_status env row ∈ subscription_types)
  subscription_types = ∅ || exact_match || status_match

/- A classifier's value is among the wanted ones, if any. -/
def kept (values : Finset String) (value : String) : Bool := !(values ≠ ∅ && value ∉ values)

def flagKept : Option Bool → Bool → Bool
| Option.none, _ => true
| some wanted, value => !(value != wanted)

/- The loop body of `filter_account_rows` keeps the row. -/
def rowKept (f : ListFilter) (row : Row) : Bool := flagKept f.manually_used row.manually_used &&
    kept (split_values env f.auth_type) row.auth_type &&
    kept (split_phone_binding_state_filter_values env f.phone_binding_state)
      row.phone_binding_state &&
    kept (split_payment_link_platform_filter_values env f.payment_link_platform)
      row.payment_link_platform &&
    flagKept f.payment_link_generated row.payment_link_generated &&
    subscriptionKept env (split_subscription_filter_values env f.subscription_type) row &&
    kept (split_values env f.account_validity_filter) row.account_validity &&
    kept (split_integration_upload_state_filter_values env f.sub2api_state) row.sub2api_state &&
    kept (split_integration_upload_state_filter_values env f.oaipay_state) row.oaipay_state &&
    kept (split_idea_submit_filter_values env f.idea_submit_state) row.idea_submit_state &&
    kept (split_idea_submit_filter_values env f.submit_state) row.submit_state &&
    flagKept f.has_submitted row.has_submitted &&
    kept (split_values env f.revival_state) row.revival_state

/- `filter_account_rows(rows, ...)`. -/
def filter_account_rows (f : ListFilter) (rows : List Row) : List Row := rows.filter (rowKept env f)

end AccountFilters

----
-- Agreement
----

namespace AccountFilters

variable {env : FilterEnv}

/- Where the two subscription tests differ: a paid plan of another name beside `plus` and a status;
   an invalid account of unknown plan whose validity is not invalid, if just one of the statuses is
   asked for; a plan of no bucket beside `pending_refresh`. -/
def SubscriptionsDiffer (env : FilterEnv) (values : Finset String) (row : Row) : Prop :=
  row.subscription_type ∉ values \ SUBSCRIPTION_STATUS_FILTER_VALUES ∧
    ((isPaidSubscriptionPlan env.toProbeEnv row.subscription_type ∧
        row.subscription_type ≠ "free" ∧ row.subscription_type ≠ "unknown" ∧ "plus" ∈ values ∧
        ("unconfirmable" ∈ values ∨ "pending_refresh" ∈ values)) ∨
      (row.subscription_type = "unknown" ∧ row.account_validity ≠ "invalid" ∧
        env.lower (strip row.status) = "invalid" ∧
        ¬ ("unconfirmable" ∈ values ↔ "pending_refresh" ∈ values)) ∨
      (isPaidSubscriptionPlan env.toProbeEnv row.subscription_type = false ∧
        row.subscription_type ≠ "free" ∧ row.subscription_type ≠ "unknown" ∧
        "pending_refresh" ∈ values))

theorem kept_eq_whereIn (column : String) : kept values column = whereIn values column := by
  unfold kept whereIn
  by_cases hNone : values = ∅
  · simp [hNone]
  · simp [hNone]

theorem flagKept_eq_whereIs (wanted : Option Bool) (column : Bool) :
    flagKept wanted column = whereIs wanted column := by
  cases wanted with
  | none => rfl
  | some value => cases value <;> cases column <;> rfl

theorem statuses_asked_iff : values ∩ SUBSCRIPTION_STATUS_FILTER_VALUES ≠ ∅ ↔
    "unconfirmable" ∈ values ∨ "pending_refresh" ∈ values := by
  rw [← Finset.nonempty_iff_ne_empty]
  unfold SUBSCRIPTION_STATUS_FILTER_VALUES
  constructor
  · rintro ⟨value, hMem⟩
    rcases Finset.mem_inter.mp hMem with ⟨hIn, hIs⟩
    rcases Finset.mem_insert.mp hIs with rfl | hIs
    · exact .inl hIn
    · exact .inr (Finset.mem_singleton.mp hIs ▸ hIn)
  · rintro (hIn | hIn)
    · exact ⟨_, Finset.mem_inter.mpr ⟨hIn, by simp⟩⟩
    · exact ⟨_, Finset.mem_inter.mpr ⟨hIn, by simp⟩⟩

theorem predicate_of_other (hNone : values ≠ ∅)
    (hOther : row.subscription_type ∉ values \ SUBSCRIPTION_STATUS_FILTER_VALUES) :
    subscription_filter_predicate values row ↔ row.subscription_type = "unknown" ∧
        (("unconfirmable" ∈ values ∧ row.account_validity = "invalid") ∨
          ("pending_refresh" ∈ values ∧ row.account_validity ≠ "invalid")) := by
  unfold subscription_filter_predicate
  simp only [hNone, hOther, decide_false, Bool.false_or, Bool.or_eq_true, Bool.and_eq_true,
    decide_eq_true_eq]
  tauto

theorem keeps_of_other (hNone : values ≠ ∅)
    (hOther : row.subscription_type ∉ values \ SUBSCRIPTION_STATUS_FILTER_VALUES) :
    subscriptionKept env values row ↔
      ("unconfirmable" ∈ values ∨ "pending_refresh" ∈ values) ∧
        account_subscription_status env row ∈ values := by
  unfold subscriptionKept
  simp only [hNone, hOther, decide_false, Bool.false_or, Bool.and_eq_true, decide_eq_true_eq,
    statuses_asked_iff]

/- The two subscription tests differ on just these rows; the plan `unknown` is not paid. -/
theorem subscriptions_agree_iff
    (hUnknown : isPaidSubscriptionPlan env.toProbeEnv "unknown" = false) :
    subscription_filter_predicate values row = subscriptionKept env values row ↔
      ¬ SubscriptionsDiffer env values row := by
  by_cases hNone : values = ∅
  · subst hNone
    exact iff_of_true rfl (fun h => by simp [SubscriptionsDiffer] at h)
  by_cases hOther : row.subscription_type ∉ values \ SUBSCRIPTION_STATUS_FILTER_VALUES
  · rw [Bool.eq_iff_iff, predicate_of_other hNone hOther, keeps_of_other hNone hOther]
    unfold SubscriptionsDiffer
    by_cases hFree : row.subscription_type = "free"
    · have hStatus : account_subscription_status env row = "free" := if_pos hFree
      have hNotIn : "free" ∉ values := by
        simpa [hFree, SUBSCRIPTION_STATUS_FILTER_VALUES] using hOther
      simp [hStatus, hFree, hNotIn]
    by_cases hPlan : row.subscription_type = "unknown"
    · by_cases hInvalid : env.lower (strip row.status) = "invalid" ∨
          row.account_validity = "invalid"
      · have hStatus : account_subscription_status env row = "unconfirmable" := by
          simp [account_subscription_status, hPlan, hUnknown, hInvalid]
        have hNotIn := hPlan ▸ hOther
        simp only [hStatus, hPlan, hUnknown, hNotIn]
        clear hStatus hUnknown hOther
        grind
      · have hStatus : account_subscription_status env row = "pending_refresh" := by
          simp [account_subscription_status, hPlan, hUnknown, hInvalid]
        have hNotIn := hPlan ▸ hOther
        simp only [hStatus, hPlan, hUnknown, hNotIn]
        clear hStatus hUnknown hOther
        grind
    cases hPaid : isPaidSubscriptionPlan env.toProbeEnv row.subscription_type with
    | true =>
      have hStatus : account_subscription_status env row = "plus" := by
        simp [account_subscription_status, hFree, hPaid]
      simp only [hStatus, hPlan, hOther]
      clear hStatus hUnknown
      grind
    | false =>
      have hStatus : account_subscription_status env row = "pending_refresh" := by
        simp [account_subscription_status, hFree, hPaid, hPlan]
      simp only [hStatus, hPlan, hOther]
      clear hStatus hUnknown
      grind
  · have hExact := not_not.mp hOther
    refine iff_of_true ?_ (fun h => h.1 hExact)
    unfold subscription_filter_predicate subscriptionKept
    simp [hExact]

def otherFilters (env : FilterEnv) (f : ListFilter) (row : Row) : Bool :=
  apply_account_list_state_filters env { f with subscription_type := .none } row

theorem split_none (env : FilterEnv) : split_subscription_filter_values env .none = ∅ := rfl

theorem query_eq_others (f : ListFilter) (row : Row) :
    apply_account_list_state_filters env f row =
      (otherFilters env f row && subscription_filter_predicate
        (split_subscription_filter_values env f.subscription_type) row) := by
  have hAll : subscription_filter_predicate ∅ row := rfl
  unfold otherFilters apply_account_list_state_filters
  rw [split_none, hAll]
  grind

theorem rowKept_eq_others (f : ListFilter) (row : Row) :
    rowKept env f row = (otherFilters env f row && subscriptionKept env
        (split_subscription_filter_values env f.subscription_type) row) := by
  have hAll : subscription_filter_predicate ∅ row := rfl
  unfold otherFilters apply_account_list_state_filters rowKept
  simp only [kept_eq_whereIn, flagKept_eq_whereIs]
  rw [split_none, hAll]
  grind

/- `str.lower()` changes no ASCII text without capitals. -/
def FilterEnv.KeepsSmall (env : FilterEnv) : Prop :=
  ∀ s : String, s.toList.all (fun c => decide (c.toNat < 128) && !c.isUpper) →
    env.lower s = s

theorem unknown_unpaid (hSmall : env.KeepsSmall) :
    isPaidSubscriptionPlan env.toProbeEnv "unknown" = false := by
  have hStrip : strip "unknown" = "unknown" := by decide +kernel
  have hLower : env.lower (strip "unknown") = "unknown" := by
    rw [hStrip]
    exact hSmall "unknown" (by decide +kernel)
  unfold isPaidSubscriptionPlan normalizeSubscriptionPlan
  rw [hLower]
  decide +kernel

/- The list query and the filter in memory keep the same accounts of a list just when no account
   that passes the other filters is one on which the subscription tests differ. -/
theorem filters_agree_iff (hSmall : env.KeepsSmall) (f : ListFilter) (rows : List Row) :
    rows.filter (apply_account_list_state_filters env f) = filter_account_rows env f rows ↔
      ∀ row ∈ rows, otherFilters env f row → ¬ SubscriptionsDiffer env
        (split_subscription_filter_values env f.subscription_type) row := by
  have hEach (row : Row) : (apply_account_list_state_filters env f row ↔
        rowKept env f row) ↔
      (otherFilters env f row → ¬ SubscriptionsDiffer env
        (split_subscription_filter_values env f.subscription_type) row) := by
    rw [query_eq_others, rowKept_eq_others, ← subscriptions_agree_iff (unknown_unpaid hSmall)]
    grind
  unfold filter_account_rows
  constructor
  · intro hSame row hMem
    refine (hEach row).mp ?_
    have hBoth : row ∈ rows.filter (apply_account_list_state_filters env f) ↔
        row ∈ rows.filter (rowKept env f) := by
      rw [hSame]
    rw [mem_filter, mem_filter] at hBoth
    exact ⟨fun h => (hBoth.mp ⟨hMem, h⟩).2, fun h => (hBoth.mpr ⟨hMem, h⟩).2⟩
  · intro hNone
    refine filter_congr (fun row hMem => ?_)
    exact Bool.eq_iff_iff.mpr ((hEach row).mpr (hNone row hMem))

def asciiEnv : FilterEnv where
  transportError _ _ := false
  lower s := String.ofList (s.toList.map Char.toLower)
  upper s := String.ofList (s.toList.map Char.toUpper)
  shown _ := ""
  int _ := Option.none
  loads _ := Option.none

theorem asciiEnv_keepsSmall : asciiEnv.KeepsSmall := by
  intro s hSmall
  have hEach : ∀ c ∈ s.toList, c.toLower = id c := by
    intro c hMem
    have hNot := (Bool.and_eq_true_iff.mp (all_eq_true.mp hSmall c hMem)).2
    rw [Bool.not_eq_true'] at hNot
    exact dif_neg (of_decide_eq_false hNot)
  change String.ofList (s.toList.map Char.toLower) = s
  rw [map_congr_left hEach, map_id, String.ofList_toList]

/- A filter for Plus and unconfirmable accounts. -/
def plusFilter : ListFilter := { subscription_type := .text "plus,unconfirmed" }

def plusRows : List Row := [{ id := 1, subscription_type := "plus" }]

theorem plus_rows_agree :
    plusRows.filter (apply_account_list_state_filters asciiEnv plusFilter) =
      filter_account_rows asciiEnv plusFilter plusRows ↔
    ∀ row ∈ plusRows, otherFilters asciiEnv plusFilter row → ¬ SubscriptionsDiffer asciiEnv
        (split_subscription_filter_values asciiEnv plusFilter.subscription_type) row :=
  filters_agree_iff asciiEnv_keepsSmall plusFilter plusRows

/- A team account is no Plus account for the query, but one for the filter in memory. -/
theorem team_row_kept_in_memory :
    ¬ ∀ (f : ListFilter) (rows : List Row),
      rows.filter (apply_account_list_state_filters asciiEnv f) =
        filter_account_rows asciiEnv f rows := by
  intro hAll
  exact absurd (hAll plusFilter [{ id := 1, subscription_type := "team" }]) (by decide +kernel)

end AccountFilters
