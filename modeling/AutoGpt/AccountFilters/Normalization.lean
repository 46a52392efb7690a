import AutoGpt.AccountFilters.Filters
import AutoGpt.Library.PySplit
import AutoGpt.PaymentLinks.Texts
import Mathlib

/-
  The canonical form of an account filter: what
  `normalize_account_filter` makes of the fields of a request,
  and when its own result, read as a request, has the same form
  and selects the same accounts.

  Main theorems: `AccountFilters.normalized_alike_iff`
-/

open PyText (isSpace squeeze strip strip_of_plain strip_strip)
open List

----
-- E-Mails And Flags
----

namespace AccountFilters

variable (env : FilterEnv)

/- The fields of a request; lists stand for tuples and sets. -/
abbrev Source := List (String × Raw)

/- `_filter_source_value(source, field_name)`. -/
def field (source : Source) (name : String) : Raw := (source.lookup name).getD .none

def firstSeen (values : List String) : List String := values.reverse.dedup.reverse

/- The items of `normalize_exact_email_filter_values`. -/
mutual
def emailsOf : Raw → List String
| .items values => firstSeen (emailsOfAll values)
| value => if lower_text env value = "" then [] else [lower_text env value]
def emailsOfAll : List Raw → List String
| [] => []
| value :: values => emailsOf value ++ emailsOfAll values
end

def lines (s : String) : List String := (PySplit.splitlines s.toList).map String.ofList

/- `normalize_exact_email_filter_values(value)`. -/
def normalize_exact_email_filter_values : Raw → List String
| .none => []
| .text s => firstSeen (emailsOfAll env ((lines s).map .text))
| .items values => firstSeen (emailsOfAll env values)
| value => firstSeen (emailsOf env value)

/- `_multiline_email_filter_values(value)`, for a text. -/
def multiline_email_filter_values (s : String) : List String :=
  let nonempty_lines := (lines s).filter (fun line => strip line ≠ "")
  if nonempty_lines.length < 2 then []
  else normalize_exact_email_filter_values env (.items (nonempty_lines.map .text))

/- `normalize_optional_bool(value)`. -/
def normalize_optional_bool : Raw → Option Bool
| .none => Option.none
| .text "" => Option.none
| .bool b => some b
| value =>
  let normalized := lower_text env value
  if normalized ∈ ["1", "true", "yes", "on", "used", "generated", "succeeded"] then some true
  else if normalized ∈ ["0", "false", "no", "off", "unused", "not_generated", "never"] then
    some false
  else Option.none

/- `text.replace("-", "_")`. -/
def underscored (cs : List Char) : List Char := cs.map (fun c => if c = '-' then '_' else c)

/- `normalize_secondary_scope(value)`. -/
def normalize_secondary_scope (value : Raw) : String :=
  let normalized := String.ofList (underscored (lower_text env value).toList)
  if normalized ∈ ["unassigned", "unfixed", "available"] then "unassigned"
  else if normalized ∈ ["fixed", "group", "fixed_group"] then "fixed"
  else ""

/- `int(fixed_group_revision)`, where one is given. -/
def fixed_group_revision : Raw → Option (Option Int)
| .none => some Option.none
| value =>
  match env.int value with
  | Option.none => some Option.none
  | some result => result.map some

/- `",".join(sorted(values))`. -/
def joined (values : Finset String) : String :=
  String.ofList ([','].intercalate ((values.sort (· ≤ ·)).map String.toList))

/- `_normalize_filter_values(value)`, by the way it splits. -/
def normalize_filter_values (split : Raw → Finset String) (value : Raw) : String :=
  joined (split value)

----
-- Payment Methods
----

/- `mapping.get(name)`, and `a or b`. -/
def Raw.get : Raw → String → Raw
| .fields entries, name => (entries.lookup name).getD .none
| _, _ => .none

def Raw.or (a b : Raw) : Raw := if a.truthy then a else b

/- A character of `[a-z0-9_]`. -/
def isMethodChar (c : Char) : Bool := c.isLower || c.isDigit || c = '_'

/- The text of a method in `[a-z0-9_]`. -/
def squeezed (value : Raw) : List Char :=
  let value : Raw := match value with
    | .fields _ => ((value.get "id").or (value.get "type")).or (value.get "value")
    | value => value
  squeeze (fun c => !isMethodChar c) false
    (squeeze isSpace false (underscored (lower_text env value).toList))

/- The name of a method before it is cut. -/
def methodName (value : Raw) : List Char :=
  ((squeezed env value).dropWhile (· == '_')).rdropWhile (· == '_')

/- `normalize_payment_method_type(value)`. -/
def normalize_payment_method_type (value : Raw) : String :=
  String.ofList ((methodName env value).take 80)

/- `_normalize_payment_method_country(value)`. -/
def normalize_payment_method_country (value : Raw) : String :=
  let country := env.upper (safe_str env value)
  if country.toList.length = 2 ∧ country.toList.all Char.isAlpha then country else ""

def selectionItems (value : Raw) : List Raw :=
  let parsed : Raw := match value with
    | .text s => if strip s = "" then .none else (env.loads (strip s)).getD .none
    | value => value
  let listed : Raw := match parsed with
    | .fields _ =>
      ((parsed.get "payment_method_selection").or (parsed.get "selection")).or (.items [parsed])
    | value => value
  match listed with
  | .items values => values
  | _ => []

/- The raw country and the raw methods of an item. -/
def countryAndMethods (raw_item : Raw) : Option (Raw × Raw) :=
  match raw_item with
  | .fields _ =>
    let country_value :=
      ((raw_item.get "country").or (raw_item.get "country_code")).or (raw_item.get "value")
    let raw_methods := match raw_item.get "methods" with
      | .none => raw_item.get "method_types"
      | methods => methods
    match raw_methods, raw_item.get "method" with
    | .none, .none => some (country_value, .none)
    | .none, method => some (country_value, .items [method])
    | methods, _ => some (country_value, methods)
  | .items (country_value :: raw_methods) => some (country_value, .items raw_methods)
  | _ => Option.none

def methodsIn : Raw → List Raw
| .text s => (s.toList.splitOn ',').map (fun part => .text (String.ofList part))
| .items values => values
| value => if value.truthy then [value] else []

/- The methods asked for, by the valid countries. -/
def requestedMethods (value : Raw) : List (String × List Raw) :=
  (selectionItems env value).filterMap fun raw_item =>
    match countryAndMethods raw_item with
    | Option.none => Option.none
    | some (country_value, raw_methods) =>
      let country := normalize_payment_method_country env country_value
      if country = "" then Option.none else some (country, methodsIn raw_methods)

/- A selection: the countries in order, with their methods. -/
abbrev Selection := List (String × Finset String)

def methodTypes (raw_methods : List Raw) : Finset String :=
  (raw_methods.map (normalize_payment_method_type env)).toFinset.erase ""

def methodsFor (requested : List (String × List Raw)) (country : String) : List Raw :=
  (requested.filter (fun item => item.1 = country)).flatMap (·.2)

/- `normalize_payment_method_selection(value)`. -/
def normalize_payment_method_selection (value : Raw) : Selection :=
  let requested := requestedMethods env value
  (firstSeen (requested.map (·.1))).map fun country =>
    (country, methodTypes env (methodsFor requested country))

/- The dictionaries of a selection, their methods sorted. -/
def Selection.toRaw (selection : Selection) : Raw := .items (selection.map fun item => .fields
    [("country", .text item.1), ("methods", .items ((item.2.sort (· ≤ ·)).map .text))])

----
-- The Canonical Filter
----

/- What the query reads besides the list state. -/
structure BaseFilter where
  email : String
  emails : List String
  status : String
  primary_preset_id : String
  secondary_scope : String
  fixed_group_id : String
  fixed_group_revision : Option Int

/- The result of `normalize_account_filter`. -/
structure AccountFilter extends BaseFilter where
  manually_used : Option Bool
  auth_type : String
  phone_binding_state : String
  payment_link_platform : String
  payment_link_generated : Option Bool
  subscription_type : String
  account_validity : String
  sub2api_state : String
  oaipay_state : String
  idea_submit_state : String
  submit_state : String
  zero_amount_eligibility_state : String
  payment_method_selection : Selection
  gcash_payment_method_state : String
  checkout_link_type : String
  has_submitted : Option Bool

/- The address and the addresses of a request. -/
def emailAndEmails (source : Source) : String × List String :=
  let email := safe_str env (field source "email")
  let emails := normalize_exact_email_filter_values env (field source "emails")
  if emails ≠ [] then ("", emails)
  else
    let emails := multiline_email_filter_values env email
    (if emails ≠ [] then "" else email, emails)

def canonical (source : Source) (revision : Option Int) : AccountFilter :=
  let plain name := normalize_filter_values (split_values env) (field source name)
  let flag name := normalize_optional_bool env (field source name)
  let upload name := normalize_filter_values
    (split_integration_upload_state_filter_values env) (field source name)
  let idea name := normalize_filter_values (split_idea_submit_filter_values env) (field source name)
  let selection := normalize_payment_method_selection env (field source "payment_method_selection")
  { email := (emailAndEmails env source).1
    emails := (emailAndEmails env source).2
    status := plain "status"
    manually_used := flag "manually_used"
    auth_type := plain "auth_type"
    phone_binding_state := normalize_filter_values
      (split_phone_binding_state_filter_values env) (field source "phone_binding_state")
    payment_link_platform := normalize_filter_values
      (split_payment_link_platform_filter_values env) (field source "payment_link_platform")
    payment_link_generated := flag "payment_link_generated"
    subscription_type := plain "subscription_type"
    account_validity := plain "account_validity"
    sub2api_state := upload "sub2api_state"
    oaipay_state := upload "oaipay_state"
    idea_submit_state := idea "idea_submit_state"
    submit_state := idea "submit_state"
    zero_amount_eligibility_state := plain "zero_amount_eligibility_state"
    payment_method_selection := selection
    gcash_payment_method_state := if selection ≠ [] then "" else plain "gcash_payment_method_state"
    checkout_link_type := plain "checkout_link_type"
    has_submitted := flag "has_submitted"
    primary_preset_id := safe_str env (field source "primary_preset_id")
    secondary_scope := normalize_secondary_scope env (field source "secondary_scope")
    fixed_group_id := safe_str env (field source "fixed_group_id")
    fixed_group_revision := revision }

/- `normalize_account_filter(source)`; nothing, if `int()` raises an error that is not caught. -/
def normalize_account_filter (source : Source) : Option AccountFilter :=
  (fixed_group_revision env (field source "fixed_group_revision")).map (canonical env source)

def flagRaw : Option Bool → Raw
| Option.none => .none
| some value => .bool value

/- A canonical filter as the fields of a request. -/
def AccountFilter.toRaw (n : AccountFilter) : Source :=
  [("email", .text n.email), ("emails", .items (n.emails.map .text)), ("status", .text n.status),
    ("manually_used", flagRaw n.manually_used), ("auth_type", .text n.auth_type),
    ("phone_binding_state", .text n.phone_binding_state),
    ("payment_link_platform", .text n.payment_link_platform),
    ("payment_link_generated", flagRaw n.payment_link_generated),
    ("subscription_type", .text n.subscription_type),
    ("account_validity", .text n.account_validity), ("sub2api_state", .text n.sub2api_state),
    ("oaipay_state", .text n.oaipay_state), ("idea_submit_state", .text n.idea_submit_state),
    ("submit_state", .text n.submit_state),
    ("zero_amount_eligibility_state", .text n.zero_amount_eligibility_state),
    ("payment_method_selection", Selection.toRaw n.payment_method_selection),
    ("gcash_payment_method_state", .text n.gcash_payment_method_state),
    ("checkout_link_type", .text n.checkout_link_type),
    ("has_submitted", flagRaw n.has_submitted), ("primary_preset_id", .text n.primary_preset_id),
    ("secondary_scope", .text n.secondary_scope), ("fixed_group_id", .text n.fixed_group_id),
    ("fixed_group_revision", (n.fixed_group_revision.map .int).getD .none)]

----
-- The Filtered Query
----

/- A row with the columns that only the query reads. -/
structure StateRow extends Row where
  zero_amount_eligibility_display_state : String := ""
  gcash_payment_method_state : String := ""
  checkout_link_type : String := ""
  payment_methods : List (String × String) := []

/- `_payment_method_selection_predicate(selection)`. -/
def payment_method_selection_predicate (selection : Raw) (row : StateRow) : Bool :=
  let normalized := normalize_payment_method_selection env selection
  normalized.isEmpty || normalized.any fun item =>
    row.payment_methods.any fun entry => entry.1 = item.1 && whereIn item.2 entry.2

/- The values that `account_filtered_query` passes on. -/
def AccountFilter.toListFilter (n : AccountFilter) (revival_state : String) : ListFilter where
  manually_used := n.manually_used
  auth_type := .text n.auth_type
  phone_binding_state := .text n.phone_binding_state
  payment_link_platform := .text n.payment_link_platform
  payment_link_generated := n.payment_link_generated
  subscription_type := .text n.subscription_type
  account_validity_filter := .text n.account_validity
  sub2api_state := .text n.sub2api_state
  oaipay_state := .text n.oaipay_state
  idea_submit_state := .text n.idea_submit_state
  submit_state := .text n.submit_state
  has_submitted := n.has_submitted
  revival_state := .text revival_state

/- The conditions of a query; `base` stands for those on address, platform and fixed groups. -/
def selects (base : BaseFilter → StateRow → Bool) (n : AccountFilter) (revival_state : String)
    (row : StateRow) : Bool :=
  base n.toBaseFilter row && whereIn (split_values env (.text n.status)) row.status &&
    apply_account_list_state_filters env (n.toListFilter revival_state) row.toRow &&
    whereIn (split_values env (.text n.zero_amount_eligibility_state))
      row.zero_amount_eligibility_display_state &&
    payment_method_selection_predicate env (Selection.toRaw n.payment_method_selection) row &&
    whereIn (split_payment_method_state_filter_values env (.text n.gcash_payment_method_state))
      row.gcash_payment_method_state &&
    whereIn (split_values env (.text n.checkout_link_type)) row.checkout_link_type

/- The accounts of `account_filtered_query`, each with its list state. -/
def account_filtered_rows (base : BaseFilter → StateRow → Bool) (source : Source)
    (rows : List StateRow) : Option (List StateRow) :=
  (normalize_account_filter env source).map fun normalized =>
    rows.filter (selects env base normalized
      (normalize_filter_values (split_values env) (field source "revival_state")))

----
-- Texts That Stay
----

/- What the filters rely on of `str.lower()`, `str.upper()` and `int()`. -/
structure FilterEnv.Lawful (env : FilterEnv) : Prop where
  small : env.KeepsSmall
  lower_lower : ∀ s, env.lower (env.lower s) = env.lower s
  lower_strip : ∀ s, strip (env.lower (strip s)) = env.lower (strip s)
  lower_given : ∀ s, s ≠ "" → env.lower s ≠ ""
  lower_comma : ∀ s, ',' ∉ s.toList → ',' ∉ (env.lower s).toList
  upper_upper : ∀ s, env.upper (env.upper s) = env.upper s
  int_int : ∀ n, env.int (.int n) = some (some n)

structure Settled (env : FilterEnv) (s : String) : Prop where
  given : s ≠ ""
  stripped : strip s = s
  lowered : env.lower s = s

structure Plain (env : FilterEnv) (s : String) : Prop extends Settled env s where
  no_comma : ',' ∉ s.toList

variable {env : FilterEnv}

theorem safe_str_text (s : String) : safe_str env (.text s) = strip s := by
  by_cases hNone : s = ""
  · subst hNone
    rfl
  · simp [safe_str, Raw.truthy, Raw.str, hNone]

theorem lower_text_of_settled (hSettled : Settled env s) : lower_text env (.text s) = s := by
  unfold lower_text
  rw [safe_str_text, hSettled.stripped, hSettled.lowered]

theorem strip_safe_str (value : Raw) : strip (safe_str env value) = safe_str env value := by
  unfold safe_str
  split
  · exact strip_strip _
  · rfl

theorem settled_lower_text (hEnv : env.Lawful) (hGiven : lower_text env value ≠ "") :
    Settled env (lower_text env value) := by
  refine ⟨hGiven, ?_, hEnv.lower_lower _⟩
  unfold lower_text
  rw [← strip_safe_str]
  exact hEnv.lower_strip _

theorem not_mem_of_splitOn {cs part : List Char} (hPart : part ∈ cs.splitOn c) : c ∉ part := by
  induction cs generalizing part with
  | nil =>
    rw [splitOn_nil, mem_singleton] at hPart
    simp [hPart]
  | cons d ds ih =>
    rw [splitOn_cons_eq_if_modifyHead] at hPart
    split at hPart
    · rcases mem_cons.mp hPart with rfl | hRest
      · exact not_mem_nil
      · exact ih hRest
    next hOther =>
      cases hSplit : ds.splitOn c with
      | nil => exact absurd hSplit (splitOn_ne_nil c ds)
      | cons first rest =>
        rw [hSplit, modifyHead_cons] at hPart
        rw [hSplit] at ih
        rcases mem_cons.mp hPart with rfl | hRest
        · have hFirst := ih mem_cons_self
          grind
        · exact ih (mem_cons_of_mem _ hRest)

theorem mem_of_mem_strip {c : Char} (hMem : c ∈ (strip s).toList) : c ∈ s.toList := by
  unfold strip at hMem
  rw [String.toList_ofList] at hMem
  exact (dropWhile_sublist _).subset (( rdropWhile_prefix _ _).subset hMem)

theorem plain_of_piece (hEnv : env.Lawful) {item : String} (hMem : item ∈ pieces env s) :
    Plain env item := by
  rcases mem_map.mp hMem with ⟨part, hPart, rfl⟩
  rcases mem_filter.mp hPart with ⟨hSplit, hGiven⟩
  rcases mem_map.mp hSplit with ⟨cs, hChars, rfl⟩
  refine ⟨⟨hEnv.lower_given _ (of_decide_eq_true hGiven), hEnv.lower_strip _,
    hEnv.lower_lower _⟩, hEnv.lower_comma _ (fun hComma => ?_)⟩
  have hIn := mem_of_mem_strip hComma
  rw [String.toList_ofList] at hIn
  exact not_mem_of_splitOn hChars hIn

mutual
theorem plain_of_valuesOf (hEnv : env.Lawful) {item : String} :
    ∀ value : Raw, item ∈ valuesOf env value → Plain env item
| .none, hMem => absurd hMem not_mem_nil
| .items values, hMem => plain_of_valuesOfAll hEnv values hMem
| .bool _, hMem | .int _, hMem | .text _, hMem | .fields _, hMem | .other _ _, hMem =>
  plain_of_piece hEnv hMem
theorem plain_of_valuesOfAll (hEnv : env.Lawful) {item : String} :
    ∀ values : List Raw, item ∈ valuesOfAll env values → Plain env item
| [], hMem => absurd hMem not_mem_nil
| value :: values, hMem => (mem_append.mp hMem).elim
    (plain_of_valuesOf hEnv value) (plain_of_valuesOfAll hEnv values)
end

theorem plain_of_split (hEnv : env.Lawful) {item : String}
    (hMem : item ∈ split_values env value) : Plain env item :=
  plain_of_valuesOf hEnv value (mem_toFinset.mp hMem)

theorem split_joined (hPlain : ∀ item ∈ values, Plain env item) :
    split_values env (.text (joined values)) = values := by
  have hOf : ((values.sort (· ≤ ·)).map String.toList).map String.ofList = values.sort (· ≤ ·) := by
    simp [Function.comp_def]
  have hEach : ∀ item ∈ values.sort (· ≤ ·), Plain env item := by
    intro item hMem
    exact hPlain item ((Finset.mem_sort _).mp hMem)
  have hPieces : pieces env (joined values) = values.sort (· ≤ ·) := by
    unfold pieces joined
    rw [String.toList_ofList]
    by_cases hNone : values.sort (· ≤ ·) = []
    · rw [hNone]
      rfl
    · rw [splitOn_intercalate, hOf, filter_eq_self.mpr, map_congr_left, map_id]
      · intro item hMem
        rw [(hEach item hMem).stripped, (hEach item hMem).lowered]
        rfl
      · intro item hMem
        rw [(hEach item hMem).stripped]
        exact decide_eq_true (hEach item hMem).given
      · intro cs hMem
        rcases mem_map.mp hMem with ⟨item, hItem, rfl⟩
        exact (hEach item hItem).no_comma
      · simpa using hNone
  have hText : valuesOf env (.text (joined values)) = pieces env (joined values) := by
    rw [valuesOf, Raw.str]
    all_goals simp
  unfold split_values
  rw [hText, hPieces, Finset.sort_toFinset]

----
-- Aliases
----

def isWord (s : String) : Bool := s ≠ "" && s.toList.all fun c =>
    decide (c.toNat < 128) && !c.isUpper && !isSpace c && c ≠ ','

theorem plain_of_word (hEnv : env.Lawful) (hWord : isWord s) : Plain env s := by
  unfold isWord at hWord
  rw [Bool.and_eq_true, decide_eq_true_eq, all_eq_true] at hWord
  rcases hWord with ⟨hGiven, hAll⟩
  refine ⟨⟨hGiven, strip_of_plain ?_, hEnv.small s ?_⟩, fun hComma => ?_⟩
  · intro c hMem
    have hChar := hAll c hMem
    grind
  · refine all_eq_true.mpr (fun c hMem => ?_)
    have hChar := hAll c hMem
    grind
  · have hChar := hAll ',' hComma
    simp at hChar

/- Every alias is a word that stands for itself. -/
def closedTable (aliases : List (String × List String)) : Bool :=
  aliases.all fun entry => entry.2.all fun target =>
    isWord target && (aliases.lookup target).getD [target] = [target]

theorem alias_or_self (hClosed : closedTable aliases)
    (hMem : target ∈ aliasesOf aliases item) :
    aliasesOf aliases target = {target} ∧ (isWord target ∨ target = item) := by
  unfold aliasesOf at hMem ⊢
  cases hLookup : aliases.lookup item with
  | none =>
    rw [hLookup, Option.getD_none, mem_toFinset, mem_singleton] at hMem
    subst hMem
    rw [hLookup]
    exact ⟨rfl, .inr rfl⟩
  | some targets =>
    rw [hLookup, Option.getD_some, mem_toFinset] at hMem
    have hEntry : (item, targets) ∈ aliases := by
      rcases lookup_eq_some_iff.mp hLookup with ⟨before, after, hSplit, _⟩
      simp [hSplit]
    have hTarget := all_eq_true.mp (all_eq_true.mp hClosed _ hEntry) target hMem
    rw [Bool.and_eq_true, decide_eq_true_eq] at hTarget
    rw [hTarget.2]
    exact ⟨rfl, .inl hTarget.1⟩

theorem expand_of_subset (hClosed : closedTable aliases)
    (hSubset : others ⊆ expand aliases values) : expand aliases others = others := by
  have hEach : ∀ target ∈ others, aliasesOf aliases target = {target} := by
    intro target hMem
    rcases Finset.mem_biUnion.mp (hSubset hMem) with ⟨item, _, hTarget⟩
    exact (alias_or_self hClosed hTarget).1
  unfold expand
  rw [Finset.biUnion_congr rfl hEach, Finset.biUnion_singleton_eq_self]

theorem plain_of_expand (hEnv : env.Lawful) (hClosed : closedTable aliases)
    (hPlain : ∀ item ∈ values, Plain env item) (hMem : target ∈ expand aliases values) :
    Plain env target := by
  rcases Finset.mem_biUnion.mp hMem with ⟨item, hItem, hTarget⟩
  rcases (alias_or_self hClosed hTarget).2 with hWord | rfl
  · exact plain_of_word hEnv hWord
  · exact hPlain _ hItem

theorem uploadStates_subset :
    uploadStates values ⊆ expand INTEGRATION_UPLOAD_STATE_FILTER_ALIASES values := by
  unfold uploadStates
  dsimp only
  split
  · exact Finset.empty_subset _
  · exact Finset.erase_subset _ _

theorem upload_closed : closedTable INTEGRATION_UPLOAD_STATE_FILTER_ALIASES := by
  decide +kernel

theorem uploadStates_again : uploadStates (uploadStates values) = uploadStates values := by
  have hExpand : expand INTEGRATION_UPLOAD_STATE_FILTER_ALIASES (uploadStates values) =
      uploadStates values := expand_of_subset upload_closed uploadStates_subset
  generalize hStates : uploadStates values = states at hExpand ⊢
  unfold uploadStates at hStates ⊢
  rw [hExpand]
  dsimp only at hStates ⊢
  split at hStates
  · rw [← hStates]
    rfl
  next hOther =>
    have hErased : states.erase "" = states := by rw [← hStates, Finset.erase_idem]
    rw [hErased, if_neg (hStates ▸ hOther)]

/- A way of splitting that a joined result passes unchanged. -/
def Steady (env : FilterEnv) (split : Raw → Finset String) : Prop :=
  ∀ value, split (.text (joined (split value))) = split value ∧ ∀ item ∈ split value, Plain env item

theorem normalize_filter_values_again (hSteady : Steady env split) (value : Raw) :
    normalize_filter_values split (.text (normalize_filter_values split value)) =
      normalize_filter_values split value := by
  unfold normalize_filter_values
  rw [(hSteady value).1]

theorem steady_split (hEnv : env.Lawful) : Steady env (split_values env) :=
  fun _ => ⟨split_joined (fun _ => plain_of_split hEnv), fun _ => plain_of_split hEnv⟩

theorem steady_expand (hEnv : env.Lawful) (hClosed : closedTable aliases) :
    Steady env (fun value => expand aliases (split_values env value)) := by
  intro value
  have hPlain : ∀ item ∈ expand aliases (split_values env value), Plain env item :=
    fun _ => plain_of_expand hEnv hClosed (fun _ => plain_of_split hEnv)
  refine ⟨?_, hPlain⟩
  change expand aliases (split_values env (.text (joined (expand aliases _)))) = _
  rw [split_joined hPlain, expand_of_subset hClosed subset_rfl]

theorem steady_upload (hEnv : env.Lawful) :
    Steady env (split_integration_upload_state_filter_values env) := by
  intro value
  have hPlain : ∀ item ∈ split_integration_upload_state_filter_values env value, Plain env item :=
    fun _ hMem => plain_of_expand hEnv upload_closed (fun _ => plain_of_split hEnv)
      (uploadStates_subset hMem)
  refine ⟨?_, hPlain⟩
  change uploadStates (split_values env (.text (joined _))) = _
  rw [split_joined hPlain]
  exact uploadStates_again

----
-- Fields That Stay
----

theorem firstSeen_again (values : List String) : firstSeen
    (firstSeen values) = firstSeen values := by
  unfold firstSeen
  rw [reverse_reverse, dedup_idem]

theorem mem_firstSeen {values : List String} : s ∈ firstSeen values ↔ s ∈ values := by
  unfold firstSeen
  rw [mem_reverse, mem_dedup, mem_reverse]

mutual
theorem settled_emailsOf (hEnv : env.Lawful) :
    ∀ value : Raw, s ∈ emailsOf env value → Settled env s
| .items values, hMem => settled_emailsOfAll hEnv values (mem_firstSeen.mp hMem)
| .none, hMem | .bool _, hMem | .int _, hMem | .text _, hMem | .fields _, hMem
| .other _ _, hMem => by
  unfold emailsOf at hMem
  split at hMem
  · exact absurd hMem not_mem_nil
  next hGiven =>
    rw [mem_singleton.mp hMem]
    exact settled_lower_text hEnv hGiven
theorem settled_emailsOfAll (hEnv : env.Lawful) :
    ∀ values : List Raw, s ∈ emailsOfAll env values → Settled env s
| [], hMem => absurd hMem not_mem_nil
| value :: values, hMem => (mem_append.mp hMem).elim
    (settled_emailsOf hEnv value) (settled_emailsOfAll hEnv values)
end

def Addresses (env : FilterEnv) (emails : List String) : Prop :=
  firstSeen emails = emails ∧ ∀ email ∈ emails, Settled env email

theorem addresses_of_exact (hEnv : env.Lawful) (value : Raw) :
    Addresses env (normalize_exact_email_filter_values env value) := by
  have hAll (values : List Raw) : Addresses env (firstSeen (emailsOfAll env values)) :=
    ⟨firstSeen_again _, fun _ hMem => settled_emailsOfAll hEnv values (mem_firstSeen.mp hMem)⟩
  have hOne (value : Raw) : Addresses env (firstSeen (emailsOf env value)) :=
    ⟨firstSeen_again _, fun _ hMem => settled_emailsOf hEnv value (mem_firstSeen.mp hMem)⟩
  cases value with
  | none => exact ⟨rfl, fun _ hMem => absurd hMem not_mem_nil⟩
  | text s => exact hAll _
  | items values => exact hAll _
  | _ => exact hOne _

theorem emailsOfAll_texts (hSettled : ∀ email ∈ emails, Settled env email) :
    emailsOfAll env (emails.map .text) = emails := by
  induction emails with
  | nil => rfl
  | cons email emails ih =>
    have hText := lower_text_of_settled (hSettled email mem_cons_self)
    have hOne : emailsOf env (.text email) = [email] := by
      rw [emailsOf, hText, if_neg (hSettled email mem_cons_self).given]
      simp
    rw [map_cons, emailsOfAll, hOne, ih fun e hMem => hSettled e (mem_cons_of_mem _ hMem)]
    rfl

theorem exact_again (hAddresses : Addresses env emails) :
    normalize_exact_email_filter_values env (.items (emails.map .text)) = emails := by
  rw [normalize_exact_email_filter_values, emailsOfAll_texts hAddresses.2, hAddresses.1]

theorem addresses_of_multiline (hEnv : env.Lawful) (s : String) :
    Addresses env (multiline_email_filter_values env s) := by
  unfold multiline_email_filter_values
  dsimp only
  split
  · exact ⟨rfl, fun _ hMem => absurd hMem not_mem_nil⟩
  · exact addresses_of_exact hEnv _

theorem emailAndEmails_again (hEnv : env.Lawful) {source again : Source}
    (hEmail : field again "email" = .text (emailAndEmails env source).1)
    (hEmails : field again "emails" = .items ((emailAndEmails env source).2.map .text)) :
    emailAndEmails env again = emailAndEmails env source := by
  have hAddresses : Addresses env (emailAndEmails env source).2 := by
    unfold emailAndEmails
    dsimp only
    split
    · exact addresses_of_exact hEnv _
    · exact addresses_of_multiline hEnv _
  conv_lhs => unfold emailAndEmails
  simp only [hEmail, hEmails, exact_again hAddresses, safe_str_text]
  by_cases hNone : (emailAndEmails env source).2 = []
  · unfold emailAndEmails at hNone ⊢
    dsimp only at hNone ⊢
    split at hNone
    · contradiction
    next hEmpty =>
      rw [if_neg hEmpty]
      dsimp only at hNone ⊢
      simp [hNone, strip_safe_str]
  · rw [if_pos hNone]
    unfold emailAndEmails at hNone ⊢
    grind

theorem flag_again (flag : Option Bool) : normalize_optional_bool env (flagRaw flag) = flag := by
  cases flag with
  | none => rfl
  | some value => rfl

theorem word_of_scope (value : Raw) :
    normalize_secondary_scope env value ∈ ["", "unassigned", "fixed"] := by
  unfold normalize_secondary_scope
  grind

theorem lower_text_of_word (hEnv : env.Lawful) (hWord : s = "" ∨ isWord s) :
    lower_text env (.text s) = s := by
  rcases hWord with rfl | hWord
  · exact hEnv.small "" rfl
  · exact lower_text_of_settled (plain_of_word hEnv hWord).toSettled

theorem scope_again (hEnv : env.Lawful) (value : Raw) :
    normalize_secondary_scope env (.text (normalize_secondary_scope env value)) =
      normalize_secondary_scope env value := by
  have hMem := @word_of_scope env value
  generalize normalize_secondary_scope env value = scope at hMem
  simp only [mem_cons, not_mem_nil, or_false] at hMem
  rcases hMem with rfl | rfl | rfl
  · simp only [normalize_secondary_scope, lower_text_of_word hEnv (.inl rfl)]
    decide +kernel
  · simp only [normalize_secondary_scope,
      lower_text_of_word hEnv (s := "unassigned") (.inr (by decide +kernel))]
    decide +kernel
  · simp only [normalize_secondary_scope,
      lower_text_of_word hEnv (s := "fixed") (.inr (by decide +kernel))]
    decide +kernel

theorem revision_again (hEnv : env.Lawful) (revision : Option Int) :
    fixed_group_revision env ((revision.map .int).getD .none) = some revision := by
  cases revision with
  | none => rfl
  | some n => simp [fixed_group_revision, hEnv.int_int]

----
-- Payment Methods That Stay
----

theorem methodChar_of_squeeze
    (hMem : c ∈ squeeze (fun c => !isMethodChar c) run cs) : isMethodChar c := by
  induction cs generalizing run with
  | nil => exact absurd hMem not_mem_nil
  | cons d ds ih =>
    rw [squeeze] at hMem
    split at hMem
    · split at hMem
      · exact ih hMem
      · rcases mem_cons.mp hMem with rfl | hRest
        · rfl
        · exact ih hRest
    next hPlain =>
      rcases mem_cons.mp hMem with rfl | hRest
      · simpa using hPlain
      · exact ih hRest

/- A name as the catalog stores it: its characters, and no underscore in front. -/
structure MethodText (cs : List Char) : Prop where
  plain : ∀ c ∈ cs, isMethodChar c
  front : cs.head? ≠ some '_'
  short : cs.length ≤ 80

theorem methodText_of_type (value : Raw) :
    MethodText (normalize_payment_method_type env value).toList := by
  unfold normalize_payment_method_type
  rw [String.toList_ofList]
  refine ⟨fun c hMem => ?_, fun hFront => ?_, length_take_le _ _⟩
  · have hName := mem_of_mem_take hMem
    have hDropped := ( rdropWhile_prefix _ _).subset hName
    exact methodChar_of_squeeze ((dropWhile_sublist _).subset hDropped)
  · have hName : (methodName env value).head? = some '_' := by
      rwa [head?_take] at hFront
    rcases rdropWhile_prefix (· == '_') ((squeezed env value).dropWhile (· == '_')) with
      ⟨rest, hSplit⟩
    change methodName env value ++ rest = _ at hSplit
    have hHead := head?_dropWhile_not (· == '_') (squeezed env value)
    rw [← hSplit, head?_append, hName] at hHead
    simp at hHead

----
-- The Second Pass
----

theorem spaceless_of_methodChar (hChar : isMethodChar c) :
    isSpace c = false ∧ c ≠ '-' ∧ c.toNat < 128 ∧ c.isUpper = false := by
  have hType : PaymentLinks.isTypeChar c := by
    unfold isMethodChar at hChar
    unfold PaymentLinks.isTypeChar Char.isAlphanum Char.isAlpha
    grind
  have hRange := PaymentLinks.toNat_of_isTypeChar hType
  refine ⟨PaymentLinks.isSpace_of_isTypeChar hType, ?_, by omega, ?_⟩
  · rintro rfl
    exact absurd hChar (by decide)
  · unfold isMethodChar Char.isLower Char.isDigit at hChar
    simp only [Bool.or_eq_true, decide_eq_true_eq] at hChar
    rcases hChar with hLetter | rfl
    · unfold Char.isUpper
      grind
    · rfl

theorem type_of_methodText (hEnv : env.Lawful) (hText : MethodText s.toList) :
    normalize_payment_method_type env (.text s) =
      String.ofList (s.toList.rdropWhile (· == '_')) := by
  have hChars (c : Char) (hMem : c ∈ s.toList) := spaceless_of_methodChar (hText.plain c hMem)
  have hLower : lower_text env (.text s) = s := by
    unfold lower_text
    rw [safe_str_text, strip_of_plain fun c hMem => (hChars c hMem).1]
    refine hEnv.small s (all_eq_true.mpr (fun c hMem => ?_))
    simp [(hChars c hMem).2.2.1, (hChars c hMem).2.2.2]
  have hLine : underscored s.toList = s.toList := by
    unfold underscored
    rw [map_congr_left fun c hMem => if_neg (hChars c hMem).2.1]
    exact map_id' _
  have hSqueezed : squeezed env (.text s) = s.toList := by
    unfold squeezed
    dsimp only
    rw [hLower, hLine, PyText.squeeze_of_none fun c hMem => (hChars c hMem).1, PyText.squeeze_of_none]
    intro c hMem
    rw [hText.plain c hMem]
    rfl
  have hFront : s.toList.dropWhile (· == '_') = s.toList := by
    have hHead := hText.front
    cases hList : s.toList with
    | nil => rfl
    | cons c cs =>
      rw [hList] at hHead
      rw [dropWhile_cons_of_neg]
      simpa using hHead
  unfold normalize_payment_method_type methodName
  rw [hSqueezed, hFront, take_of_length_le]
  exact ( rdropWhile_prefix _ _).length_le.trans hText.short

/- The cut to eighty characters ends the name of the method with an underscore. -/
def cutAtUnderscore (env : FilterEnv) (method : Raw) : Bool :=
  (methodName env method)[79]? = some '_'

theorem last_of_rdropWhile (cs : List Char) : (cs.rdropWhile (· == '_')).getLast? ≠ some '_' := by
  intro hLast
  rcases getLast?_eq_some_iff.mp hLast with ⟨before, hSplit⟩
  have hNot := rdropWhile_last_not (· == '_') cs (by simp [hSplit])
  simp [hSplit] at hNot

theorem cut_iff :
    (normalize_payment_method_type env method).toList.getLast? = some '_' ↔
      cutAtUnderscore env method := by
  have hLast := last_of_rdropWhile ((squeezed env method).dropWhile (· == '_'))
  change (methodName env method).getLast? ≠ some '_' at hLast
  unfold normalize_payment_method_type cutAtUnderscore
  rw [String.toList_ofList, getLast?_take, decide_eq_true_eq]
  cases hAt : (methodName env method)[79]? with
  | none => simpa [hAt] using hLast
  | some c => simp

theorem mem_methodTypes :
    s ∈ methodTypes env methods ↔
      s ≠ "" ∧ ∃ method ∈ methods, normalize_payment_method_type env method = s := by
  unfold methodTypes
  rw [Finset.mem_erase, mem_toFinset, mem_map]

theorem methodTypes_again (hEnv : env.Lawful) (hNames : ∀ s ∈ names, s ≠ "" ∧ MethodText s.toList) :
    methodTypes env ((names.sort (· ≤ ·)).map .text) = names ↔
      ∀ s ∈ names, s.toList.getLast? ≠ some '_' := by
  have hMem (s : String) : s ∈ methodTypes env ((names.sort (· ≤ ·)).map .text) ↔
      s ≠ "" ∧ ∃ t ∈ names, String.ofList (t.toList.rdropWhile (· == '_')) = s := by
    simp only [mem_methodTypes, mem_map, Finset.mem_sort, exists_exists_and_eq_and]
    refine and_congr_right fun _ => exists_congr fun t => and_congr_right fun hIn => ?_
    rw [type_of_methodText hEnv (hNames t hIn).2]
  constructor
  · intro hSame s hIn
    rcases (hMem s).mp (by rwa [hSame]) with ⟨_, t, _, rfl⟩
    rw [String.toList_ofList]
    exact last_of_rdropWhile _
  · intro hLast
    have hKeep : ∀ t ∈ names, String.ofList (t.toList.rdropWhile (· == '_')) = t := by
      intro t hIn
      rw [rdropWhile_eq_self_iff.mpr, String.ofList_toList]
      intro hSome hEnd
      refine hLast t hIn ?_
      rw [getLast?_eq_some_getLast hSome, beq_iff_eq.mp hEnd]
    ext s
    rw [hMem]
    constructor
    · rintro ⟨_, t, hIn, rfl⟩
      rwa [hKeep t hIn]
    · intro hIn
      exact ⟨(hNames s hIn).1, s, hIn, hKeep s hIn⟩

theorem country_again (hEnv : env.Lawful)
    (hGiven : normalize_payment_method_country env value ≠ "") :
    normalize_payment_method_country env (.text (normalize_payment_method_country env value)) =
      normalize_payment_method_country env value := by
  unfold normalize_payment_method_country at hGiven ⊢
  dsimp only at hGiven ⊢
  split at hGiven
  next hCountry =>
    have hStrip : strip (env.upper (safe_str env value)) = env.upper (safe_str env value) :=
      strip_of_plain (fun c hMem => PaymentLinks.isSpace_of_isTypeChar (by
        have hAlpha := all_eq_true.mp hCountry.2 c hMem
        simp [PaymentLinks.isTypeChar, Char.isAlphanum, hAlpha]))
    rw [if_pos hCountry, safe_str_text, hStrip, hEnv.upper_upper, if_pos hCountry]
  · contradiction

/- A selection of valid countries in canonical form. -/
structure Canonical (env : FilterEnv) (selection : Selection) : Prop where
  nodup : (selection.map (·.1)).Nodup
  country : ∀ item ∈ selection, item.1 ≠ "" ∧
    normalize_payment_method_country env (.text item.1) = item.1
  names : ∀ item ∈ selection, ∀ s ∈ item.2, s ≠ "" ∧ MethodText s.toList

theorem given_of_requested {item : String × List Raw} (hMem : item ∈ requestedMethods env value) :
    item.1 ≠ "" ∧ ∃ country, normalize_payment_method_country env country = item.1 := by
  rcases mem_filterMap.mp hMem with ⟨raw_item, _, hSome⟩
  split at hSome
  · cases hSome
  · dsimp only at hSome
    split at hSome
    · cases hSome
    next hGiven =>
      cases hSome
      exact ⟨hGiven, _, rfl⟩

theorem canonical_selection (hEnv : env.Lawful) (value : Raw) :
    Canonical env (normalize_payment_method_selection env value) := by
  have hKeys : (normalize_payment_method_selection env value).map (·.1) =
      firstSeen ((requestedMethods env value).map (·.1)) := by
    simp [normalize_payment_method_selection, Function.comp_def]
  refine ⟨?_, fun item hMem => ?_, fun item hMem s hIn => ?_⟩
  · rw [hKeys]
    exact nodup_reverse.mpr (nodup_dedup _)
  · have hKey := mem_firstSeen.mp (hKeys ▸ mem_map.mpr ⟨item, hMem, rfl⟩)
    rcases mem_map.mp hKey with ⟨asked, hAsked, hSame⟩
    rcases given_of_requested hAsked with ⟨hGiven, country, hCountry⟩
    rw [← hSame]
    refine ⟨hGiven, ?_⟩
    rw [← hCountry] at hGiven ⊢
    exact country_again hEnv hGiven
  · rcases mem_map.mp hMem with ⟨country, _, rfl⟩
    rcases mem_methodTypes.mp hIn with ⟨hGiven, method, _, rfl⟩
    exact ⟨hGiven, methodText_of_type method⟩

theorem requested_again (hCanonical : Canonical env selection) :
    requestedMethods env selection.toRaw =
      selection.map (fun item => (item.1, (item.2.sort (· ≤ ·)).map .text)) := by
  unfold requestedMethods Selection.toRaw
  rw [selectionItems, filterMap_map, ← congrFun filterMap_eq_map selection]
  refine filterMap_congr (fun item hMem => ?_)
  rcases hCanonical.country item hMem with ⟨hGiven, hCountry⟩
  have hParts : countryAndMethods (.fields [("country", .text item.1),
      ("methods", .items ((item.2.sort (· ≤ ·)).map .text))]) =
        some (.text item.1, .items ((item.2.sort (· ≤ ·)).map .text)) := by
    simp [countryAndMethods, Raw.get, Raw.or, Raw.truthy, List.lookup, hGiven]
  simp only [Function.comp_apply, hParts, hCountry, if_neg hGiven, methodsIn]

theorem methodsFor_of_mem {item : String × List Raw}
    (hNodup : (requested.map (·.1)).Nodup) (hMem : item ∈ requested) :
    methodsFor requested item.1 = item.2 := by
  unfold methodsFor
  induction requested with
  | nil => exact absurd hMem not_mem_nil
  | cons first rest ih =>
    rw [map_cons, nodup_cons] at hNodup
    rcases mem_cons.mp hMem with rfl | hRest
    · have hNone : rest.filter (fun other => other.1 = item.1) = [] := by
        refine filter_eq_nil_iff.mpr (fun other hOther => ?_)
        have hNot : other.1 ≠ item.1 := fun hSame => hNodup.1 (mem_map.mpr ⟨other, hOther, hSame⟩)
        simp [hNot]
      simp [hNone]
    · have hNot : first.1 ≠ item.1 :=
        fun hSame => hNodup.1 (mem_map.mpr ⟨item, hRest, hSame.symm⟩)
      rw [filter_cons_of_neg (by simp [hNot]), ih hNodup.2 hRest]

theorem selection_again (hCanonical : Canonical env selection) :
    normalize_payment_method_selection env selection.toRaw =
      selection.map fun item => (item.1, methodTypes env ((item.2.sort (· ≤ ·)).map .text)) := by
  unfold normalize_payment_method_selection
  dsimp only
  have hKeys : (requestedMethods env selection.toRaw).map (·.1) = selection.map (·.1) := by
    simp [requested_again hCanonical, Function.comp_def]
  have hFirst : firstSeen (selection.map (·.1)) = selection.map (·.1) := by
    unfold firstSeen
    rw [List.Nodup.dedup (nodup_reverse.mpr hCanonical.nodup), reverse_reverse]
  rw [hKeys, hFirst, map_map]
  refine map_congr_left (fun item hMem => ?_)
  have hIn : (item.1, (item.2.sort (· ≤ ·)).map Raw.text) ∈
      requestedMethods env selection.toRaw := by
    rw [requested_again hCanonical]
    exact mem_map.mpr ⟨item, hMem, rfl⟩
  have hFor := methodsFor_of_mem (by rw [hKeys]; exact hCanonical.nodup) hIn
  simp only [Function.comp_apply, hFor]

/- A request's selection is canonical at once unless a method is cut at an underscore. -/
theorem selection_again_iff (hEnv : env.Lawful) (value : Raw) :
    normalize_payment_method_selection env (normalize_payment_method_selection env value).toRaw =
      normalize_payment_method_selection env value ↔
    ∀ item ∈ requestedMethods env value, ∀ method ∈ item.2, cutAtUnderscore env method = false := by
  have hCanonical := canonical_selection hEnv value
  have hEach : normalize_payment_method_selection env
        (normalize_payment_method_selection env value).toRaw =
      normalize_payment_method_selection env value ↔
        ∀ item ∈ normalize_payment_method_selection env value, ∀ s ∈ item.2,
          s.toList.getLast? ≠ some '_' := by
    rw [selection_again hCanonical]
    conv_lhs => rhs; rw [← map_id (normalize_payment_method_selection env value)]
    rw [map_inj_left]
    refine forall₂_congr fun item hMem => ?_
    rw [← methodTypes_again hEnv (hCanonical.names item hMem), Prod.ext_iff]
    simp
  rw [hEach]
  constructor
  · intro hNone item hMem method hMethod
    refine Bool.eq_false_iff.mpr (fun hCut => ?_)
    have hLast := cut_iff.mpr hCut
    refine hNone (item.1, methodTypes env (methodsFor (requestedMethods env value) item.1))
      (mem_map.mpr ⟨item.1, mem_firstSeen.mpr (mem_map_of_mem hMem), rfl⟩)
      (normalize_payment_method_type env method) (mem_methodTypes.mpr ⟨?_, method, ?_, rfl⟩) hLast
    · intro hNil
      rw [hNil] at hLast
      exact absurd hLast (by decide)
    · exact mem_flatMap.mpr ⟨item, mem_filter.mpr ⟨hMem, by simp⟩, hMethod⟩
  · intro hNone item hMem s hIn hLast
    rcases mem_map.mp hMem with ⟨country, _, rfl⟩
    rcases mem_methodTypes.mp hIn with ⟨_, method, hMethod, rfl⟩
    rcases mem_flatMap.mp hMethod with ⟨asked, hAsked, hOf⟩
    have hCut := cut_iff.mp hLast
    rw [hNone asked (mem_of_mem_filter hAsked) method hOf] at hCut
    cases hCut

----
-- Filters Applied Twice
----

theorem steady_idea (hEnv : env.Lawful) : Steady env (split_idea_submit_filter_values env) :=
  steady_expand hEnv (by decide +kernel)

theorem steady_phone (hEnv : env.Lawful) :
    Steady env (split_phone_binding_state_filter_values env) :=
  steady_expand hEnv (by decide +kernel)

theorem steady_platform (hEnv : env.Lawful) :
    Steady env (split_payment_link_platform_filter_values env) :=
  steady_expand hEnv (by decide +kernel)

theorem empty_again (hEnv : env.Lawful) (value : Raw) :
    (normalize_payment_method_selection env
        (normalize_payment_method_selection env value).toRaw = []) ↔
      normalize_payment_method_selection env value = [] := by
  rw [selection_again (canonical_selection hEnv value), map_eq_nil_iff]

/- A canonical filter read as a request changes in its payment methods at most. -/
theorem canonical_again (hEnv : env.Lawful) (source : Source) (revision : Option Int) :
    canonical env (canonical env source revision).toRaw revision =
      { canonical env source revision with
        payment_method_selection := normalize_payment_method_selection env
          (canonical env source revision).payment_method_selection.toRaw } := by
  have hEmails : emailAndEmails env (canonical env source revision).toRaw =
      emailAndEmails env source := emailAndEmails_again hEnv rfl rfl
  have hPlain := normalize_filter_values_again (steady_split hEnv)
  have hUpload := normalize_filter_values_again (steady_upload hEnv)
  have hIdea := normalize_filter_values_again (steady_idea hEnv)
  have hPhone := normalize_filter_values_again (steady_phone hEnv)
  have hPlatform := normalize_filter_values_again (steady_platform hEnv)
  have hEmpty := empty_again hEnv (field source "payment_method_selection")
  generalize hN : canonical env source revision = n at hEmails ⊢
  unfold canonical
  simp only [hEmails]
  simp only [AccountFilter.toRaw, field, List.lookup, String.reduceBEq, Option.getD_some]
  subst hN
  unfold canonical
  simp only [hPlain, hUpload, hIdea, hPhone, hPlatform, flag_again, scope_again hEnv,
    safe_str_text, strip_safe_str]
  by_cases hNone : normalize_payment_method_selection env
      (field source "payment_method_selection") = []
  · have hAgain := hEmpty.mpr hNone
    rw [hNone] at hAgain ⊢
    simp [hAgain, hPlain]
  · simp [hNone, mt hEmpty.mp hNone]

theorem canonical_of_normalized (hNormal : normalize_account_filter env source = some n) :
    n = canonical env source n.fixed_group_revision := by
  rcases Option.map_eq_some_iff.mp hNormal with ⟨revision, _, rfl⟩
  rfl

/- The second pass changes nothing just when no method is cut at an underscore. -/
theorem normalize_again_iff (hEnv : env.Lawful)
    (hNormal : normalize_account_filter env source = some n) :
    normalize_account_filter env n.toRaw = some n ↔
      ∀ item ∈ requestedMethods env (field source "payment_method_selection"),
        ∀ method ∈ item.2, cutAtUnderscore env method = false := by
  have hCanonical := canonical_of_normalized hNormal
  have hAgain : normalize_account_filter env n.toRaw = some { n with
      payment_method_selection := normalize_payment_method_selection env
        n.payment_method_selection.toRaw } := by
    have hRevision : fixed_group_revision env (field n.toRaw "fixed_group_revision") =
        some n.fixed_group_revision := revision_again hEnv n.fixed_group_revision
    unfold normalize_account_filter
    rw [hRevision, Option.map_some, Option.some_inj]
    have hFields := canonical_again hEnv source n.fixed_group_revision
    rwa [← hCanonical] at hFields
  have hSelection : n.payment_method_selection =
      normalize_payment_method_selection env (field source "payment_method_selection") := by
    rw [hCanonical]
    rfl
  rw [hAgain, ← selection_again_iff hEnv, ← hSelection, Option.some_inj]
  constructor
  · exact fun hSame => congrArg AccountFilter.payment_method_selection hSame
  · intro hSame
    rw [hSame]

/- A request that asks for no revival state. -/
def withoutRevival (source : Source) : Source := ("revival_state", .none) :: source

theorem normalize_withoutRevival :
    normalize_account_filter env (withoutRevival source) = normalize_account_filter env source := by
  have hField (name : String) (hOther : name ≠ "revival_state") :
      field (withoutRevival source) name = field source name := by
    have hNot : (name == "revival_state") = false := beq_false_of_ne hOther
    simp only [field, withoutRevival, List.lookup, hNot]
  have hCanonical : canonical env (withoutRevival source) = canonical env source := by
    funext revision
    simp only [canonical, emailAndEmails, hField, ne_eq, String.reduceEq, not_false_eq_true]
  unfold normalize_account_filter
  simp only [hCanonical, hField, ne_eq, String.reduceEq, not_false_eq_true]

theorem filters_revival (f : ListFilter) (row : Row) :
    apply_account_list_state_filters env f row =
      (apply_account_list_state_filters env { f with revival_state := .none } row &&
        whereIn (split_values env f.revival_state) row.revival_state) := by
  have hNone : split_values env .none = ∅ := rfl
  have hAll : whereIn ∅ row.revival_state := rfl
  conv_rhs => unfold apply_account_list_state_filters
  rw [hNone, hAll, Bool.and_true]
  rfl

theorem selects_revival (hEnv : env.Lawful) (base : BaseFilter → StateRow → Bool)
    (revival : Raw) (row : StateRow) :
    selects env base n (normalize_filter_values (split_values env) revival) row =
      (selects env base n (normalize_filter_values (split_values env) .none) row &&
        whereIn (split_values env revival) row.revival_state) := by
  have hText (value : Raw) :
      split_values env (.text (normalize_filter_values (split_values env) value)) =
        split_values env value := (steady_split hEnv value).1
  have hAll : whereIn (split_values env .none) row.revival_state := rfl
  have hFilter (value : Raw) : apply_account_list_state_filters env
      (n.toListFilter (normalize_filter_values (split_values env) value)) row.toRow =
        (apply_account_list_state_filters env
          { n.toListFilter "" with revival_state := .none } row.toRow &&
          whereIn (split_values env value) row.revival_state) := by
    rw [filters_revival, ← hText value]
    rfl
  unfold selects
  rw [hFilter revival, hFilter .none, hAll, Bool.and_true]
  ac_rfl

/- A canonical filter, read as a request, has the same form and selects the same accounts as the
   request it came from just when no method of the request is cut at an underscore, and every
   account that its other filters select has a revival state it asks for, if it asks for any. -/
theorem normalized_alike_iff (hEnv : env.Lawful) (base : BaseFilter → StateRow → Bool)
    (rows : List StateRow) (hNormal : normalize_account_filter env source = some n) :
    (normalize_account_filter env n.toRaw = some n ∧
        account_filtered_rows env base n.toRaw rows = account_filtered_rows env base source rows) ↔
      (∀ item ∈ requestedMethods env (field source "payment_method_selection"),
          ∀ method ∈ item.2, cutAtUnderscore env method = false) ∧
        ∀ row ∈ (account_filtered_rows env base (withoutRevival source) rows).getD [],
          whereIn (split_values env (field source "revival_state")) row.revival_state := by
  rw [← normalize_again_iff hEnv hNormal]
  refine and_congr_right fun hAgain => ?_
  have hRaw : field n.toRaw "revival_state" = .none := rfl
  have hWithout : field (withoutRevival source) "revival_state" = .none := rfl
  unfold account_filtered_rows
  rw [hAgain, normalize_withoutRevival, hNormal, hRaw, hWithout, Option.map_some, Option.map_some,
    Option.getD_some, Option.some_inj]
  constructor
  · intro hSame row hMem
    rw [hSame] at hMem
    have hBoth := (mem_filter.mp hMem).2
    rw [selects_revival hEnv, Bool.and_eq_true] at hBoth
    exact hBoth.2
  · intro hRevived
    refine filter_congr (fun row hMem => ?_)
    rw [selects_revival hEnv base (field source "revival_state")]
    cases hSelects : selects env base n (normalize_filter_values (split_values env) .none) row with
    | false => rfl
    | true => rw [hRevived row (mem_filter.mpr ⟨hMem, hSelects⟩), Bool.and_self]

def asciiNumbers : FilterEnv :=
  { asciiEnv with int := fun value => match value with | .int n => some (some n) | _ => Option.none }

theorem toLower_again (c : Char) : c.toLower.toLower = c.toLower := by
  unfold Char.toLower
  grind [UInt32.toNat_add, Char.toNat_val]

theorem toUpper_again (c : Char) : c.toUpper.toUpper = c.toUpper := by
  by_cases hSmall : 97 ≤ c.val ∧ c.val ≤ 122
  · have hVal : c.toUpper.val = c.val + ('A'.val - 'a'.val) := by
      unfold Char.toUpper
      rw [dif_pos (by exact hSmall)]
    have hNot : ¬ (c.toUpper.val ≥ 'a'.val ∧ c.toUpper.val ≤ 'z'.val) := by
      rw [hVal]
      grind
    generalize c.toUpper = d at hNot
    exact dif_neg hNot
  · have hSame : c.toUpper = c := by
      exact dif_neg hSmall
    rw [hSame, hSame]

theorem toNat_toLower {c : Char} (hUpper : c.isUpper) :
    65 ≤ c.toNat ∧ c.toNat ≤ 90 ∧ c.toLower.toNat = c.toNat + 32 := by
  have hBounds := of_decide_eq_true hUpper
  have hVal : c.toLower.val = c.val + ('a'.val - 'A'.val) := by
    unfold Char.toLower
    rw [dif_pos hBounds]
  have hLeft : 65 ≤ c.val.toNat := hBounds.1
  have hRight : c.val.toNat ≤ 90 := hBounds.2
  have hGap : ('a'.val - 'A'.val).toNat = 32 := rfl
  refine ⟨hLeft, hRight, ?_⟩
  change c.toLower.val.toNat = c.val.toNat + 32
  rw [hVal, UInt32.toNat_add, hGap]
  omega

theorem isSpace_toLower (c : Char) : isSpace c.toLower = isSpace c := by
  by_cases hUpper : c.isUpper
  · rcases toNat_toLower hUpper with ⟨hLeft, hRight, hLower⟩
    unfold isSpace
    simp only [hLower, mem_cons, not_mem_nil, or_false, decide_eq_decide]
    omega
  · rw [PaymentLinks.toLower_of_not_upper (by simpa using hUpper)]

theorem strip_lower (s : String) : strip (asciiNumbers.lower s) = asciiNumbers.lower (strip s) := by
  have hSame : isSpace ∘ Char.toLower = isSpace := funext isSpace_toLower
  change strip (String.ofList (s.toList.map Char.toLower)) =
    String.ofList ((strip s).toList.map Char.toLower)
  unfold strip
  simp only [String.toList_ofList, rdropWhile, dropWhile_map, ← map_reverse, hSame]

theorem asciiNumbers_lawful : asciiNumbers.Lawful where
  small := asciiEnv_keepsSmall
  lower_lower s := by simp [asciiNumbers, asciiEnv, Function.comp_def]
  lower_strip s := by rw [strip_lower, strip_strip]
  lower_given s hGiven := by
    intro hNone
    apply hGiven
    have hList := congrArg String.toList hNone
    simpa [asciiNumbers, asciiEnv] using hList
  lower_comma s hNot := by
    intro hMem
    change ',' ∈ (String.ofList (s.toList.map Char.toLower)).toList at hMem
    rw [String.toList_ofList] at hMem
    rcases mem_map.mp hMem with ⟨c, hIn, hComma⟩
    by_cases hUpper : c.isUpper
    · have hRange := toNat_toLower hUpper
      rw [hComma] at hRange
      have hSmall : ','.toNat = 44 := rfl
      omega
    · rw [PaymentLinks.toLower_of_not_upper (by simpa using hUpper)] at hComma
      exact hNot (hComma ▸ hIn)
  upper_upper s := by simp [asciiNumbers, asciiEnv, Function.comp_def]
  int_int _ := rfl

def cardAndIdeal : Source := [("payment_method_selection", .items [.fields [("country", .text "de"),
    ("methods", .text "Card, iDEAL")]]), ("status", .text "Active,active")]

def idealRow : StateRow := { id := 1, status := "active", payment_methods := [("DE", "ideal")] }

theorem card_and_ideal_alike :
    (normalize_account_filter asciiNumbers (canonical asciiNumbers cardAndIdeal Option.none).toRaw =
        some (canonical asciiNumbers cardAndIdeal Option.none) ∧
      account_filtered_rows asciiNumbers (fun _ _ => true)
          (canonical asciiNumbers cardAndIdeal Option.none).toRaw [idealRow] =
        account_filtered_rows asciiNumbers (fun _ _ => true) cardAndIdeal [idealRow]) ↔
      (∀ item ∈ requestedMethods asciiNumbers (field cardAndIdeal "payment_method_selection"),
          ∀ method ∈ item.2, cutAtUnderscore asciiNumbers method = false) ∧
        ∀ row ∈ (account_filtered_rows asciiNumbers (fun _ _ => true) (withoutRevival cardAndIdeal)
            [idealRow]).getD [],
          whereIn (split_values asciiNumbers (field cardAndIdeal "revival_state"))
            row.revival_state :=
  normalized_alike_iff asciiNumbers_lawful _ _ rfl

/- A method of eighty characters and more, the eightieth a dash. -/
def dashedMethod : Source := [("payment_method_selection", .items [.fields [("country", .text "de"),
    ("methods", .items [.text (String.ofList (List.replicate 79 'a' ++ ['-', 'b']))])]])]

/- The canonical filter of such a request is none of its own. -/
theorem dashed_method_cut_again :
    ¬ ∀ (source : Source) (n : AccountFilter),
      normalize_account_filter asciiNumbers source = some n →
        normalize_account_filter asciiNumbers n.toRaw = some n := by
  intro hAll
  have hNormal : normalize_account_filter asciiNumbers dashedMethod =
      some (canonical asciiNumbers dashedMethod Option.none) := rfl
  have hNone := (normalize_again_iff asciiNumbers_lawful hNormal).mp (hAll _ _ hNormal)
  exact absurd hNone (by decide +kernel)

end AccountFilters
