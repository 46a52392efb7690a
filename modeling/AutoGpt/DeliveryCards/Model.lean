import AutoGpt.Library.KeyedTable
import AutoGpt.Library.PyText

/-
  The records and tables of the delivery-card service of
  `services/delivery_cards/service.py`.
-/

open String

----
-- Enumerations
----

namespace DeliveryCards

/- The `STATUS_*` constants. -/
inductive CardStatus where
| unused
| redeemed
| disabled
| expired
| blocked
deriving DecidableEq

/- The `EVENT_*` constants and the administrative events. -/
inductive EventType where
| firstRedeem
| refetch
| failed
| adminDisable
| adminEnable
| adminConsistencyRepair
deriving DecidableEq

/- The `RESULT_*` constants. -/
inductive Outcome where
| success
| failed
deriving DecidableEq

/- The `ERROR_*` constants. -/
inductive ErrorCode where
| cardNotAvailable
| cardDisabled
| cardExpired
| skuDisabled
| poolEmpty
| duplicateAccountDetected
| accountAllocationFailed
| refetchLimitExceeded
| apiDisabled
| unauthorized
| invalidRequest
| rateLimited
deriving DecidableEq

----
-- Records
----

/- `extra["delivery_card_assignment"]`. -/
structure CardAssignment where
  card_id : Nat
  batch_id : Nat
  sku_code : String
  code_mask : String
  assigned_at : String
  source : String

/- The parsed `extra_json` of an account: the two keys that the service writes, and the rest as the
   text it came from. -/
structure AccountExtra where
  manually_used : Bool
  delivery_card_assignment : Option CardAssignment
  rest : String

structure AccountModel where
  id : Nat
  id_pos : 0 < id
  platform : String
  email : String
  password : String
  status : String
  extra : AccountExtra
  created_at : Option Int

/- `DeliverySkuModel`. -/
structure Sku where
  code : String
  name : String
  platform : String
  code_prefix : String
  delivery_profile : String
  sort_policy : String
  allow_refetch : Bool
  max_refetch_count : Int
  enabled : Bool

/- `DeliveryCardBatchModel`. -/
structure Batch where
  id : Nat
  name : String
  sku_code : String
  platform : String
  code_prefix : String
  total_count : Nat
  strict_stock_check : Bool
  expires_at : String
  note : String

/- The object stored as `delivery_payload_json`. -/
structure Payload where
  account : String
  profile : String
  sku_code : String
  created_at : String
deriving DecidableEq

/- `DeliveryCardModel`. The account id zero stands for no account, and a card without payload holds
   `{}`. -/
structure Card where
  id : Nat
  batch_id : Nat
  sku_code : String
  platform : String
  code_hash : String
  code_mask : String
  code_prefix : String
  status : CardStatus
  assigned_account_id : Nat := 0
  assigned_email_snapshot : String := ""
  assigned_at : String := ""
  redeem_count : Nat := 0
  first_redeemed_at : String := ""
  last_redeemed_at : String := ""
  first_redeem_ip : String := ""
  last_redeem_ip : String := ""
  first_consumer : String := ""
  last_consumer : String := ""
  delivery_payload_json : Option Payload := none
  expires_at : String := ""
  disabled_reason : String := ""
  last_failure_code : Option ErrorCode := none
  last_failure_at : String := ""
deriving DecidableEq

/- `DeliveryCardEventModel`. -/
structure Event where
  card_id : Nat
  batch_id : Nat
  sku_code : String
  account_id : Nat := 0
  event_type : EventType
  result : Outcome
  failure_code : Option ErrorCode := none
  delivery_sequence : Nat := 0
  request_id : String := ""
  idempotency_key : String := ""
  consumer : String := ""
  client_ip : String := ""
  user_agent : String := ""
  api_token_id : String := ""
  response_profile : String := ""
  message : String
deriving DecidableEq

/- `DuplicateCheckResult`. -/
structure DuplicateCheckResult where
  ok : Bool
  message : String
  duplicate_card_ids : List Nat := []
  duplicate_event_ids : List Nat := []
  duplicate_api_log_ids : List Nat := []

/- `DeliveryRedeemApiLogModel`. -/
structure ApiLog where
  idempotency_key : String := ""
  consumer : String := ""
  card_id : Nat := 0
  sku_code : String := ""
  assigned_account_id : Nat := 0
  action : String
  result : Outcome
  error_code : Option ErrorCode := none
  redeem_index : Nat := 0
  first_redeem : Bool := false
  idempotent_replay : Bool := false
  duplicate : Option DuplicateCheckResult := none
  message : String

----
-- The Database
----

abbrev AccountTable := KeyedTable AccountModel Nat AccountModel.id

abbrev CardTable := KeyedTable Card Nat Card.id

/- The configuration values that the service reads. -/
structure Settings where
  failure_mode : String
  plus_sort_policy : Option String
  free_sort_policy : Option String

/- The stored state. Tables list their rows in the order of their ids; the id of an event, a log or
   a batch is its position, counted from one. -/
structure Db where
  cards : CardTable
  accounts : AccountTable
  skus : List Sku
  batches : List Batch
  events : List Event
  api_logs : List ApiLog
  settings : Settings

/- The text, digest and account functions that the service calls. -/
structure Environment where
  upper : String → String
  lower : String → String
  sha256 : String → String
  hash_secret : String
  account_validity : AccountModel → String
  account_subscription_type : AccountModel → String
  account_subscription_active_until_timestamp : AccountModel → Option Int
  is_expired_text : String → Int → Bool
  build_delivery_payload : AccountModel → Sku → String

/- ASCII texts, an unkeyed digest and accounts whose extra text is their subscription, for
   evaluation. -/
def plainEnvironment : Environment where
  upper := fun v => ofList (v.toList.map Char.toUpper)
  lower := fun v => ofList (v.toList.map Char.toLower)
  sha256 := fun v => v
  hash_secret := "s"
  account_validity := fun a => if a.status = "invalid" then "invalid" else "valid"
  account_subscription_type := fun a => a.extra.rest
  account_subscription_active_until_timestamp := fun _ => none
  is_expired_text := fun _ _ => false
  build_delivery_payload := fun a _ => a.email

/- The value that `config_store.get` puts in place of the stored sort policy of the two built-in
   SKUs. -/
def refreshSortPolicy (settings : Settings) (sku : Sku) :
    Sku :=
  if sku.code = "plus" then
    { sku with
      sort_policy := settings.plus_sort_policy.getD
          (if sku.sort_policy = "" then "earliest_expiry"
            else sku.sort_policy) }
  else if sku.code = "free" then
    { sku with
      sort_policy := settings.free_sort_policy.getD
          (if sku.sort_policy = "" then "oldest_created"
            else sku.sort_policy) }
  else sku

/- `get_skus` writes the configured sort policies. -/
def getSkus (db : Db) : Db := { db with skus := db.skus.map (refreshSortPolicy db.settings) }

----
-- Card Codes
----

/- `normalize_code`. -/
def normalizeCode (env : Environment) (value : String) :
    String :=
  ofList ((env.upper (PyText.strip value)).toList.filter fun c =>
      !(c = ' ' || c = '\t' || c = '\n' || c = '\r'))

/- `hash_code`. -/
def hashCode (env : Environment) (value : String) : String :=
  env.sha256 (env.hash_secret ++ ":" ++ normalizeCode env value)

/- `mask_code`. -/
def maskCode (env : Environment) (value : String) : String :=
  let normalized := (normalizeCode env value).toList
  let parts := normalized.splitOn '-'
  let length := normalized.length
  if length = 0 then ""
  else if 3 ≤ parts.length then ofList
      (parts.headD [] ++ ['-'] ++ parts.getD 1 [] ++ "-****-".toList ++ parts.getLastD [])
  else if length ≤ 10 then
    ofList (normalized.take 2 ++ "****".toList ++ normalized.drop (length - 2))
  else ofList (normalized.take 8 ++ "****".toList ++ normalized.drop (length - 4))

end DeliveryCards
