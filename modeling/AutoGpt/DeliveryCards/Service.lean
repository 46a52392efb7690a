import AutoGpt.DeliveryCards.Model
import AutoGpt.Library.Machine
import Mathlib.Data.List.Sort

/-
  The transactions of `services/delivery_cards/service.py`:
  redemption, status changes, batch creation and the
  consistency repair.

  Each of them runs inside one writer transaction, so it is
  a function from the stored state to the next one. A
  statement or commit that raises rolls the transaction
  back; the input says when one does.
-/

open PyText (orElse strip)

----
-- Choosing An Account
----

namespace DeliveryCards

/- `assigned_account_ids`. -/
def assignedAccountIds (cards : CardTable) : List Nat :=
  (cards.rows.map Card.assigned_account_id).filter (fun id => 0 < id)

/- `is_account_eligible_for_sku`; `clock` is `time.time()`. -/
def isAccountEligibleForSku (env : Environment) (clock : Int) (account : AccountModel)
    (sku_code : String) (assigned_ids : List Nat) : Bool :=
  if strip account.platform ≠ "chatgpt" then false
  else if strip account.email = "" ∨ strip account.password = "" then false
  else if env.lower (strip account.status) = "invalid" then false
  else if account.extra.manually_used then false
  else if account.id ∈ assigned_ids then false
  else if env.account_validity account ≠ "valid" then false
  else
    let subscription := env.account_subscription_type account
    if sku_code = "plus" then
      if subscription ≠ "plus" then false
      else
        match env.account_subscription_active_until_timestamp account with
        | none => true
        | some expiry => !(expiry < clock)
    else if sku_code = "free" then subscription = "free"
    else subscription = sku_code

/- `account_sort_key`, in Python's order of tuples. -/
def accountSortKey (env : Environment) (account : AccountModel)
    (sku : Sku) : Nat × Int × Int × Nat :=
  let policy := env.lower (strip sku.sort_policy)
  let expiry := env.account_subscription_active_until_timestamp account
  let created_ts := account.created_at.getD 0
  if policy = "earliest_expiry" ∨ policy = "oldest_subscription_started" then
    (if expiry.isSome then 0 else 1, expiry.getD 0, created_ts, account.id)
  else (0, created_ts, created_ts, account.id)

def sortKeyLe (a b : Nat × Int × Int × Nat) : Bool :=
  if a.1 ≠ b.1 then a.1 < b.1
  else if a.2.1 ≠ b.2.1 then a.2.1 < b.2.1
  else if a.2.2.1 ≠ b.2.2.1 then a.2.2.1 < b.2.2.1
  else a.2.2.2 ≤ b.2.2.2

/- The accounts a SKU may be delivered from. -/
def eligibleAccounts (env : Environment) (clock : Int) (db : Db) (sku : Sku) : List AccountModel :=
  (db.accounts.rows.filter (fun a => a.platform = sku.platform)).filter
    fun a => isAccountEligibleForSku env clock a sku.code (assignedAccountIds db.cards)

/- `pick_next_account_for_sku`. -/
def pickNextAccountForSku (env : Environment) (clock : Int) (db : Db)
    (sku : Sku) : Option AccountModel × Nat :=
  let candidates := eligibleAccounts env clock db sku
  let sorted := candidates.insertionSort fun a b =>
      sortKeyLe (accountSortKey env a sku) (accountSortKey env b sku)
  (sorted.head?, candidates.length)

/- `available_account_count`. -/
def availableAccountCount (env : Environment) (clock : Int) (db : Db) (sku : Sku) : Nat :=
  (eligibleAccounts env clock db sku).length

/- `unused_card_count`. -/
def unusedCardCount (db : Db) (sku_code : String) : Nat := db.cards.rows.countP fun c =>
    c.sku_code = sku_code && c.status = .unused

/- `mark_account_assigned`. -/
def markAccountAssigned (card : Card) (now : String) (account : AccountModel) : AccountModel :=
  { account with
    extra :=
      { account.extra with
        manually_used := true
        delivery_card_assignment := some
            { card_id := card.id, batch_id := card.batch_id, sku_code := card.sku_code,
              code_mask := card.code_mask, assigned_at := now, source := "delivery_card_api" } } }

/- The account table after `mark_account_assigned`. -/
def markAssigned (accounts : AccountTable) (account : AccountModel) (card : Card)
    (now : String) : AccountTable :=
  accounts.updateKey account.id (markAccountAssigned card now) (fun _ => rfl)

/- The positions, counted from one, of the rows that match. -/
def matchingIds {A : Type} (rows : List A) (p : A → Bool) :
    List Nat :=
  ((rows.zipIdx 1).filter (fun r => p r.1)).map Prod.snd

/- `assert_no_delivery_duplicate`. -/
def assertNoDeliveryDuplicate (db : Db) (account : AccountModel)
    (current_card_id : Nat) : DuplicateCheckResult :=
  let assigned_card_id := (account.extra.delivery_card_assignment.map CardAssignment.card_id).getD 0
  if account.extra.manually_used ∧ assigned_card_id ≠ current_card_id then
    { ok := false, message := "账号已标记为已使用",
      duplicate_card_ids := if assigned_card_id = 0 then [] else [assigned_card_id] }
  else
    let dup_cards := (db.cards.rows.filter fun c => c.assigned_account_id = account.id &&
          c.id ≠ current_card_id &&
          (c.status = .redeemed || c.status = .disabled || c.status = .blocked)).map Card.id
    let dup_events := matchingIds db.events fun e =>
        e.account_id = account.id && e.result = .success && e.card_id ≠ current_card_id
    let dup_logs := matchingIds db.api_logs fun l =>
        l.assigned_account_id = account.id && l.result = .success && l.card_id ≠ current_card_id
    if dup_cards ≠ [] ∨ dup_events ≠ [] ∨ dup_logs ≠ [] then
      { ok := false, message := "账号已存在其他交付记录", duplicate_card_ids := dup_cards,
        duplicate_event_ids := dup_events, duplicate_api_log_ids := dup_logs }
    else { ok := true, message := "未发现该账号在兑换 API 中被其他卡密交付" }

----
-- Redemption
----

/- `DeliveryRedeemError`; the context is the card. -/
structure RedeemError where
  code : ErrorCode
  message : String
  action : String := "failed"
  context : Option Card := none

/- The arguments of `redeem_card`, with what the call meets: the error of the rate limit or token
   check, the clock, and the text of an exception that the transaction raised. -/
structure RedeemCall where
  code : String
  consumer : String := ""
  request_id : String := ""
  idempotency_key : String := ""
  client_ip : String := ""
  user_agent : String := ""
  gateError : Option RedeemError := none
  clock : Int := 0
  now : String
  raised : Option String := none

/- `str(idempotency_key or request_id or "").strip()`. -/
def RedeemCall.key (call : RedeemCall) : String :=
  strip (orElse call.idempotency_key call.request_id)

/- `str(consumer or "").strip()[:120]`. -/
def RedeemCall.consumerValue (call : RedeemCall) : String :=
  String.ofList ((strip call.consumer).toList.take 120)

/- The dictionary that `_success_response` returns. -/
structure RedeemSuccess where
  first_redeem : Bool
  idempotent_replay : Bool
  redeem_index : Nat
  redeem_count : Nat
  sku_code : String
  sku_name : String
  card_status : CardStatus
  code_mask : String
  assigned_at : String
  first_redeemed_at : String
  last_redeemed_at : String
  account : String

/- The result of `redeem_card`. -/
inductive RedeemAnswer where
| success (response : RedeemSuccess)
| failure (error_code : ErrorCode) (message : String)

/- Python's `a or b` on counts. -/
def orCount (a b : Nat) : Nat := if a = 0 then b else a

/- `_find_success_idempotent_event`. -/
def findSuccessIdempotentEvent (events : List Event) (card_id : Nat)
    (idempotency_key : String) : Option Event :=
  let key := strip idempotency_key
  if key = "" then none
  else events.find? fun e => e.card_id = card_id && e.idempotency_key = key && e.result = .success

/- `_success_response`. -/
def successResponse (card : Card) (sku : Sku) (payload : Option Payload)
    (first_redeem idempotent_replay : Bool) (redeem_index : Option Nat) : RedeemSuccess :=
  let index := redeem_index.getD card.redeem_count
  { first_redeem := first_redeem, idempotent_replay := idempotent_replay, redeem_index := index,
    redeem_count := orCount card.redeem_count index, sku_code := sku.code, sku_name := sku.name,
    card_status := card.status, code_mask := card.code_mask, assigned_at := card.assigned_at,
    first_redeemed_at := card.first_redeemed_at, last_redeemed_at := card.last_redeemed_at,
    account := (payload.map Payload.account).getD "{}" }

def refetchedCard (call : RedeemCall) (card : Card) : Card :=
  { card with
    redeem_count := card.redeem_count + 1, last_redeemed_at := call.now,
    last_redeem_ip := call.client_ip, last_consumer := call.consumerValue }

def deliveredCard (call : RedeemCall) (account : AccountModel) (payload : Payload)
    (card : Card) : Card :=
  { card with
    status := .redeemed, assigned_account_id := account.id,
    assigned_email_snapshot := account.email, assigned_at := call.now, redeem_count := 1,
    first_redeemed_at := call.now, last_redeemed_at := call.now, first_redeem_ip := call.client_ip,
    last_redeem_ip := call.client_ip, first_consumer := call.consumerValue,
    last_consumer := call.consumerValue, delivery_payload_json := some payload }

/- The card after a delivery that found no account. -/
def failedCard (call : RedeemCall) (card : Card) : Card :=
  { card with last_failure_code := some .poolEmpty, last_failure_at := call.now }

def redeemEvent (call : RedeemCall) (card : Card) (account_id : Nat) (event_type : EventType)
    (result : Outcome) (failure_code : Option ErrorCode) (delivery_sequence : Nat)
    (response_profile message : String) : Event where
  card_id := card.id
  batch_id := card.batch_id
  sku_code := card.sku_code
  account_id := account_id
  event_type := event_type
  result := result
  failure_code := failure_code
  delivery_sequence := delivery_sequence
  request_id := call.request_id
  idempotency_key := call.key
  consumer := call.consumerValue
  client_ip := call.client_ip
  user_agent := call.user_agent
  api_token_id := "default"
  response_profile := response_profile
  message := message

/- `redeem_card` on a card that was delivered before. -/
def redeemRedeemed (call : RedeemCall) (db : Db) (card : Card)
    (sku : Sku) : Except RedeemError (Db × RedeemAnswer) :=
  let account :=
    if 0 < card.assigned_account_id then db.accounts.find? card.assigned_account_id
    else none
  -- A redeemed card leaves its account marked as used.
  let accounts :=
    match account with
    | none => db.accounts
    | some a =>
      if a.extra.manually_used then db.accounts
      else markAssigned db.accounts a card (orElse card.assigned_at call.now)
  let accountId := (account.map AccountModel.id).getD 0
  match findSuccessIdempotentEvent db.events card.id call.key with
  | some existing =>
    let response := successResponse card sku card.delivery_payload_json false true
        (some (orCount existing.delivery_sequence (orCount card.redeem_count 1)))
    .ok
      ({ db with
         accounts := accounts
         api_logs := db.api_logs ++
             [{ idempotency_key := call.key, consumer := call.consumerValue, card_id := card.id,
                sku_code := card.sku_code, assigned_account_id := accountId,
                action := "idempotent_replay", result := .success,
                redeem_index := response.redeem_index, idempotent_replay := true,
                message := "成功结果幂等重放" }] },
        .success response)
  | none =>
    if sku.allow_refetch = false then .error
        { code := .refetchLimitExceeded, message := "该卡密不允许重复取回", context := some card }
    else if 0 < sku.max_refetch_count ∧ sku.max_refetch_count ≤ card.redeem_count then .error
        { code := .refetchLimitExceeded, message := "已超过最大取回次数", context := some card }
    else
      let next := refetchedCard call card
      .ok
        ({ db with
           cards := db.cards.updateKey card.id (refetchedCard call) (fun _ => rfl)
           accounts := accounts
           events := db.events ++ [redeemEvent call card
                  card.assigned_account_id .refetch .success none next.redeem_count
                  sku.delivery_profile "重复取回已绑定账号"]
           api_logs := db.api_logs ++
               [{ idempotency_key := call.key, consumer := call.consumerValue, card_id := card.id,
                  sku_code := card.sku_code, assigned_account_id := accountId, action := "refetch",
                  result := .success, redeem_index := next.redeem_count,
                  message := "重复取回已绑定账号" }] },
          .success (successResponse next sku card.delivery_payload_json false false none))

/- `redeem_card` on a card that was never delivered. -/
def redeemUnused (env : Environment) (call : RedeemCall) (db : Db) (card : Card)
    (sku : Sku) : Db × RedeemAnswer :=
  -- `stock_summary` has refreshed the sort policies.
  let stocked := getSkus db
  let sku := refreshSortPolicy db.settings sku
  match (pickNextAccountForSku env call.clock stocked sku).1
  with
  | none =>
    ({ stocked with
       cards := db.cards.updateKey card.id (failedCard call) (fun _ => rfl)
       events := db.events ++
           [redeemEvent call card 0 .failed .failed (some .poolEmpty) 0 "" "对应类型账号库存不足"]
       api_logs := db.api_logs ++
           [{ idempotency_key := call.key, consumer := call.consumerValue, card_id := card.id,
              sku_code := card.sku_code, action := "stock_empty", result := .failed,
              error_code := some .poolEmpty, message := "对应类型账号库存不足" }] },
      .failure .poolEmpty ("当前 " ++ sku.name ++ " 库存不足，请稍后重试"))
  | some account =>
    let duplicate := assertNoDeliveryDuplicate stocked account card.id
    if duplicate.ok = false then
      ({ stocked with
         api_logs := db.api_logs ++
             [{ idempotency_key := call.key, consumer := call.consumerValue, card_id := card.id,
                sku_code := card.sku_code, assigned_account_id := account.id,
                action := "duplicate_check", result := .failed,
                error_code := some .duplicateAccountDetected, duplicate := some duplicate,
                message := duplicate.message }] },
        .failure .duplicateAccountDetected duplicate.message)
    else
      let payload : Payload :=
        { account := env.build_delivery_payload account sku, profile := sku.delivery_profile,
          sku_code := sku.code, created_at := call.now }
      let next := deliveredCard call account payload card
      ({ stocked with
         cards := db.cards.updateKey card.id (deliveredCard call account payload) (fun _ => rfl)
         accounts := markAssigned db.accounts account card call.now
         events := db.events ++ [redeemEvent call card account.id .firstRedeem
                .success none 1 sku.delivery_profile "首次兑换成功并绑定账号"]
         api_logs := db.api_logs ++
             [{ idempotency_key := call.key, consumer := call.consumerValue, card_id := card.id,
                sku_code := card.sku_code, assigned_account_id := account.id,
                action := "first_redeem", result := .success, redeem_index := 1,
                first_redeem := true, duplicate := some duplicate, message := "首次兑换成功并绑定账号" }] },
        .success (successResponse next sku (some payload) true false none))

/- `select(DeliverySkuModel).where(code == ...).first()`. -/
def findSku (db : Db) (code : String) : Option Sku := db.skus.find? (fun s => s.code = code)

/- The card whose code hash the call's code has. -/
def cardOfCall (env : Environment) (call : RedeemCall) (db : Db) : Option Card :=
  db.cards.rows.find? fun c => c.code_hash = hashCode env (normalizeCode env call.code)

/- The transaction of `redeem_card`, up to its commit. -/
def redeemLocked (env : Environment) (call : RedeemCall)
    (db : Db) : Except RedeemError (Db × RedeemAnswer) :=
  match cardOfCall env call db with
  | none => .error { code := .cardNotAvailable, message := "卡密不可用" }
  | some card =>
    match (findSku db card.sku_code).filter Sku.enabled with
    | none => .error { code := .skuDisabled, message := "卡密类型已停用", context := some card }
    | some sku =>
      match card.status with
      | .disabled => .error { code := .cardDisabled, message := "卡密已禁用", context := some card }
      | .blocked => .error { code := .cardNotAvailable, message := "卡密已锁定", context := some card }
      | .expired => .error { code := .cardNotAvailable, message := "卡密不可用", context := some card }
      | .redeemed => redeemRedeemed call db card sku
      | .unused =>
        -- The status `expired` is rolled back with the
        -- raised error.
        if env.is_expired_text card.expires_at
            call.clock then
          .error { code := .cardExpired, message := "卡密已过首次兑换有效期", context := some card }
        else .ok (redeemUnused env call db card sku)

/- `public_error_code`. -/
def publicErrorCode (env : Environment) (settings : Settings) (code : ErrorCode) : ErrorCode :=
  let mode := env.lower (strip (orElse settings.failure_mode "safe"))
  if mode ≠ "debug" ∧ (code = .cardDisabled ∨ code = .cardExpired ∨ code = .cardNotAvailable) then
    .cardNotAvailable
  else code

/- `write_failed_api_log`, in a transaction of its own. -/
def writeFailedApiLog (call : RedeemCall) (e : RedeemError) (db : Db) : Db :=
  { db with
    api_logs := db.api_logs ++
        [{ idempotency_key := call.key, consumer := call.consumerValue,
           card_id := (e.context.map Card.id).getD 0,
           sku_code := (e.context.map Card.sku_code).getD "", action := e.action, result := .failed,
           error_code := some e.code, message := e.message }] }

/- The answer to an expected redemption error. -/
def failRedeem (env : Environment) (call : RedeemCall) (e : RedeemError)
    (db : Db) : Db × RedeemAnswer :=
  (writeFailedApiLog call e db, .failure (publicErrorCode env db.settings e.code) e.message)

/- `redeem_card`. -/
def redeemCard (env : Environment) (call : RedeemCall) (db : Db) : Db × RedeemAnswer :=
  match call.gateError with
  | some e => failRedeem env call e db
  | none =>
    if normalizeCode env call.code = "" then
      failRedeem env call { code := .invalidRequest, message := "卡密不能为空" } db
    else
      match redeemLocked env call db with
      | .error e => failRedeem env call e db
      | .ok (next, answer) =>
        match call.raised with
        | none => (next, answer)
        | some exc => (writeFailedApiLog call
              { code := .accountAllocationFailed, message := exc } db,
              .failure .accountAllocationFailed ("兑换失败: " ++ exc))

----
-- Administration
----

/- The status that `set_card_status` stores. -/
def finalStatus (card : Card) (requested : CardStatus) :
    CardStatus :=
  -- A delivered card is enabled as redeemed, so that it never
  -- takes the path of a first delivery again.
  if requested = .unused ∧ 0 < card.assigned_account_id then .redeemed
  else requested

/- The card after `set_card_status`. -/
def statusSetCard (requested : CardStatus) (reason : String) (card : Card) : Card :=
  { card with
    status := finalStatus card requested
    disabled_reason :=
      if finalStatus card requested = .disabled then strip reason
      else "" }

/- `set_card_status`; an unknown card is answered with 404. -/
def setCardStatus (card_id : Nat) (status : CardStatus) (reason : String)
    (db : Db) : Db × Option Card :=
  match db.cards.find? card_id with
  | none => (db, none)
  | some card =>
    let final := finalStatus card status
    ({ db with
       cards := db.cards.updateKey card_id (statusSetCard status reason) (fun _ => rfl)
       events := db.events ++
           [{ card_id := card.id
              batch_id := card.batch_id
              sku_code := card.sku_code
              account_id := card.assigned_account_id
              event_type :=
                if final = .disabled then .adminDisable
                else .adminEnable
              result := .success
              message := orElse reason
                  (if final = .redeemed then "启用卡密，已绑定账号恢复为已兑换"
                  else "启用卡密") }] },
      some (statusSetCard status reason card))

/- The arguments of `create_batch` and the codes it draws. -/
structure BatchCall where
  name : String
  sku_code : String
  count : Int
  strict_stock_check : Bool := true
  expires_at : String := ""
  note : String := ""
  clock : Int := 0
  today : String := ""
  drawn : Nat → Nat → String

/- What `create_batch` answers. -/
inductive BatchAnswer where
| created (batch_id : Nat) (codes : List String)
| rejected (message : String)

/- The first of the remaining attempts whose code no card of the table has. -/
def drawCode (env : Environment) (drawn : Nat → String)
    (cards : CardTable) : Nat → Nat → Option String
| _, 0 => none
| attempt, attempts + 1 =>
    let code := drawn attempt
    if cards.rows.any (fun c => c.code_hash = hashCode env code) then
      drawCode env drawn cards (attempt + 1) attempts
    else some code

def freshCard (env : Environment) (batch : Batch) (code : String) (cards : CardTable) : Card where
  id := cards.nextId
  batch_id := batch.id
  sku_code := batch.sku_code
  platform := batch.platform
  code_hash := hashCode env code
  code_mask := maskCode env code
  code_prefix := batch.code_prefix
  status := .unused
  expires_at := batch.expires_at

/- The loop of `create_batch`: the remaining number of cards, the cards so far and their codes. It
   fails when twenty drawn codes are all taken. -/
def issueCards (env : Environment) (batch : Batch) (drawn : Nat → Nat → String) :
    Nat → CardTable → List String → Option (CardTable × List String)
| 0, cards, codes => some (cards, codes)
| n + 1, cards, codes =>
    match drawCode env (drawn n) cards 0 20 with
    | none => none
    | some code => issueCards env batch drawn n (cards.insertNew (freshCard env batch code cards))
          (codes ++ [code])

/- The first commit of `create_batch`. -/
def recordBatch (batch : Batch) (db : Db) : Db := { db with batches := db.batches ++ [batch] }

/- `create_batch`. -/
def createBatch (env : Environment) (call : BatchCall) (db : Db) : Db × BatchAnswer :=
  match (findSku db call.sku_code).filter Sku.enabled with
  | none => (db, .rejected "SKU 不存在或已停用")
  | some sku =>
    let count := (max 1 (min call.count 5000)).toNat
    let available := availableAccountCount env call.clock db sku
    let unused := unusedCardCount db sku.code
    if call.strict_stock_check ∧ available < unused + count
    then (db, .rejected
          (sku.name ++ " 可用账号 " ++ toString available ++ " 个，当前未兑换卡密 " ++ toString unused ++
            " 张，本次生成 " ++ toString count ++ " 张后库存不足"))
    else
      let batch : Batch :=
        { id := db.batches.length + 1,
          name := strip (orElse call.name (call.today ++ " " ++ sku.code_prefix ++ " 批次")),
          sku_code := sku.code, platform := sku.platform, code_prefix := sku.code_prefix,
          total_count := count, strict_stock_check := call.strict_stock_check,
          expires_at := strip call.expires_at, note := strip call.note }
      -- The batch stays recorded when its cards fail.
      let recorded := recordBatch batch db
      match issueCards env batch call.drawn count db.cards []
      with
      | none => (recorded, .rejected "生成卡密失败，请重试")
      | some (cards, codes) => ({ recorded with cards := cards }, .created batch.id codes)

----
-- Consistency
----

/- The `type` of a consistency issue. -/
inductive IssueType where
| redeemedWithoutAccount
| assignedAccountMissing
| accountUsageMarkerMissing
| unusedCardHasAccount
| duplicateAssignedAccount
| successLogCardMissing
| successLogAccountMismatch
| successLogCardStatusUnredeemed
deriving DecidableEq

/- The issues that `repair_consistency` acts on. -/
def IssueType.repairable : IssueType → Bool
| .accountUsageMarkerMissing => true
| .unusedCardHasAccount => true
| .successLogCardStatusUnredeemed => true
| _ => false

structure Issue where
  type : IssueType
  card_id : Nat := 0
  account_id : Nat := 0
  api_log_id : Nat := 0
  card_ids : List Nat := []
  card_account_id : Nat := 0

def cardIssues (db : Db) (card : Card) : List Issue :=
  let account_id := card.assigned_account_id
  let unbound : List Issue :=
    if card.status = .redeemed ∧ account_id = 0 then
      [{ type := .redeemedWithoutAccount, card_id := card.id }]
    else []
  if account_id = 0 then unbound
  else
    match db.accounts.find? account_id with
    | none => unbound ++
          [{ type := .assignedAccountMissing, card_id := card.id, account_id := account_id }]
    | some account =>
      let assignment_card_id :=
        (account.extra.delivery_card_assignment.map CardAssignment.card_id).getD 0
      unbound ++ (if account.extra.manually_used = false ∨ assignment_card_id ≠ card.id then
          [{ type := .accountUsageMarkerMissing, card_id := card.id, account_id := account_id }]
        else []) ++
        (if card.status = .unused then
          [{ type := .unusedCardHasAccount, card_id := card.id, account_id := account_id }]
        else [])

/- The accounts that two or more live cards hold. -/
def duplicateIssues (db : Db) : List Issue := (assignedAccountIds db.cards).eraseDups.filterMap
    fun account_id =>
      let active_rows := db.cards.rows.filter fun c =>
          c.assigned_account_id = account_id && c.status ≠ .expired
      if 1 < active_rows.length then some
          { type := .duplicateAssignedAccount, account_id := account_id,
            card_ids := active_rows.map Card.id }
      else none

/- The issues of one successful log, with its position. -/
def logIssues (db : Db) (row : ApiLog × Nat) : List Issue :=
  let log := row.1
  if log.result ≠ .success ∨ log.card_id = 0 then []
  else
    match db.cards.find? log.card_id with
    | none => [{ type := .successLogCardMissing, api_log_id := row.2, card_id := log.card_id }]
    | some card =>
      (if log.assigned_account_id ≠ 0 ∧ card.assigned_account_id ≠ log.assigned_account_id then
        [{ type := .successLogAccountMismatch, api_log_id := row.2, card_id := log.card_id,
           account_id := log.assigned_account_id, card_account_id := card.assigned_account_id }]
      else []) ++ (if card.status = .unused ∧ 0 < card.assigned_account_id then
          [{ type := .successLogCardStatusUnredeemed, api_log_id := row.2, card_id := log.card_id }]
        else [])

/- The report of `scan_consistency`. -/
structure ScanReport where
  ok : Bool
  issue_count : Nat
  repairable_count : Nat
  issues : List Issue

/- `scan_consistency`. -/
def scanConsistency (db : Db) : ScanReport :=
  let issues := db.cards.rows.flatMap (cardIssues db) ++ duplicateIssues db ++
      (db.api_logs.zipIdx 1).flatMap (logIssues db)
  { ok := issues.isEmpty, issue_count := issues.length,
    repairable_count := issues.countP (fun i => i.type.repairable), issues := issues.take 500 }

/- The card after a repair that found it unused. -/
def repairedCard (now : String) (card : Card) : Card :=
  if card.status = .unused then
    let assigned := orElse card.assigned_at now
    let first := orElse card.first_redeemed_at assigned
    { card with
      status := .redeemed, assigned_at := assigned, first_redeemed_at := first,
      last_redeemed_at := orElse card.last_redeemed_at first,
      redeem_count := max 1 card.redeem_count }
  else card

theorem repairedCard_id (now : String) (card : Card) : (repairedCard now card).id = card.id := by
  unfold repairedCard
  split <;> rfl

/- The loop of `repair_consistency`: the cards already seen and the stored state. -/
def repairIssues (now : String) :
    List Issue → List Nat → Db → Db × List Issue
| [], _, db => (db, [])
| issue :: issues, seen, db =>
    if issue.type.repairable = false ∨ issue.card_id = 0 ∨ issue.card_id ∈ seen then
      repairIssues now issues seen db
    else
      match db.cards.find? issue.card_id with
      | none => repairIssues now issues seen db
      | some card =>
        match db.accounts.find? card.assigned_account_id with
        | none => repairIssues now issues seen db
        | some account =>
          let repaired := repairedCard now card
          let result := repairIssues now issues
              (issue.card_id :: seen)
              { db with
                cards := db.cards.updateKey issue.card_id (repairedCard now) (repairedCard_id now)
                accounts := markAssigned db.accounts account repaired
                    (orElse repaired.assigned_at now)
                events := db.events ++
                    [{ card_id := card.id, batch_id := card.batch_id, sku_code := card.sku_code,
                       account_id := card.assigned_account_id,
                       event_type := .adminConsistencyRepair, result := .success,
                       message := "一致性修复：恢复卡密状态/账号已使用标记" }] }
          (result.1, issue :: result.2)

/- `repair_consistency`, with the issues it repaired. -/
def repairConsistency (now : String) (db : Db) :
    Db × List Issue :=
  repairIssues now (scanConsistency db).issues [] db

----
-- The Service As A Machine
----

/- One transaction of the service, or an edit of the tables and settings that other parts of the
   program own. -/
inductive Op where
| redeem (call : RedeemCall)
| setCardStatus (card_id : Nat) (status : CardStatus)
    (reason : String)
| createBatch (call : BatchCall)
| repairConsistency (now : String)
| editAccounts (accounts : AccountTable)
| editSkus (skus : List Sku)
| configure (settings : Settings)

inductive Answer where
| redeem (answer : RedeemAnswer)
| card (card : Option Card)
| batch (answer : BatchAnswer)
| repaired (issues : List Issue)
| edited

def step (env : Environment) (db : Db) : Op → Db × Answer
| .redeem call =>
    let r := redeemCard env call db
    (r.1, .redeem r.2)
| .setCardStatus card_id status reason =>
    let r := setCardStatus card_id status reason db
    (r.1, .card r.2)
| .createBatch call =>
    let r := createBatch env call db
    (r.1, .batch r.2)
| .repairConsistency now =>
    let r := repairConsistency now db
    (r.1, .repaired r.2)
| .editAccounts accounts => ({ db with accounts := accounts }, .edited)
| .editSkus skus => ({ db with skus := skus }, .edited)
| .configure settings => ({ db with settings := settings }, .edited)

/- The stored state after a sequence of transactions. -/
abbrev run (env : Environment) (db : Db) (ops : List Op) : Db := Machine.run (step env) db ops

end DeliveryCards
