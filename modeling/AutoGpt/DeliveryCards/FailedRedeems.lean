import AutoGpt.DeliveryCards.Service

/-
  Redemptions that fail. They keep the accounts, and of the
  cards all but a note of the failure, so the status
  `expired` that `redeem_card` gives to an unused card past
  its date is rolled back with the error it raises.

  Main theorems: `redeemCard_failed`, `failureAtomic_iff`
-/

open List
open KeyedTable

----
-- Expiry Dates
----

namespace DeliveryCards

/- What `datetime.fromisoformat` reads: a local time and its
   offset from UTC, if the text has one. -/
structure IsoTime where
  local_time : Int
  utcoffset : Option Int

/- `is_expired_text`; `clock` is `utcnow()`. -/
def isExpiredText (fromisoformat : String → Option IsoTime) (value : String) (clock : Int) : Bool :=
  let text_value := PyText.strip value
  if text_value = "" then false
  else
    let normalized :=
      if text_value.toList.getLast? = some 'Z' then
        String.ofList text_value.toList.dropLast ++ "+00:00"
      else text_value
    match fromisoformat normalized with
    | none => false
    | some dt => dt.local_time - dt.utcoffset.getD 0 < clock

/- An environment that reads its dates in this way. -/
def Environment.readingDates (env : Environment) (fromisoformat : String → Option IsoTime) :
    Environment :=
  { env with is_expired_text := isExpiredText fromisoformat }

----
-- Failure Atomicity
----

structure Standing where
  id : Nat
  assigned_account_id : Nat
  assigned_email_snapshot : String
  assigned_at : String
  status : CardStatus
  redeem_count : Nat
  delivery_payload_json : Option Payload

def Card.standing (card : Card) : Standing where
  id := card.id
  assigned_account_id := card.assigned_account_id
  assigned_email_snapshot := card.assigned_email_snapshot
  assigned_at := card.assigned_at
  status := card.status
  redeem_count := card.redeem_count
  delivery_payload_json := card.delivery_payload_json

/- The unused card past its date that a request with a valid token finds by its code, under a SKU
   that is enabled. -/
def expiredCard (env : Environment) (call : RedeemCall) (db : Db) : Option Card :=
  if call.gateError.isSome ∨ normalizeCode env call.code = ""
  then none
  else
    (cardOfCall env call db).filter fun card =>
      ((findSku db card.sku_code).filter Sku.enabled).isSome && card.status = .unused &&
        env.is_expired_text card.expires_at call.clock

/- The card is stored as `expired`, every other as it was. -/
def standingAfter (expired : Option Card) (card : Card) :
    Standing :=
  if expired = some card then { card.standing with status := .expired }
  else card.standing

/- A request that fails keeps all accounts and the standing of every card, except for an unused card
   past its date: that one is stored as expired and no longer counted as unused. -/
def FailureAtomic (env : Environment) (call : RedeemCall) (db : Db) : Prop :=
  ∀ code message, (redeemCard env call db).2 = .failure code message →
    (redeemCard env call db).1.accounts = db.accounts ∧ (redeemCard env call db).1.cards.rows.map
          Card.standing = db.cards.rows.map (standingAfter (expiredCard env call db)) ∧
      ∀ sku_code, unusedCardCount (redeemCard env call db).1 sku_code =
          db.cards.rows.countP fun card => card.sku_code = sku_code && card.status = .unused &&
              expiredCard env call db ≠ some card

----
-- What A Failed Request Writes
----

variable {db next : Db}

/- Accounts are kept, and cards up to their failure note. -/
structure FailureKept (db next : Db) : Prop where
  accounts : next.accounts = db.accounts
  cards : ∃ note : Card → Card, next.cards.rows = db.cards.rows.map note ∧
        ∀ card, (note card).standing = card.standing ∧ (note card).sku_code = card.sku_code

theorem FailureKept.of_same (hAccounts : next.accounts = db.accounts)
    (hCards : next.cards = db.cards) : FailureKept db next := by
  refine ⟨hAccounts, id, ?_, fun card => ⟨rfl, rfl⟩⟩
  rw [hCards, map_id]

theorem rows_failedCard (card_id : Nat) :
    (db.cards.updateKey card_id (failedCard call)
        (fun _ => rfl)).rows =
      db.cards.rows.map fun card =>
        if card.id = card_id then failedCard call card
        else card := by
  unfold updateKey updateWhere
  simp only [decide_eq_true_eq]

theorem redeemUnused_failed
    (hFailed : (redeemUnused env call db card sku).2 = .failure code message) :
    FailureKept db (redeemUnused env call db card sku).1 := by
  unfold redeemUnused at hFailed ⊢
  dsimp only at hFailed ⊢
  split
  next hEmpty =>
    refine ⟨rfl, _, rows_failedCard card.id, ?_⟩
    intro other
    split
    · exact ⟨rfl, rfl⟩
    · exact ⟨rfl, rfl⟩
  next account hPicked =>
    rw [hPicked] at hFailed
    dsimp only at hFailed
    split
    · exact FailureKept.of_same rfl rfl
    next hFree =>
      rw [if_neg hFree] at hFailed
      cases hFailed

theorem redeemRedeemed_answers (hOk : redeemRedeemed call db card sku = .ok (next, answer)) :
    ∃ response, answer = .success response := by
  unfold redeemRedeemed at hOk
  dsimp only at hOk
  split at hOk
  · cases hOk
    exact ⟨_, rfl⟩
  split at hOk
  · cases hOk
  split at hOk
  · cases hOk
  · cases hOk
    exact ⟨_, rfl⟩

theorem redeemLocked_failed (hOk : redeemLocked env call db = .ok (next, .failure code message)) :
    FailureKept db next := by
  unfold redeemLocked at hOk
  split at hOk
  · cases hOk
  split at hOk
  · cases hOk
  split at hOk
  · cases hOk
  · cases hOk
  · cases hOk
  · rcases redeemRedeemed_answers hOk with ⟨response, hBad⟩
    cases hBad
  · split at hOk
    · cases hOk
    · rw [Except.ok.injEq] at hOk
      have hKept := redeemUnused_failed (congrArg Prod.snd hOk)
      rw [hOk] at hKept
      exact hKept

theorem redeemCard_failed (hFailed : (redeemCard env call db).2 = .failure code message) :
    FailureKept db (redeemCard env call db).1 := by
  unfold redeemCard at hFailed ⊢
  split
  · exact FailureKept.of_same rfl rfl
  next hGate =>
    rw [hGate] at hFailed
    split
    · exact FailureKept.of_same rfl rfl
    next hCode =>
      rw [if_neg hCode] at hFailed
      split
      · exact FailureKept.of_same rfl rfl
      next next answer hOk =>
        rw [hOk] at hFailed
        split
        next hRaised =>
          rw [hRaised] at hFailed
          dsimp only at hFailed
          rw [hFailed] at hOk
          exact redeemLocked_failed hOk
        · exact FailureKept.of_same rfl rfl

theorem redeemCard_expired (hExpired : expiredCard env call db = some card) :
    card ∈ db.cards.rows ∧ card.status = .unused ∧
      ∃ code message, (redeemCard env call db).2 = .failure code message := by
  unfold expiredCard at hExpired
  split at hExpired
  · cases hExpired
  next hOpen =>
    rw [not_or, Bool.not_eq_true, Option.isSome_eq_false_iff, Option.isNone_iff_eq_none] at hOpen
    rcases Option.filter_eq_some_iff.mp hExpired with ⟨hFound, hIs⟩
    rw [Bool.and_eq_true, Bool.and_eq_true, decide_eq_true_eq] at hIs
    rcases hIs with ⟨⟨hSku, hUnused⟩, hPast⟩
    rcases Option.isSome_iff_exists.mp hSku with ⟨sku, hSku⟩
    refine ⟨mem_of_find?_eq_some hFound, hUnused, ?_⟩
    have hLocked : redeemLocked env call db = .error
            { code := .cardExpired, message := "卡密已过首次兑换有效期", context := some card } := by
      unfold redeemLocked
      rw [hFound]
      dsimp only
      rw [hSku]
      rw [hUnused]
      dsimp only
      rw [if_pos hPast]
    refine ⟨publicErrorCode env db.settings .cardExpired, "卡密已过首次兑换有效期", ?_⟩
    unfold redeemCard
    rw [hOpen.1]
    rw [if_neg hOpen.2, hLocked]
    rfl

theorem not_failureAtomic_of_expired (hExpired : expiredCard env call db = some card) :
    ¬ FailureAtomic env call db := by
  intro hAtomic
  rcases redeemCard_expired hExpired with ⟨hMem, hUnused, code, message, hFailed⟩
  have hStored := (hAtomic code message hFailed).2.1
  rcases (redeemCard_failed hFailed).cards with ⟨note, hRows, hNote⟩
  rw [hRows, map_map, map_inj_left] at hStored
  have hCard := congrArg Standing.status (hStored card hMem)
  rw [Function.comp_apply, (hNote card).1, hExpired, standingAfter, if_pos rfl] at hCard
  change card.status = .expired at hCard
  rw [hUnused] at hCard
  cases hCard

theorem failureAtomic_of_none (hNone : expiredCard env call db = none) :
    FailureAtomic env call db := by
  intro code message hFailed
  have hKept := redeemCard_failed hFailed
  rcases hKept.cards with ⟨note, hRows, hNote⟩
  rw [hNone]
  refine ⟨hKept.accounts, ?_, ?_⟩
  · rw [hRows, map_map]
    apply map_congr_left
    intro card _
    exact (hNote card).1
  · intro sku_code
    unfold unusedCardCount
    rw [hRows, countP_map]
    apply countP_congr
    intro card _
    have hStatus : (note card).status = card.status := congrArg Standing.status (hNote card).1
    rw [Function.comp_apply, (hNote card).2, hStatus]
    simp

/- A failing request is atomic exactly when it does not fail on an unused card past its date. -/
theorem failureAtomic_iff (env : Environment) (fromisoformat : String → Option IsoTime)
    (call : RedeemCall) (db : Db) :
    FailureAtomic (env.readingDates fromisoformat) call db ↔
      expiredCard (env.readingDates fromisoformat) call db = none := by
  generalize env.readingDates fromisoformat = env
  constructor
  · intro hAtomic
    cases hExpired : expiredCard env call db with
    | none => rfl
    | some card => exact absurd hAtomic (not_failureAtomic_of_expired hExpired)
  · exact failureAtomic_of_none

/- The date of the card below, in seconds. -/
def readsOneDate (text : String) : Option IsoTime :=
  if text = "2020-01-01" then some { local_time := 1577836800, utcoffset := none }
  else none

/- A card whose first redemption came too late. -/
def lateCard : Card where
  id := 1
  batch_id := 1
  sku_code := "plus"
  platform := "chatgpt"
  code_hash := hashCode plainEnvironment "A"
  code_mask := "****"
  code_prefix := "A"
  status := .unused
  expires_at := "2020-01-01"

def lateDb : Db where
  cards := empty.insertNew lateCard
  accounts := empty
  skus :=
    [{ code := "plus", name := "PLUS", platform := "chatgpt", code_prefix := "A",
       delivery_profile := "chatgpt_basic", sort_policy := "earliest_expiry", allow_refetch := true,
       max_refetch_count := 0, enabled := true }]
  batches := []
  events := []
  api_logs := []
  settings := { failure_mode := "safe", plus_sort_policy := none, free_sort_policy := none }

/- The late card stays unused. -/
theorem late_redeem_not_atomic :
    ¬ FailureAtomic (plainEnvironment.readingDates readsOneDate)
        { code := "A", clock := 1700000000, now := "t1" }
        lateDb := by
  have hExpired : expiredCard (plainEnvironment.readingDates readsOneDate)
          { code := "A", clock := 1700000000, now := "t1" }
          lateDb =
        some lateCard := by
    decide
  exact not_failureAtomic_of_expired hExpired

end DeliveryCards
