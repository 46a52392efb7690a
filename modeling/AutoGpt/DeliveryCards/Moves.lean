import AutoGpt.DeliveryCards.Service
import Mathlib.Logic.Relation

/-
  What a transaction can do to the cards and the event log.
  Every transaction is a sequence of moves, and a move is one
  of a handful of effects on one card together with the event
  it writes. The invariants of cards and events are read off
  the moves, not off the code.

  Main declarations:
    * `DeliveryCards.CardEffect`
    * `DeliveryCards.CardMove`
    * `DeliveryCards.step_moves`
-/

open KeyedTable

----
-- Effects And Moves
----

namespace DeliveryCards

def Event.isDelivery (e : Event) : Bool :=
  (e.event_type = .firstRedeem || e.event_type = .refetch) && e.result = .success

/- The event is the successful use of a key on a card. -/
def Event.uses (e : Event) (card_id : Nat) (key : String) :
    Bool :=
  e.card_id = card_id && e.idempotency_key = key && e.result = .success

/- Two card records agree on what was delivered. -/
structure SameDelivery (card next : Card) : Prop where
  assigned : next.assigned_account_id = card.assigned_account_id
  payload : next.delivery_payload_json = card.delivery_payload_json

/- What happens to one card and which event reports it, where `requests` are the statuses an
   administrator asks for. -/
inductive CardEffect (requests : CardStatus → Prop) (db : Db) (card next : Card)
    (event : Event) : Prop where
| noted
    (hSame : SameDelivery card next) (hStatus : next.status = card.status)
    (hCount : next.redeem_count = card.redeem_count) (hEvent : event.isDelivery = false)
    (hKey : event.result = .success → event.idempotency_key = "")
| delivered
    (hUnused : card.status = .unused)
    (hFree : next.assigned_account_id ∉ assignedAccountIds db.cards)
    (hPos : 0 < next.assigned_account_id) (hStatus : next.status = .redeemed)
    (hCount : next.redeem_count = 1) (hEvent : event.isDelivery)
    (hSequence : event.delivery_sequence = 1)
| refetched
    (hRedeemed : card.status = .redeemed) (hSame : SameDelivery card next)
    (hStatus : next.status = .redeemed) (hCount : next.redeem_count = card.redeem_count + 1)
    (hEvent : event.isDelivery) (hSequence : event.delivery_sequence = card.redeem_count + 1)
    (hNew :
      event.idempotency_key ≠ "" → ∀ e ∈ db.events, e.uses card.id event.idempotency_key = false)
| statusSet
    (requested : CardStatus) (hRequested : requests requested) (hSame : SameDelivery card next)
    (hStatus : next.status = finalStatus card requested)
    (hCount : next.redeem_count = card.redeem_count) (hEvent : event.isDelivery = false)
    (hKey : event.idempotency_key = "")
| restored
    (hUnused : card.status = .unused) (hHeld : 0 < card.assigned_account_id)
    (hSame : SameDelivery card next) (hStatus : next.status = .redeemed)
    (hEvent : event.isDelivery = false) (hKey : event.idempotency_key = "")

/- One move on the cards and the events of the store. -/
inductive CardMove (requests : CardStatus → Prop) (db next : Db) : Prop where
| unchanged
    (hCards : next.cards = db.cards) (hEvents : next.events = db.events)
| updated
    (card : Card) (f : Card → Card) (hId : ∀ c, (f c).id = c.id) (event : Event)
    (hFind : db.cards.find? card.id = some card)
    (hCards : next.cards = db.cards.updateKey card.id f hId)
    (hEvents : next.events = db.events ++ [event]) (hCard : event.card_id = card.id)
    (hEffect : CardEffect requests db card (f card) event)
| issued
    (card : Card) (hNew : db.cards.find? card.id = none) (hUnused : card.status = .unused)
    (hFree : card.assigned_account_id = 0) (hCount : card.redeem_count = 0)
    (hCards : next.cards = db.cards.insertNew card) (hEvents : next.events = db.events)

abbrev CardMoves (requests : CardStatus → Prop) :
    Db → Db → Prop :=
  Relation.ReflTransGen (CardMove requests)

/- The statuses that a transaction asks for. -/
def Op.requests : Op → CardStatus → Prop
| .setCardStatus _ status _, requested => requested = status
| _, _ => False

----
-- Moves Of The Redemption
----

theorem not_assigned_of_pickNext
    (hPick : (pickNextAccountForSku env clock db sku).1 = some account) :
    account.id ∉ assignedAccountIds db.cards := by
  have hSorted := List.mem_of_mem_head? hPick
  rw [List.mem_insertionSort] at hSorted
  have hEligible := (List.mem_filter.mp hSorted).2
  unfold isAccountEligibleForSku at hEligible
  intro hAssigned
  simp [hAssigned] at hEligible

theorem uses_eq_false_of_findSuccess_none
    (hNone : findSuccessIdempotentEvent events card_id key = none) (hKey : PyText.strip key = key)
    (hNonempty : key ≠ "") : ∀ e ∈ events, e.uses card_id key = false := by
  simp only [findSuccessIdempotentEvent, hKey, hNonempty, if_false] at hNone
  intro e he
  have hNot := List.find?_eq_none.mp hNone e he
  simpa [Event.uses] using hNot

theorem strip_key (call : RedeemCall) : PyText.strip call.key = call.key := PyText.strip_strip _

theorem redeemRedeemed_move (hFind : db.cards.find? card.id = some card)
    (hStatus : card.status = .redeemed)
    (hOk : redeemRedeemed call db card sku = .ok (next, answer)) : CardMove requests db next := by
  unfold redeemRedeemed at hOk
  dsimp only at hOk
  split at hOk
  · cases hOk
    exact .unchanged rfl rfl
  next hNone =>
    split at hOk
    · cases hOk
    · split at hOk
      · cases hOk
      · cases hOk
        refine .updated card (refetchedCard call) (fun _ => rfl) _ hFind rfl rfl rfl ?_
        refine .refetched hStatus ?_ hStatus rfl rfl rfl ?_
        · exact ⟨rfl, rfl⟩
        · intro hNonempty
          exact uses_eq_false_of_findSuccess_none hNone (strip_key call) hNonempty

theorem redeemUnused_move (env : Environment) (call : RedeemCall) (db : Db) (sku : Sku)
    (hFind : db.cards.find? card.id = some card)
    (hStatus : card.status = .unused) :
    CardMove requests db (redeemUnused env call db card sku).1 := by
  unfold redeemUnused
  dsimp only
  split
  · refine .updated card (failedCard call) (fun _ => rfl)
      _ hFind rfl rfl rfl ?_
    exact .noted ⟨rfl, rfl⟩ rfl rfl rfl (fun h => by cases h)
  next account hPick =>
    split
    · exact .unchanged rfl rfl
    · let chosen := refreshSortPolicy db.settings sku
      refine .updated card
        (deliveredCard call account
          { account := env.build_delivery_payload account chosen,
            profile := chosen.delivery_profile, sku_code := chosen.code, created_at := call.now })
        (fun _ => rfl) _ hFind rfl rfl rfl ?_
      exact .delivered hStatus (not_assigned_of_pickNext hPick) account.id_pos rfl rfl rfl rfl

theorem redeemLocked_move (hOk : redeemLocked env call db = .ok (next, answer)) :
    CardMove requests db next := by
  unfold redeemLocked at hOk
  split at hOk
  · cases hOk
  next card hCode =>
    have hFind := find?_of_mem (List.mem_of_find?_eq_some hCode)
    split at hOk
    · cases hOk
    next sku _ =>
      split at hOk
      · cases hOk
      · cases hOk
      · cases hOk
      next hStatus =>
        exact redeemRedeemed_move hFind hStatus hOk
      next hStatus =>
        split at hOk
        · cases hOk
        · have hMove : CardMove requests db (redeemUnused env call db card sku).1 :=
            redeemUnused_move env call db sku hFind hStatus
          rw [Except.ok.injEq] at hOk
          rw [hOk] at hMove
          exact hMove

theorem redeemCard_move (env : Environment) (call : RedeemCall) (db : Db) :
    CardMove requests db (redeemCard env call db).1 := by
  unfold redeemCard
  split
  · exact .unchanged rfl rfl
  · split
    · exact .unchanged rfl rfl
    · split
      · exact .unchanged rfl rfl
      next next answer hOk =>
        split
        · exact redeemLocked_move hOk
        · exact .unchanged rfl rfl

----
-- Moves Of The Administration
----

theorem setCardStatus_move (card_id : Nat) (status : CardStatus) (reason : String) (db : Db)
    (hRequested : requests status) :
    CardMove requests db (setCardStatus card_id status reason db).1 := by
  unfold setCardStatus
  split
  · exact .unchanged rfl rfl
  next card hFind =>
    have hId := (mem_of_find? hFind).2
    subst hId
    refine .updated card (statusSetCard status reason) (fun _ => rfl) _ hFind rfl rfl rfl ?_
    refine .statusSet status hRequested ⟨rfl, rfl⟩ rfl rfl ?_
      rfl
    split <;> rfl

theorem issueCards_moves (db : Db)
    (hIssue : issueCards env batch drawn n cards codes = some (cards', codes')) :
    CardMoves requests { db with cards := cards } { db with cards := cards' } := by
  induction n generalizing cards codes with
  | zero =>
    simp only [issueCards, Option.some.injEq, Prod.mk.injEq] at hIssue
    rw [hIssue.1]
  | succ n ih =>
    simp only [issueCards] at hIssue
    split at hIssue
    · cases hIssue
    next code _ =>
      refine Relation.ReflTransGen.head ?_ (ih hIssue)
      exact .issued (freshCard env batch code cards) cards.find?_nextId rfl rfl rfl rfl rfl

theorem createBatch_moves (env : Environment) (call : BatchCall) (db : Db) :
    CardMoves requests db (createBatch env call db).1 := by
  unfold createBatch
  split
  · exact .refl
  · dsimp only
    split
    · exact .refl
    · split
      · exact .single (.unchanged rfl rfl)
      next hIssue =>
        refine Relation.ReflTransGen.head ?_ (issueCards_moves (recordBatch _ db) hIssue)
        exact .unchanged rfl rfl

theorem repairIssues_moves (now : String) (issues : List Issue) (seen : List Nat) (db : Db) :
    CardMoves requests db (repairIssues now issues seen db).1 := by
  induction issues generalizing seen db with
  | nil => exact .refl
  | cons issue issues ih =>
    unfold repairIssues
    split
    · exact ih seen db
    · split
      · exact ih seen db
      next card hFind =>
        have hId := (mem_of_find? hFind).2
        split
        · exact ih seen db
        next account hAccount =>
          have hHeld : 0 < card.assigned_account_id := by
            rw [← (mem_of_find? hAccount).2]
            exact account.id_pos
          refine Relation.ReflTransGen.head ?_ (ih _ _)
          rw [← hId] at hFind
          refine .updated card (repairedCard now)
            (repairedCard_id now) _ hFind (by rw [hId])
            rfl rfl ?_
          by_cases hUnused : card.status = .unused
          · apply CardEffect.restored hUnused hHeld
            · unfold repairedCard
              rw [if_pos hUnused]
              exact ⟨rfl, rfl⟩
            · unfold repairedCard
              rw [if_pos hUnused]
            · rfl
            · rfl
          · have hSame : repairedCard now card = card := by
              unfold repairedCard
              rw [if_neg hUnused]
            rw [hSame]
            exact .noted ⟨rfl, rfl⟩ rfl rfl rfl (fun _ => rfl)

theorem step_moves (env : Environment) (db : Db) (op : Op) :
    CardMoves op.requests db (step env db op).1 := by
  cases op with
  | redeem call => exact .single (redeemCard_move env call db)
  | setCardStatus card_id status reason =>
    exact .single (setCardStatus_move card_id status reason db rfl)
  | createBatch call => exact createBatch_moves env call db
  | repairConsistency now => exact repairIssues_moves now _ _ db
  | editAccounts accounts => exact .single (.unchanged rfl rfl)
  | editSkus skus => exact .single (.unchanged rfl rfl)
  | configure settings => exact .single (.unchanged rfl rfl)

/- What every move preserves, every transaction preserves. -/
theorem step_induction {P : Db → Prop} (env : Environment) (op : Op)
    (hMove : ∀ d d', P d → CardMove op.requests d d' → P d') (hInit : P db) :
    P (step env db op).1 := by
  have hMoves := step_moves env db op
  generalize (step env db op).1 = next at hMoves
  induction hMoves with
  | refl => exact hInit
  | tail _ hLast ih => exact hMove _ _ ih hLast

end DeliveryCards
