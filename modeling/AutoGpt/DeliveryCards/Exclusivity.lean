import AutoGpt.DeliveryCards.Moves
import AutoGpt.Library.Allocation

/-
  The cards as an allocation of accounts: what a card holds
  is its account and payload. Every transaction refines steps
  of the allocation, so accounts are never shared and no
  card ever loses or exchanges what it holds.

  Main declarations:
    * `DeliveryCards.deliveryOf`
    * `DeliveryCards.UnusedFree`
    * `DeliveryCards.allocation_step_of_move`
-/

open KeyedTable (empty find?_of_mem find?_updateKey_self mem_of_find?)
open Allocation (Extends Step)
open KeyedTable
open Machine

----
-- Cards As An Allocation
----

namespace DeliveryCards

/- The account and the payload that a card holds. -/
def heldBy (card : Card) : Option (Nat × Option Payload) :=
  if 0 < card.assigned_account_id then some (card.assigned_account_id, card.delivery_payload_json)
  else none

def deliveryOf (db : Db) :
    Allocation Nat (Nat × Option Payload) :=
  fun id => (db.cards.find? id).bind heldBy

def UnusedFree (db : Db) : Prop :=
  ∀ card ∈ db.cards.rows, card.status = .unused → card.assigned_account_id = 0

theorem heldBy_of_sameDelivery {card next : Card} (hSame : SameDelivery card next) :
    heldBy next = heldBy card := by
  unfold heldBy
  rw [hSame.assigned, hSame.payload]

theorem mem_assignedAccountIds_of_deliveryOf {db : Db} {id : Nat}
    (hHeld : deliveryOf db id = some content) : content.1 ∈ assignedAccountIds db.cards := by
  rcases Option.bind_eq_some_iff.mp hHeld with ⟨card, hFind, hCard⟩
  unfold heldBy at hCard
  split_ifs at hCard with hPos
  cases hCard
  unfold assignedAccountIds
  rw [List.mem_filter]
  refine ⟨?_, by simpa using hPos⟩
  exact List.mem_map_of_mem (mem_of_find? hFind).1

theorem deliveryOf_of_mem {db : Db} {card : Card} (hCard : card ∈ db.cards.rows)
    (hPos : 0 < card.assigned_account_id) :
    deliveryOf db card.id = some (card.assigned_account_id, card.delivery_payload_json) := by
  unfold deliveryOf
  rw [find?_of_mem hCard, Option.bind_some, heldBy, if_pos hPos]

theorem exists_card_of_deliveryOf {db : Db} {id account : Nat}
    (hHeld : deliveryOf db id = some (account, payload)) :
    ∃ card, db.cards.find? id = some card ∧ card.assigned_account_id = account ∧
      card.delivery_payload_json = payload := by
  rcases Option.bind_eq_some_iff.mp hHeld with ⟨card, hFind, hCard⟩
  unfold heldBy at hCard
  split_ifs at hCard with hPos
  cases hCard
  exact ⟨card, hFind, rfl, rfl⟩

----
-- Moves Refine Allocation Steps
----

theorem deliveryOf_updateKey (hFind : db.cards.find? card.id = some card)
    (hCards : next.cards = db.cards.updateKey card.id f hId) (id : Nat) :
    deliveryOf next id =
      if id = card.id then heldBy (f card)
      else deliveryOf db id := by
  unfold deliveryOf
  rw [hCards]
  by_cases hSame : id = card.id
  · rw [if_pos hSame, hSame, find?_updateKey_self, hFind]
    rfl
  · rw [if_neg hSame, find?_updateKey_of_ne _ _ _ hSame]

theorem allocation_keep_of_sameDelivery (hFind : db.cards.find? card.id = some card)
    (hCards : next.cards = db.cards.updateKey card.id f hId) (hSame : SameDelivery card (f card)) :
    Step Prod.fst (deliveryOf db) (deliveryOf next) := by
  apply Step.keep
  intro id
  rw [deliveryOf_updateKey hFind hCards]
  split
  next hEq =>
    rw [heldBy_of_sameDelivery hSame, hEq, deliveryOf, hFind]
    rfl
  · rfl

/- One effect refines an allocation step: the first delivery assigns a free account, all others
   leave the allocation. -/
theorem allocation_step_of_effect {card : Card} (hUnusedFree : UnusedFree db)
    (hFind : db.cards.find? card.id = some card)
    (hCards : next.cards = db.cards.updateKey card.id f hId)
    (hEffect : CardEffect requests db card (f card) event) :
    Step Prod.fst (deliveryOf db) (deliveryOf next) := by
  have hUpdate := deliveryOf_updateKey hFind hCards
  cases hEffect with
  | noted hSame => exact allocation_keep_of_sameDelivery hFind hCards hSame
  | refetched _ hSame => exact allocation_keep_of_sameDelivery hFind hCards hSame
  | statusSet _ _ hSame => exact allocation_keep_of_sameDelivery hFind hCards hSame
  | restored _ _ hSame => exact allocation_keep_of_sameDelivery hFind hCards hSame
  | delivered hUnused hFree hPos =>
    have hCard := (mem_of_find? hFind).1
    have hNone := hUnusedFree card hCard hUnused
    apply Step.assign card.id ((f card).assigned_account_id, (f card).delivery_payload_json)
    · simp [deliveryOf, hFind, heldBy, hNone]
    · intro id content hHeld hSame
      apply hFree
      change content.1 = (f card).assigned_account_id at hSame
      rw [← hSame]
      exact mem_assignedAccountIds_of_deliveryOf hHeld
    · rw [hUpdate, if_pos rfl, heldBy, if_pos hPos]
    · intro id hNe
      rw [hUpdate, if_neg hNe]

theorem allocation_step_of_move (hUnusedFree : UnusedFree db) (hMove : CardMove requests db next) :
    Step Prod.fst (deliveryOf db) (deliveryOf next) := by
  cases hMove with
  | unchanged hCards =>
    apply Step.keep
    intro id
    rw [deliveryOf, deliveryOf, hCards]
  | updated card f hId event hFind hCards hEvents hCard
      hEffect =>
      exact allocation_step_of_effect hUnusedFree hFind hCards hEffect
  | issued card hNew hUnused hFree hCount hCards =>
    apply Step.keep
    intro id
    unfold deliveryOf
    rw [hCards, find?_insertNew _ hNew]
    split
    next hEq =>
      rw [← hEq, hNew]
      simp [heldBy, hFree]
    · rfl

theorem free_of_effect (hBefore : card.status = .unused → card.assigned_account_id = 0)
    (hEffect : CardEffect requests db card card' event) (hUnused : card'.status = .unused) :
    card'.assigned_account_id = 0 := by
  cases hEffect with
  | noted hSame hStatus =>
    rw [hSame.assigned]
    exact hBefore (hStatus ▸ hUnused)
  | delivered _ _ _ hStatus =>
    rw [hStatus] at hUnused
    cases hUnused
  | refetched _ _ hStatus =>
    rw [hStatus] at hUnused
    cases hUnused
  | restored _ _ _ hStatus =>
    rw [hStatus] at hUnused
    cases hUnused
  | statusSet requested _ hSame hStatus =>
    rw [hStatus, finalStatus] at hUnused
    split_ifs at hUnused with hDelivered
    rw [hSame.assigned]
    by_contra hHeld
    exact hDelivered ⟨hUnused, Nat.pos_of_ne_zero hHeld⟩

theorem unusedFree_of_move (hUnusedFree : UnusedFree db) (hMove : CardMove requests db next) :
    UnusedFree next := by
  intro row hRow hUnused
  cases hMove with
  | unchanged hCards =>
    rw [hCards] at hRow
    exact hUnusedFree row hRow hUnused
  | updated card f hId event hFind hCards hEvents hCard
      hEffect =>
      rw [hCards] at hRow
      rcases mem_rows_updateKey hRow with ⟨old, hOld, hSelf⟩ | ⟨_, hOld⟩
      · rw [hFind, Option.some.injEq] at hOld
        rw [hSelf, ← hOld] at hUnused ⊢
        have hMem := (mem_of_find? hFind).1
        exact free_of_effect (hUnusedFree card hMem) hEffect hUnused
      · exact hUnusedFree row hOld hUnused
  | issued card hNew _ hFree hCount hCards =>
    rw [hCards, rows_insertNew _ hNew, List.mem_append, List.mem_singleton] at hRow
    rcases hRow with hOld | hFresh
    · exact hUnusedFree row hOld hUnused
    · rw [hFresh]
      exact hFree

----
-- Exclusive And Frozen Assignments
----

structure AllocationInv (db : Db) : Prop where
  unusedFree : UnusedFree db
  exclusive : Allocation.Exclusive Prod.fst (deliveryOf db)

theorem allocationInv_step (env : Environment) (db : Db) (op : Op) (hInv : AllocationInv db) :
    AllocationInv (step env db op).1 := by
  refine step_induction env op ?_ hInv
  intro d d' hBefore hMove
  constructor
  · exact unusedFree_of_move hBefore.unusedFree hMove
  · exact Step.exclusive hBefore.exclusive (allocation_step_of_move hBefore.unusedFree hMove)

theorem extends_step (env : Environment) (db : Db) (op : Op) (hInv : AllocationInv db) :
    Extends (deliveryOf db) (deliveryOf (step env db op).1) := by
  have hBoth := step_induction env op
      (P := fun d => UnusedFree d ∧ Extends (deliveryOf db) (deliveryOf d))
      (fun d d' hBefore hMove => ⟨unusedFree_of_move hBefore.1 hMove,
          hBefore.2.trans (allocation_step_of_move hBefore.1 hMove).extends⟩)
      ⟨hInv.unusedFree, Extends.refl _⟩
  exact hBoth.2

theorem allocationInv_of_no_assignments
    (hStart : ∀ card ∈ db.cards.rows, card.assigned_account_id = 0) : AllocationInv db := by
  constructor
  · intro card hCard _
    exact hStart card hCard
  · intro id id' content content' hHeld
    rcases exists_card_of_deliveryOf hHeld with ⟨card, hFind, hAccount, _⟩
    have hIds := mem_assignedAccountIds_of_deliveryOf hHeld
    unfold assignedAccountIds at hIds
    rw [List.mem_filter, ← hAccount, hStart card (mem_of_find? hFind).1] at hIds
    simp at hIds

/- From a store without assignments, in every state that a run reaches: no two cards hold one
   account, a card that holds an account keeps its account and payload in every later state, no
   unused card holds an account, and a card with an account that is enabled comes back as redeemed.
   -/
theorem assignments_exclusive_and_frozen (env : Environment) (db : Db) (ops later : List Op)
    (hStart : ∀ card ∈ db.cards.rows, card.assigned_account_id = 0) :
    (∀ card ∈ (run env db ops).cards.rows, ∀ other ∈ (run env db ops).cards.rows,
        0 < card.assigned_account_id → card.assigned_account_id = other.assigned_account_id →
        card.id = other.id) ∧
    (∀ card ∈ (run env db ops).cards.rows, 0 < card.assigned_account_id → ∃ next,
        (run env db (ops ++ later)).cards.find? card.id = some next ∧
        next.assigned_account_id = card.assigned_account_id ∧
        next.delivery_payload_json = card.delivery_payload_json) ∧
    (∀ card ∈ (run env db ops).cards.rows, card.status = .unused → card.assigned_account_id = 0) ∧
    (∀ card ∈ (run env db ops).cards.rows, 0 < card.assigned_account_id → ∀ reason, ∃ next,
        (step env (run env db ops)
          (.setCardStatus card.id .unused reason)).1.cards.find? card.id = some next ∧
        next.status = .redeemed) := by
  have hInv := run_induction (fun d op h => allocationInv_step env d op h)
      (allocationInv_of_no_assignments hStart) ops
  refine ⟨?_, ?_, hInv.unusedFree, ?_⟩
  · intro card hCard other hOther hPos hSame
    exact hInv.exclusive card.id other.id _ _ (deliveryOf_of_mem hCard hPos)
      (deliveryOf_of_mem hOther (hSame ▸ hPos)) hSame
  · intro card hCard hPos
    have hExtends := run_rel (R := fun d d' => Extends (deliveryOf d) (deliveryOf d'))
        (fun d => Extends.refl _) (fun _ _ _ => Extends.trans)
        (fun d op h => allocationInv_step env d op h)
        (fun d op h => extends_step env d op h) hInv later
    rw [run, run_append]
    exact exists_card_of_deliveryOf (hExtends card.id _ (deliveryOf_of_mem hCard hPos))
  · intro card hCard hPos reason
    have hFind := find?_of_mem hCard
    refine ⟨statusSetCard .unused reason card, ?_, ?_⟩
    · simp only [step, setCardStatus, hFind]
      apply (find?_updateKey_self _ _ _ _).trans
      rw [hFind]
      rfl
    · simp [statusSetCard, finalStatus, hPos]

/- An unused PLUS card with the given code. -/
def demoCard (id : Nat) (code : String) : Card where
  id := id
  batch_id := 1
  sku_code := "plus"
  platform := "chatgpt"
  code_hash := hashCode plainEnvironment code
  code_mask := maskCode plainEnvironment code
  code_prefix := "P"
  status := .unused

def demoAccount (id : Nat) (hId : 0 < id) : AccountModel where
  id := id
  id_pos := hId
  platform := "chatgpt"
  email := "a@b"
  password := "p"
  status := "registered"
  extra := { manually_used := false, delivery_card_assignment := none, rest := "plus" }
  created_at := none

def demoDb : Db where
  cards := (empty.insertNew (demoCard 1 "P-A")).insertNew (demoCard 2 "P-B")
  accounts := (empty.insertNew (demoAccount 11 (by decide))).insertNew (demoAccount 12 (by decide))
  skus :=
    [{ code := "plus", name := "PLUS", platform := "chatgpt", code_prefix := "P",
       delivery_profile := "chatgpt_basic", sort_policy := "earliest_expiry", allow_refetch := true,
       max_refetch_count := 0, enabled := true }]
  batches := []
  events := []
  api_logs := []
  settings := { failure_mode := "safe", plus_sort_policy := none, free_sort_policy := none }

def demoDelivered : Card := deliveredCard { code := "P-A", now := "t1" }
    (demoAccount 11 (by decide))
    { account := "a@b"
      profile := "chatgpt_basic"
      sku_code := "plus"
      created_at := "t1" }
    (demoCard 1 "P-A")

/- A card that is delivered, disabled and enabled again keeps its account while another card is
   delivered. -/
theorem assignments_exclusive_and_frozen_two_cards :
    ∃ next, (run plainEnvironment demoDb
        ([.redeem { code := "P-A", now := "t1" }] ++ [.setCardStatus 1 .disabled "x",
            .setCardStatus 1 .unused "", .redeem { code := "P-B", now := "t2" }])
        ).cards.find? demoDelivered.id = some next ∧
      next.assigned_account_id = 11 ∧
      next.delivery_payload_json = demoDelivered.delivery_payload_json := by
  have hBoth := assignments_exclusive_and_frozen plainEnvironment demoDb
      [.redeem { code := "P-A", now := "t1" }]
      [.setCardStatus 1 .disabled "x", .setCardStatus 1 .unused "",
        .redeem { code := "P-B", now := "t2" }] (by decide)
  exact hBoth.2.1 demoDelivered (by decide) (by decide)

end DeliveryCards
