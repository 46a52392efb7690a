import AutoGpt.DeliveryCards.Exclusivity

/-
  The event log, the delivery counter of a card and the
  answers to repeated calls, related by one invariant: the
  counter counts the deliveries in the log, a key is used at
  most once for a card, and a replayed key is answered from
  the event that used it.

  Main declarations:
    * `DeliveryCards.deliveries`
    * `DeliveryCards.CardCounted`
    * `DeliveryCards.LogSound`
-/

open KeyedTable

----
-- Counting Deliveries
----

namespace DeliveryCards

def deliveries (events : List Event) (card_id : Nat) : Nat :=
  events.countP fun e => e.isDelivery && e.card_id = card_id

def usesOf (events : List Event) (card_id : Nat) (key : String) :
    Nat :=
  events.countP fun e => e.uses card_id key

theorem deliveries_append_other (events : List Event) (hOther : event.card_id ≠ card_id) :
    deliveries (events ++ [event]) card_id = deliveries events card_id := by
  simp [deliveries, hOther]

theorem deliveries_append_self (events : List Event) (event : Event) :
    deliveries (events ++ [event]) event.card_id =
      deliveries events event.card_id + (if event.isDelivery then 1 else 0) := by
  cases hDelivery : event.isDelivery <;>
    simp [deliveries, hDelivery]

theorem usesOf_append (events : List Event) (event : Event) (card_id : Nat) (key : String) :
    usesOf (events ++ [event]) card_id key =
      usesOf events card_id key + (if event.uses card_id key then 1 else 0) := by
  cases hUses : event.uses card_id key <;>
    simp [usesOf, hUses]

theorem usesOf_eq_zero {events : List Event}
    (hNew : ∀ e ∈ events, e.uses card_id key = false) : usesOf events card_id key = 0 := by
  unfold usesOf
  rw [List.countP_eq_zero]
  intro e he
  rw [hNew e he]
  exact Bool.false_ne_true

theorem deliveries_pos_of_mem {events : List Event} {e : Event} (he : e ∈ events)
    (hDelivery : e.isDelivery) : 0 < deliveries events e.card_id := by
  unfold deliveries
  rw [List.countP_pos_iff]
  exact ⟨e, he, by simp [hDelivery]⟩

theorem eq_of_countP_le_one {A : Type} {rows : List A} {p : A → Bool} {a b : A}
    (hCount : rows.countP p ≤ 1) (ha : a ∈ rows) (hpa : p a)
    (hb : b ∈ rows) (hpb : p b) : a = b := by
  rw [List.countP_eq_length_filter] at hCount
  have hInA : a ∈ rows.filter p := List.mem_filter.mpr ⟨ha, hpa⟩
  have hInB : b ∈ rows.filter p := List.mem_filter.mpr ⟨hb, hpb⟩
  generalize rows.filter p = matched at hCount hInA hInB
  cases matched with
  | nil => simp at hInA
  | cons c rest =>
    cases rest with
    | nil =>
      rw [List.mem_singleton] at hInA hInB
      rw [hInA, hInB]
    | cons d rest => simp at hCount

----
-- The Invariant
----

/- A card whose deliveries are counted: an unused card holds no account, a redeemed one does, and a
   card without account was never delivered. -/
structure CardCounted (card : Card) (count : Nat) : Prop where
  unusedFree : card.status = .unused → card.assigned_account_id = 0
  redeemedHeld : card.status = .redeemed → 0 < card.assigned_account_id
  counted : card.redeem_count = count
  freeNew : card.assigned_account_id = 0 → count = 0

/- The log: only deliveries use keys, they are numbered from one, and a key is used at most once for
   a card. -/
structure LogSound (events : List Event) : Prop where
  keyed : ∀ e ∈ events, e.result = .success → e.idempotency_key ≠ "" → e.isDelivery
  numbered : ∀ e ∈ events, e.isDelivery → 0 < e.delivery_sequence
  once : ∀ card_id key, key ≠ "" → usesOf events card_id key ≤ 1

structure DeliveryInv (db : Db) : Prop where
  cards : ∀ card ∈ db.cards.rows, CardCounted card (deliveries db.events card.id)
  known : ∀ e ∈ db.events, e.isDelivery → ∃ card ∈ db.cards.rows, card.id = e.card_id
  log : LogSound db.events

structure NoDeliveries (db : Db) : Prop where
  cards : ∀ card ∈ db.cards.rows,
      card.assigned_account_id = 0 ∧ card.redeem_count = 0 ∧ card.status ≠ .redeemed
  events : ∀ e ∈ db.events, e.isDelivery = false ∧ (e.result = .success → e.idempotency_key = "")

theorem uses_iff {e : Event} :
    e.uses card_id key ↔
      e.card_id = card_id ∧ e.idempotency_key = key ∧ e.result = .success := by
  simp [Event.uses, and_assoc]

theorem success_of_isDelivery {e : Event} (hDelivery : e.isDelivery) :
    e.result = .success := by
  simp only [Event.isDelivery, Bool.and_eq_true, decide_eq_true_eq] at hDelivery
  exact hDelivery.2

theorem usesOf_eq_zero_of_no_deliveries {events : List Event} {card_id : Nat}
    (hLog : LogSound events) (hNone : deliveries events card_id = 0) (hKey : key ≠ "") :
    usesOf events card_id key = 0 := by
  apply usesOf_eq_zero
  intro e he
  rw [← Bool.not_eq_true, uses_iff]
  rintro ⟨hCard, hSame, hSuccess⟩
  have hDelivery := hLog.keyed e he hSuccess (hSame ▸ hKey)
  have hPos := deliveries_pos_of_mem he hDelivery
  rw [hCard] at hPos
  omega

theorem logSound_append {events : List Event} {event : Event} (hLog : LogSound events)
    (hKeyed : event.result = .success → event.idempotency_key ≠ "" → event.isDelivery)
    (hNumbered : event.isDelivery → 0 < event.delivery_sequence)
    (hNew : event.result = .success → event.idempotency_key ≠ "" →
        usesOf events event.card_id event.idempotency_key = 0) :
    LogSound (events ++ [event]) := by
  constructor
  · intro e he
    rcases List.mem_append.mp he with hOld | hLast
    · exact hLog.keyed e hOld
    · rw [List.mem_singleton.mp hLast]
      exact hKeyed
  · intro e he
    rcases List.mem_append.mp he with hOld | hLast
    · exact hLog.numbered e hOld
    · rw [List.mem_singleton.mp hLast]
      exact hNumbered
  · intro card_id key hKey
    rw [usesOf_append]
    split
    next hUses =>
      rcases uses_iff.mp hUses with ⟨hCard, hSame, hSuccess⟩
      have hZero := hNew hSuccess (hSame ▸ hKey)
      rw [hCard, hSame] at hZero
      omega
    · have hOnce := hLog.once card_id key hKey
      omega

----
-- Moves Keep The Invariant
----

/- An effect counts the delivery that its event reports. -/
theorem cardCounted_of_effect {card card' : Card}
    (hCallers : ¬ requests .redeemed) (hBefore : CardCounted card count)
    (hEffect : CardEffect requests db card card' event) :
    CardCounted card' (count + if event.isDelivery then 1 else 0) := by
  have hCounted := hBefore.counted
  cases hEffect with
  | noted hSame hStatus hCount hEvent =>
    rw [hEvent]
    constructor
    · rw [hSame.assigned, hStatus]
      exact hBefore.unusedFree
    · rw [hSame.assigned, hStatus]
      exact hBefore.redeemedHeld
    · rw [hCount, hCounted]
      rfl
    · rw [hSame.assigned]
      exact hBefore.freeNew
  | delivered hUnused hFree hPos hStatus hCount hEvent =>
    have hNone := hBefore.freeNew (hBefore.unusedFree hUnused)
    rw [hEvent, hNone]
    constructor
    · rw [hStatus]
      intro hEq
      cases hEq
    · exact fun _ => hPos
    · exact hCount
    · omega
  | refetched hRedeemed hSame hStatus hCount hEvent =>
    have hHeld := hBefore.redeemedHeld hRedeemed
    rw [hEvent]
    constructor
    · rw [hStatus]
      intro hEq
      cases hEq
    · rw [hSame.assigned]
      exact fun _ => hHeld
    · rw [hCount, hCounted]
      rfl
    · rw [hSame.assigned]
      omega
  | statusSet requested hRequested hSame hStatus hCount
      hEvent =>
      rw [hEvent]
      constructor
      · rw [hStatus, hSame.assigned, finalStatus]
        split
        · intro hEq
          cases hEq
        next hNot =>
          intro hUnused
          by_contra hHeld
          exact hNot ⟨hUnused, Nat.pos_of_ne_zero hHeld⟩
      · rw [hStatus, hSame.assigned, finalStatus]
        split
        next hDelivered =>
          exact fun _ => hDelivered.2
        · intro hRedeemed
          rw [hRedeemed] at hRequested
          exact absurd hRequested hCallers
      · rw [hCount, hCounted]
        rfl
      · rw [hSame.assigned]
        exact hBefore.freeNew
  | restored hUnused hHeld =>
    have hFree := hBefore.unusedFree hUnused
    omega

/- An effect writes an event that keeps the log sound. -/
theorem logSound_of_effect {card card' : Card} (hLog : LogSound db.events)
    (hBefore : CardCounted card (deliveries db.events card.id)) (hCard : event.card_id = card.id)
    (hEffect : CardEffect requests db card card' event) : LogSound (db.events ++ [event]) := by
  cases hEffect with
  | noted _ _ _ hEvent hKey =>
    apply logSound_append hLog
    · intro hSuccess hNonempty
      exact absurd (hKey hSuccess) hNonempty
    · intro hDelivery
      rw [hEvent] at hDelivery
      cases hDelivery
    · intro hSuccess hNonempty
      exact absurd (hKey hSuccess) hNonempty
  | delivered hUnused _ _ _ _ hEvent hSequence =>
    have hNone := hBefore.freeNew (hBefore.unusedFree hUnused)
    apply logSound_append hLog
    · exact fun _ _ => hEvent
    · intro _
      rw [hSequence]
      exact Nat.one_pos
    · intro _ hNonempty
      rw [hCard]
      exact usesOf_eq_zero_of_no_deliveries hLog hNone hNonempty
  | refetched _ _ _ _ hEvent hSequence hNew =>
    apply logSound_append hLog
    · exact fun _ _ => hEvent
    · intro _
      rw [hSequence]
      exact Nat.succ_pos _
    · intro _ hNonempty
      rw [hCard]
      exact usesOf_eq_zero (hNew hNonempty)
  | statusSet _ _ _ _ _ hEvent hKey =>
    apply logSound_append hLog
    · intro _ hNonempty
      exact absurd hKey hNonempty
    · intro hDelivery
      rw [hEvent] at hDelivery
      cases hDelivery
    · intro _ hNonempty
      exact absurd hKey hNonempty
  | restored _ _ _ _ hEvent hKey =>
    apply logSound_append hLog
    · intro _ hNonempty
      exact absurd hKey hNonempty
    · intro hDelivery
      rw [hEvent] at hDelivery
      cases hDelivery
    · intro _ hNonempty
      exact absurd hKey hNonempty

/- Every move keeps the invariant. -/
theorem deliveryInv_of_move (hCallers : ¬ requests .redeemed) (hInv : DeliveryInv db)
    (hMove : CardMove requests db next) : DeliveryInv next := by
  cases hMove with
  | unchanged hCards hEvents =>
    constructor
    · rw [hCards, hEvents]
      exact hInv.cards
    · rw [hCards, hEvents]
      exact hInv.known
    · rw [hEvents]
      exact hInv.log
  | updated card f hId event hFind hCards hEvents hCard
      hEffect =>
      have hMem := (mem_of_find? hFind).1
      have hBefore := hInv.cards card hMem
      constructor
      · intro row hRow
        rw [hCards] at hRow
        rw [hEvents]
        rcases mem_rows_updateKey hRow with ⟨old, hOld, hSelf⟩ | ⟨hOther, hOld⟩
        · rw [hFind, Option.some.injEq] at hOld
          rw [hSelf, ← hOld, hId, ← hCard, deliveries_append_self, hCard]
          exact cardCounted_of_effect hCallers hBefore hEffect
        · rw [deliveries_append_other]
          · exact hInv.cards row hOld
          · rw [hCard]
            exact hOther.symm
      · intro e he hDelivery
        rw [hEvents, List.mem_append, List.mem_singleton] at he
        have hKnown : ∃ old ∈ db.cards.rows, old.id = e.card_id := by
          rcases he with hOld | hLast
          · exact hInv.known e hOld hDelivery
          · exact ⟨card, hMem, by rw [hLast, hCard]⟩
        rcases hKnown with ⟨old, hOld, hOldId⟩
        rw [hCards]
        refine ⟨_, exists_mem_updateKey card.id hId hOld, ?_⟩
        · split
          · rw [hId, hOldId]
          · exact hOldId
      · rw [hEvents]
        exact logSound_of_effect hInv.log hBefore hCard hEffect
  | issued card hNew hUnused hFree hCount hCards hEvents =>
    have hRows := rows_insertNew _ hNew
    constructor
    · intro row hRow
      rw [hCards, hRows, List.mem_append, List.mem_singleton] at hRow
      rw [hEvents]
      rcases hRow with hOld | hFresh
      · exact hInv.cards row hOld
      · have hNone : deliveries db.events card.id = 0 := by
          unfold deliveries
          rw [List.countP_eq_zero]
          intro e he hCounts
          simp only [Bool.and_eq_true, decide_eq_true_eq] at hCounts
          rcases hInv.known e he hCounts.1 with ⟨old, hOld, hOldId⟩
          exact find?_eq_none_iff.mp hNew old hOld (hOldId.trans hCounts.2)
        rw [hFresh, hNone]
        constructor
        · exact fun _ => hFree
        · rw [hUnused]
          intro hEq
          cases hEq
        · exact hCount
        · exact fun _ => rfl
    · intro e he hDelivery
      rw [hEvents] at he
      rcases hInv.known e he hDelivery with ⟨old, hOld, hOldId⟩
      refine ⟨old, ?_, hOldId⟩
      rw [hCards, hRows]
      exact List.mem_append_left _ hOld
    · rw [hEvents]
      exact hInv.log

/- The callers enable and disable cards only. -/
def CallersOnly (op : Op) : Prop := ∀ card_id reason, op ≠ .setCardStatus card_id .redeemed reason

theorem deliveryInv_step (env : Environment) (op : Op) (hCallers : CallersOnly op)
    (hInv : DeliveryInv db) : DeliveryInv (step env db op).1 := by
  refine step_induction env op ?_ hInv
  intro d d' hBefore hMove
  refine deliveryInv_of_move ?_ hBefore hMove
  intro hRequest
  cases op with
  | setCardStatus card_id status reason =>
    have hStatus : CardStatus.redeemed = status := hRequest
    exact hCallers card_id reason (by rw [hStatus])
  | _ => exact hRequest

theorem deliveryInv_of_noDeliveries (hStart : NoDeliveries db) : DeliveryInv db := by
  have hNone : ∀ card_id, deliveries db.events card_id = 0 := by
    intro card_id
    unfold deliveries
    rw [List.countP_eq_zero]
    intro e he
    simp [(hStart.events e he).1]
  constructor
  · intro card hCard
    rcases hStart.cards card hCard with ⟨hFree, hCount, hStatus⟩
    rw [hNone]
    constructor
    · exact fun _ => hFree
    · exact fun hRedeemed => absurd hRedeemed hStatus
    · exact hCount
    · exact fun _ => rfl
  · intro e he hDelivery
    rw [(hStart.events e he).1] at hDelivery
    cases hDelivery
  · constructor
    · intro e he hSuccess hNonempty
      exact absurd ((hStart.events e he).2 hSuccess) hNonempty
    · intro e he hDelivery
      rw [(hStart.events e he).1] at hDelivery
      cases hDelivery
    · intro card_id key hKey
      rw [usesOf_eq_zero]
      · exact Nat.zero_le 1
      · intro e he
        rw [← Bool.not_eq_true, uses_iff]
        rintro ⟨_, hSame, hSuccess⟩
        rw [(hStart.events e he).2 hSuccess] at hSame
        exact hKey hSame.symm

----
-- Answers To Repeated Calls
----

theorem redeemCard_success (hSuccess : (redeemCard env call db).2 = .success response) :
    ∃ card sku, cardOfCall env call db = some card ∧ ((card.status = .redeemed ∧
        redeemRedeemed call db card sku = .ok ((redeemCard env call db).1, .success response)) ∨
      (card.status = .unused ∧
        redeemUnused env call db card sku = ((redeemCard env call db).1, .success response))) := by
  have hLocked :
      redeemLocked env call db = .ok ((redeemCard env call db).1, .success response) := by
    unfold redeemCard at hSuccess ⊢
    split at hSuccess
    · cases hSuccess
    · split at hSuccess
      · cases hSuccess
      next hGate hCode =>
        simp only [hCode, if_false]
        split at hSuccess
        · cases hSuccess
        next next answer hOk =>
          split at hSuccess
          · simp only [hOk]
            rw [← hSuccess]
          · cases hSuccess
  unfold redeemLocked at hLocked
  split at hLocked
  · cases hLocked
  next card hCard =>
    split at hLocked
    · cases hLocked
    next sku _ =>
      refine ⟨card, sku, hCard, ?_⟩
      split at hLocked
      · cases hLocked
      · cases hLocked
      · cases hLocked
      next hStatus =>
        exact .inl ⟨hStatus, hLocked⟩
      next hStatus =>
        split at hLocked
        · cases hLocked
        · rw [Except.ok.injEq] at hLocked
          exact .inr ⟨hStatus, hLocked⟩

theorem redeemRedeemed_replay
    (hFound : findSuccessIdempotentEvent db.events card.id call.key = some existing)
    (hNumbered : 0 < existing.delivery_sequence)
    (hOk : redeemRedeemed call db card sku = .ok (next, .success response)) :
    response.idempotent_replay ∧ response.redeem_index = existing.delivery_sequence ∧
      next.cards = db.cards ∧ next.events = db.events := by
  unfold redeemRedeemed at hOk
  simp only [hFound] at hOk
  cases hOk
  refine ⟨rfl, ?_, rfl, rfl⟩
  simp [successResponse, orCount, Nat.pos_iff_ne_zero.mp hNumbered]

theorem redeemRedeemed_fresh (hFound : findSuccessIdempotentEvent db.events card.id call.key = none)
    (hOk : redeemRedeemed call db card sku = .ok (next, .success response)) :
    response.idempotent_replay = false := by
  unfold redeemRedeemed at hOk
  simp only [hFound] at hOk
  split at hOk
  · cases hOk
  · split at hOk
    · cases hOk
    · cases hOk
      rfl

theorem redeemUnused_fresh (hOk : redeemUnused env call db card sku = (next, .success response)) :
    response.idempotent_replay = false := by
  unfold redeemUnused at hOk
  dsimp only at hOk
  split at hOk
  · cases hOk
  · split at hOk
    · cases hOk
    · cases hOk
      rfl

theorem mem_of_findSuccess (hStrip : PyText.strip key = key)
    (hFound : findSuccessIdempotentEvent events card_id key = some existing) :
    existing ∈ events ∧ existing.uses card_id key ∧ key ≠ "" := by
  unfold findSuccessIdempotentEvent at hFound
  rw [hStrip] at hFound
  dsimp only at hFound
  split at hFound
  · cases hFound
  next hKey =>
    have hUses := List.find?_some hFound
    exact ⟨List.mem_of_find?_eq_some hFound, hUses, hKey⟩

theorem findSuccess_eq_some {e : Event} (hLog : LogSound events) (he : e ∈ events)
    (hDelivery : e.isDelivery) (hStrip : PyText.strip e.idempotency_key = e.idempotency_key)
    (hKey : e.idempotency_key ≠ "") :
    findSuccessIdempotentEvent events e.card_id e.idempotency_key = some e := by
  have hUses : e.uses e.card_id e.idempotency_key :=
    uses_iff.mpr ⟨rfl, rfl, success_of_isDelivery hDelivery⟩
  unfold findSuccessIdempotentEvent
  simp only [hStrip, hKey, if_false]
  cases hFound : events.find? (fun f => f.card_id = e.card_id &&
          f.idempotency_key = e.idempotency_key && f.result = .success) with
  | none =>
    have hNot := List.find?_eq_none.mp hFound e he
    exact absurd hUses hNot
  | some f =>
    have hUsesF := List.find?_some hFound
    rw [eq_of_countP_le_one (hLog.once e.card_id e.idempotency_key hKey)
      (List.mem_of_find?_eq_some hFound) hUsesF he hUses]

/- In every state that a run from a store without deliveries reaches: a non-empty key has at most
   one delivery event for a card, the counter of a card is the number of its delivery events, a call
   that repeats a used key and succeeds is answered with the sequence of the event that used it and
   changes no card, and every answer marked as a replay is of this kind. -/
theorem deliveries_idempotent (env : Environment) (db : Db) (ops : List Op)
    (hStart : NoDeliveries db) (hCallers : ∀ op ∈ ops, CallersOnly op) :
    (∀ card_id key, key ≠ "" →
      (run env db ops).events.countP (fun e => e.isDelivery && e.uses card_id key) ≤ 1) ∧
    (∀ card ∈ (run env db ops).cards.rows,
      card.redeem_count = deliveries (run env db ops).events card.id) ∧
    (∀ call response card e, (redeemCard env call (run env db ops)).2 = .success response →
      cardOfCall env call (run env db ops) = some card → e ∈ (run env db ops).events →
      e.isDelivery → e.card_id = card.id → e.idempotency_key = call.key → call.key ≠ "" →
      response.idempotent_replay ∧ response.redeem_index = e.delivery_sequence ∧
        (redeemCard env call (run env db ops)).1.cards = (run env db ops).cards) ∧
    (∀ call response, (redeemCard env call (run env db ops)).2 = .success response →
      response.idempotent_replay →
      ∃ card e, cardOfCall env call (run env db ops) = some card ∧ e ∈ (run env db ops).events ∧
        e.isDelivery ∧ e.card_id = card.id ∧ e.idempotency_key = call.key ∧
        response.redeem_index = e.delivery_sequence ∧
        (redeemCard env call (run env db ops)).1.cards = (run env db ops).cards) := by
  have hInv : DeliveryInv (run env db ops) := Machine.run_induction_of_steps
      (C := fun _ op => CallersOnly op)
      (fun d op hBefore hOp => deliveryInv_step env op hOp hBefore)
      (deliveryInv_of_noDeliveries hStart) (Machine.steps_of_forall_mem hCallers db)
  refine ⟨?_, ?_, ?_, ?_⟩
  · intro card_id key hKey
    refine le_trans ?_ (hInv.log.once card_id key hKey)
    apply List.countP_mono_left
    intro e _ hBoth
    rw [Bool.and_eq_true] at hBoth
    exact hBoth.2
  · intro card hCard
    exact (hInv.cards card hCard).counted
  · intro call response card e hSuccess hCard he hDelivery
      hEventCard hEventKey hKey
    rcases redeemCard_success hSuccess with ⟨card', sku, hCard', hPath⟩
    rw [hCard, Option.some.injEq] at hCard'
    subst hCard'
    have hFound :=
      findSuccess_eq_some hInv.log he hDelivery (by rw [hEventKey, strip_key]) (hEventKey ▸ hKey)
    rw [hEventCard, hEventKey] at hFound
    rcases hPath with ⟨_, hOk⟩ | ⟨hUnused, _⟩
    · rcases redeemRedeemed_replay hFound
          (hInv.log.numbered e he hDelivery) hOk with
        ⟨hReplay, hIndex, hCards, _⟩
      exact ⟨hReplay, hIndex, hCards⟩
    · have hCounted := hInv.cards card (List.mem_of_find?_eq_some hCard)
      have hNone := hCounted.freeNew (hCounted.unusedFree hUnused)
      have hPos := deliveries_pos_of_mem he hDelivery
      rw [hEventCard] at hPos
      omega
  · intro call response hSuccess hReplay
    rcases redeemCard_success hSuccess with ⟨card, sku, hCard, hPath⟩
    rcases hPath with ⟨_, hOk⟩ | ⟨_, hOk⟩
    · cases hFound : findSuccessIdempotentEvent (run env db ops).events card.id call.key with
      | none =>
        rw [redeemRedeemed_fresh hFound hOk] at hReplay
        cases hReplay
      | some existing =>
        rcases mem_of_findSuccess (strip_key call) hFound with ⟨he, hUses, hKey⟩
        rcases uses_iff.mp hUses with ⟨hEventCard, hEventKey, hEventSuccess⟩
        have hDelivery := hInv.log.keyed existing he hEventSuccess (hEventKey ▸ hKey)
        rcases redeemRedeemed_replay hFound
            (hInv.log.numbered existing he hDelivery) hOk with
          ⟨_, hIndex, hCards, _⟩
        exact ⟨card, existing, hCard, he, hDelivery, hEventCard, hEventKey, hIndex, hCards⟩
    · rw [redeemUnused_fresh hOk] at hReplay
      cases hReplay

def demoCall : RedeemCall where
  code := "P-A"
  idempotency_key := "k"
  now := "t1"

def demoEvent : Event := redeemEvent demoCall (demoCard 1 "P-A") 11 .firstRedeem
    .success none 1 "chatgpt_basic" "首次兑换成功并绑定账号"

/- The same call after a disable and an enable is answered from the first event. -/
theorem deliveries_idempotent_replayed :
    ∃ response, (redeemCard plainEnvironment demoCall (run plainEnvironment demoDb
          [.redeem demoCall, .setCardStatus 1 .disabled "x", .setCardStatus 1 .unused ""])).2 =
        .success response ∧ response.idempotent_replay ∧
      response.redeem_index = demoEvent.delivery_sequence := by
  have hAll := deliveries_idempotent plainEnvironment demoDb
      [.redeem demoCall, .setCardStatus 1 .disabled "x", .setCardStatus 1 .unused ""]
      ⟨by decide, by decide⟩
      (by
        intro op hOp card_id reason hEq
        rw [hEq] at hOp
        simp at hOp)
  refine ⟨_, rfl, ?_⟩
  have hReplay := hAll.2.2.1 demoCall _ demoDelivered demoEvent rfl
      (by decide) (by decide) (by decide) (by decide) (by decide) (by decide)
  exact ⟨hReplay.1, hReplay.2.1⟩

end DeliveryCards
