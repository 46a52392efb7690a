import AutoGpt.DeliveryCards.Service
import Mathlib

/-
  One pass of `repair_consistency`. A card is open while the
  pass has something to do for it: its account lacks the mark
  of this card, or the card is bound and still unused.

  Main theorems: `repairIssues_spec`, `reaches_iff`, `repairSettles_iff`
-/

open KeyedTable (empty find?_of_mem mem_of_find?)
open Option
open KeyedTable

----
-- Open And Stuck Cards
----

namespace DeliveryCards

/- The card that the assignment of the account names. -/
def markedCard (account : AccountModel) : Nat :=
  (account.extra.delivery_card_assignment.map CardAssignment.card_id).getD 0

/- The account is not marked as used by the card. -/
def LacksMark (account : AccountModel) (card : Card) : Prop :=
  account.extra.manually_used = false ∨ markedCard account ≠ card.id

instance (account : AccountModel) (card : Card) :
    Decidable (LacksMark account card) :=
  inferInstanceAs (Decidable (_ ∨ _))

/- The card is bound to an account, and one of the two is not yet as a delivery leaves it. -/
def Open (db : Db) (card : Card) : Prop := ∃ account,
    db.accounts.find? card.assigned_account_id = some account ∧
      (LacksMark account card ∨ card.status = .unused)

/- A successful log names the unused card, whose account does not exist any more. -/
def Stuck (db : Db) (card : Card) : Prop := card.status = .unused ∧ card.assigned_account_id ≠ 0 ∧
    db.accounts.find? card.assigned_account_id = none ∧
    ∃ log ∈ db.api_logs, log.result = .success ∧ log.card_id ≠ 0 ∧ log.card_id = card.id

/- How many issues the scan reports of the card itself. -/
def troubles (db : Db) (card : Card) : Nat :=
  if card.assigned_account_id = 0 then
    if card.status = .redeemed then 1 else 0
  else
    match db.accounts.find? card.assigned_account_id with
    | none => 1
    | some account =>
      (if LacksMark account card then 1 else 0) + (if card.status = .unused then 1 else 0)

/- The issues of the cards before this one in the table. -/
def troublesBefore (db : Db) (card : Card) : Nat :=
  ((db.cards.rows.takeWhile (fun c => c.id ≠ card.id)).map (troubles db)).sum

/- After a repair the scan counts nothing to repair, and the next repair changes nothing. -/
def RepairSettles (now later : String) (db : Db) : Prop :=
  (scanConsistency (repairConsistency now db).1 ).repairable_count = 0 ∧
    (repairConsistency later (repairConsistency now db).1).1 = (repairConsistency now db).1

/- No two cards claim one account, no card is stuck, and the first issue of each open card is among
   the five hundred that the scan reports. Card ids start at one. -/
structure RepairReaches (db : Db) : Prop where
  single : ∀ card ∈ db.cards.rows, ∀ other ∈ db.cards.rows,
      (db.accounts.find? card.assigned_account_id).isSome →
      other.assigned_account_id = card.assigned_account_id → other = card
  known : ∀ card ∈ db.cards.rows, ¬ Stuck db card
  reported : ∀ card ∈ db.cards.rows, Open db card → card.id ≠ 0 ∧ troublesBefore db card < 500

----
-- What The Scan Reports
----

variable {db : Db} {card : Card}

/- All issues of a scan, before the report is cut. -/
def foundIssues (db : Db) : List Issue := db.cards.rows.flatMap (cardIssues db) ++
    duplicateIssues db ++
    (db.api_logs.zipIdx 1).flatMap (logIssues db)

theorem scanConsistency_issues (db : Db) :
    (scanConsistency db).issues = (foundIssues db).take 500 :=
  rfl

theorem assigned_ne_zero (hAccount : db.accounts.find? card.assigned_account_id = some account) :
    card.assigned_account_id ≠ 0 := by
  have hId := (mem_of_find? hAccount).2
  have hPos := account.id_pos
  omega

theorem cardIssues_of_account
    (hAccount : db.accounts.find? card.assigned_account_id = some account) :
    cardIssues db card = (if LacksMark account card then
        [{ type := .accountUsageMarkerMissing, card_id := card.id,
           account_id := card.assigned_account_id }]
      else []) ++ (if card.status = .unused then
          [{ type := .unusedCardHasAccount, card_id := card.id,
             account_id := card.assigned_account_id }]
        else []) := by
  have hNe := assigned_ne_zero hAccount
  have hUnbound : ¬ (card.status = .redeemed ∧ card.assigned_account_id = 0) := fun h => hNe h.2
  unfold cardIssues
  rw [if_neg hNe, hAccount, if_neg hUnbound]
  rfl

theorem cardIssues_of_missing (hNe : card.assigned_account_id ≠ 0)
    (hMissing : db.accounts.find? card.assigned_account_id = none) :
    cardIssues db card =
      [{ type := .assignedAccountMissing, card_id := card.id,
         account_id := card.assigned_account_id }] := by
  have hUnbound : ¬ (card.status = .redeemed ∧ card.assigned_account_id = 0) := fun h => hNe h.2
  unfold cardIssues
  rw [if_neg hNe, hMissing, if_neg hUnbound]
  rfl

theorem cardIssues_of_unbound (hZero : card.assigned_account_id = 0) :
    cardIssues db card =
      if card.status = .redeemed then [{ type := .redeemedWithoutAccount, card_id := card.id }]
      else [] := by
  unfold cardIssues
  rw [if_pos hZero]
  by_cases hRedeemed : card.status = .redeemed
  · rw [if_pos hRedeemed, if_pos ⟨hRedeemed, hZero⟩]
  · rw [if_neg hRedeemed, if_neg (fun h => hRedeemed h.1)]

theorem length_cardIssues (db : Db) (card : Card) :
    (cardIssues db card).length = troubles db card := by
  unfold troubles
  by_cases hZero : card.assigned_account_id = 0
  · rw [cardIssues_of_unbound hZero, if_pos hZero]
    split
    · rfl
    · rfl
  · rw [if_neg hZero]
    cases hAccount : db.accounts.find? card.assigned_account_id with
    | none => rw [cardIssues_of_missing hZero hAccount]; rfl
    | some account =>
      rw [cardIssues_of_account hAccount, List.length_append]
      congr 1
      · split
        · rfl
        · rfl
      · split
        · rfl
        · rfl

theorem open_of_cardIssue (hIssue : issue ∈ cardIssues db card)
    (hRepairable : issue.type.repairable) : issue.card_id = card.id ∧ Open db card := by
  by_cases hZero : card.assigned_account_id = 0
  · rw [cardIssues_of_unbound hZero] at hIssue
    split at hIssue
    · rw [List.mem_singleton] at hIssue
      subst hIssue
      cases hRepairable
    · cases hIssue
  · cases hAccount : db.accounts.find? card.assigned_account_id with
    | none =>
      rw [cardIssues_of_missing hZero hAccount, List.mem_singleton] at hIssue
      subst hIssue
      cases hRepairable
    | some account =>
      rw [cardIssues_of_account hAccount, List.mem_append] at hIssue
      rcases hIssue with hMark | hUnused
      · split at hMark
        next hLacks =>
          rw [List.mem_singleton] at hMark
          subst hMark
          exact ⟨rfl, account, hAccount, .inl hLacks⟩
        · cases hMark
      · split at hUnused
        next hStatus =>
          rw [List.mem_singleton] at hUnused
          subst hUnused
          exact ⟨rfl, account, hAccount, .inr hStatus⟩
        · cases hUnused

theorem cardIssues_of_open (hOpen : Open db card) :
    ∃ issue rest, cardIssues db card = issue :: rest ∧ issue.type.repairable ∧
        issue.card_id = card.id := by
  rcases hOpen with ⟨account, hAccount, hWhy⟩
  rw [cardIssues_of_account hAccount]
  by_cases hLacks : LacksMark account card
  · rw [if_pos hLacks]
    exact ⟨_, _, rfl, rfl, rfl⟩
  · have hUnused : card.status = .unused := hWhy.resolve_left hLacks
    rw [if_neg hLacks, if_pos hUnused]
    exact ⟨_, _, rfl, rfl, rfl⟩

theorem duplicateIssues_not_repairable (hIssue : issue ∈ duplicateIssues db) :
    issue.type.repairable = false := by
  rcases List.mem_filterMap.mp hIssue with ⟨account_id, hAssigned, hFound⟩
  dsimp only at hFound
  split at hFound
  · cases hFound
    rfl
  · cases hFound

theorem card_of_logIssue (hRow : row.1 ∈ db.api_logs)
    (hIssue : issue ∈ logIssues db row) (hRepairable : issue.type.repairable) :
    ∃ card ∈ db.cards.rows, issue.card_id = card.id ∧ (Open db card ∨ Stuck db card) := by
  unfold logIssues at hIssue
  dsimp only at hIssue
  split at hIssue
  · cases hIssue
  next hLog =>
    rw [not_or, not_not] at hLog
    split at hIssue
    · rw [List.mem_singleton] at hIssue
      subst hIssue
      cases hRepairable
    next card hFound =>
      have hCard := mem_of_find? hFound
      rw [List.mem_append] at hIssue
      rcases hIssue with hMismatch | hUnredeemed
      · split at hMismatch
        · rw [List.mem_singleton] at hMismatch
          subst hMismatch
          cases hRepairable
        · cases hMismatch
      · split at hUnredeemed
        next hUnused =>
          rw [List.mem_singleton] at hUnredeemed
          subst hUnredeemed
          refine ⟨card, hCard.1, hCard.2.symm, ?_⟩
          cases hAccount : db.accounts.find? card.assigned_account_id with
          | none =>
            exact .inr ⟨hUnused.1, Nat.ne_of_gt hUnused.2, hAccount, row.1, hRow, hLog.1, hLog.2,
                  hCard.2.symm⟩
          | some account => exact .inl ⟨account, hAccount, .inr hUnused.1⟩
        · cases hUnredeemed

theorem issue_of_stuck (hCard : card ∈ db.cards.rows) (hStuck : Stuck db card) :
    ∃ issue ∈ foundIssues db, issue.type.repairable := by
  rcases hStuck with ⟨hUnused, hNe, hMissing, log, hLog, hSuccess, hId, hSame⟩
  have hMem : log ∈ (db.api_logs.zipIdx 1).map Prod.fst := by
    rw [List.zipIdx_map_fst]
    exact hLog
  rcases List.mem_map.mp hMem with ⟨row, hRow, rfl⟩
  have hFound : db.cards.find? row.1.card_id = some card := by
    rw [hSame]
    exact find?_of_mem hCard
  have hOpenLog : ¬ (row.1.result ≠ .success ∨ row.1.card_id = 0) := by
    rw [not_or, not_not]
    exact ⟨hSuccess, hId⟩
  refine
    ⟨{ type := .successLogCardStatusUnredeemed, api_log_id := row.2,
       card_id := row.1.card_id }, ?_, rfl⟩
  apply List.mem_append_right
  refine List.mem_flatMap.mpr ⟨row, hRow, ?_⟩
  unfold logIssues
  rw [if_neg hOpenLog, hFound]
  apply List.mem_append_right
  rw [if_pos ⟨hUnused, Nat.pos_of_ne_zero hNe⟩]
  exact List.mem_singleton_self _

theorem card_of_issue (hIssue : issue ∈ foundIssues db)
    (hRepairable : issue.type.repairable) :
    ∃ card ∈ db.cards.rows, issue.card_id = card.id ∧ (Open db card ∨ Stuck db card) := by
  unfold foundIssues at hIssue
  rw [List.mem_append, List.mem_append] at hIssue
  rcases hIssue with (hOwn | hDuplicate) | hLog
  · rcases List.mem_flatMap.mp hOwn with ⟨card, hCard, hOwn⟩
    have hOpen := open_of_cardIssue hOwn hRepairable
    exact ⟨card, hCard, hOpen.1, .inl hOpen.2⟩
  · rw [duplicateIssues_not_repairable hDuplicate]
      at hRepairable
    cases hRepairable
  · rcases List.mem_flatMap.mp hLog with ⟨row, hRow, hLog⟩
    exact card_of_logIssue (List.fst_mem_of_mem_zipIdx hRow) hLog hRepairable

/- The scan counts nothing to repair exactly when no card is open and no card is stuck. -/
theorem quiet_iff (db : Db) :
    (scanConsistency db).repairable_count = 0 ↔
      (∀ card ∈ db.cards.rows, ¬ Open db card) ∧ ∀ card ∈ db.cards.rows, ¬ Stuck db card := by
  have hCount : (scanConsistency db).repairable_count = 0 ↔
        ∀ issue ∈ foundIssues db, ¬ issue.type.repairable := List.countP_eq_zero
  rw [hCount]
  constructor
  · intro hQuiet
    constructor
    · intro card hCard hOpen
      rcases cardIssues_of_open hOpen with ⟨issue, rest, hIssues, hRepairable, -⟩
      apply hQuiet issue _ hRepairable
      apply List.mem_append_left
      apply List.mem_append_left
      refine List.mem_flatMap.mpr ⟨card, hCard, ?_⟩
      rw [hIssues]
      exact List.mem_cons_self
    · intro card hCard hStuck
      rcases issue_of_stuck hCard hStuck with ⟨issue, hIssue, hRepairable⟩
      exact hQuiet issue hIssue hRepairable
  · intro hNone issue hIssue hRepairable
    rcases card_of_issue hIssue hRepairable with ⟨card, hCard, -, hOpen | hStuck⟩
    · exact hNone.1 card hCard hOpen
    · exact hNone.2 card hCard hStuck

----
-- One Pass Of The Repair
----

/- The pass acts on this card: an issue names it, and it is stored together with its account. -/
def Handles (issues : List Issue) (db : Db) (id : Nat) : Prop := id ≠ 0 ∧
    (∃ issue ∈ issues, issue.type.repairable ∧ issue.card_id = id) ∧
    ∃ card account,
      db.cards.find? id = some card ∧ db.accounts.find? card.assigned_account_id = some account

structure Repaired (now : String) (handled : List Nat) (db next : Db) :
    Prop where
  cards : ∀ id, next.cards.find? id = (db.cards.find? id).map fun card =>
          if id ∈ handled then repairedCard now card else card
  logs : next.api_logs = db.api_logs
  present : ∀ k, (next.accounts.find? k).isSome = (db.accounts.find? k).isSome
  kept : ∀ k,
      (∀ id ∈ handled, ∀ card, db.cards.find? id = some card → card.assigned_account_id ≠ k) →
      next.accounts.find? k = db.accounts.find? k
  marked : ∀ id ∈ handled, ∀ card, db.cards.find? id = some card → ∃ account,
        next.accounts.find? card.assigned_account_id = some account ∧
          account.extra.manually_used ∧
          ∃ other ∈ handled, ∃ claimant, db.cards.find? other = some claimant ∧
              claimant.assigned_account_id = card.assigned_account_id ∧ markedCard account = other

theorem Repaired.refl (now : String) (db : Db) :
    Repaired now [] db db where
  cards := by
    intro id
    simp
  logs := rfl
  present := fun _ => rfl
  kept := fun _ _ => rfl
  marked := by
    intro id hMem
    cases hMem

@[simp] theorem repairedCard_account (now : String) (card : Card) :
    (repairedCard now card).assigned_account_id = card.assigned_account_id := by
  unfold repairedCard
  split
  · rfl
  · rfl

theorem repairedCard_status (now : String) (card : Card) :
    (repairedCard now card).status ≠ .unused := by
  unfold repairedCard
  split
  next hUnused =>
    intro hBad
    cases hBad
  next hUsed => exact hUsed

theorem find?_markAssigned_self (accounts : AccountTable) (account : AccountModel) (card : Card)
    (now : String) :
    (markAssigned accounts account card now).find? account.id =
      (accounts.find? account.id).map (markAccountAssigned card now) :=
  find?_updateKey_self accounts account.id (markAccountAssigned card now) (fun _ => rfl)

theorem find?_markAssigned_of_ne (accounts : AccountTable) (account : AccountModel) (card : Card)
    (now : String) (hNe : k ≠ account.id) :
    (markAssigned accounts account card now).find? k = accounts.find? k :=
  find?_updateKey_of_ne accounts (markAccountAssigned card now) (fun _ => rfl) hNe

/- The state after one card is repaired. -/
def repairOne (now : String) (card : Card) (account : AccountModel)
    (events : List Event) (db : Db) : Db :=
  { db with
    cards := db.cards.updateKey card.id (repairedCard now) (repairedCard_id now)
    accounts := markAssigned db.accounts account (repairedCard now card)
        (PyText.orElse (repairedCard now card).assigned_at now)
    events := events }

section OneCard

theorem repairOne_cards (id : Nat) :
    (repairOne now card account events db).cards.find? id = (db.cards.find? id).map fun c =>
        if id = card.id then repairedCard now c else c := by
  by_cases hSame : id = card.id
  · subst hSame
    simp [repairOne]
  · unfold repairOne
    rw [find?_updateKey_of_ne _ _ _ hSame]
    simp [hSame]

theorem repairOne_account_of_ne (hNe : k ≠ account.id) :
    (repairOne now card account events db).accounts.find? k = db.accounts.find? k :=
  find?_markAssigned_of_ne db.accounts account _ _ hNe

theorem repairOne_account_self (hAccount : db.accounts.find? account.id = some account) :
    (repairOne now card account events db).accounts.find? account.id = some
        (markAccountAssigned (repairedCard now card)
          (PyText.orElse (repairedCard now card).assigned_at now) account) :=
  (find?_markAssigned_self db.accounts account _ _).trans (congrArg (Option.map _) hAccount)

theorem repairOne_present (k : Nat) :
    ((repairOne now card account events db).accounts.find? k).isSome =
      (db.accounts.find? k).isSome := by
  by_cases hSame : k = account.id
  · subst hSame
    exact (congrArg Option.isSome (find?_markAssigned_self db.accounts account _ _)).trans
        isSome_map
  · rw [repairOne_account_of_ne hSame]

/- The rest of the pass acts on other cards, so the cards it reads are those of the state before. -/
theorem Repaired.cons {handled : List Nat} (hCard : db.cards.find? card.id = some card)
    (hAccount : db.accounts.find? card.assigned_account_id = some account)
    (hFresh : card.id ∉ handled)
    (hRest : Repaired now handled (repairOne now card account events db) next) :
    Repaired now (card.id :: handled) db next := by
  have hId : account.id = card.assigned_account_id := (mem_of_find? hAccount).2
  have hOther : ∀ id ∈ handled,
        (repairOne now card account events db).cards.find? id = db.cards.find? id := by
    intro id hMem
    have hNe : id ≠ card.id := by
      rintro rfl
      exact hFresh hMem
    rw [repairOne_cards]
    simp [hNe]
  constructor
  · intro id
    rw [hRest.cards, repairOne_cards, map_map]
    by_cases hSame : id = card.id
    · subst hSame
      simp [Function.comp_def, hFresh]
    · simp [Function.comp_def, hSame]
  · exact hRest.logs
  · intro k
    rw [hRest.present, repairOne_present]
  · intro k hFree
    have hHead : k ≠ account.id := by
      rw [hId]
      exact (hFree card.id List.mem_cons_self card hCard).symm
    rw [hRest.kept, repairOne_account_of_ne hHead]
    intro id hMem c hFound
    rw [hOther id hMem] at hFound
    exact hFree id (List.mem_cons_of_mem _ hMem) c hFound
  · intro id hMem c hFound
    by_cases hLater : ∃ later ∈ handled, ∃ claimant, db.cards.find? later = some claimant ∧
            claimant.assigned_account_id = c.assigned_account_id
    · -- A later card of the pass marks the account last.
      rcases hLater with ⟨later, hIn, claimant, hClaim, hSame⟩
      rw [← hOther later hIn] at hClaim
      rcases hRest.marked later hIn claimant hClaim with
        ⟨marked, hMarked, hUsed, other, hOtherIn, winner, hWinner, hWins, hNames⟩
      rw [hOther other hOtherIn] at hWinner
      rw [hSame] at hMarked hWins
      exact ⟨marked, hMarked, hUsed, other, List.mem_cons_of_mem _ hOtherIn, winner, hWinner,
          hWins, hNames⟩
    · have hHead : id = card.id := by
        rcases List.mem_cons.mp hMem with hHere | hThere
        · exact hHere
        · exact absurd ⟨id, hThere, c, hFound, rfl⟩ hLater
      subst hHead
      rw [hCard, some.injEq] at hFound
      subst hFound
      rw [hRest.kept]
      · rw [← hId] at hAccount ⊢
        refine ⟨_, repairOne_account_self hAccount, rfl, card.id,
            List.mem_cons_self, card, hCard, hId.symm, ?_⟩
        exact repairedCard_id now card
      · intro later hIn claimant hClaim hSame
        rw [hOther later hIn] at hClaim
        exact hLater ⟨later, hIn, claimant, hClaim, hSame⟩

end OneCard

/- A pass can only handle a card that is stored together with its account. -/
def Stored (db : Db) (id : Nat) : Prop := ∃ card account,
    db.cards.find? id = some card ∧ db.accounts.find? card.assigned_account_id = some account

theorem stored_repairOne {events : List Event} (id : Nat) :
    Stored (repairOne now card account events db) id ↔ Stored db id := by
  unfold Stored
  simp only [repairOne_cards, ← isSome_iff_exists, exists_and_left, repairOne_present]
  cases db.cards.find? id with
  | none => simp
  | some found =>
    simp only [map_some, some.injEq, exists_eq_left']
    split
    · rw [repairedCard_account]
    · rfl

theorem handles_cons_of_skip {id : Nat}
    (hSkip : ¬ (issue.type.repairable ∧ issue.card_id = id ∧ id ≠ 0 ∧ Stored db id)) :
    Handles (issue :: issues) db id ↔ Handles issues db id := by
  constructor
  · rintro ⟨hId, ⟨found, hMem, hFound⟩, hStored⟩
    rcases List.mem_cons.mp hMem with hHead | hTail
    · subst hHead
      exact absurd ⟨hFound.1, hFound.2, hId, hStored⟩ hSkip
    · exact ⟨hId, ⟨found, hTail, hFound⟩, hStored⟩
  · rintro ⟨hId, ⟨found, hMem, hFound⟩, hStored⟩
    exact ⟨hId, ⟨found, List.mem_cons_of_mem _ hMem, hFound⟩, hStored⟩

/- A pass repairs each card that it handles once. -/
theorem repairIssues_spec (now : String) (issues : List Issue) (seen : List Nat) (db : Db) :
    ∃ handled, Repaired now handled db (repairIssues now issues seen db).1 ∧
        ∀ id, id ∈ handled ↔ id ∉ seen ∧ Handles issues db id := by
  induction issues generalizing seen db with
  | nil =>
    refine ⟨[], Repaired.refl now db, ?_⟩
    intro id
    simp [Handles]
  | cons issue issues ih =>
    have hSkipped : (∀ id, id ∉ seen →
          ¬ (issue.type.repairable ∧ issue.card_id = id ∧ id ≠ 0 ∧ Stored db id)) →
        ∃ handled, Repaired now handled db (repairIssues now issues seen db).1 ∧
            ∀ id, id ∈ handled ↔ id ∉ seen ∧ Handles (issue :: issues) db id := by
      intro hSkip
      rcases ih seen db with ⟨handled, hRepaired, hHandled⟩
      refine ⟨handled, hRepaired, ?_⟩
      intro id
      rw [hHandled]
      apply and_congr_right
      intro hNew
      exact (handles_cons_of_skip (hSkip id hNew)).symm
    unfold repairIssues
    split
    next hSkip =>
      apply hSkipped
      rintro id hNew ⟨hRepairable, rfl, hId, -⟩
      rcases hSkip with hNot | hZero | hSeen
      · rw [hNot] at hRepairable
        cases hRepairable
      · exact hId hZero
      · exact hNew hSeen
    next hTake =>
      rw [not_or, not_or] at hTake
      split
      next hMissing =>
        apply hSkipped
        rintro id hNew ⟨-, rfl, -, card, account, hCard, -⟩
        rw [hMissing] at hCard
        cases hCard
      next card hCard =>
        split
        next hMissing =>
          apply hSkipped
          rintro id hNew ⟨-, rfl, -, found, account, hFound, hAccount⟩
          rw [hCard, some.injEq] at hFound
          subst hFound
          rw [hMissing] at hAccount
          cases hAccount
        next account hAccount =>
          have hId := (mem_of_find? hCard).2
          rw [← hId] at hCard hTake ⊢
          generalize hEvents : db.events ++ _ = events
          rcases ih (card.id :: seen)
              (repairOne now card account events db) with
            ⟨handled, hRepaired, hHandled⟩
          have hFresh : card.id ∉ handled := by
            intro hMem
            exact ((hHandled card.id).mp hMem).1 List.mem_cons_self
          refine ⟨card.id :: handled, Repaired.cons hCard hAccount hFresh hRepaired, ?_⟩
          intro id
          by_cases hSame : id = card.id
          · subst hSame
            refine iff_of_true List.mem_cons_self ?_
            exact ⟨hTake.2.2, hTake.2.1,
                ⟨issue, List.mem_cons_self, Bool.not_eq_false _ ▸ hTake.1, hId.symm⟩,
                card, account, hCard, hAccount⟩
          · have hOther : Handles issues
                    (repairOne now card account events db)
                    id ↔
                  Handles issues db id :=
              and_congr_right fun _ => and_congr_right fun _ => stored_repairOne id
            have hSkip : ¬ (issue.type.repairable ∧ issue.card_id = id ∧ id ≠ 0 ∧
                  Stored db id) := by
              rintro ⟨-, hMine, -⟩
              exact hSame (hMine.symm.trans hId.symm)
            rw [handles_cons_of_skip hSkip, ← hOther, List.mem_cons, hHandled, List.mem_cons]
            simp [hSame]

theorem repairIssues_of_quiet (now : String) (issues : List Issue) (seen : List Nat)
    (hQuiet : ∀ issue ∈ issues, ¬ issue.type.repairable) :
    (repairIssues now issues seen db).1 = db := by
  induction issues generalizing seen with
  | nil => rfl
  | cons issue issues ih =>
    have hHead := hQuiet issue List.mem_cons_self
    unfold repairIssues
    rw [if_pos (.inl (Bool.not_eq_true _ ▸ hHead))]
    exact ih seen fun other hOther => hQuiet other (List.mem_cons_of_mem _ hOther)

----
-- The Cut Of The Report
----

theorem length_lt_of_mem_take {A : Type} {first second : List A} {a : A}
    (hMem : a ∈ (first ++ second).take n) (hNot : a ∉ first) : first.length < n := by
  by_contra hLe
  rw [List.take_append_of_le_length (Nat.le_of_not_lt hLe)] at hMem
  exact hNot (List.mem_of_mem_take hMem)

theorem mem_take_of_length_lt {A : Type} {first rest : List A} {a : A}
    (hLt : first.length < n) : a ∈ (first ++ a :: rest).take n := by
  rcases Nat.exists_eq_add_of_lt hLt with ⟨k, rfl⟩
  rw [List.take_append]
  apply List.mem_append_right
  have hRest : first.length + k + 1 - first.length = k + 1 := by omega
  rw [hRest, List.take_succ_cons]
  exact List.mem_cons_self

theorem rows_split (hCard : card ∈ db.cards.rows) :
    ∃ rest, db.cards.rows = db.cards.rows.takeWhile (fun c => c.id ≠ card.id) ++ card :: rest := by
  rcases List.append_of_mem hCard with ⟨before, rest, hRows⟩
  refine ⟨rest, ?_⟩
  have hKeys := db.cards.keys_nodup
  rw [hRows, List.map_append, List.map_cons, List.nodup_append] at hKeys
  have hBefore : ∀ c ∈ before, decide (c.id ≠ card.id) := by
    intro c hc
    apply decide_eq_true
    exact hKeys.2.2 c.id (List.mem_map_of_mem hc) card.id List.mem_cons_self
  rw [hRows, List.takeWhile_append_of_pos hBefore,
    List.takeWhile_cons_of_neg (by simp), List.append_nil]

/- The report has an issue of an open card exactly when the cards before it leave room for its first
   one: the issues of logs and of shared accounts come behind those of the cards. -/
theorem reported_iff (hCard : card ∈ db.cards.rows) (hOpen : Open db card) :
    (∃ issue ∈ (scanConsistency db).issues,
        issue.type.repairable ∧ issue.card_id = card.id) ↔ troublesBefore db card < 500 := by
  rcases rows_split hCard with ⟨rest, hRows⟩
  rcases cardIssues_of_open hOpen with ⟨head, tail, hIssues, hHead, hNames⟩
  generalize hBefore : db.cards.rows.takeWhile (fun c => c.id ≠ card.id) = before at hRows
  have hLength : (before.flatMap (cardIssues db)).length = troublesBefore db card := by
    unfold troublesBefore
    rw [hBefore, List.length_flatMap]
    congr 1
    apply List.map_congr_left
    intro c _
    exact length_cardIssues db c
  have hFound : foundIssues db = before.flatMap (cardIssues db) ++ head ::
            (tail ++ rest.flatMap (cardIssues db) ++ duplicateIssues db ++
              (db.api_logs.zipIdx 1).flatMap (logIssues db)) := by
    unfold foundIssues
    rw [hRows, List.flatMap_append, List.flatMap_cons, hIssues]
    simp only [List.append_assoc, List.cons_append]
  rw [scanConsistency_issues, hFound, ← hLength]
  constructor
  · rintro ⟨issue, hMem, hRepairable, hMine⟩
    apply length_lt_of_mem_take hMem
    intro hEarly
    rcases List.mem_flatMap.mp hEarly with ⟨c, hc, hOwn⟩
    have hOther : c.id ≠ card.id := by
      rw [← hBefore] at hc
      simpa using List.mem_takeWhile_imp hc
    exact hOther ((open_of_cardIssue hOwn hRepairable).1.symm.trans hMine)
  · intro hLt
    exact ⟨head, mem_take_of_length_lt hLt, hHead, hNames⟩

----
-- One Pass Is Enough
----

section

variable (hRepaired : Repaired now handled db next)
include hRepaired

theorem Repaired.card_before (hAfter : after ∈ next.cards.rows) :
    ∃ card ∈ db.cards.rows, card.id = after.id ∧ after =
          if card.id ∈ handled then repairedCard now card
          else card := by
  have hFound := find?_of_mem hAfter
  rw [hRepaired.cards] at hFound
  rcases map_eq_some_iff.mp hFound with ⟨card, hCard, hSame⟩
  rcases mem_of_find? hCard with ⟨hMem, hId⟩
  refine ⟨card, hMem, hId, ?_⟩
  rw [hId]
  exact hSame.symm

theorem Repaired.card_after (hCard : card ∈ db.cards.rows) :
    (if card.id ∈ handled then repairedCard now card else card) ∈ next.cards.rows := by
  have hAfter := hRepaired.cards card.id
  rw [find?_of_mem hCard, map_some] at hAfter
  exact (mem_of_find? hAfter).1

theorem Repaired.missing (k : Nat) : next.accounts.find? k = none ↔ db.accounts.find? k = none := by
  rw [← isNone_iff_eq_none, ← isNone_iff_eq_none,
    ← not_isSome, ← not_isSome, hRepaired.present]

theorem Repaired.kept_of_single (hSingle :
      ∀ other ∈ db.cards.rows, other.assigned_account_id = card.assigned_account_id → other = card)
    (hNot : card.id ∉ handled) :
    next.accounts.find? card.assigned_account_id = db.accounts.find? card.assigned_account_id := by
  apply hRepaired.kept
  intro id hId other hOther hSame
  rcases mem_of_find? hOther with ⟨hMem, hKey⟩
  rw [hSingle other hMem hSame] at hKey
  exact hNot (hKey ▸ hId)

theorem stuck_of_after : Stuck next card ↔ Stuck db card := by
  unfold Stuck
  rw [hRepaired.missing, hRepaired.logs]

/- A pass that reaches every open card leaves none open. -/
theorem quiet_of_reaches (hHandled : ∀ id, id ∈ handled ↔ Handles (scanConsistency db).issues db id)
    (hReaches : RepairReaches db) : (scanConsistency next).repairable_count = 0 := by
  rw [quiet_iff]
  have hSettled : ∀ after ∈ next.cards.rows, ¬ Open next after ∧ ¬ Stuck next after := by
    intro after hAfter
    rcases hRepaired.card_before hAfter with ⟨card, hCard, hId, hSame⟩
    have hFound := find?_of_mem hCard
    by_cases hIn : card.id ∈ handled
    · rw [if_pos hIn] at hSame
      rcases hRepaired.marked card.id hIn card hFound with
        ⟨account, hAccount, hUsed, other, -, claimant, hClaimant, hClaims, hNames⟩
      have hExists : (db.accounts.find? card.assigned_account_id).isSome := by
        rw [← hRepaired.present, hAccount]
        rfl
      rcases mem_of_find? hClaimant with ⟨hMember, hKey⟩
      have hOne := hReaches.single card hCard claimant hMember hExists hClaims
      subst hOne
      have hAssigned : after.assigned_account_id = claimant.assigned_account_id := by
        rw [hSame, repairedCard_account]
      constructor
      · rintro ⟨found, hFoundAccount, hWhy⟩
        rw [hAssigned, hAccount, some.injEq] at hFoundAccount
        subst hFoundAccount
        rcases hWhy with (hFree | hOther) | hUnused
        · rw [hUsed] at hFree
          cases hFree
        · exact hOther (hNames.trans (hKey.symm.trans hId))
        · rw [hSame] at hUnused
          exact repairedCard_status now claimant hUnused
      · rintro ⟨-, -, hMissing, -⟩
        rw [hAssigned, hAccount] at hMissing
        cases hMissing
    · rw [if_neg hIn] at hSame
      subst hSame
      constructor
      · intro hOpen
        rcases hOpen with ⟨account, hAccount, hWhy⟩
        have hExists : (db.accounts.find? after.assigned_account_id).isSome := by
          rw [← hRepaired.present, hAccount]
          rfl
        have hKept := hRepaired.kept_of_single
            (fun other hOther => hReaches.single after hCard other hOther hExists) hIn
        rw [hKept] at hAccount
        have hOpen : Open db after := ⟨account, hAccount, hWhy⟩
        have hReported := hReaches.reported after hCard hOpen
        apply hIn
        rw [hHandled]
        exact ⟨hReported.1, (reported_iff hCard hOpen).mpr hReported.2,
            after, account, hFound, hAccount⟩
      · rw [stuck_of_after hRepaired]
        exact hReaches.known after hCard
  exact
    ⟨fun after hAfter => (hSettled after hAfter).1, fun after hAfter => (hSettled after hAfter).2⟩

/- A pass that leaves no card open has reached them all. -/
theorem reaches_of_quiet (hHandled : ∀ id, id ∈ handled ↔ Handles (scanConsistency db).issues db id)
    (hQuiet : (scanConsistency next).repairable_count = 0) : RepairReaches db := by
  rw [quiet_iff] at hQuiet
  have hNamed : ∀ card ∈ db.cards.rows, ∀ account,
        next.accounts.find? card.assigned_account_id = some account →
        markedCard account = card.id := by
    intro card hCard account hAccount
    have hClosed := hQuiet.1 _ (hRepaired.card_after hCard)
    by_contra hOther
    apply hClosed
    refine ⟨account, ?_, .inl (.inr ?_)⟩
    · split
      · rw [repairedCard_account]
        exact hAccount
      · exact hAccount
    · split
      · rw [repairedCard_id]
        exact hOther
      · exact hOther
  have hSingle : ∀ card ∈ db.cards.rows, ∀ other ∈ db.cards.rows,
        (db.accounts.find? card.assigned_account_id).isSome →
        other.assigned_account_id = card.assigned_account_id →
        other = card := by
    intro card hCard other hOther hExists hSame
    rw [← hRepaired.present] at hExists
    rcases isSome_iff_exists.mp hExists with ⟨account, hAccount⟩
    have hMine := hNamed card hCard account hAccount
    rw [← hSame] at hAccount
    have hTheirs := hNamed other hOther account hAccount
    exact eq_of_mem_of_key_eq hOther hCard (hTheirs.symm.trans hMine)
  refine ⟨hSingle, ?_, ?_⟩
  · intro card hCard hStuck
    have hNot : card.id ∉ handled := by
      intro hIn
      rcases ((hHandled card.id).mp hIn).2.2 with ⟨found, account, hFound, hAccount⟩
      rw [find?_of_mem hCard, some.injEq] at hFound
      subst hFound
      rw [hStuck.2.2.1] at hAccount
      cases hAccount
    have hAfter := hRepaired.card_after hCard
    rw [if_neg hNot] at hAfter
    exact hQuiet.2 card hAfter ((stuck_of_after hRepaired).mpr hStuck)
  · intro card hCard hOpen
    rcases hOpen with ⟨account, hAccount, hWhy⟩
    have hOpen : Open db card := ⟨account, hAccount, hWhy⟩
    by_cases hIn : card.id ∈ handled
    · rcases (hHandled card.id).mp hIn with
        ⟨hId, hReported, -⟩
      exact ⟨hId, (reported_iff hCard hOpen).mp hReported⟩
    · have hExists : (db.accounts.find? card.assigned_account_id).isSome := by
        rw [hAccount]
        rfl
      have hKept := hRepaired.kept_of_single
          (fun other hOther => hSingle card hCard other hOther hExists) hIn
      have hAfter := hRepaired.card_after hCard
      rw [if_neg hIn] at hAfter
      rw [← hKept] at hAccount
      exact absurd ⟨account, hAccount, hWhy⟩ (hQuiet.1 card hAfter)

end

/- One pass settles the store exactly when it reaches every
   open card and no card or account is beyond it. -/
theorem repairSettles_iff (now later : String) (db : Db) :
    RepairSettles now later db ↔ RepairReaches db := by
  rcases repairIssues_spec now (scanConsistency db).issues [] db with ⟨handled, hRepaired, hSeen⟩
  have hHandled : ∀ id, id ∈ handled ↔ Handles (scanConsistency db).issues db id := by
    intro id
    rw [hSeen]
    simp
  constructor
  · intro hSettles
    exact reaches_of_quiet hRepaired hHandled hSettles.1
  · intro hReaches
    have hQuiet := quiet_of_reaches hRepaired hHandled hReaches
    refine ⟨hQuiet, ?_⟩
    apply repairIssues_of_quiet
    intro issue hIssue
    rw [scanConsistency_issues] at hIssue
    exact (List.countP_eq_zero.mp hQuiet) issue (List.mem_of_mem_take hIssue)

/- A delivered card that claims account eleven. -/
def claimingCard (id : Nat) : Card where
  id := id
  batch_id := 1
  sku_code := "plus"
  platform := "chatgpt"
  code_hash := "h"
  code_mask := "m"
  code_prefix := "P"
  status := .redeemed
  assigned_account_id := 11
  assigned_at := "t"

/- The account is marked as used by the first card. -/
def claimedAccount : AccountModel where
  id := 11
  id_pos := Nat.succ_pos _
  platform := "chatgpt"
  email := "a@b"
  password := "p"
  status := "registered"
  extra :=
    { manually_used := true
      delivery_card_assignment := some
          { card_id := 1, batch_id := 1, sku_code := "plus", code_mask := "m", assigned_at := "t",
            source := "delivery_card_api" }
      rest := "plus" }
  created_at := none

def claimedTwice : Db where
  cards := (empty.insertNew (claimingCard 1)).insertNew (claimingCard 2)
  accounts := empty.insertNew claimedAccount
  skus := []
  batches := []
  events := []
  api_logs := []
  settings := { failure_mode := "safe", plus_sort_policy := none, free_sort_policy := none }

/- Each pass takes the mark of one card from the other. -/
theorem claimedTwice_unsettled : ¬ RepairSettles "t1" "t2" claimedTwice := by
  intro hSettles
  have hCount : (scanConsistency
          (repairConsistency "t1" claimedTwice).1
          ).repairable_count = 1 := by
    decide
  rw [hSettles.1] at hCount
  cases hCount

end DeliveryCards
