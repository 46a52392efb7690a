import AutoGpt.BaxiGptCdk.AccountOrders

/-
  Polls of `_poll_once` beside sessions of tasks on one card.
  A poll reads the order of the card, asks the upstream for
  it, and then writes by the card's id; the account it finds by
  reading the card again. An answer is credited to the order
  that it is about, if the card is bound as polled when the
  answer comes and no session moves the card before the poll
  has written all of it.

  Main theorems:
    * `BaxiGptCdk.orders_credited`
    * `BaxiGptCdk.orders_miscredited`
-/

open PyText (orElse strip)
open KeyedTable (empty find?_of_mem find?_updateKey_of_ne find?_updateKey_self mem_of_find?)
open JobPool (Holds OnJob State pending? run)
open Option

----
-- Polls And Sessions
----

namespace BaxiGptCdk

/- The order of a card, and the account it is for. -/
structure BoundOrder where
  order_id : String
  account_id : Nat
  email : String
deriving DecidableEq

def Row.bound (row : Row) : BoundOrder where
  order_id := strip row.order_id
  account_id := row.bound_account_id
  email := row.bound_account_email

/- The answer of `BaxiGptClient.status`; it has no order. -/
structure StatusAnswer where
  ok : Bool := true
  status : String := ""
  display_id : String := ""
  email : String := ""
  message : String := ""
deriving DecidableEq

def StatusAnswer.response (answer : StatusAnswer) :
    Response where
  ok := answer.ok
  status := answer.status
  display_id := answer.display_id
  email := answer.email
  message := answer.message

structure OrderState where
  cards : Cards := empty
  accounts : OrderAccounts := empty

/- What a session of a task, a poll or another writer of an account does next. A poll holds the
   record that it has polled, and later the one that it has read after its write. -/
inductive CreditJob where
| taskRead (task_id : String) (request : Request)
| taskWrite (session : Session)
| pollRead (record_id deadline_at : Nat)
| pollCheck (polled : Row) (deadline_at : Nat)
| querying (polled : Row)
| markRead (polled : Row) (answer : StatusAnswer)
| markWrite (polled : Row) (answer : StatusAnswer)
    (loaded : Row)
| markRefresh (polled : Row)
| accountRead (polled record : Row)
| localRefresh (polled record : Row) (account_id : Nat)
| accountWrite (polled record : Row) (loaded : OrderAccount)
| accountEdit (account : OrderAccount)
| finished
deriving DecidableEq

/- What comes from outside a step: the time; the answer of the upstream (`none` if it raises); the
   summary of a local status refresh; and the rest of the new `extra_json`. -/
structure CreditDraw where
  now : Nat := 0
  now_text : String := ""
  answer : Option StatusAnswer := none
  summary : String := ""
  rest : String := ""

/- `_poll_once` from the disabled check to the query. -/
def pollCheck (draw : CreditDraw) (accounts : OrderAccounts)
    (polled : Row) (deadline_at : Nat) : CreditJob :=
  if recordPollingDisabled accounts polled then .finished
  else if pollable polled.status = false then
    if terminal polled.status then .accountRead polled polled
    else .finished
  else if deadline_at < draw.now then .accountRead polled polled
  else .querying polled

def OrderAccounts.listed (accounts : OrderAccounts) :
    List Account :=
  accounts.rows.map fun account =>
    { id := account.id, platform := account.platform, email := account.email }

/- Another write of an account's status and `extra_json`. -/
def OrderAccount.edit (account current : OrderAccount) :
    OrderAccount :=
  { current with status := account.status, payload := account.payload, rest := account.rest }

/- The lookup of an account for a write. -/
def accountRead (accounts : OrderAccounts) (polled record : Row) :
    CreditJob :=
  match persistedAccount? accounts record with
  | none => .finished
  | some account =>
    if record.status = .paid then .localRefresh polled record account.id
    else .accountWrite polled record account

def CreditJob.advance (env : Env) (draw : CreditDraw) (s : OrderState) :
    CreditJob → OrderState × CreditJob
| .taskRead task_id request =>
    match (request.find env s.cards).filter fun row => request.accepts row with
    | none => (s, .finished)
    | some row => (s, .taskWrite
            { task_id := task_id, request := request, now := draw.now_text, snapshot := row })
| .taskWrite session => ({ s with
       cards := s.cards.updateKey session.snapshot.id
           (session.write env (OrderAccounts.listed s.accounts)) (fun _ => rfl) },
      .finished)
| .pollRead record_id deadline_at =>
    match s.cards.find? record_id with
    | none => (s, .finished)
    | some row => (s,
          if row.order_id = "" then .finished
          else .pollCheck row deadline_at)
| .pollCheck polled deadline_at => (s, BaxiGptCdk.pollCheck draw s.accounts polled deadline_at)
| .querying polled =>
    match draw.answer with
    | none => (s, .finished)
    | some answer => (s, .markRead polled answer)
| .markRead polled answer =>
    match s.cards.find? polled.id with
    | none => (s, .finished)
    | some row => (s, .markWrite polled answer row)
| .markWrite polled answer loaded => ({ s with
       cards := s.cards.updateKey polled.id
           (updateColumns loaded (markStatusResponse env answer.response draw.now_text loaded))
           (fun _ => rfl) },
      .markRefresh polled)
| .markRefresh polled =>
    match s.cards.find? polled.id with
    | none => (s, .finished)
    | some row => (s, .accountRead polled row)
| .accountRead polled record => (s, BaxiGptCdk.accountRead s.accounts polled record)
| .localRefresh polled record account_id =>
    match s.accounts.find? account_id with
    | none => (s, .finished)
    | some account => (s, .accountWrite polled record account)
| .accountWrite _ record loaded => ({ s with
       accounts := s.accounts.updateKey loaded.id
           ((persistedByPoll record draw.summary draw.rest loaded).committed loaded)
           (OrderAccount.committed_id _ loaded) },
      .finished)
| .accountEdit account => ({ s with
       accounts := s.accounts.updateKey account.id account.edit (fun _ => rfl) },
      .finished)
| .finished => (s, .finished)

/- A session of a task, a poll, or another write of an account, as it arrives. -/
inductive CreditRequest where
| task (task_id : String) (request : Request)
| poll (record_id deadline_at : Nat)
| edit (account : OrderAccount)

def CreditRequest.job : CreditRequest → CreditJob
| .task task_id request => .taskRead task_id request
| .poll record_id deadline_at => .pollRead record_id deadline_at
| .edit account => .accountEdit account

def orderPool (env : Env) :
    JobPool.Program OrderState CreditJob CreditRequest CreditDraw where
  start := CreditRequest.job
  advance := CreditJob.advance env
  done := fun job => decide (job = .finished)
  ended := .finished

abbrev CreditOp := JobPool.Op CreditRequest CreditDraw

/- Polls and sessions on some cards and accounts. -/
abbrev orderRun (env : Env) (s : OrderState) (ops : List CreditOp) :
    State OrderState CreditJob :=
  run (orderPool env) s ops

----
-- Credit
----

/- The record of a poll that writes next what it has found. -/
def CreditJob.writes : CreditJob → Option Row
| .markWrite polled _ _ => some polled
| .accountWrite polled _ _ => some polled
| _ => none

/- The record of a poll that has something to write. -/
def CreditJob.credits : CreditJob → Option Row
| .markRead polled _ => some polled
| .markWrite polled _ _ => some polled
| .markRefresh polled => some polled
| .accountRead polled _ => some polled
| .localRefresh polled _ _ => some polled
| .accountWrite polled _ _ => some polled
| _ => none

/- The record that such a poll has read after its write. -/
def CreditJob.recorded : CreditJob → Option (Row × Row)
| .accountRead polled record => some (polled, record)
| .localRefresh polled record _ => some (polled, record)
| .accountWrite polled record _ => some (polled, record)
| _ => none

def CreditJob.target : CreditJob → Option (Row × Row × Nat)
| .localRefresh polled record account_id => some (polled, record, account_id)
| .accountWrite polled record loaded => some (polled, record, loaded.id)
| _ => none

/- The card is bound to the order and the account of the record. -/
def BoundAs (s : OrderState) (polled : Row) : Prop :=
  ∀ row ∈ s.cards.find? polled.id, row.bound = polled.bound

instance (s : OrderState) (polled : Row) :
    Decidable (BoundAs s polled) := by
  unfold BoundAs
  infer_instance

def Row.credit (row : Row) :
    Status × String × String × String :=
  (row.status, row.paid_at, row.last_error_code, row.last_error_message)

/- The account that an order is for: the bound one, or if the
   card has none, that of the email the upstream has told. -/
def IsFor (polled record : Row) (account : OrderAccount) :
    Prop :=
  account.id = polled.bound_account_id ∨ account.email = strip polled.bound_account_email ∨
    (polled.bound_account_email = "" ∧ account.email = strip record.remote_email)

/- What is promised of one step of a job: a poll whose card is not bound as polled changes no credit
   of the card and no account; and a poll changes only the account that its order is for, to a
   payload of that order. -/
structure StepCredited (env : Env) (s : OrderState) (draw : CreditDraw)
    (job : CreditJob) : Prop where
  moved : ∀ polled ∈ job.writes, ¬ BoundAs s polled →
      (job.advance env draw s).1.accounts = s.accounts ∧ ∀ row ∈ s.cards.find? polled.id,
          ((job.advance env draw s).1.cards.find? polled.id).map Row.credit = some row.credit
  own : ∀ polled record loaded, job = .accountWrite polled record loaded →
        ∀ before ∈ s.accounts.rows, ∀ after ∈ (job.advance env draw s).1.accounts.find? before.id,
            after = before ∨ (IsFor polled record before ∧ (after.payload = before.payload ∨
                  ∃ payload, after.payload = some payload ∧
                      strip payload.order_id = strip polled.order_id))

def Credited (env : Env) (st : State OrderState CreditJob) (op : CreditOp) : Prop :=
  OnJob (orderPool env) (fun st draw job => StepCredited env st.shared draw job) st op

/- The condition on a step: a poll finds its card bound as polled when the upstream answers, or when
   it goes on without an answer; and the commit of a session moves no card of a poll that has
   something to write. -/
def StaysBound (env : Env) (st : State OrderState CreditJob) (draw : CreditDraw) : CreditJob → Prop
| .querying polled => draw.answer.isSome → BoundAs st.shared polled
| .pollCheck polled deadline_at =>
    (pollCheck draw st.shared.accounts polled deadline_at).credits.isSome → BoundAs st.shared polled
| .taskWrite session => ∀ other ∈ st.jobs, ∀ polled ∈ other.credits,
      polled.id = session.snapshot.id → ∀ row ∈ st.shared.cards.find? polled.id, (session.write env
              (OrderAccounts.listed st.shared.accounts) row).bound = row.bound
| _ => True

instance
    (env : Env) (st : State OrderState CreditJob) (draw : CreditDraw) (job : CreditJob) :
    Decidable (StaysBound env st draw job) := by
  unfold StaysBound
  split <;> infer_instance

----
-- Bindings Kept
----

theorem markStatusResponse_bound (env : Env) (response : Response) (now : String) (row : Row) :
    (markStatusResponse env response now row).order_id =
        strip (orElse response.order_id row.order_id) ∧
      (markStatusResponse env response now row).bound_account_id = row.bound_account_id ∧
      (markStatusResponse env response now
          row).bound_account_email =
        row.bound_account_email := by
  unfold markStatusResponse
  dsimp only
  generalize
    (if lowered env response.status ∈ paidStatuses then some Status.paid
      else if lowered env response.status ∈ processingStatuses then some Status.processing
      else if lowered env response.status ∈ failedStatuses
        then some Status.failed
      else none) = status
  split <;> exact ⟨rfl, rfl, rfl⟩

theorem bound_markStatus (answer : StatusAnswer) (now : String)
    (hSame : loaded.bound = stored.bound) :
    (updateColumns loaded
        (markStatusResponse env answer.response now loaded)
        stored).bound =
      stored.bound := by
  have hOrder : strip loaded.order_id = strip stored.order_id := congrArg BoundOrder.order_id hSame
  have hMarked := markStatusResponse_bound env answer.response now loaded
  have hEmpty : orElse answer.response.order_id loaded.order_id = loaded.order_id := if_pos rfl
  rw [hEmpty] at hMarked
  have hColumn : strip
          (column loaded.order_id (strip loaded.order_id) stored.order_id) =
        strip stored.order_id := by
    unfold column
    split
    · rfl
    · rw [PyText.strip_strip]
      exact hOrder
  unfold Row.bound updateColumns
  simp only [hMarked.1, hMarked.2.1, hMarked.2.2, hColumn]
  simp only [column, if_true]

/- A card that a poll finds bound as polled stays so while no write moves it. -/
theorem BoundAs.kept {s s' : OrderState} {polled : Row} (hBound : BoundAs s polled)
    (hKeep :
      ∀ row' ∈ s'.cards.find? polled.id, ∃ row ∈ s.cards.find? polled.id, row'.bound = row.bound) :
    BoundAs s' polled := by
  intro row' hRow'
  rcases hKeep row' hRow' with ⟨row, hRow, hSame⟩
  exact hSame.trans (hBound row hRow)

theorem find?_updated {cards : Cards} {k id : Nat}
    (hRow' : row' ∈ (cards.updateKey k f hKey).find? id) :
    ∃ row ∈ cards.find? id, (id = k ∧ row' = f row) ∨ (id ≠ k ∧ row' = row) := by
  by_cases hSame : id = k
  · rw [hSame, find?_updateKey_self] at hRow'
    rcases map_eq_some_iff.mp hRow' with ⟨row, hRow, hIs⟩
    rw [hSame]
    exact ⟨row, hRow, .inl ⟨rfl, hIs.symm⟩⟩
  · rw [find?_updateKey_of_ne _ _ _ hSame] at hRow'
    exact ⟨row', hRow', .inr ⟨hSame, rfl⟩⟩

----
-- Accounts Found
----

theorem boundAccount?_cases (hFound : boundAccount? accounts account_id email = some account) :
    account ∈ accounts.rows ∧ (account.id = account_id ∨ account.email = email) := by
  rcases or_eq_some_iff.mp hFound with hById | ⟨_, hByEmail⟩
  · split at hById
    · have hRow := mem_of_find? hById
      exact ⟨hRow.1, .inl hRow.2⟩
    · cases hById
  · split at hByEmail
    · cases hByEmail
    · have hRow := List.find?_some hByEmail
      simp only [Bool.and_eq_true, decide_eq_true_eq] at hRow
      exact ⟨List.mem_of_find?_eq_some hByEmail, .inr hRow.2⟩

theorem isFor_of_persistedAccount? {polled record : Row} (hBound : record.bound = polled.bound)
    (hFound : persistedAccount? accounts record = some account) :
    account ∈ accounts.rows ∧ IsFor polled record account := by
  have hId : record.bound_account_id = polled.bound_account_id :=
    congrArg BoundOrder.account_id hBound
  have hEmail : record.bound_account_email = polled.bound_account_email :=
    congrArg BoundOrder.email hBound
  unfold persistedAccount? at hFound
  split at hFound
  · have hRow := boundAccount?_cases (filter_eq_some_iff.mp hFound).1
    refine ⟨hRow.1, ?_⟩
    rcases hRow.2 with hById | hByEmail
    · exact .inl (hById.trans hId)
    · unfold Row.accountEmail orElse at hByEmail
      rw [hEmail] at hByEmail
      split at hByEmail
      · next hNone => exact .inr (.inr ⟨hNone, hByEmail⟩)
      · exact .inr (.inl hByEmail)
  · have hRow := boundAccount?_cases hFound
    refine ⟨hRow.1, ?_⟩
    rcases hRow.2 with hById | hByEmail
    · exact .inl (hById.trans hId)
    · rw [hEmail] at hByEmail
      exact .inr (.inl hByEmail)

----
-- Polls With Something To Write
----

/- What such a poll has found: its card is bound as polled, also in what it has read, and its
   account is that of the order. -/
structure CreditSound (s : OrderState) (job : CreditJob) :
    Prop where
  bound : ∀ polled ∈ job.credits, BoundAs s polled
  loaded :
    ∀ polled answer loaded, job = .markWrite polled answer loaded → loaded.bound = polled.bound
  record : ∀ polled record, job.recorded = some (polled, record) → record.bound = polled.bound
  account : ∀ polled record id, job.target = some (polled, record, id) →
      ∀ account ∈ s.accounts.find? id, IsFor polled record account

variable {job : CreditJob} {id : Nat}
theorem credits_of_recorded (hRecorded : job.recorded = some (polled, record)) :
    job.credits = some polled := by
  cases job <;> cases hRecorded <;> rfl

theorem recorded_of_target (hTarget : job.target = some (polled, record, id)) :
    job.recorded = some (polled, record) := by
  cases job <;> cases hTarget <;> rfl

theorem CreditSound.of_none (hNone : job.credits = none) :
    CreditSound s job where
  bound := fun polled hIs => by
    rw [hNone] at hIs
    cases hIs
  loaded := fun polled answer loaded hIs => by
    rw [hIs] at hNone
    cases hNone
  record := fun polled record hIs => by
    rw [credits_of_recorded hIs] at hNone
    cases hNone
  account := fun polled record id hIs => by
    rw [credits_of_recorded (recorded_of_target hIs)] at hNone
    cases hNone

/- Accounts that are found after a step were found before it with their email. -/
def KeepsEmails (s s' : OrderState) : Prop := ∀ id, ∀ account' ∈ s'.accounts.find? id,
    ∃ account ∈ s.accounts.find? id, account'.id = account.id ∧ account'.email = account.email

theorem KeepsEmails.isFor (hKeeps : KeepsEmails s s')
    (hFor : ∀ account ∈ s.accounts.find? id, IsFor polled record account) :
    ∀ account ∈ s'.accounts.find? id, IsFor polled record account := by
  intro account' hAccount'
  rcases hKeeps id account' hAccount' with ⟨account, hAccount, hId, hEmail⟩
  unfold IsFor
  rw [hId, hEmail]
  exact hFor account hAccount

theorem CreditSound.kept (hSound : CreditSound s job) (hKeeps : KeepsEmails s s')
    (hBound : ∀ polled ∈ job.credits, BoundAs s polled → BoundAs s' polled) :
    CreditSound s' job where
  bound := fun polled hCredits => hBound polled hCredits (hSound.bound polled hCredits)
  loaded := hSound.loaded
  record := hSound.record
  account := fun polled record id hTarget => hKeeps.isFor (hSound.account polled record id hTarget)

----
-- Steps
----

theorem keepsEmails_same (s : OrderState) : KeepsEmails s s :=
  fun _ account hAccount => ⟨account, hAccount, rfl, rfl⟩

theorem keepsEmails_update (s : OrderState) (cards : Cards)
    (hKey : ∀ account, (f account).id = account.id)
    (hEmail : ∀ account, (f account).email = account.email) :
    KeepsEmails s { cards := cards, accounts := s.accounts.updateKey k f hKey } := by
  intro id account' hAccount'
  by_cases hSame : id = k
  · rw [hSame] at hAccount' ⊢
    rw [find?_updateKey_self] at hAccount'
    rcases map_eq_some_iff.mp hAccount' with ⟨account, hAccount, hIs⟩
    refine ⟨account, hAccount, ?_, ?_⟩
    · rw [← hIs, hKey]
    · rw [← hIs, hEmail]
  · rw [find?_updateKey_of_ne _ _ _ hSame]
      at hAccount'
    exact ⟨account', hAccount', rfl, rfl⟩

def CreditJob.changes : CreditJob → Bool
| .taskWrite _ => true
| .markWrite _ _ _ => true
| .accountWrite _ _ _ => true
| .accountEdit _ => true
| _ => false

theorem advance_same (hNone : job.changes = false) : (job.advance env draw s).1 = s := by
  cases job <;>
    first
    | rfl
    | (simp only [CreditJob.advance]; split <;> rfl)
    | cases hNone

theorem keepsEmails_advance (s : OrderState) (job : CreditJob) :
    KeepsEmails s (job.advance env draw s).1 := by
  cases job with
  | taskWrite session => exact keepsEmails_same s
  | markWrite polled answer loaded => exact keepsEmails_same s
  | accountWrite polled record loaded => exact keepsEmails_update s s.cards _ fun _ => rfl
  | accountEdit account => exact keepsEmails_update s s.cards _ fun _ => rfl
  | _ =>
    rw [advance_same rfl]
    exact keepsEmails_same s

/- No step moves the card of a poll that has something to write. -/
theorem boundAs_advance {other : CreditJob} (hSound : CreditSound st.shared job)
    (hStays : StaysBound env st draw job) (hOther : other ∈ st.jobs)
    (hCredits : polled ∈ other.credits) (hBound : BoundAs st.shared polled) :
    BoundAs (job.advance env draw st.shared).1 polled := by
  cases job with
  | taskWrite session =>
    apply hBound.kept
    intro row' hRow'
    simp only [CreditJob.advance] at hRow'
    rcases find?_updated hRow' with ⟨row, hRow, ⟨hId, hIs⟩ | ⟨_, hIs⟩⟩
    · refine ⟨row, hRow, ?_⟩
      rw [hIs]
      exact hStays other hOther polled hCredits hId row hRow
    · exact ⟨row, hRow, congrArg Row.bound hIs⟩
  | markWrite written answer loaded =>
    apply hBound.kept
    intro row' hRow'
    simp only [CreditJob.advance] at hRow'
    rcases find?_updated hRow' with ⟨row, hRow, ⟨hId, hIs⟩ | ⟨_, hIs⟩⟩
    · refine ⟨row, hRow, ?_⟩
      have hOwn : row.bound = written.bound := by
        apply hSound.bound written rfl row
        rw [← hId]
        exact hRow
      have hLoaded : loaded.bound = row.bound :=
        (hSound.loaded written answer loaded rfl).trans hOwn.symm
      rw [hIs]
      exact bound_markStatus answer draw.now_text hLoaded
    · exact ⟨row, hRow, congrArg Row.bound hIs⟩
  | accountWrite written record loaded => exact hBound
  | accountEdit account => exact hBound
  | _ =>
    rw [advance_same rfl]
    exact hBound

theorem credits_pollCheck
    (hCredits : other ∈ (pollCheck draw accounts polled deadline_at).credits) :
    pollCheck draw accounts polled deadline_at = .accountRead polled polled ∧ other = polled := by
  unfold pollCheck at hCredits ⊢
  split at hCredits
  · cases hCredits
  · next hEnabled =>
      rw [if_neg hEnabled]
      split at hCredits
      · next hOpen =>
          rw [if_pos hOpen]
          split at hCredits
          · next hTerminal =>
              rw [if_pos hTerminal]
              cases hCredits
              exact ⟨rfl, rfl⟩
          · cases hCredits
      · next hOpen =>
          rw [if_neg hOpen]
          split at hCredits
          · next hLate =>
              rw [if_pos hLate]
              cases hCredits
              exact ⟨rfl, rfl⟩
          · cases hCredits

theorem creditSound_accountRead (hBound : BoundAs s polled)
    (hRecord : record.bound = polled.bound) :
    CreditSound s (.accountRead polled record) where
  bound := fun other hIs => by
    cases hIs
    exact hBound
  loaded := fun _ _ _ hIs => nomatch hIs
  record := fun other found hIs => by
    cases hIs
    exact hRecord
  account := fun _ _ _ hIs => nomatch hIs

theorem creditSound_found (hBound : BoundAs s polled) (hRecord : record.bound = polled.bound)
    (hFor : ∀ account ∈ s.accounts.find? id, IsFor polled record account)
    (hTarget : job.target = some (polled, record, id)) :
    CreditSound s job where
  bound := fun other hIs => by
    rw [credits_of_recorded (recorded_of_target hTarget)] at hIs
    cases hIs
    exact hBound
  loaded := fun other answer loaded hIs => by
    rw [hIs] at hTarget
    cases hTarget
  record := fun other found hIs => by
    rw [recorded_of_target hTarget] at hIs
    cases hIs
    exact hRecord
  account := fun other found k hIs => by
    rw [hTarget] at hIs
    cases hIs
    exact hFor

theorem creditSound_lookup (hBound : BoundAs s polled) (hRecord : record.bound = polled.bound) :
    CreditSound s (accountRead s.accounts polled record) := by
  unfold accountRead
  cases hFound : persistedAccount? s.accounts record with
  | none => exact CreditSound.of_none rfl
  | some account =>
    have hIs := isFor_of_persistedAccount? hRecord hFound
    have hFor : ∀ other ∈ s.accounts.find? account.id, IsFor polled record other := by
      intro other hOther
      rw [find?_of_mem hIs.1] at hOther
      cases hOther
      exact hIs.2
    dsimp only
    split
    · exact creditSound_found hBound hRecord hFor rfl
    · exact creditSound_found hBound hRecord hFor rfl

/- What a poll has found after its step. -/
theorem creditSound_advance (hSound : CreditSound st.shared job) (hMem : job ∈ st.jobs)
    (hStays : StaysBound env st draw job) :
    CreditSound (job.advance env draw st.shared).1 (job.advance env draw st.shared).2 := by
  cases job with
  | taskRead task_id request =>
    simp only [CreditJob.advance]
    split <;> exact CreditSound.of_none rfl
  | taskWrite session => exact CreditSound.of_none rfl
  | pollRead record_id deadline_at =>
    simp only [CreditJob.advance]
    split
    · exact CreditSound.of_none rfl
    · dsimp only
      split <;> exact CreditSound.of_none rfl
  | pollCheck polled deadline_at =>
    simp only [CreditJob.advance]
    cases hCredits : (pollCheck draw st.shared.accounts polled deadline_at).credits with
    | none => exact CreditSound.of_none hCredits
    | some other =>
      rw [(credits_pollCheck hCredits).1]
      apply creditSound_accountRead _ rfl
      apply hStays
      rw [hCredits]
      rfl
  | querying polled =>
    simp only [CreditJob.advance]
    cases hAnswer : draw.answer with
    | none => exact CreditSound.of_none rfl
    | some answer =>
      have hBound : BoundAs st.shared polled := by
        apply hStays
        rw [hAnswer]
        rfl
      constructor
      · intro other hIs
        cases hIs
        exact hBound
      · exact fun _ _ _ hIs => nomatch hIs
      · exact fun _ _ hIs => nomatch hIs
      · exact fun _ _ _ hIs => nomatch hIs
  | markRead polled answer =>
    have hBound := hSound.bound polled rfl
    simp only [CreditJob.advance]
    cases hRow : st.shared.cards.find? polled.id with
    | none => exact CreditSound.of_none rfl
    | some row =>
      constructor
      · intro other hIs
        cases hIs
        exact hBound
      · intro other found loaded hIs
        cases hIs
        exact hBound row hRow
      · exact fun _ _ hIs => nomatch hIs
      · exact fun _ _ _ hIs => nomatch hIs
  | markWrite polled answer loaded =>
    constructor
    · intro other hIs
      cases hIs
      exact boundAs_advance hSound hStays hMem rfl (hSound.bound polled rfl)
    · exact fun _ _ _ hIs => nomatch hIs
    · exact fun _ _ hIs => nomatch hIs
    · exact fun _ _ _ hIs => nomatch hIs
  | markRefresh polled =>
    have hBound := hSound.bound polled rfl
    simp only [CreditJob.advance]
    cases hRow : st.shared.cards.find? polled.id with
    | none => exact CreditSound.of_none rfl
    | some row => exact creditSound_accountRead hBound (hBound row hRow)
  | accountRead polled record =>
    exact creditSound_lookup (hSound.bound polled rfl) (hSound.record polled record rfl)
  | localRefresh polled record account_id =>
    simp only [CreditJob.advance]
    cases hAccount : st.shared.accounts.find? account_id with
    | none => exact CreditSound.of_none rfl
    | some account =>
      have hId := (mem_of_find? hAccount).2
      have hFor := hSound.account polled record account_id rfl
      rw [← hId] at hFor
      exact creditSound_found (hSound.bound polled rfl) (hSound.record polled record rfl) hFor rfl
  | accountWrite polled record loaded => exact CreditSound.of_none rfl
  | accountEdit account => exact CreditSound.of_none rfl
  | finished => exact CreditSound.of_none rfl

----
-- Runs
----

theorem credits_of_writes (hWrites : polled ∈ job.writes) : polled ∈ job.credits := by
  cases job <;> cases hWrites <;> rfl

theorem stepCredited (hSound : CreditSound s job) : StepCredited env s draw job := by
  constructor
  · intro polled hWrites hMoved
    exact absurd (hSound.bound polled (credits_of_writes hWrites)) hMoved
  · intro polled record loaded hJob before hBefore after hAfter
    rw [hJob] at hAfter
    simp only [CreditJob.advance] at hAfter
    by_cases hSame : before.id = loaded.id
    · have hFound := find?_of_mem hBefore
      rw [hSame] at hAfter hFound
      rw [find?_updateKey_self, hFound] at hAfter
      have hIs := some.inj hAfter
      right
      constructor
      · apply hSound.account polled record loaded.id
        · rw [hJob]
          rfl
        · exact hFound
      · rw [← hIs]
        rcases payload_committed
            (persistedByPoll record draw.summary draw.rest loaded)
            loaded before with
          hNew | ⟨_, hOld⟩
        · right
          rcases payload_persistedByPoll record draw.summary
              draw.rest loaded with
            ⟨payload, hPayload, hOrder⟩
          refine ⟨payload, hNew.trans hPayload, ?_⟩
          have hRecord := hSound.record polled record (by rw [hJob]; rfl)
          rw [hOrder]
          exact congrArg BoundOrder.order_id hRecord
        · exact Or.inl hOld
    · left
      rw [find?_updateKey_of_ne _ _ _ hSame, find?_of_mem hBefore] at hAfter
      exact (some.inj hAfter).symm

/- In every run whose steps meet the condition, polls have found what they then write. -/
theorem creditSound_run (env : Env) (s : OrderState) (ops : List CreditOp)
    (hSteps : Machine.Steps (JobPool.step (orderPool env))
        (OnJob (orderPool env) (StaysBound env)) { shared := s } ops) :
    Holds (fun _ => True) CreditSound (orderRun env s ops) := by
  apply JobPool.run_holds_of_steps (C := StaysBound env)
  · intro s request _
    cases request <;> exact CreditSound.of_none rfl
  · intro s _
    exact CreditSound.of_none rfl
  · intro draw st job hHolds hMem _ hStays
    have hSound := hHolds.jobs job hMem
    refine ⟨True.intro, creditSound_advance hSound hMem hStays, ?_⟩
    intro other hOther
    apply (hHolds.jobs other hOther).kept
    · exact keepsEmails_advance st.shared job
    · intro polled hCredits hBound
      exact boundAs_advance hSound hStays hOther hCredits hBound
  · refine ⟨True.intro, ?_⟩
    intro job hMem
    cases hMem
  · exact hSteps

/- Every operation of a run whose steps meet the condition credits answers only to their orders. -/
theorem orders_credited (env : Env) (s : OrderState) (ops : List CreditOp) (op : CreditOp)
    (hSteps : Machine.Steps (JobPool.step (orderPool env))
        (OnJob (orderPool env) (StaysBound env)) { shared := s } (ops ++ [op])) :
    Credited env (orderRun env s ops) op := by
  have hHolds := creditSound_run env s ops ((Machine.steps_append _ _ _).mp hSteps).1
  unfold Credited OnJob
  split
  · next i draw =>
      cases hJob : pending? (orderPool env) (orderRun env s ops) i with
      | none => exact True.intro
      | some job => exact stepCredited (hHolds.jobs job (JobPool.mem_of_pending? hJob).1)
  · exact True.intro

----
-- Answers Of Other Orders
----

def creditSteps (i : Nat) (draws : List CreditDraw) :
    List CreditOp :=
  draws.map (JobPool.Op.advance i)

/- A card with an order of the first of two accounts. -/
def cardOfFirst : OrderState where
  cards := empty.put
      { submittedCard .submitted with
        bound_account_id := 1,
        bound_account_email := "a@example.com" }
  accounts := (empty.put { id := 1, email := "a@example.com" }).put
      { id := 2, email := "b@example.com" }

def paidAnswer : CreditDraw where
  answer := some { status := "paid" }

def polledOnce : List CreditOp := .arrive (.poll 1 10) :: creditSteps 0 [{}, {}]

def sessionOf (i : Nat) (request : Request) : List CreditOp :=
  .arrive (.task "t-2" request) :: creditSteps i [{}, {}]

theorem orders_credited_paid :
    Credited plainEnv (orderRun plainEnv cardOfFirst
        (polledOnce ++ sessionOf 1 (.markFailure 1 "e" "m" none) ++
          creditSteps 0 [paidAnswer, {}, {}, {}, {}, {}])) (.advance 0 {}) :=
  orders_credited plainEnv cardOfFirst _ _ (by decide +kernel)

/- The card is reserved for the second account and gets a new order while the old one is queried. -/
def reboundInPoll : List CreditOp := polledOnce ++
    sessionOf 1 (.reserveForAccount 1 2 "b@example.com") ++
    sessionOf 2 (.markSubmitSuccess 1 { status := "submitted", order_id := "c::o-2" }) ++
    creditSteps 0 [paidAnswer, {}]

/- The status and the order that an account holds. -/
def orderOfAccount (s : OrderState) (id : Nat) :
    Option (String × String) :=
  ((s.accounts.find? id).bind OrderAccount.payload).map
    fun payload => (payload.status, payload.order_id)

theorem moved_of_credited (hCredited : Credited env st (.advance i draw)) :
    ∀ job ∈ pending? (orderPool env) st i, ∀ polled ∈ job.writes, ¬ BoundAs st.shared polled →
        (job.advance env draw st.shared).1.accounts = st.shared.accounts ∧
          ∀ row ∈ st.shared.cards.find? polled.id, ((job.advance env draw st.shared).1.cards.find?
                polled.id).map Row.credit = some row.credit := by
  intro job hJob
  simp only [Credited, OnJob] at hCredited
  rw [mem_def.mp hJob] at hCredited
  exact hCredited.moved

/- The answer marks the new order as paid, and then the second account for it, although the order of
   the first was paid. -/
theorem orders_miscredited :
    ¬ Credited plainEnv (orderRun plainEnv cardOfFirst reboundInPoll) (.advance 0 {}) ∧
      orderOfAccount (orderRun plainEnv cardOfFirst
            (reboundInPoll ++ creditSteps 0 [{}, {}, {}, {}, {}])).shared 2 =
        some ("paid", "c::o-2") := by
  constructor
  · intro hCredited
    exact absurd (moved_of_credited hCredited) (by decide +kernel)
  · decide +kernel

end BaxiGptCdk
