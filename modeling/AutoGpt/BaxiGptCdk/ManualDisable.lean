import AutoGpt.BaxiGptCdk.Exclusivity

/-
  A card that an operator has disabled, under any sequence of
  calls that map upstream answers to a status. Three of the
  methods guard a disabled card; three do not.

  Main theorems: `disabled_kept_iff`, `disabled_stays_iff`
-/

open KeyedTable (mem_of_find?)
open Machine (Steps run run_cons run_nil)
open List

----
-- Whole Calls
----

namespace BaxiGptCdk

/- A call with its time, and the accounts that a query reads. -/
structure CardCall where
  task_id : String
  request : Request
  now : String
  accounts : List Account

/- A call from its read to its answer, with no other between its three parts. -/
def callStep (env : Env) (cards : Cards) (call : CardCall) :
    Cards × Unit :=
  ((run (step env) { cards := cards }
    [.load call.task_id call.request call.now, .commit 0 call.accounts, .refresh 0]).cards, ())

def CardCall.effect (env : Env) (call : CardCall) (read : Row) :
    Row :=
  perform env call.accounts call.task_id call.now read call.request

/- The commit of an undisturbed session. -/
def CardCall.write (env : Env) (call : CardCall) (read stored : Row) : Row :=
  updateColumns read (call.effect env read) stored

theorem CardCall.write_id (env : Env) (call : CardCall) (read stored : Row) :
    (call.write env read stored).id = stored.id :=
  rfl

theorem callStep_of_none
    (hNone : call.request.find env cards = none) : (callStep env cards call).1 = cards := by
  have hLoad : step env { cards := cards }
          (.load call.task_id call.request call.now) =
        ({ cards := cards }, .none) := by
    unfold step load
    dsimp only
    rw [hNone]
  unfold callStep
  simp only [run_cons, run_nil]
  rw [hLoad]
  rfl

theorem callStep_of_refused {read : Row} (hRead : call.request.find env cards = some read)
    (hRefused : call.request.accepts read = false) : (callStep env cards call).1 = cards := by
  have hLoad : step env { cards := cards }
          (.load call.task_id call.request call.now) =
        ({ cards := cards }, .none) := by
    unfold step load
    dsimp only
    rw [hRead]
    dsimp only
    rw [hRefused, if_neg Bool.false_ne_true]
  unfold callStep
  simp only [run_cons, run_nil]
  rw [hLoad]
  rfl

theorem callStep_of_accepted {read : Row} (hRead : call.request.find env cards = some read)
    (hAccepts : call.request.accepts read) :
    (callStep env cards call).1 =
      cards.updateKey read.id (call.write env read) (call.write_id env read) := by
  have hLoad : step env { cards := cards }
          (.load call.task_id call.request call.now) =
        ({ cards := cards
           sessions :=
             [{ task_id := call.task_id, request := call.request, now := call.now,
                snapshot := read }] }, .opened 0) := by
    unfold step load
    dsimp only
    rw [hRead]
    dsimp only
    rw [if_pos hAccepts]
    rfl
  unfold callStep
  simp only [run_cons, run_nil]
  rw [hLoad]
  rfl

----
-- Guarded Methods
----

/- The call writes a status on the card without looking at the one that it has: a submit success, a
   failure, or a status answer that the method knows. -/
def Overrides (env : Env) (k : Nat) (call : CardCall) : Prop :=
  match call.request with
  | .reserveForAccount _ _ _ => False
  | .markCodeInfo _ _ => False
  | .markQueryResponse _ _ => False
  | .markSubmitSuccess record_id _ => record_id = k
  | .markFailure record_id _ _ _ => record_id = k
  | .markStatusResponse record_id response => record_id = k ∧
        lowered env response.status ∈ paidStatuses ++ processingStatuses ++ failedStatuses

theorem markCodeInfo_disabled {read : Row} (hDisabled : read.status = .disabled)
    (response : Response) (now : String) : (markCodeInfo response now read).status = .disabled := by
  have hKeeps : codeInfoKeeps read := by
    unfold codeInfoKeeps
    rw [hDisabled]
    rfl
  have hListed : read.status ∈ [Status.paid, .processing, .submitted, .disabled] := by
    rw [hDisabled]
    decide
  unfold markCodeInfo
  by_cases hUsable : codeInfoUsable response
  · rw [if_pos hUsable, if_pos hKeeps]
    exact hDisabled
  · rw [if_neg hUsable, if_pos hListed]
    exact hDisabled

theorem setUnlessDisabled_disabled {read : Row} (hDisabled : read.status = .disabled)
    (status : Status) : setUnlessDisabled status read = read :=
  if_pos hDisabled

theorem clearError_status (model : Row) : (clearError model).status = model.status := rfl

theorem queryMarked_disabled {read : Row} (hDisabled : read.status = .disabled)
    (env : Env) (accounts : List Account) (response : Response) (now : String)
    (branch : QueryBranch) :
    (queryMarked env accounts response now branch read).status = .disabled := by
  have hKept := setUnlessDisabled_disabled hDisabled
  have hBound : ∀ email, (bindEmail accounts email read).status = .disabled :=
    fun email => (bindEmail_status accounts email read).trans hDisabled
  unfold queryMarked
  cases branch with
  | refused =>
    rw [hKept]
    exact hDisabled
  | processing =>
    dsimp only
    rw [hKept, clearError_status]
    exact hBound (PyText.strip (chosenOrder env response).email)
  | quota =>
    rw [if_pos hDisabled]
    exact hDisabled
  | paid =>
    dsimp only
    rw [hKept]
    exact hDisabled
  | paidOrder =>
    dsimp only
    rw [hKept, clearError_status]
    exact hBound (PyText.strip (paidOrder env response).email)
  | exhausted =>
    rw [hKept]
    exact hDisabled
  | failed =>
    rw [hKept]
    exact hDisabled
  | other => exact hDisabled

theorem markQueryResponse_disabled {read : Row} (hDisabled : read.status = .disabled)
    (env : Env) (accounts : List Account) (response : Response) (now : String) :
    (markQueryResponse env accounts response now read).status = .disabled := by
  have hChecked : (queryChecked env response now read).status = .disabled :=
    (queryChecked_status env response now read).trans hDisabled
  exact queryMarked_disabled hChecked env accounts response now _

theorem markSubmitSuccess_status (env : Env) (response : Response) (now : String) (read : Row) :
    (markSubmitSuccess env response now read).status ≠ .disabled := by
  unfold markSubmitSuccess
  dsimp only
  split
  · exact nofun
  split
  · exact nofun
  · exact nofun

/- A status answer keeps the status exactly when it is no known one. -/
theorem markStatusResponse_disabled_iff {read : Row} (hDisabled : read.status = .disabled)
    (env : Env) (response : Response) (now : String) :
    (markStatusResponse env response now read).status = .disabled ↔ lowered env response.status ∉
        paidStatuses ++ processingStatuses ++ failedStatuses := by
  rw [mem_append, mem_append]
  unfold markStatusResponse
  dsimp only
  by_cases hPaid : lowered env response.status ∈ paidStatuses
  · rw [if_pos hPaid]
    constructor
    · exact nofun
    · exact fun h => absurd (.inl (.inl hPaid)) h
  · rw [if_neg hPaid]
    by_cases hProcessing : lowered env response.status ∈ processingStatuses
    · rw [if_pos hProcessing]
      constructor
      · exact nofun
      · exact fun h => absurd (.inl (.inr hProcessing)) h
    · rw [if_neg hProcessing]
      by_cases hFailed : lowered env response.status ∈ failedStatuses
      · rw [if_pos hFailed, if_pos rfl]
        constructor
        · exact nofun
        · exact fun h => absurd (.inr hFailed) h
      · rw [if_neg hFailed, if_neg nofun]
        constructor
        · rintro - ((h | h) | h)
          · exact hPaid h
          · exact hProcessing h
          · exact hFailed h
        · exact fun _ => hDisabled

/- The three requests that find a card by its id. -/
theorem effect_disabled_iff {read : Row} (hDisabled : read.status = .disabled) (hId : read.id = k)
    (hRead : call.request.find env cards = some read)
    (hAccepts : call.request.accepts read) :
    (call.effect env read).status = .disabled ↔ ¬ Overrides env k call := by
  unfold CardCall.effect Overrides
  have hFound : ∀ record_id, cards.find? record_id = some read → record_id = k :=
    fun record_id hFind => (mem_of_find? hFind).2.symm.trans hId
  cases hRequest : call.request with
  | reserveForAccount record_id account_id email =>
    rw [hRequest] at hAccepts
    unfold Request.accepts reservable at hAccepts
    rw [hDisabled] at hAccepts
    cases hAccepts
  | markCodeInfo record_id response =>
    exact ⟨fun _ h => h, fun _ => markCodeInfo_disabled hDisabled _ _⟩
  | markQueryResponse code response =>
    exact ⟨fun _ h => h, fun _ => markQueryResponse_disabled hDisabled _ _ _ _⟩
  | markSubmitSuccess record_id response =>
    rw [hRequest] at hRead
    constructor
    · exact fun h => absurd h (markSubmitSuccess_status _ _ _ _)
    · exact fun h => absurd (hFound _ hRead) h
  | markFailure record_id error_code error_message response =>
    rw [hRequest] at hRead
    constructor
    · exact nofun
    · exact fun h => absurd (hFound _ hRead) h
  | markStatusResponse record_id response =>
    rw [hRequest] at hRead
    have hKnown := markStatusResponse_disabled_iff hDisabled env response call.now
    constructor
    · exact fun h hOverrides => hKnown.mp h hOverrides.2
    · intro h
      exact hKnown.mpr (fun hIn => h ⟨hFound _ hRead, hIn⟩)

----
-- Runs
----

/- The card is in the pool and disabled. -/
def Disabled (k : Nat) (cards : Cards) : Prop :=
  ∃ row, cards.find? k = some row ∧ row.status = .disabled

theorem find_of_overrides {env : Env} {k : Nat} {call : CardCall} {cards : Cards}
    (hOverrides : Overrides env k call) :
    call.request.find env cards = cards.find? k ∧ ∀ read, call.request.accepts read := by
  unfold Overrides at hOverrides
  cases hRequest : call.request with
  | reserveForAccount record_id account_id email =>
    rw [hRequest] at hOverrides
    exact hOverrides.elim
  | markCodeInfo record_id response =>
    rw [hRequest] at hOverrides
    exact hOverrides.elim
  | markQueryResponse code response =>
    rw [hRequest] at hOverrides
    exact hOverrides.elim
  | markSubmitSuccess record_id response =>
    rw [hRequest] at hOverrides
    subst hOverrides
    exact ⟨rfl, fun _ => rfl⟩
  | markFailure record_id error_code error_message response =>
    rw [hRequest] at hOverrides
    subst hOverrides
    exact ⟨rfl, fun _ => rfl⟩
  | markStatusResponse record_id response =>
    rw [hRequest] at hOverrides
    rw [← hOverrides.1]
    exact ⟨rfl, fun _ => rfl⟩

theorem find?_of_find {request : Request} {read : Row}
    (hRead : request.find env cards = some read) : cards.find? read.id = some read := by
  have hMem : read ∈ cards.rows := by
    cases request with
    | reserveForAccount record_id account_id email => exact (mem_of_find? hRead).1
    | markCodeInfo record_id response => exact (mem_of_find? hRead).1
    | markQueryResponse code response =>
      unfold Request.find at hRead
      dsimp only at hRead
      split at hRead
      · cases hRead
      · exact mem_of_find?_eq_some hRead
    | markSubmitSuccess record_id response => exact (mem_of_find? hRead).1
    | markFailure record_id error_code error_message
        response =>
        exact (mem_of_find? hRead).1
    | markStatusResponse record_id response => exact (mem_of_find? hRead).1
  exact KeyedTable.find?_of_mem hMem

theorem write_status (env : Env) (call : CardCall) (read : Row) :
    (call.write env read read).status = (call.effect env read).status := by
  unfold CardCall.write updateColumns column
  split
  next hSame =>
    exact hSame.symm
  · rfl

/- A call keeps a disabled card disabled exactly when it does not override it. -/
theorem disabled_kept_iff {k : Nat} (hDisabled : Disabled k cards)
    (call : CardCall) : Disabled k (callStep env cards call).1 ↔ ¬ Overrides env k call := by
  rcases hDisabled with ⟨row, hRow, hStatus⟩
  have hId : row.id = k := (mem_of_find? hRow).2
  cases hFind : call.request.find env cards with
  | none =>
    rw [callStep_of_none hFind]
    constructor
    · intro _ hOverrides
      rw [(find_of_overrides hOverrides).1, hRow] at hFind
      cases hFind
    · exact fun _ => ⟨row, hRow, hStatus⟩
  | some read =>
    cases hAccepts : call.request.accepts read with
    | false =>
      rw [callStep_of_refused hFind hAccepts]
      constructor
      · intro _ hOverrides
        have hTaken := (@find_of_overrides env k call cards hOverrides).2 read
        rw [hTaken] at hAccepts
        cases hAccepts
      · exact fun _ => ⟨row, hRow, hStatus⟩
    | true =>
      rw [callStep_of_accepted hFind hAccepts]
      by_cases hSame : read.id = k
      · have hRead : read = row := by
          have hStored := find?_of_find hFind
          rw [hSame, hRow, Option.some.injEq] at hStored
          exact hStored.symm
        subst hRead
        rw [← effect_disabled_iff hStatus hId hFind hAccepts]
        unfold Disabled
        rw [hSame, KeyedTable.find?_updateKey_self, hRow]
        constructor
        · rintro ⟨row', hNew, hStill⟩
          rw [Option.map_some, Option.some.injEq] at hNew
          rw [← write_status, hNew]
          exact hStill
        · intro hStill
          refine ⟨_, rfl, ?_⟩
          rw [write_status]
          exact hStill
      · have hOther : Disabled k
              (cards.updateKey read.id (call.write env read) (call.write_id env read)) := by
          refine ⟨row, ?_, hStatus⟩
          rw [KeyedTable.find?_updateKey_of_ne _ _ _ (Ne.symm hSame)]
          exact hRow
        constructor
        · intro _ hOverrides
          rw [(find_of_overrides hOverrides).1] at hFind
          exact hSame (mem_of_find? hFind).2
        · exact fun _ => hOther

/- From a pool where the card is disabled it stays so over a sequence of calls exactly when none of
   them overrides it. -/
theorem disabled_stays_iff (env : Env) (k : Nat) (cards : Cards) (calls : List CardCall)
    (hDisabled : Disabled k cards) :
    (∀ before after, calls = before ++ after → Disabled k (run (callStep env) cards before)) ↔
      ∀ call ∈ calls, ¬ Overrides env k call := by
  constructor
  · intro hStays call hCall
    rcases append_of_mem hCall with ⟨before, after, hSplit⟩
    have hBefore := hStays before (call :: after) hSplit
    have hAfter := hStays (before ++ [call]) after (by simp [hSplit])
    rw [Machine.run_append] at hAfter
    exact (disabled_kept_iff hBefore call).mp hAfter
  · intro hNone before after hSplit
    have hSteps : Steps (callStep env)
          (fun _ call => ¬ Overrides env k call) cards
          before :=
      Machine.steps_of_forall_mem
        (fun call hCall => hNone call (hSplit ▸ mem_append_left _ hCall)) cards
    have hKept : ∀ (cards : Cards) (call : CardCall),
        Disabled k cards → ¬ Overrides env k call → Disabled k (callStep env cards call).1 :=
      fun _ call hStill hOther => (disabled_kept_iff hStill call).mpr hOther
    exact @Machine.run_induction_of_steps Cards CardCall Unit (callStep env) (Disabled k)
        (fun _ call => ¬ Overrides env k call) hKept cards hDisabled before hSteps

/- The card, disabled by an operator while its order ran. -/
def disabledCard : Row := { newCard with status := .disabled, order_id := "order-1" }

def disabledCards : Cards where
  rows := [disabledCard]
  keys_nodup := by decide

theorem disabledCards_disabled : Disabled 1 disabledCards := ⟨disabledCard, rfl, rfl⟩

/- A usable code and a query with quota left. -/
def lateAnswers : List CardCall := [⟨"task_1", .markCodeInfo 1 { ok := true }, "t1", []⟩,
    ⟨"task_1", .markQueryResponse "CDK-AAAA-1111" { ok := true, remaining := some 1 }, "t2", []⟩]

/- The answers of the guarded methods leave it disabled. -/
theorem lateAnswers_disabled :
    Disabled 1 (run (callStep newCardEnv) disabledCards lateAnswers) := by
  refine (disabled_stays_iff newCardEnv 1 disabledCards lateAnswers
      disabledCards_disabled).mpr ?_ lateAnswers [] (append_nil lateAnswers).symm
  intro call hCall
  rcases mem_cons.mp hCall with hCall | hCall
  · rw [hCall]
    exact fun h => h
  · rw [mem_singleton.mp hCall]
    exact fun h => h

/- A status answer that still says `processing` takes the card out of `disabled`. -/
theorem disabledCard_processing_again :
    ¬ ∀ (env : Env) (k : Nat) (cards : Cards) (calls : List CardCall),
      Disabled k cards → Disabled k (run (callStep env) cards calls) := by
  intro hSticky
  have hStill := hSticky newCardEnv 1 disabledCards
      [⟨"task_1", .markStatusResponse 1 { status := "processing" }, "t1", []⟩]
      disabledCards_disabled
  rcases hStill with ⟨row, hRow, hStatus⟩
  have hProcessing : ((run (callStep newCardEnv) disabledCards
          [⟨"task_1", .markStatusResponse 1 { status := "processing" },
            "t1", []⟩]).find? 1).map (·.status) =
        some .processing := by
    decide +kernel
  rw [hRow, Option.map_some, hStatus] at hProcessing
  cases hProcessing

end BaxiGptCdk
