import AutoGpt.BaxiGptCdk.Repository

/-
  What the commit of a session does to the binding and the
  availability of the card it writes. Each method either
  keeps both, or binds the card to a target, or sets it free;
  the commit of the last two is harmless only when what it
  writes is there already.

  Main theorems:
    * `BaxiGptCdk.kept_updateColumns_iff`
    * `BaxiGptCdk.markQueryResponse_kept_iff`
    * `BaxiGptCdk.kept_write_iff`
-/

open PyText (strip)

----
-- Bindings
----

namespace BaxiGptCdk

/- The account and the task a card is bound to. -/
structure Binding where
  account_id : Nat
  email : String
  task_id : String
deriving DecidableEq

def Row.binding (row : Row) : Binding where
  account_id := row.bound_account_id
  email := row.bound_account_email
  task_id := row.task_id

/- The binding of a card that was set free. -/
def unbound : Binding := ⟨0, "", ""⟩

/- Neither rebound nor returned to `available`. -/
def Kept (row next : Row) : Prop :=
  next.binding = row.binding ∧ (next.status = .available → row.status = .available)

instance (row next : Row) : Decidable (Kept row next) := inferInstanceAs (Decidable (_ ∧ (_ → _)))

----
-- Harmless Commits
----

/- Each part of the target binding is what the session read, and then it is not written, or what is
   stored already. -/
def Unmoved (target read stored : Binding) : Prop :=
  (target.account_id = read.account_id ∨ target.account_id = stored.account_id) ∧
  (target.email = read.email ∨ target.email = stored.email) ∧
  (target.task_id = read.task_id ∨ target.task_id = stored.task_id)

instance (target read stored : Binding) :
    Decidable (Unmoved target read stored) :=
  inferInstanceAs (Decidable (_ ∧ _ ∧ _))

/- Setting the card free changes nothing that is stored. -/
def Unfreed (read stored : Row) : Prop := (read.status = .available ∨ stored.status = .available) ∧
    Unmoved unbound read.binding stored.binding

instance (read stored : Row) :
    Decidable (Unfreed read stored) :=
  inferInstanceAs (Decidable (_ ∧ _))

/- Binding to the email of an order changes nothing. -/
def Unrebound (accounts : List Account) (email : String) (read stored : Row) : Prop :=
  email ≠ "" → Unmoved ⟨(accountOf accounts email).getD read.bound_account_id, email, read.task_id⟩
      read.binding stored.binding

instance
    (accounts : List Account) (email : String) (read stored : Row) :
    Decidable (Unrebound accounts email read stored) :=
  inferInstanceAs (Decidable (_ → _))

/- The branch of a query moves nothing that is stored. -/
def HarmlessQuery (env : Env) (accounts : List Account)
    (response : Response) (read stored : Row) : Prop :=
  match queryBranch env response read with
  | .processing => Unrebound accounts (strip (chosenOrder env response).email) read stored
  | .quota => read.status ≠ .disabled → Unfreed read stored
  | .paidOrder => Unrebound accounts (strip (paidOrder env response).email) read stored
  | .refused => True
  | .paid => True
  | .exhausted => True
  | .failed => True
  | .other => True

/- The session's commit is harmless on the stored row: it does not take a branch that binds or frees
   the card, or what the branch writes is there already. -/
def HarmlessOn (env : Env) (accounts : List Account) (s : Session) (stored : Row) : Prop :=
  match s.request with
  | .reserveForAccount _ account_id email => Unmoved
        ⟨account_id, strip email, strip s.task_id⟩ s.snapshot.binding stored.binding
  | .markCodeInfo _ response =>
    codeInfoUsable response ∧ codeInfoKeeps s.snapshot = false → Unfreed s.snapshot stored
  | .markQueryResponse _ response => HarmlessQuery env accounts response s.snapshot stored
  | .markSubmitSuccess _ _ => True
  | .markFailure _ _ _ _ => True
  | .markStatusResponse _ _ => True

theorem column_eq_stored_iff {α : Type} [DecidableEq α] (read new stored : α) :
    column read new stored = stored ↔ new = read ∨ new = stored := by
  unfold column
  by_cases hRead : new = read
  · rw [if_pos hRead]
    exact ⟨fun _ => .inl hRead, fun _ => rfl⟩
  · rw [if_neg hRead]
    constructor
    · exact .inr
    · intro hCase
      rcases hCase with hSame | hSame
      · exact absurd hSame hRead
      · exact hSame

theorem kept_updateColumns_iff (read new stored : Row) :
    Kept stored (updateColumns read new stored) ↔ Unmoved new.binding read.binding stored.binding ∧
        (new.status = .available → read.status = .available ∨ stored.status = .available) := by
  have hBinding : (updateColumns read new stored).binding = stored.binding ↔
        Unmoved new.binding read.binding stored.binding := by
    rw [Binding.mk.injEq]
    exact and_congr (column_eq_stored_iff _ _ _)
        (and_congr (column_eq_stored_iff _ _ _) (column_eq_stored_iff _ _ _))
  have hStatus : ((updateColumns read new stored).status = .available →
          stored.status = .available) ↔
        (new.status = .available → read.status = .available ∨ stored.status = .available) := by
    have hColumn : (updateColumns read new stored).status =
          if new.status = read.status then stored.status
          else new.status := rfl
    rw [hColumn]
    by_cases hRead : new.status = read.status
    · rw [if_pos hRead, hRead]
      exact ⟨fun _ h => .inl h, fun _ h => h⟩
    · rw [if_neg hRead]
      constructor
      · intro hKeep hNew
        exact .inr (hKeep hNew)
      · intro hKeep hNew
        rcases hKeep hNew with hWas | hStored
        · exact absurd (hNew.trans hWas.symm) hRead
        · exact hStored
  exact and_congr hBinding hStatus

----
-- What Each Method Moves
----

variable {read new stored : Row}

theorem unmoved_read (read stored : Binding) : Unmoved read read stored :=
  ⟨.inl rfl, .inl rfl, .inl rfl⟩

/- The session moves the card to the target binding. -/
structure Moves (read new : Row) (target : Binding) (frees : Prop) :
    Prop where
  binding : new.binding = target
  status : new.status = .available → read.status = .available ∨ frees
  frees : frees → new.status = .available

variable {frees : Prop}
theorem Moves.kept_iff_true (hMoves : Moves read new read.binding frees) (hNever : ¬ frees) :
    Kept stored (updateColumns read new stored) ↔ True := by
  rw [kept_updateColumns_iff, hMoves.binding]
  refine iff_true_intro ⟨unmoved_read _ _, ?_⟩
  intro hNew
  rcases hMoves.status hNew with hWas | hFrees
  · exact .inl hWas
  · exact absurd hFrees hNever

theorem Moves.kept_iff_unmoved (hMoves : Moves read new target frees) (hNever : ¬ frees) :
    Kept stored (updateColumns read new stored) ↔ Unmoved target read.binding stored.binding := by
  rw [kept_updateColumns_iff, hMoves.binding]
  refine ⟨And.left, fun hSame => ⟨hSame, ?_⟩⟩
  intro hNew
  rcases hMoves.status hNew with hWas | hFrees
  · exact .inl hWas
  · exact absurd hFrees hNever

theorem Moves.kept_iff_unfreed (hMoves : Moves read new unbound frees) (hFrees : frees) :
    Kept stored (updateColumns read new stored) ↔ Unfreed read stored := by
  rw [kept_updateColumns_iff, hMoves.binding]
  have hNew := hMoves.frees hFrees
  constructor
  · intro hKept
    exact ⟨hKept.2 hNew, hKept.1⟩
  · intro hSame
    exact ⟨hSame.2, fun _ => hSame.1⟩

theorem reserveForAccount_moves (account_id : Nat) (email task_id now : String) (read : Row) :
    Moves read
      (reserveForAccount account_id email task_id now read)
      ⟨account_id, strip email, strip task_id⟩
      False := by
  refine ⟨rfl, ?_, False.elim⟩
  intro hNew
  cases hNew

theorem markSubmitSuccess_moves (env : Env) (response : Response) (now : String) (read : Row) :
    Moves read (markSubmitSuccess env response now read) read.binding False := by
  refine ⟨rfl, ?_, False.elim⟩
  intro hNew
  dsimp only [markSubmitSuccess] at hNew
  split at hNew
  · cases hNew
  split at hNew
  · cases hNew
  · cases hNew

theorem markFailure_moves (error_code error_message : String)
    (response : Option Response) (now : String) (read : Row) :
    Moves read
      (markFailure error_code error_message response now read)
      read.binding False := by
  refine ⟨rfl, ?_, False.elim⟩
  intro hNew
  cases hNew

theorem markStatusResponse_moves (env : Env) (response : Response) (now : String) (read : Row) :
    Moves read (markStatusResponse env response now read) read.binding False := by
  unfold markStatusResponse
  dsimp only
  generalize hStatus : (if lowered env response.status ∈ paidStatuses then some Status.paid
      else if lowered env response.status ∈ processingStatuses then some Status.processing
      else if lowered env response.status ∈ failedStatuses
        then some Status.failed
      else none) = status
  have hNever : status ≠ some .available := by
    rw [← hStatus]
    split
    · exact nofun
    split
    · exact nofun
    split
    · exact nofun
    · exact nofun
  constructor
  · split
    · rfl
    · rfl
  · intro hNew
    rw [apply_ite Row.status, ite_self] at hNew
    cases status with
    | none => exact .inl hNew
    | some marked =>
      have hAvailable : marked = .available := hNew
      exact absurd (congrArg some hAvailable) hNever
  · exact False.elim

theorem markCodeInfo_frees (now : String) (hUsable : codeInfoUsable response)
    (hKeeps : codeInfoKeeps read = false) :
    Moves read (markCodeInfo response now read) unbound
      True := by
  unfold markCodeInfo
  rw [if_pos hUsable, hKeeps]
  exact ⟨rfl, fun _ => .inr trivial, fun _ => rfl⟩

theorem markCodeInfo_keeps (now : String)
    (hCase : ¬ (codeInfoUsable response ∧ codeInfoKeeps read = false)) :
    Moves read (markCodeInfo response now read) read.binding
      False := by
  unfold markCodeInfo
  by_cases hUsable : codeInfoUsable response
  · have hKeeps : codeInfoKeeps read := by
      by_contra hNot
      exact hCase ⟨hUsable, Bool.eq_false_of_not_eq_true hNot⟩
    rw [if_pos hUsable, hKeeps]
    exact ⟨rfl, .inl, False.elim⟩
  · rw [if_neg hUsable]
    split
    · exact ⟨rfl, .inl, False.elim⟩
    · refine ⟨rfl, ?_, False.elim⟩
      intro hNew
      cases hNew

theorem setUnlessDisabled_moves (hStatus : status ≠ .available) (read : Row) :
    Moves read (setUnlessDisabled status read) read.binding
      False := by
  unfold setUnlessDisabled
  split
  · exact ⟨rfl, .inl, False.elim⟩
  · exact ⟨rfl, fun hNew => absurd hNew hStatus, False.elim⟩

/- The target of binding a card to the email of an order. -/
def emailBinding (accounts : List Account) (email : String) (read : Row) :
    Binding :=
  if email = "" then read.binding
  else ⟨(accountOf accounts email).getD read.bound_account_id, email, read.task_id⟩

theorem bindEmail_binding (accounts : List Account) (email : String) (model : Row) :
    (bindEmail accounts email model).binding = emailBinding accounts email model := by
  unfold bindEmail emailBinding
  split
  · rfl
  · rfl

theorem bindEmail_status (accounts : List Account) (email : String) (model : Row) :
    (bindEmail accounts email model).status = model.status := by
  unfold bindEmail
  split
  · rfl
  · rfl

theorem emailBinding_setUnlessDisabled (accounts : List Account) (email : String)
    (status : Status) (model : Row) :
    emailBinding accounts email
        (setUnlessDisabled status model) =
      emailBinding accounts email model := by
  unfold setUnlessDisabled
  split
  · rfl
  · rfl

theorem bindEmail_moves (hStatus : status ≠ .available)
    (accounts : List Account) (email : String) (read : Row) :
    Moves read (bindEmail accounts email (setUnlessDisabled status read))
      (emailBinding accounts email read) False := by
  refine ⟨?_, ?_, False.elim⟩
  · rw [bindEmail_binding, emailBinding_setUnlessDisabled]
  · rw [bindEmail_status]
    exact (setUnlessDisabled_moves hStatus read).status

theorem unmoved_emailBinding_iff (accounts : List Account) (email : String) (read stored : Row) :
    Unmoved (emailBinding accounts email read) read.binding
        stored.binding ↔
      Unrebound accounts email read stored := by
  unfold emailBinding Unrebound
  by_cases hEmpty : email = ""
  · rw [if_pos hEmpty]
    exact ⟨fun _ hNot => absurd hEmpty hNot, fun _ => unmoved_read _ _⟩
  · rw [if_neg hEmpty]
    exact ⟨fun h _ => h, fun h => h hEmpty⟩

theorem Moves.congr (hMoves : Moves read new target frees)
    (hRead : read'.status = read.status) (hBinding : new'.binding = new.binding)
    (hStatus : new'.status = new.status) : Moves read' new' target frees := by
  constructor
  · rw [hBinding]
    exact hMoves.binding
  · rw [hStatus, hRead]
    exact hMoves.status
  · rw [hStatus]
    exact hMoves.frees

theorem queryChecked_status (env : Env) (response : Response) (now : String) (model : Row) :
    (queryChecked env response now model).status = model.status := by
  unfold queryChecked
  rfl

theorem queryChecked_binding (env : Env) (response : Response) (now : String) (model : Row) :
    (queryChecked env response now model).binding = model.binding := by
  simp only [queryChecked, Row.binding]

theorem markQueryResponse_moves
    (hMoves : Moves (queryChecked env response now read) (queryMarked env accounts response now
          (queryBranch env response read) (queryChecked env response now read)) target frees) :
    Moves read
      (markQueryResponse env accounts response now read)
      target frees := by
  unfold markQueryResponse
  generalize queryMarked env accounts response now (queryBranch env response read)
    (queryChecked env response now read) = marked at hMoves ⊢
  have hStatus := queryChecked_status env response now read
  constructor
  · exact hMoves.binding
  · rw [← hStatus]
    exact hMoves.status
  · exact hMoves.frees

theorem Moves.withError (hMoves : Moves read new target frees) (error_code error_message : String) :
    Moves read
      { new with last_error_code := error_code, last_error_message := error_message }
      target frees :=
  hMoves.congr rfl rfl rfl

theorem queryMarked_quiet (env : Env) (accounts : List Account)
    (response : Response) (now : String) (model : Row)
    (hQuiet : branch ∈ [.refused, .paid, .exhausted, .failed, .other]) :
    Moves model
      (queryMarked env accounts response now branch model)
      model.binding False := by
  have hFailed : Moves model (setUnlessDisabled .failed model) model.binding False := by
    apply setUnlessDisabled_moves
    nofun
  have hPaid : Moves model (setUnlessDisabled .paid model) model.binding False := by
    apply setUnlessDisabled_moves
    nofun
  cases branch with
  | refused => exact hFailed.withError _ _
  | processing => simp at hQuiet
  | quota => simp at hQuiet
  | paid => exact hPaid.congr rfl rfl rfl
  | paidOrder => simp at hQuiet
  | exhausted => exact hFailed.withError _ _
  | failed => exact hFailed.withError _ _
  | other => exact ⟨rfl, .inl, False.elim⟩

theorem queryMarked_processing (env : Env) (accounts : List Account)
    (response : Response) (now : String) (model : Row) :
    Moves model
      (queryMarked env accounts response now .processing model)
      (emailBinding accounts (strip (chosenOrder env response).email) model)
      False := by
  have hStatus : Status.processing ≠ .available := nofun
  have hMoves := bindEmail_moves hStatus accounts (strip (chosenOrder env response).email) model
  exact hMoves.withError _ _

theorem queryMarked_paidOrder (env : Env) (accounts : List Account)
    (response : Response) (now : String) (model : Row) :
    Moves model
      (queryMarked env accounts response now .paidOrder model)
      (emailBinding accounts (strip (paidOrder env response).email) model)
      False := by
  have hStatus : Status.paid ≠ .available := nofun
  have hMoves := bindEmail_moves hStatus accounts (strip (paidOrder env response).email) model
  unfold queryMarked
  dsimp only
  generalize bindEmail accounts _ _ = bound at hMoves ⊢
  apply Moves.withError
  constructor
  · rw [← hMoves.binding]
    simp only [Row.binding]
  · exact hMoves.status
  · exact hMoves.frees

theorem emailBinding_congr (accounts : List Account) (email : String)
    (hSame : model.binding = read.binding) :
    emailBinding accounts email model = emailBinding accounts email read := by
  have hParts := Binding.mk.inj hSame
  unfold emailBinding
  rw [hSame, hParts.1, hParts.2.2]

/- What a query leaves of the stored card, by branch. -/
theorem markQueryResponse_kept_iff (env : Env) (accounts : List Account)
    (response : Response) (now : String) (read stored : Row) :
    Kept stored
        (updateColumns read (markQueryResponse env accounts response now read) stored) ↔
      HarmlessQuery env accounts response read stored := by
  have hStatus := queryChecked_status env response now read
  have hBinding := queryChecked_binding env response now read
  have hQuiet : queryBranch env response read ∈ [.refused, .paid, .exhausted, .failed, .other] →
        (Kept stored (updateColumns read (markQueryResponse env accounts response now read)
            stored) ↔ True) := by
    intro hIn
    have hMoves :=
      queryMarked_quiet env accounts response now (queryChecked env response now read) hIn
    rw [hBinding] at hMoves
    exact (markQueryResponse_moves hMoves).kept_iff_true id
  unfold HarmlessQuery
  cases hBranch : queryBranch env response read with
  | refused => exact hQuiet (by simp [hBranch])
  | paid => exact hQuiet (by simp [hBranch])
  | exhausted => exact hQuiet (by simp [hBranch])
  | failed => exact hQuiet (by simp [hBranch])
  | other => exact hQuiet (by simp [hBranch])
  | processing =>
    have hMoves :=
      queryMarked_processing env accounts response now (queryChecked env response now read)
    rw [emailBinding_congr _ _ hBinding, ← hBranch] at hMoves
    rw [← unmoved_emailBinding_iff]
    exact (markQueryResponse_moves hMoves).kept_iff_unmoved id
  | paidOrder =>
    have hMoves :=
      queryMarked_paidOrder env accounts response now (queryChecked env response now read)
    rw [emailBinding_congr _ _ hBinding, ← hBranch] at hMoves
    dsimp only
    rw [← unmoved_emailBinding_iff]
    exact (markQueryResponse_moves hMoves).kept_iff_unmoved id
  | quota =>
    have hMarked : queryMarked env accounts response now
            (queryBranch env response read)
            (queryChecked env response now read) =
          clearError
            (if read.status = .disabled then queryChecked env response now read
            else
              clearAvailableBinding
                { queryChecked env response now read with status := .available }) := by
      rw [hBranch, ← hStatus]
      rfl
    by_cases hDisabled : read.status = .disabled
    · rw [if_pos hDisabled] at hMarked
      have hSame : Moves (queryChecked env response now read)
            (queryChecked env response now read)
            (queryChecked env response now read).binding
            False :=
        ⟨rfl, .inl, False.elim⟩
      have hMoves := hSame.withError "" ""
      rw [hBinding] at hMoves
      unfold clearError at hMarked
      rw [← hMarked] at hMoves
      rw [(markQueryResponse_moves hMoves).kept_iff_true id]
      exact (iff_true_intro fun hNot => absurd hDisabled hNot).symm
    · rw [if_neg hDisabled] at hMarked
      have hFreed : Moves (queryChecked env response now read)
            (clearAvailableBinding { queryChecked env response now read with status := .available })
            unbound True :=
        ⟨rfl, fun _ => .inr trivial, fun _ => rfl⟩
      have hMoves := hFreed.withError "" ""
      unfold clearError at hMarked
      rw [← hMarked] at hMoves
      rw [(markQueryResponse_moves hMoves).kept_iff_unfreed
        trivial]
      exact ⟨fun h _ => h, fun h => h hDisabled⟩

/- A commit leaves binding and availability of the stored card alone exactly when it is harmless. -/
theorem kept_write_iff (env : Env) (accounts : List Account) (s : Session) (stored : Row) :
    Kept stored (s.write env accounts stored) ↔ HarmlessOn env accounts s stored := by
  unfold Session.write HarmlessOn perform
  cases s.request with
  | reserveForAccount record_id account_id email => exact
        (reserveForAccount_moves account_id email s.task_id s.now s.snapshot).kept_iff_unmoved id
  | markCodeInfo record_id response =>
    by_cases hCase : codeInfoUsable response ∧ codeInfoKeeps s.snapshot = false
    · rw [(markCodeInfo_frees s.now hCase.1
        hCase.2).kept_iff_unfreed trivial]
      exact ⟨fun h _ => h, fun h => h hCase⟩
    · rw [(markCodeInfo_keeps s.now hCase).kept_iff_true id]
      exact (iff_true_intro fun h => absurd h hCase).symm
  | markQueryResponse code response =>
    exact markQueryResponse_kept_iff env accounts response s.now s.snapshot stored
  | markSubmitSuccess record_id response =>
    exact (markSubmitSuccess_moves env response s.now s.snapshot).kept_iff_true id
  | markFailure record_id error_code error_message response =>
    exact (markFailure_moves error_code error_message response s.now s.snapshot).kept_iff_true id
  | markStatusResponse record_id response =>
    exact (markStatusResponse_moves env response s.now s.snapshot).kept_iff_true id

end BaxiGptCdk
