import AutoGpt.PaypalFollowup.Passes

/-
  What has been settled of a payment stays so: a terminal row
  keeps its state, an authorized one is never failed or
  unknown, and at most three logins are counted, in every run
  in which an update that moves a row finds it in the state
  that its pass has read, or already in the new one.

  Main theorems:
    * `PaypalFollowup.followups_settled`
    * `PaypalFollowup.followups_unsettled`
-/

open KeyedTable (empty find?_of_mem mem_of_find?)
open JobPool (Holds OnJob step)
open KeyedTable
open Machine

----
-- Progress
----

namespace PaypalFollowup

def State.rank : State → Nat
| .paymentPending => 0
| .reloginPending => 1
| .localRefreshPending => 2
| _ => 3

def State.unpaid (state : State) : Bool :=
  state ∈ [.paymentPending, .paymentFailed, .paymentUnknown]

theorem rank_le_of_terminal (state : State) {last : State} (hTerminal : last.terminal) :
    state.rank ≤ last.rank := by
  cases state <;> cases last <;>
    first
    | decide
    | cases hTerminal

theorem not_terminal_of_active {state : State} (hActive : state.active) :
    state.terminal = false := by
  cases state <;>
    first
    | rfl
    | cases hActive

structure Progress (row row' : Followup) : Prop where
  id : row'.id = row.id
  rank : row.state.rank ≤ row'.state.rank
  terminal : row.state.terminal → row'.state = row.state
  authorized : row.paypal_authorized → row'.paypal_authorized

theorem Progress.refl (row : Followup) : Progress row row :=
  ⟨rfl, le_rfl, fun _ => rfl, fun hIs => hIs⟩

theorem Progress.trans (hFirst : Progress a b) (hSecond : Progress b c) :
    Progress a c where
  id := hSecond.id.trans hFirst.id
  rank := Nat.le_trans hFirst.rank hSecond.rank
  terminal := fun hTerminal => by
    have hSame := hFirst.terminal hTerminal
    rw [hSecond.terminal (by rw [hSame]; exact hTerminal), hSame]
  authorized := hSecond.authorized ∘ hFirst.authorized

structure RowSound (row : Followup) : Prop where
  authorized : row.paypal_authorized → row.state.unpaid = false
  relogin : row.state = .reloginPending → row.paypal_authorized
  left : row.state = .paymentPending ∨ row.state = .reloginPending →
      row.relogin_attempt_count < maxReloginAttempts
  attempts : row.relogin_attempt_count ≤ maxReloginAttempts

theorem RowSound.not_authorized {row : Followup} (hSound : RowSound row)
    (hUnpaid : row.state.unpaid) : row.paypal_authorized = false := by
  cases hFlag : row.paypal_authorized with
  | false => rfl
  | true =>
    rw [hSound.authorized hFlag] at hUnpaid
    cases hUnpaid

def Update.Fits (snapshot : Followup) : Update → Prop
| .identityChanged _ => snapshot.state.active
| .expired _ => snapshot.state = .paymentPending
| .loginSucceeded attempts _ => snapshot.state = .reloginPending ∧ attempts ≤ maxReloginAttempts
| .loginFailed attempts _ retry _ => snapshot.state = .reloginPending ∧
      attempts ≤ maxReloginAttempts ∧
      (retry → attempts < maxReloginAttempts)
| .confirmed _ => snapshot.state = .localRefreshPending
| .unconfirmed _ => snapshot.state = .localRefreshPending
| .refreshLater _ _ => True
| .pollError _ _ _ => True
| .polled _ _ _ => snapshot.state = .paymentPending

/- An update moves no row, or one in the state that its pass has read, or in the new state. -/
def FindsRow (env : Env) (snapshot : Followup) (update : Update)
    (loaded current : Followup) : Prop :=
  (update.apply env loaded).state = loaded.state ∨ current.state = snapshot.state ∨
    current.state = (update.apply env loaded).state

instance
    (env : Env) (snapshot : Followup) (update : Update) (loaded current : Followup) :
    Decidable (FindsRow env snapshot update loaded current) := by
  unfold FindsRow
  infer_instance

----
-- Updates
----

variable {env : Env}

/- The state and the record of authorization after a result go together. -/
theorem remoteNextState_cases (env : Env) (result : RemoteResult) :
    (remoteIsAuthorized env result ∧ remoteNextState env result = .reloginPending) ∨
      (remoteIsAuthorized env result = false ∧ (remoteNextState env result).unpaid) := by
  unfold remoteNextState remoteFailureState
  cases hAuthorized : remoteIsAuthorized env result with
  | true => exact .inl ⟨rfl, rfl⟩
  | false =>
    refine .inr ⟨rfl, ?_⟩
    simp only [Bool.false_eq_true, if_false]
    split
    · rfl
    · split <;> rfl

theorem paypal_authorized_of_polled (env : Env) (result : RemoteResult) :
    (remoteIsAuthorized env result ||
        decide (result.paypal_authorized = some true)) =
      remoteIsAuthorized env result := by
  unfold remoteIsAuthorized
  cases decide (result.paypal_authorized = some true) <;> simp

/- What an update may do to the row that it finds: nothing;
   end an open followup; count a login; or record a result. -/
inductive Moves (current row : Followup) : Prop
| same
    (hState : row.state = current.state) (hFlag : row.paypal_authorized = current.paypal_authorized)
    (hCount : row.relogin_attempt_count = current.relogin_attempt_count)
| ended
    (hOpen : current.state.active) (hEnd : row.state.terminal)
    (hPaid : row.state.unpaid → current.paypal_authorized = false)
    (hFlag : row.paypal_authorized = current.paypal_authorized)
    (hCount : row.relogin_attempt_count = current.relogin_attempt_count)
| login
    (hFrom : current.state ≠ .paymentPending)
    (hTo : row.state = current.state ∨ (current.state = .reloginPending ∧
          (row.state = .localRefreshPending ∨ row.state = .reloginFailed)))
    (hFlag : row.paypal_authorized = current.paypal_authorized)
    (hCount : row.relogin_attempt_count ≤ maxReloginAttempts)
    (hLeft : row.state = .reloginPending → row.relogin_attempt_count < maxReloginAttempts)
| polled
    (hFrom : current.state = .paymentPending)
    (hTo : (row.paypal_authorized ∧ row.state = .reloginPending) ∨
        (row.paypal_authorized = false ∧ row.state.unpaid))
    (hCount : row.relogin_attempt_count = current.relogin_attempt_count)

/- All of it is progress of a sound row. -/
theorem settled_of_moves {current row : Followup} (hCurrent : RowSound current)
    (hId : row.id = current.id) (hMoves : Moves current row) :
    RowSound row ∧ Progress current row := by
  cases hMoves with
  | same hState hFlag hCount =>
    constructor
    · constructor
      · rw [hFlag, hState]
        exact hCurrent.authorized
      · rw [hFlag, hState]
        exact hCurrent.relogin
      · rw [hCount, hState]
        exact hCurrent.left
      · rw [hCount]
        exact hCurrent.attempts
    · refine ⟨hId, ?_, fun _ => hState, ?_⟩
      · rw [hState]
      · rw [hFlag]
        exact fun hIs => hIs
  | ended hOpen hEnd hPaid hFlag hCount =>
    constructor
    · constructor
      · intro hAuthorized
        rw [hFlag] at hAuthorized
        cases hUnpaid : row.state.unpaid with
        | false => rfl
        | true =>
          rw [hPaid hUnpaid] at hAuthorized
          cases hAuthorized
      · intro hState
        rw [hState] at hEnd
        cases hEnd
      · intro hState
        rcases hState with hState | hState
        · rw [hState] at hEnd
          cases hEnd
        · rw [hState] at hEnd
          cases hEnd
      · rw [hCount]
        exact hCurrent.attempts
    · refine ⟨hId, ?_, ?_, ?_⟩
      · exact rank_le_of_terminal current.state hEnd
      · intro hTerminal
        rw [not_terminal_of_active hOpen] at hTerminal
        cases hTerminal
      · rw [hFlag]
        exact fun hIs => hIs
  | login hFrom hTo hFlag hCount hLeft =>
    constructor
    · constructor
      · intro hAuthorized
        rw [hFlag] at hAuthorized
        rcases hTo with hSame | ⟨_, hNew | hNew⟩
        · rw [hSame]
          exact hCurrent.authorized hAuthorized
        · rw [hNew]
          rfl
        · rw [hNew]
          rfl
      · intro hState
        rw [hFlag]
        rcases hTo with hSame | ⟨_, hNew | hNew⟩
        · rw [hSame] at hState
          exact hCurrent.relogin hState
        · rw [hNew] at hState
          cases hState
        · rw [hNew] at hState
          cases hState
      · intro hState
        rcases hState with hPending | hRelogin
        · rcases hTo with hSame | ⟨_, hNew | hNew⟩
          · rw [hSame] at hPending
            exact absurd hPending hFrom
          · rw [hNew] at hPending
            cases hPending
          · rw [hNew] at hPending
            cases hPending
        · exact hLeft hRelogin
      · exact hCount
    · refine ⟨hId, ?_, ?_, ?_⟩
      · rcases hTo with hSame | ⟨hOld, hNew | hNew⟩
        · rw [hSame]
        · rw [hOld, hNew]
          decide
        · rw [hOld, hNew]
          decide
      · intro hTerminal
        rcases hTo with hSame | ⟨hOld, _⟩
        · exact hSame
        · rw [hOld] at hTerminal
          cases hTerminal
      · rw [hFlag]
        exact fun hIs => hIs
  | polled hFrom hTo hCount =>
    have hNone : current.paypal_authorized = false := hCurrent.not_authorized (by rw [hFrom]; rfl)
    have hLeft := hCurrent.left (.inl hFrom)
    constructor
    · constructor
      · intro hAuthorized
        rcases hTo with ⟨_, hState⟩ | ⟨hFlag, _⟩
        · rw [hState]
          rfl
        · rw [hFlag] at hAuthorized
          cases hAuthorized
      · intro hState
        rcases hTo with ⟨hFlag, _⟩ | ⟨_, hUnpaid⟩
        · exact hFlag
        · rw [hState] at hUnpaid
          cases hUnpaid
      · intro _
        rw [hCount]
        exact hLeft
      · rw [hCount]
        exact hCurrent.attempts
    · refine ⟨hId, ?_, ?_, ?_⟩
      · rw [hFrom]
        exact Nat.zero_le _
      · intro hTerminal
        rw [hFrom] at hTerminal
        cases hTerminal
      · rw [hNone]
        exact nofun

----
-- Commits
----

theorem written_same {α : Type} [DecidableEq α] (loaded current : α) :
    Column.written loaded loaded current = current :=
  if_pos rfl

theorem moves_ended {new : Followup} (hCurrent : RowSound current)
    (hFinds : new.state = loaded.state ∨ current.state = state ∨ current.state = new.state)
    (hOpen : state.active) (hEnd : new.state.terminal)
    (hPaid : new.state.unpaid → state.unpaid)
    (hFlag : new.paypal_authorized = loaded.paypal_authorized)
    (hCount : new.relogin_attempt_count = loaded.relogin_attempt_count) :
    Moves current (new.committed loaded current) := by
  have hFlagIs : (new.committed loaded current).paypal_authorized = current.paypal_authorized := by
    simp only [Followup.committed, hFlag, written_same]
  have hCountIs : (new.committed loaded current).relogin_attempt_count =
        current.relogin_attempt_count := by
    simp only [Followup.committed, hCount, written_same]
  by_cases hKept : new.state = loaded.state
  · apply Moves.same _ hFlagIs hCountIs
    exact if_pos hKept
  · have hState : (new.committed loaded current).state = new.state := if_neg hKept
    rcases hFinds with hSame | hFound | hThere
    · exact absurd hSame hKept
    · rw [← hFound] at hOpen hPaid
      apply Moves.ended hOpen _ _ hFlagIs hCountIs
      · rw [hState]
        exact hEnd
      · rw [hState]
        exact fun hIs => hCurrent.not_authorized (hPaid hIs)
    · exact Moves.same (hState.trans hThere.symm) hFlagIs hCountIs

/- An update after a login. -/
theorem moves_login (new : Followup) (hCurrent : RowSound current)
    (hProgress : Progress loaded current) (hTo :
      new.state = .reloginPending ∨ new.state = .localRefreshPending ∨ new.state = .reloginFailed)
    (hFlag : new.paypal_authorized = loaded.paypal_authorized)
    (hCount : new.relogin_attempt_count ≤ maxReloginAttempts)
    (hLeft : new.state = .reloginPending → new.relogin_attempt_count < maxReloginAttempts) (hFinds :
      new.state = loaded.state ∨ current.state = .reloginPending ∨ current.state = new.state) :
    Moves current (new.committed loaded current) := by
  have hFlagIs : (new.committed loaded current).paypal_authorized = current.paypal_authorized := by
    simp only [Followup.committed, hFlag, written_same]
  have hCountIs : (new.committed loaded current).relogin_attempt_count = new.relogin_attempt_count ∨
        (new.committed loaded current).relogin_attempt_count = current.relogin_attempt_count := by
    simp only [Followup.committed, Column.written]
    split
    · exact .inr rfl
    · exact .inl rfl
  have hBound : (new.committed loaded current).relogin_attempt_count ≤ maxReloginAttempts := by
    rcases hCountIs with hIs | hIs
    · rw [hIs]
      exact hCount
    · rw [hIs]
      exact hCurrent.attempts
  have hBoundLeft : new.state = .reloginPending → current.state = .reloginPending →
        (new.committed loaded current).relogin_attempt_count < maxReloginAttempts := by
    intro hNew hOld
    rcases hCountIs with hIs | hIs
    · rw [hIs]
      exact hLeft hNew
    · rw [hIs]
      exact hCurrent.left (.inr hOld)
  by_cases hKept : new.state = loaded.state
  · have hState : (new.committed loaded current).state = current.state := if_pos hKept
    have hRank := hProgress.rank
    rw [← hKept] at hRank
    apply Moves.login _ (.inl hState) hFlagIs hBound
    · intro hRow
      rw [hState] at hRow
      apply hBoundLeft _ hRow
      rw [hRow] at hRank
      rcases hTo with hIs | hIs | hIs
      · exact hIs
      · rw [hIs] at hRank
        exact absurd hRank (by decide)
      · rw [hIs] at hRank
        exact absurd hRank (by decide)
    · intro hPending
      rw [hPending] at hRank
      rcases hTo with hIs | hIs | hIs
      all_goals
        rw [hIs] at hRank
        exact absurd hRank (by decide)
  · have hState : (new.committed loaded current).state = new.state := if_neg hKept
    rcases hFinds with hSame | hWaiting | hThere
    · exact absurd hSame hKept
    · apply Moves.login _ _ hFlagIs hBound
      · intro hRow
        rw [hState] at hRow
        exact hBoundLeft hRow hWaiting
      · rw [hWaiting]
        exact nofun
      · rw [hState, hWaiting]
        rcases hTo with hIs | hIs
        · exact .inl hIs
        · exact .inr ⟨rfl, hIs⟩
    · apply Moves.login _ (.inl (hState.trans hThere.symm)) hFlagIs hBound
      · intro hRow
        rw [hState] at hRow
        exact hBoundLeft hRow (hThere.trans hRow)
      · rw [hThere]
        rcases hTo with hIs | hIs | hIs
        all_goals
          rw [hIs]
          exact nofun

/- An update with a remote result. -/
theorem moves_polled (attempts now : Nat) (result : RemoteResult) (hLoaded : RowSound loaded)
    (hCurrent : RowSound current) (hProgress : Progress loaded current)
    (hFinds : remoteNextState env result = loaded.state ∨ current.state = .paymentPending ∨
        current.state = remoteNextState env result) :
    Moves current
      (((Update.polled attempts now result).apply env loaded).committed loaded current) := by
  have hCountIs : (((Update.polled attempts now result).apply env
          loaded).committed loaded current).relogin_attempt_count =
        current.relogin_attempt_count := by
    simp only [Followup.committed, Update.apply, written_same]
  have hFlagIs : (((Update.polled attempts now result).apply env
          loaded).committed loaded current).paypal_authorized =
        Column.written (remoteIsAuthorized env result)
          loaded.paypal_authorized
          current.paypal_authorized := by
    simp only [Followup.committed, Update.apply, paypal_authorized_of_polled]
  have hStateIs : (((Update.polled attempts now result).apply env
          loaded).committed loaded current).state =
        Column.written (remoteNextState env result) loaded.state current.state := by
    simp only [Followup.committed, Update.apply]
  have hNext := remoteNextState_cases env result
  by_cases hKept : remoteNextState env result = loaded.state
  · -- The session has loaded the new state, and with it the
    -- record of authorization that goes with it.
    apply Moves.same _ _ hCountIs
    · rw [hStateIs]
      exact if_pos hKept
    · rw [hFlagIs]
      apply if_pos
      rcases hNext with ⟨hPaid, hState⟩ | ⟨hNone, hUnpaid⟩
      · rw [hPaid]
        exact (hLoaded.relogin (hKept.symm.trans hState)).symm
      · rw [hKept] at hUnpaid
        rw [hNone]
        exact (hLoaded.not_authorized hUnpaid).symm
  · have hState := hStateIs.trans (if_neg hKept)
    rcases hFinds with hSame | hPending | hThere
    · exact absurd hSame hKept
    · apply Moves.polled hPending _ hCountIs
      rw [hState, hFlagIs]
      rcases hNext with ⟨hPaid, hIs⟩ | ⟨hNone, hUnpaid⟩
      · left
        refine ⟨?_, hIs⟩
        rw [hPaid]
        unfold Column.written
        split
        · next hSame => exact hProgress.authorized hSame.symm
        · rfl
      · right
        refine ⟨?_, hUnpaid⟩
        rw [hNone]
        unfold Column.written
        split
        · exact hCurrent.not_authorized (by rw [hPending]; rfl)
        · rfl
    · apply Moves.same (hState.trans hThere.symm) _ hCountIs
      rw [hFlagIs]
      unfold Column.written
      split
      · rfl
      · rcases hNext with ⟨hPaid, hIs⟩ | ⟨hNone, hUnpaid⟩
        · rw [hPaid]
          exact (hCurrent.relogin (hThere.trans hIs)).symm
        · rw [hNone]
          rw [← hThere] at hUnpaid
          exact (hCurrent.not_authorized hUnpaid).symm

/- An update of a row that it finds as it may. -/
theorem moves_update {snapshot : Followup} (update : Update) (hLoaded : RowSound loaded)
    (hCurrent : RowSound current) (hProgress : Progress loaded current)
    (hFits : update.Fits snapshot) (hFinds : FindsRow env snapshot update loaded current) :
    Moves current ((update.apply env loaded).committed loaded current) := by
  unfold FindsRow at hFinds
  cases update with
  | identityChanged now =>
    exact moves_ended hCurrent hFinds hFits rfl nofun rfl rfl
  | expired now =>
    rw [hFits] at hFinds
    exact moves_ended hCurrent hFinds rfl rfl (fun _ => rfl) rfl
        rfl
  | loginSucceeded attempts now =>
    apply moves_login _ hCurrent hProgress
    · exact .inr (.inl rfl)
    · rfl
    · exact hFits.2
    · exact nofun
    · rw [hFits.1] at hFinds
      exact hFinds
  | loginFailed attempts now retry error =>
    apply moves_login _ hCurrent hProgress
    · cases retry with
      | true => exact .inl rfl
      | false => exact .inr (.inr rfl)
    · rfl
    · exact hFits.2.1
    · cases retry with
      | true => exact fun _ => hFits.2.2 rfl
      | false => exact nofun
    · rw [hFits.1] at hFinds
      exact hFinds
  | confirmed now =>
    rw [hFits] at hFinds
    exact moves_ended hCurrent hFinds rfl rfl nofun rfl rfl
  | unconfirmed now =>
    rw [hFits] at hFinds
    exact moves_ended hCurrent hFinds rfl rfl nofun rfl rfl
  | refreshLater attempts now =>
    apply Moves.same
    all_goals exact if_pos rfl
  | pollError attempts now error =>
    apply Moves.same
    all_goals exact if_pos rfl
  | polled attempts now result =>
    apply moves_polled attempts now result hLoaded hCurrent hProgress
    rw [hFits] at hFinds
    exact hFinds

----
-- Tables
----

variable {rows : Followups}

def TableSound (rows : Followups) : Prop := ∀ row ∈ rows.rows, RowSound row

/- No row is lost, and each makes progress. -/
def TableProgress (rows rows' : Followups) : Prop :=
  ∀ row ∈ rows.rows, ∃ row' ∈ rows'.rows, Progress row row'

theorem tableProgress_refl (rows : Followups) : TableProgress rows rows :=
  fun row hRow => ⟨row, hRow, Progress.refl row⟩

theorem tableProgress_trans (a b c : Followups)
    (hFirst : TableProgress a b) (hSecond : TableProgress b c) : TableProgress a c := by
  intro row hRow
  rcases hFirst row hRow with ⟨next, hNext, hTo⟩
  rcases hSecond next hNext with ⟨last, hLast, hOn⟩
  exact ⟨last, hLast, hTo.trans hOn⟩

theorem table_update (hKey : ∀ row, (f row).id = row.id)
    (hSound : TableSound rows) (hMoves : ∀ current ∈ rows.find? k, Moves current (f current)) :
    TableSound (rows.updateKey k f hKey) ∧ TableProgress rows (rows.updateKey k f hKey) := by
  have hSettled : ∀ current ∈ rows.find? k, RowSound (f current) ∧ Progress current (f current) :=
    fun current hCurrent => settled_of_moves (hSound current (mem_of_find? hCurrent).1)
        (hKey current) (hMoves current hCurrent)
  constructor
  · intro row hRow
    rcases mem_rows_updateKey hRow with ⟨current, hCurrent, hIs⟩ | ⟨_, hOld⟩
    · rw [hIs]
      exact (hSettled current hCurrent).1
    · exact hSound row hOld
  · intro row hRow
    refine ⟨_, exists_mem_updateKey k hKey hRow, ?_⟩
    split
    · next hId =>
        apply (hSettled row _).2
        rw [← hId]
        exact find?_of_mem hRow
    · exact Progress.refl row

theorem table_insert (hSound : TableSound rows) (request : EnsureRequest) (now : Nat) :
    TableSound (insertFollowup rows (request.newRow env now rows.nextId)) ∧
      TableProgress rows (insertFollowup rows (request.newRow env now rows.nextId)) := by
  unfold insertFollowup
  split
  · exact ⟨hSound, tableProgress_refl rows⟩
  · have hNew : rows.find? (request.newRow env now rows.nextId).id = none :=
      find?_nextId rows
    have hRows := rows_insertNew rows hNew
    constructor
    · intro row hRow
      rw [hRows] at hRow
      rcases List.mem_append.mp hRow with hOld | hIs
      · exact hSound row hOld
      · rw [List.mem_singleton.mp hIs]
        constructor
        · exact nofun
        · exact nofun
        · exact fun _ => Nat.zero_lt_succ 2
        · exact Nat.zero_le _
    · intro row hRow
      refine ⟨row, ?_, Progress.refl row⟩
      rw [hRows]
      exact List.mem_append_left _ hRow

----
-- Steps
----

def Pass.Sound (pass : Pass) : Prop := ∀ row ∈ pass.rows, RowSound row ∧ row.state.active

def Job.Sound (rows : Followups) : Job → Prop
| .next pass => pass.Sound
| .processing row pass => (RowSound row ∧ row.state.active) ∧ pass.Sound
| .relogin row pass =>
    (row.state = .reloginPending ∧ row.relogin_attempt_count < maxReloginAttempts) ∧
    pass.Sound
| .polling row _ pass => row.state = .paymentPending ∧ pass.Sound
| .persistRead row update pass => update.Fits row ∧ pass.Sound
| .persistWrite row update loaded pass =>
    (update.Fits row ∧ RowSound loaded ∧ ∃ current ∈ rows.rows, Progress loaded current) ∧
    pass.Sound
| _ => True

variable {job : Job}

theorem Job.Sound.kept (hSound : job.Sound rows)
    (hProgress : TableProgress rows rows') : job.Sound rows' := by
  cases job with
  | persistWrite row update loaded pass =>
    rcases hSound with ⟨⟨hFits, hLoaded, current, hCurrent, hTo⟩, hPass⟩
    rcases hProgress current hCurrent with ⟨next, hNext, hOn⟩
    exact ⟨⟨hFits, hLoaded, next, hNext, hTo.trans hOn⟩, hPass⟩
  | _ => exact hSound

/- The condition on a step: an update that moves its row finds it in the state that the pass has
   read, or already in the new one. -/
def FindsState (env : Env) (st : JobPool.State Followups Job) (_ : Draw) :
    Job → Prop
| .persistWrite snapshot update loaded _ =>
    ∀ current ∈ st.shared.find? loaded.id, FindsRow env snapshot update loaded current
| _ => True

instance
    (env : Env) (st : JobPool.State Followups Job) (draw : Draw) (job : Job) :
    Decidable (FindsState env st draw job) := by
  unfold FindsState
  split <;> infer_instance

theorem pass_dueRows (hTable : TableSound rows) (states : List State) (limit now : Nat) :
    Pass.Sound { now := now, rows := dueRows states limit now rows } := by
  intro row hRow
  have hMem := (List.mem_insertionSort _).mp (List.mem_of_mem_take hRow)
  have hDue := List.mem_filter.mp hMem
  simp only [Bool.and_eq_true] at hDue
  exact ⟨hTable row hDue.1, hDue.2.1.2⟩

theorem fits_reloginUpdate (hState : row.state = .reloginPending)
    (hLeft : row.relogin_attempt_count < maxReloginAttempts) (now : Nat)
    (candidates : Except String (List LoginResult)) :
    (reloginUpdate env now row candidates).Fits row := by
  unfold reloginUpdate
  dsimp only
  split
  · exact ⟨hState, hLeft⟩
  · refine ⟨hState, hLeft, ?_⟩
    intro hRetry
    exact of_decide_eq_true (Bool.and_eq_true_iff.mp hRetry).2

theorem fits_refreshUpdate (hState : row.state = .localRefreshPending)
    (now : Nat) (confirmed : Bool) : (refreshUpdate env now confirmed row).Fits row := by
  unfold refreshUpdate
  split
  · exact hState
  · split
    · exact trivial
    · split
      · exact hState
      · exact trivial

theorem fits_pollUpdate (hState : row.state = .paymentPending)
    (now : Nat) (result : Except String RemoteResult) :
    (pollUpdate env now row result).Fits row := by
  cases result with
  | error error => exact trivial
  | ok result => exact hState

theorem sound_processRow {pass : Pass} (hRow : RowSound row) (hPass : pass.Sound) :
    (processRow env draw row pass).Sound rows := by
  unfold processRow
  cases hState : row.state with
  | paymentPending =>
    dsimp only
    split
    · exact ⟨hState, hPass⟩
    · exact ⟨hState, hPass⟩
  | reloginPending => exact ⟨⟨hState, hRow.left (.inr hState)⟩, hPass⟩
  | localRefreshPending => exact ⟨fits_refreshUpdate hState _ _, hPass⟩
  | _ => exact hPass

structure StepKept (env : Env) (draw : Draw) (rows : Followups) (job : Job) :
    Prop where
  table : TableSound (job.advance env draw rows).1
  progress : TableProgress rows (job.advance env draw rows).1
  next : (job.advance env draw rows).2.Sound (job.advance env draw rows).1

theorem stepKept_same (hTable : TableSound rows) (hSame : (job.advance env draw rows).1 = rows)
    (hNext : (job.advance env draw rows).2.Sound rows) :
    StepKept env draw rows job where
  table := by
    rw [hSame]
    exact hTable
  progress := by
    rw [hSame]
    exact tableProgress_refl rows
  next := by
    rw [hSame]
    exact hNext

/- The step lemma. -/
theorem stepKept (hTable : TableSound st.shared)
    (hJob : job.Sound st.shared) (hFinds : FindsState env st draw job) :
    StepKept env draw st.shared job := by
  cases job with
  | ensureRead request =>
    apply stepKept_same hTable rfl
    simp only [Job.advance]
    split
    · exact trivial
    · split
      · exact trivial
      · split <;> exact trivial
  | ensureInsert request now =>
    have hInsert := @table_insert env _ hTable request now
    exact ⟨hInsert.1, hInsert.2, trivial⟩
  | ensureWrite request now loaded =>
    have hMoves : ∀ current ∈ st.shared.find? loaded.id,
          Moves current ((request.resumed now loaded).committed loaded current) := by
      intro current _
      apply Moves.same
      all_goals exact if_pos rfl
    have hUpdate := table_update (Followup.committed_id _ loaded) hTable hMoves
    exact ⟨hUpdate.1, hUpdate.2, trivial⟩
  | passRead states limit =>
    exact stepKept_same hTable rfl (pass_dueRows hTable states limit draw.now)
  | next pass =>
    apply stepKept_same hTable rfl
    simp only [Job.advance]
    cases hRows : pass.rows with
    | nil => exact trivial
    | cons row rest =>
      have hRow := hJob row (by rw [hRows]; simp)
      have hRest : Pass.Sound { pass with rows := rest } := by
        intro other hOther
        apply hJob
        rw [hRows]
        exact List.mem_cons_of_mem _ hOther
      dsimp only
      split
      · exact ⟨hRow, hRest⟩
      · exact ⟨hRow.2, hRest⟩
  | processing row pass => exact stepKept_same hTable rfl (sound_processRow hJob.1.1 hJob.2)
  | relogin row pass =>
    exact stepKept_same hTable rfl ⟨fits_reloginUpdate hJob.1.1 hJob.1.2 _ _, hJob.2⟩
  | polling row now pass => exact stepKept_same hTable rfl ⟨fits_pollUpdate hJob.1 _ _, hJob.2⟩
  | persistRead row update pass =>
    apply stepKept_same hTable rfl
    simp only [Job.advance]
    cases hLoaded : st.shared.find? row.id with
    | none => exact hJob.2
    | some loaded =>
      have hMem := (mem_of_find? hLoaded).1
      exact ⟨⟨hJob.1, hTable loaded hMem, loaded, hMem, Progress.refl loaded⟩, hJob.2⟩
  | persistWrite row update loaded pass =>
    rcases hJob with ⟨⟨hFits, hLoaded, found, hFound, hTo⟩, hPass⟩
    have hMoves : ∀ current ∈ st.shared.find? loaded.id,
          Moves current ((update.apply env loaded).committed loaded current) := by
      intro current hCurrent
      have hFind := find?_of_mem hFound
      rw [hTo.id, hCurrent] at hFind
      have hIs : current = found := Option.some.inj hFind
      rw [hIs] at hCurrent ⊢
      exact moves_update update hLoaded (hTable found hFound) hTo hFits (hFinds found hCurrent)
    have hUpdate := table_update (Followup.committed_id _ loaded) hTable hMoves
    exact ⟨hUpdate.1, hUpdate.2, hPass⟩
  | finished => exact stepKept_same hTable rfl trivial

----
-- Runs
----

structure Settled (before after : Followups) : Prop where
  terminal : ∀ row ∈ before.rows, row.state.terminal →
      ∃ row' ∈ after.find? row.id, row'.state = row.state
  authorized : ∀ row ∈ before.rows, row.paypal_authorized →
      ∀ row' ∈ after.find? row.id, row'.state ≠ .paymentFailed ∧ row'.state ≠ .paymentUnknown
  attempts : ∀ row ∈ after.rows, row.relogin_attempt_count ≤ maxReloginAttempts

theorem settled_of_progress (hAfter : TableSound after) (hProgress : TableProgress before after) :
    Settled before after where
  terminal := by
    intro row hRow hTerminal
    rcases hProgress row hRow with ⟨row', hRow', hTo⟩
    refine ⟨row', ?_, hTo.terminal hTerminal⟩
    rw [← hTo.id]
    exact find?_of_mem hRow'
  authorized := by
    intro row hRow hAuthorized row' hFind
    rcases hProgress row hRow with ⟨later, hLater, hTo⟩
    have hIs := find?_of_mem hLater
    rw [hTo.id, hFind] at hIs
    have hSame : row' = later := Option.some.inj hIs
    have hPaid := (hAfter later hLater).authorized (hTo.authorized hAuthorized)
    rw [hSame]
    constructor
    · intro hState
      rw [hState] at hPaid
      cases hPaid
    · intro hState
      rw [hState] at hPaid
      cases hPaid
  attempts := fun row hRow => (hAfter row hRow).attempts

abbrev PoolSound (st : JobPool.State Followups Job) : Prop := Holds TableSound Job.Sound st

theorem poolSound_step (env : Env) (st : JobPool.State Followups Job) (op : Op)
    (hSound : PoolSound st) (hFinds : OnJob (followups env) (FindsState env) st op) :
    PoolSound (step (followups env) st op).1 := by
  apply JobPool.step_holds (C := FindsState env)
  · intro rows request _
    cases request <;> exact trivial
  · intro rows _
    exact trivial
  · intro draw st job hHolds hMem _ hJobFinds
    have hKept : StepKept env draw st.shared job :=
      stepKept hHolds.shared (hHolds.jobs job hMem) hJobFinds
    refine ⟨hKept.table, hKept.next, ?_⟩
    intro other hOther
    exact (hHolds.jobs other hOther).kept hKept.progress
  · exact hSound
  · exact hFinds

/- In every run whose steps meet the condition, what is settled stays so. -/
theorem followups_settled (env : Env) (ops more : List Op)
    (hSteps : Machine.Steps (step (followups env)) (OnJob (followups env) (FindsState env))
        { shared := empty } (ops ++ more)) :
    Settled (followupRun env ops).shared (followupRun env (ops ++ more)).shared := by
  have hParts := (steps_append _ _ _).mp hSteps
  have hInit : PoolSound { shared := empty } := by
    constructor
    · intro row hMem
      cases hMem
    · intro job hMem
      cases hMem
  have hBefore : PoolSound (followupRun env ops) :=
    run_induction_of_steps (poolSound_step env) hInit hParts.1
  have hAfter : PoolSound (followupRun env (ops ++ more)) :=
    run_induction_of_steps (poolSound_step env) hInit hSteps
  have hRun : followupRun env (ops ++ more) =
        run (step (followups env)) (followupRun env ops) more := run_append _ _ _
  apply settled_of_progress hAfter.shared
  rw [hRun]
  apply run_rel_of_steps (P := PoolSound) (C := OnJob (followups env) (FindsState env))
      (R := fun st st' => TableProgress st.shared st'.shared)
  · exact fun st => tableProgress_refl st.shared
  · exact fun a b c => tableProgress_trans a.shared b.shared c.shared
  · exact poolSound_step env
  · intro st op hSound hFinds
    apply JobPool.step_rel (C := FindsState env) tableProgress_refl
    · intro draw job hMem hJobFinds
      have hKept : StepKept env draw st.shared job :=
        stepKept hSound.shared (hSound.jobs job hMem) hJobFinds
      exact hKept.progress
    · exact hFinds
  · exact hBefore
  · exact hParts.2

----
-- Late Updates
----

/- Texts that are as they should be, and the default times. -/
def plainEnv : Env where
  lower := id
  upper := id
  sanitize := id
  is_proxy_error_text := fun _ => false
  poll_interval_seconds := 8
  poll_max_seconds := 86400
  local_refresh_grace_seconds := 180

def jobSteps (i : Nat) (draws : List Draw) : List Op := draws.map (JobPool.Op.advance i)

/- A payment is recorded, and two passes read its row. -/
def readTwice : List Op := [.arrive
      (.ensure { account_id := 1, batch_id := "b", item_id := "i" }),
    .advance 0 {}, .advance 0 {},
    .arrive (.reconcile [.paymentPending] 100),
    .arrive (.reconcile [.paymentPending] 100)] ++
    jobSteps 1 [{}, {}, {}] ++ jobSteps 2 [{}, {}, {}]

def resultOf (result : RemoteResult) : List Draw := [{ result := .ok result }, {}, {}]

def authorizedResult : RemoteResult where
  status := "completed"
  paypal_authorized := some true

def failedResult : RemoteResult where
  status := "failed"

/- A pass at some time whose login ends with a timeout. -/
def loginFails (i now : Nat) : List Op := .arrive (.reconcile [.reloginPending] 1) ::
    jobSteps i [{ now := now }, { now := now }, { now := now },
        { now := now, candidates := .ok [{ error_code := "timeout" }] }, {}, {}]

theorem followups_settled_logins :
    Settled (followupRun plainEnv (readTwice ++ jobSteps 1 (resultOf authorizedResult) ++
          jobSteps 2 (resultOf authorizedResult))).shared (followupRun plainEnv
        (readTwice ++ jobSteps 1 (resultOf authorizedResult) ++
          jobSteps 2 (resultOf authorizedResult) ++
          (loginFails 3 100 ++ loginFails 4 200 ++ loginFails 5 300))).shared :=
  followups_settled plainEnv _ _ (by decide +kernel)

/- The first pass records a result; three logins fail. -/
def authorizedThenFailed : List Op := readTwice ++ jobSteps 2 (resultOf authorizedResult) ++
    loginFails 3 100 ++ loginFails 4 200 ++ loginFails 5 300

/- The older of two passes ends later: a failed payment is pending again, an authorized one is
   failed, and a fourth login is counted. -/
theorem followups_unsettled :
    ¬ Settled (followupRun plainEnv (readTwice ++ jobSteps 2 (resultOf failedResult))).shared
        (followupRun plainEnv (readTwice ++ jobSteps 2 (resultOf failedResult) ++
            jobSteps 1 (resultOf authorizedResult))).shared ∧ ¬ Settled
        (followupRun plainEnv (readTwice ++ jobSteps 2 (resultOf authorizedResult))).shared
        (followupRun plainEnv (readTwice ++ jobSteps 2 (resultOf authorizedResult) ++
            jobSteps 1 (resultOf failedResult))).shared ∧ ¬ Settled
        (followupRun plainEnv authorizedThenFailed).shared (followupRun plainEnv
          (authorizedThenFailed ++ jobSteps 1 (resultOf authorizedResult) ++
            loginFails 6 400)).shared := by
  refine ⟨?_, ?_, ?_⟩
  · intro hSettled
    exact absurd hSettled.terminal (by decide +kernel)
  · intro hSettled
    exact absurd hSettled.authorized (by decide +kernel)
  · intro hSettled
    exact absurd hSettled.attempts (by decide +kernel)

end PaypalFollowup
