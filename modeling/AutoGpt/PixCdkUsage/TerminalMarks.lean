import AutoGpt.PixCdkUsage.Reservation

/-
  When `mark_blocked` and `mark_uncertain` leave what they
  return: a row under review or blocked that every later
  `reserve` of the fingerprint finds.

  Main theorems: `PixCdkUsage.mark_spec`, `PixCdkUsage.marks_take_effect_iff`
-/

open PyText (strip)
open KeyedTable (find?_deleteWhere find?_updateWhere mem_of_find?)

----
-- Marks
----

namespace PixCdkUsage

/- The states that no reservation overcomes. -/
def State.terminal : State → Bool
| .reserved => false
| .paid => false
| .uncertain => true
| .blocked => true

inductive MarkKind where
| blocked
| uncertain (order_id : String)

def MarkKind.state : MarkKind → State
| .blocked => .blocked
| .uncertain _ => .uncertain

structure Mark where
  kind : MarkKind
  fingerprint : String
  task_id : String
  account_id : Int
  now : String
  dbError : Bool

def Mark.call (mark : Mark) (db : Db) :
    Db × Except Error Usage :=
  match mark.kind with
  | .blocked => markBlocked mark.fingerprint mark.task_id mark.account_id mark.now mark.dbError db
  | .uncertain order_id =>
    markUncertain mark.fingerprint mark.task_id mark.account_id order_id mark.now mark.dbError db

/- The row is the reservation of the caller. -/
def Mark.owns (mark : Mark) (row : UsageRow) : Bool :=
  isReservation mark.fingerprint mark.task_id mark.account_id row

/- What the `UPDATE` makes of that reservation. -/
def Mark.sealed (mark : Mark) (row : UsageRow) : UsageRow :=
  match mark.kind with
  | .blocked => { row with state := .blocked, updated_at := mark.now }
  | .uncertain order_id =>
    { row with state := .uncertain, order_id := order_id, updated_at := mark.now }

/- The review lock that `mark_uncertain` inserts. -/
def Mark.fresh (mark : Mark) : Option UsageRow :=
  match mark.kind with
  | .blocked => none
  | .uncertain order_id => some
        { fingerprint := mark.fingerprint, state := .uncertain, task_id := mark.task_id,
          account_id := mark.account_id, order_id := order_id, created_at := mark.now,
          updated_at := mark.now, paid_at := "" }

/- `reserve` gives the CDK to its caller. -/
def Acquires (db : Db) (fingerprint task_id : String)
    (account_id : Int) (now : String) (dbError : Bool) : Prop :=
  ∃ usage, (reserve fingerprint task_id account_id now dbError db).2 = .ok usage ∧
      usage.state = .reserved ∧ usage.task_id = task_id ∧ usage.account_id = account_id

/- A mark that returns a usage under review or blocked has left a row in that state, and no later
   `reserve` of the fingerprint acquires the CDK. -/
def TakesEffect (digest : Digest) (db : Db) (mark : Mark) : Prop :=
  ∀ usage, (mark.call db).2 = .ok usage → usage.state.terminal →
    (∃ row, (mark.call db).1.usage.find? mark.fingerprint = some row ∧ row.state = usage.state) ∧
    ∀ later task_id account_id now dbError,
      ¬ Acquires (run digest (mark.call db).1 later) mark.fingerprint task_id account_id now dbError

----
-- What A Mark Stores
----

variable {db : Db} {mark : Mark}

/- The row of the fingerprint after a mark that committed. -/
def Mark.rowAfter (mark : Mark) (db : Db) : Option UsageRow :=
  match db.usage.find? mark.fingerprint with
  | none => mark.fresh
  | some row => some (if mark.owns row then mark.sealed row else row)

/- What a mark returns, when its last `SELECT` finds a row or not. -/
def Mark.answer (mark : Mark) (row : Option UsageRow) : Usage := (row.map usageFromRow).getD
    { fingerprint := mark.fingerprint, state := mark.kind.state }

theorem countP_owned_of_none {usage : UsageTable}
    (hNone : usage.find? fp = none) : usage.rows.countP (isReservation fp task account) = 0 := by
  rw [List.countP_eq_zero]
  intro row hRow hOwned
  have hKey := KeyedTable.find?_eq_none_iff.mp hNone row hRow
  exact hKey (isReservation_iff.mp hOwned).1

theorem find?_updateOwned_of_other {usage : UsageTable} {set : UsageRow → UsageRow}
    (hKey : ∀ r, (set r).fingerprint = r.fingerprint)
    (hOther : other ≠ fp) :
    (usage.updateWhere (isReservation fp task account) set
      hKey).find? other = usage.find? other := by
  rw [find?_updateWhere]
  cases hFind : usage.find? other with
  | none => rfl
  | some row =>
    have hNotOwned : isReservation fp task account row = false := by
      rw [← Bool.not_eq_true, isReservation_iff]
      intro hOwned
      have hFound := (mem_of_find? hFind).2
      exact hOther (hFound.symm.trans hOwned.1)
    rw [Option.map_some, hNotOwned]
    rfl

theorem find?_markBlocked_committed (db : Db) (fp task : String) (account : Int)
    (now other : String) :
    (markBlocked fp task account now false db).1.usage.find?
        other =
      if other = fp then Mark.rowAfter ⟨.blocked, fp, task, account, now, false⟩ db
      else db.usage.find? other := by
  by_cases hOther : other = fp
  · rw [if_pos hOther, hOther]
    unfold markBlocked transaction Mark.rowAfter
    dsimp only
    rw [if_neg Bool.false_ne_true]
    rw [find?_updateWhere]
    cases db.usage.find? fp with
    | none => rfl
    | some row => rfl
  · rw [if_neg hOther]
    unfold markBlocked transaction
    dsimp only
    rw [if_neg Bool.false_ne_true]
    refine find?_updateOwned_of_other ?_ hOther
    exact fun _ => rfl

theorem find?_markUncertain_committed (db : Db) (fp task : String) (account : Int)
    (order_id now other : String) :
    (markUncertain fp task account order_id now false
        db).1.usage.find? other =
      if other = fp then Mark.rowAfter ⟨.uncertain order_id, fp, task, account, now, false⟩ db
      else db.usage.find? other := by
  unfold markUncertain transaction Mark.rowAfter
  dsimp only
  rw [if_neg Bool.false_ne_true]
  rw [find?_updateWhere]
  cases hFind : db.usage.find? fp with
  | none =>
    rw [if_pos (by rw [countP_owned_of_none hFind]; decide)]
    dsimp only [Option.map_none]
    rw [KeyedTable.find?_insertNew]
    · by_cases hOther : other = fp
      · rw [if_pos hOther.symm, if_pos hOther]
        rfl
      · rw [if_neg (Ne.symm hOther), if_neg hOther]
        exact find?_updateOwned_of_other _ hOther
    · rw [find?_updateWhere, hFind]
      rfl
  | some row =>
    dsimp only [Option.map_some]
    rw [ite_self]
    by_cases hOther : other = fp
    · rw [if_pos hOther, hOther, find?_updateWhere, hFind]
      rfl
    · rw [if_neg hOther]
      exact find?_updateOwned_of_other _ hOther

/- A mark that commits answers with the row that it leaves, and touches the row of no other
   fingerprint. -/
theorem mark_spec (db : Db) (hCommits : mark.dbError = false) :
    (mark.call db).2 = .ok (mark.answer (mark.rowAfter db)) ∧ ∀ fp,
        (mark.call db).1.usage.find? fp =
          if fp = mark.fingerprint then mark.rowAfter db
          else db.usage.find? fp := by
  rcases mark with ⟨kind, fp, task, account, now, dbError⟩
  subst hCommits
  cases kind with
  | blocked =>
    have hRows := find?_markBlocked_committed db fp task account now
    refine ⟨?_, hRows⟩
    have hRow := hRows fp
    rw [if_pos rfl] at hRow
    rw [← hRow]
    rfl
  | uncertain order_id =>
    have hRows := find?_markUncertain_committed db fp task account order_id now
    refine ⟨?_, hRows⟩
    have hRow := hRows fp
    rw [if_pos rfl] at hRow
    rw [← hRow]
    rfl

theorem mark_raises (hRaises : mark.dbError) : ∀ usage, (mark.call db).2 ≠ .ok usage := by
  rcases mark with ⟨kind, fp, task, account, now, dbError⟩
  subst hRaises
  intro usage hOk
  cases kind with
  | blocked => cases hOk
  | uncertain order_id => cases hOk

----
-- When A Reservation Is Refused For Good
----

/- A found row that no operation changes any more. -/
def HasTerminalRow (db : Db) (fingerprint : String) : Bool :=
  (db.usage.find? fingerprint).any fun row => row.state.terminal

theorem lockOf_of_terminal (hTerminal : row.state.terminal) :
    lockOf (some row) = .sealed row := by
  cases hState : row.state with
  | reserved => rw [hState] at hTerminal; cases hTerminal
  | paid => rw [hState] at hTerminal; cases hTerminal
  | uncertain => simp [lockOf, hState]
  | blocked => simp [lockOf, hState]

theorem find?_run_of_terminal (digest : Digest)
    (hFind : db.usage.find? fp = some row) (hTerminal : row.state.terminal)
    (later : List Op) : (run digest db later).usage.find? fp = some row := by
  apply find?_of_lockOf_sealed
  apply OwnedLock.sealed_run (fun s : Db => lockOf (s.usage.find? fp))
    (namedOwner fp) (step_allows digest fp)
  rw [hFind]
  exact lockOf_of_terminal hTerminal

/- The migration that a reservation runs first. -/
theorem find?_migrate (db : Db) (now fp : String) (hStripped : strip fp ≠ "") :
    (migrateLegacyPaidLocked now [strip fp] db).usage.find? (strip fp) =
      (db.usage.find? (strip fp)).filter fun row => row.state != .paid := by
  have hSelected := selectedValues_singleton hStripped
  cases hFind : db.usage.find? (strip fp) with
  | none =>
    simp only [migrateLegacyPaidLocked]
    rw [find?_deleteWhere, hFind]
    rfl
  | some row =>
    rcases mem_of_find? hFind with ⟨hRow, hKey⟩
    by_cases hPaid : row.state = .paid
    · have hLegacy : row ∈ db.usage.rows.filter (isLegacyPaid (selectedValues [strip fp])) := by
        rw [List.mem_filter, hSelected]
        refine ⟨hRow, ?_⟩
        simp [isLegacyPaid, hPaid, hKey]
      simp only [migrateLegacyPaidLocked]
      rw [find?_deleteWhere, hFind, Option.filter_some, if_neg, Option.filter_some, if_neg]
      · simp [hPaid]
      · rw [Bool.not_eq_true', Bool.not_eq_false, Bool.and_eq_true, decide_eq_true_eq,
          List.contains_iff_mem]
        exact ⟨hPaid, List.mem_map_of_mem hLegacy⟩
    · have hKept : row ∉ db.usage.rows.filter (isLegacyPaid (selectedValues [strip fp])) := by
        intro hLegacy
        have hBoth := (List.mem_filter.mp hLegacy).2
        simp only [isLegacyPaid, Bool.and_eq_true, decide_eq_true_eq] at hBoth
        exact hPaid hBoth.1
      have hFound := find?_migrate_of_not_mem now [strip fp] hRow hKept
      rw [hKey] at hFound
      rw [hFound, Option.filter_some, if_pos]
      simp [hPaid]

/- A fingerprint can be reserved at all only when its stripped text is not empty, and then it is
   refused to everyone when the row of the stripped text is under review or blocked. -/
theorem not_acquires_of_terminal (hTerminal : HasTerminalRow db (strip fp))
    (task_id : String) (account_id : Int) (now : String) (dbError : Bool) :
    ¬ Acquires db fp task_id account_id now dbError := by
  rintro ⟨usage, hOk, hReserved, -, -⟩
  rcases (Option.any_eq_true_iff_get _ _).mp hTerminal with ⟨hSome, hState⟩
  rcases Option.isSome_iff_exists.mp hSome with ⟨row, hFind⟩
  have hRow : row.state.terminal := by simpa only [hFind, Option.get_some] using hState
  by_cases hStripped : strip fp = ""
  · unfold reserve at hOk
    rw [if_pos hStripped] at hOk
    cases hOk
  · have hMigrated : (migrateLegacyPaidLocked now [strip fp]
            db).usage.find? (strip fp) = some row := by
      rw [find?_migrate db now fp hStripped, hFind, Option.filter_some, if_pos]
      cases hPaid : row.state with
      | paid => rw [hPaid] at hRow; cases hRow
      | reserved => rfl
      | uncertain => rfl
      | blocked => rfl
    unfold reserve transaction at hOk
    dsimp only at hOk
    rw [if_neg hStripped, hMigrated] at hOk
    cases dbError with
    | true => cases hOk
    | false =>
      have hUsage : usageFromRow row = usage := by simpa using hOk
      have hBoth : row.state = .reserved := by
        rw [← hReserved, ← hUsage]
        rfl
      rw [hBoth] at hRow
      cases hRow

theorem acquires_of_not_terminal (hStripped : strip fp ≠ "")
    (hOpen : HasTerminalRow db (strip fp) = false) :
    ∃ task_id account_id now, Acquires db fp task_id account_id now false := by
  have hMigrated := fun now => find?_migrate db now fp hStripped
  cases hFind : db.usage.find? (strip fp) with
  | none =>
    refine ⟨"", 0, "", ?_⟩
    unfold Acquires reserve transaction
    dsimp only
    rw [if_neg hStripped, hMigrated, hFind]
    exact ⟨_, rfl, rfl, rfl, rfl⟩
  | some row =>
    unfold HasTerminalRow at hOpen
    rw [hFind, Option.any_some] at hOpen
    refine ⟨row.task_id, row.account_id, "", ?_⟩
    unfold Acquires reserve transaction
    dsimp only
    rw [if_neg hStripped, hMigrated, hFind, Option.filter_some]
    cases hState : row.state with
    | reserved => exact ⟨_, rfl, hState, rfl, rfl⟩
    | paid => exact ⟨_, rfl, rfl, rfl, rfl⟩
    | uncertain => rw [hState] at hOpen; cases hOpen
    | blocked => rw [hState] at hOpen; cases hOpen

----
-- Marks That Take Effect
----

/- The mark commits and finds no row of its fingerprint, a terminal one, or the reservation of its
   caller. -/
def Mark.answersTerminal (mark : Mark) (db : Db) : Bool := !mark.dbError &&
    (db.usage.find? mark.fingerprint).all fun row => mark.owns row || row.state.terminal

/- Only `mark_uncertain` creates the row it does not find. -/
def Mark.leavesRow (mark : Mark) (db : Db) : Bool :=
  match mark.kind with
  | .blocked => (db.usage.find? mark.fingerprint).isSome
  | .uncertain _ => true

/- A reservation of the fingerprint, which looks for the stripped text, meets the row that the mark
   is about, or is refused anyway. -/
def Mark.reservedAs (mark : Mark) (db : Db) : Bool :=
  strip mark.fingerprint = mark.fingerprint || strip mark.fingerprint = "" ||
    HasTerminalRow db (strip mark.fingerprint)

theorem hasTerminalRow_run (digest : Digest) (hTerminal : HasTerminalRow db fp)
    (later : List Op) : HasTerminalRow (run digest db later) fp := by
  unfold HasTerminalRow at hTerminal ⊢
  cases hFind : db.usage.find? fp with
  | none => rw [hFind] at hTerminal; cases hTerminal
  | some row =>
    rw [hFind, Option.any_some] at hTerminal
    rw [find?_run_of_terminal digest hFind hTerminal later, Option.any_some]
    exact hTerminal

theorem not_acquires_of_blank (hBlank : strip fp = "")
    (task_id : String) (account_id : Int) (now : String) (dbError : Bool) :
    ¬ Acquires db fp task_id account_id now dbError := by
  rintro ⟨usage, hOk, -, -, -⟩
  unfold reserve at hOk
  dsimp only at hOk
  rw [if_pos hBlank] at hOk
  cases hOk

theorem kind_state_terminal (kind : MarkKind) : kind.state.terminal := by
  cases kind with
  | blocked => rfl
  | uncertain order_id => rfl

theorem sealed_state (row : UsageRow) : (mark.sealed row).state = mark.kind.state := by
  unfold Mark.sealed MarkKind.state
  cases mark.kind with
  | blocked => rfl
  | uncertain order_id => rfl

theorem answer_terminal (db : Db) (hCommits : mark.dbError = false) :
    (mark.answer (mark.rowAfter db)).state.terminal = mark.answersTerminal db := by
  unfold Mark.answersTerminal Mark.rowAfter
  rw [hCommits]
  cases hFind : db.usage.find? mark.fingerprint with
  | none =>
    have hFresh : (mark.answer mark.fresh).state = mark.kind.state := by
      unfold Mark.answer Mark.fresh MarkKind.state
      cases mark.kind with
      | blocked => rfl
      | uncertain order_id => rfl
    rw [hFresh, kind_state_terminal]
    rfl
  | some row =>
    dsimp only [Mark.answer, Option.map_some, Option.getD_some, usageFromRow, Option.all_some]
    cases hOwns : mark.owns row with
    | false => rfl
    | true =>
      rw [if_pos rfl, sealed_state, kind_state_terminal]
      rfl

theorem rowAfter_isSome (mark : Mark) (db : Db) :
    (mark.rowAfter db).isSome = mark.leavesRow db := by
  unfold Mark.rowAfter Mark.leavesRow Mark.fresh
  cases mark.kind with
  | blocked =>
    cases db.usage.find? mark.fingerprint with
    | none => rfl
    | some row => rfl
  | uncertain order_id =>
    cases db.usage.find? mark.fingerprint with
    | none => rfl
    | some row => rfl

theorem answer_state :
    (mark.answer (some row)).state = row.state := rfl

/- What the stripped text finds after the mark, when the mark answers and leaves a terminal row. -/
theorem refused_iff_reservedAs (hCommits : mark.dbError = false)
    (hAnswers : mark.answersTerminal db) (hLeaves : mark.leavesRow db) :
    (strip mark.fingerprint = "" ∨
        HasTerminalRow (mark.call db).1 (strip mark.fingerprint)) ↔
      mark.reservedAs db := by
  have hRows := (mark_spec db hCommits).2
  unfold Mark.reservedAs
  rw [Bool.or_eq_true, Bool.or_eq_true, decide_eq_true_eq, decide_eq_true_eq]
  by_cases hStripped : strip mark.fingerprint = mark.fingerprint
  · have hLeft : HasTerminalRow (mark.call db).1
        mark.fingerprint := by
      unfold HasTerminalRow
      rw [hRows, if_pos rfl]
      rw [← rowAfter_isSome, Option.isSome_iff_exists] at hLeaves
      rcases hLeaves with ⟨row, hAfter⟩
      rw [← answer_terminal db hCommits, hAfter, answer_state] at hAnswers
      rw [hAfter, Option.any_some]
      exact hAnswers
    constructor
    · intro _
      exact .inl (.inl hStripped)
    · intro _
      rw [hStripped]
      exact .inr hLeft
  · have hSame : HasTerminalRow (mark.call db).1
            (strip mark.fingerprint) =
          HasTerminalRow db (strip mark.fingerprint) := by
      unfold HasTerminalRow
      rw [hRows, if_neg hStripped]
    rw [hSame, or_assoc]
    exact (or_iff_right hStripped).symm

/- A mark takes effect exactly when, as far as it answers with a usage under review or blocked, it
   leaves a row and reservations look for that row. -/
theorem marks_take_effect_iff (digest : Digest) (db : Db) (mark : Mark) :
    TakesEffect digest db mark ↔
      (mark.answersTerminal db → mark.leavesRow db ∧ mark.reservedAs db) := by
  cases hCommits : mark.dbError with
  | true =>
    constructor
    · intro _ hAnswers
      unfold Mark.answersTerminal at hAnswers
      rw [hCommits] at hAnswers
      cases hAnswers
    · intro _ usage hOk
      exact absurd hOk (mark_raises hCommits usage)
  | false =>
    rcases mark_spec db hCommits with ⟨hOk, hRows⟩
    have hRow := hRows mark.fingerprint
    rw [if_pos rfl] at hRow
    have hTerminal := answer_terminal db hCommits
    constructor
    · intro hEffect hAnswers
      rcases hEffect _ hOk (hTerminal.trans hAnswers) with ⟨⟨row, hFind, -⟩, hRefused⟩
      have hLeaves : mark.leavesRow db := by
        rw [← rowAfter_isSome, ← hRow, hFind]
        rfl
      refine ⟨hLeaves, ?_⟩
      rw [← refused_iff_reservedAs hCommits hAnswers hLeaves]
      by_contra hGiven
      rcases not_or.mp hGiven with ⟨hBlank, hOpen⟩
      rcases acquires_of_not_terminal hBlank
          (Bool.not_eq_true _ ▸ hOpen) with
        ⟨task, account, now, hAcquires⟩
      exact hRefused [] task account now false hAcquires
    · intro hCondition usage hUsage hState
      have hAnswer : mark.answer (mark.rowAfter db) = usage := Except.ok.inj (hOk.symm.trans hUsage)
      have hAnswers : mark.answersTerminal db := by
        rw [← hTerminal, hAnswer]
        exact hState
      rcases hCondition hAnswers with ⟨hLeaves, hAs⟩
      constructor
      · have hSome := rowAfter_isSome mark db
        rw [hLeaves, Option.isSome_iff_exists] at hSome
        rcases hSome with ⟨row, hAfter⟩
        refine ⟨row, hRow.trans hAfter, ?_⟩
        rw [← hAnswer, hAfter, answer_state]
      · intro later task account now dbError
        rcases (refused_iff_reservedAs hCommits hAnswers hLeaves).mpr hAs with hBlank | hLeft
        · exact not_acquires_of_blank hBlank task account now dbError
        · exact not_acquires_of_terminal (hasTerminalRow_run digest hLeft later) task
            account now dbError

/- `mark_blocked` on a fingerprint without a row answers blocked and stores nothing, so that the
   next task gets the CDK. -/
theorem blocked_mark_without_row :
    (markBlocked "fp1" "A" 7 "t0" false emptyDb).2 =
        .ok { fingerprint := "fp1", state := .blocked } ∧
      (markBlocked "fp1" "A" 7 "t0" false emptyDb).1.usage.find? "fp1" = none ∧ Acquires
        (markBlocked "fp1" "A" 7 "t0" false emptyDb).1 "fp1" "B" 9 "t1" false ∧
      ¬ TakesEffect plainDigest emptyDb ⟨.blocked, "fp1", "A", 7, "t0", false⟩ := by
  have hAcquires : Acquires
        (markBlocked "fp1" "A" 7 "t0" false emptyDb).1
        "fp1" "B" 9 "t1" false :=
    ⟨{ fingerprint := "fp1", state := .reserved, task_id := "B",
       account_id := 9 }, by decide, rfl, rfl, rfl⟩
  refine ⟨by decide, by decide, hAcquires, ?_⟩
  intro hEffect
  have hBoth := hEffect { fingerprint := "fp1", state := .blocked } (by decide) rfl
  exact hBoth.2 [] "B" 9 "t1" false hAcquires

end PixCdkUsage
