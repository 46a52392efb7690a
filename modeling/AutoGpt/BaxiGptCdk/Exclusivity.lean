import AutoGpt.BaxiGptCdk.Binding

/-
  Which interleavings keep a reserved card with its task. A
  task holds a card from its committed reservation to the
  outcome it records. No other task disturbs a held card
  exactly when every commit on it is harmless.

  Main theorems:
    * `BaxiGptCdk.undisturbed_iff`
    * `BaxiGptCdk.HoldsKept.step`
    * `BaxiGptCdk.undisturbed_iff_harmless`
-/

open PyText (strip)
open Machine (Steps run steps_append)

----
-- Holds
----

namespace BaxiGptCdk

/- A task holds a card. The last two fields say how its own last commit left the card: the binding,
   and whether it made the card available again by itself. -/
structure Hold where
  card : Nat
  task_id : String
  left : Binding
  released : Bool

structure Watched where
  pool : Pool
  holds : List Hold := []

/- The session that a commit of this number finishes. -/
def loadedSession (pool : Pool) (i : Nat) : Option Session :=
  pool.sessions[i]?.filter (fun s => s.phase = .loaded)

def committing (pool : Pool) :
    Op → Option (Session × List Account)
| .commit i accounts => (loadedSession pool i).map fun s => (s, accounts)
| .listSubmitCandidates _ => none
| .load _ _ _ => none
| .refresh _ => none

/- How the commit of a task leaves a card. -/
def holdOf (s : Session) (row : Row) : Hold where
  card := row.id
  task_id := strip s.task_id
  left := row.binding
  released := row.status = .available

/- The hold is this task's hold on this card. -/
def Hold.isOf (card : Nat) (task_id : String) (hold : Hold) :
    Bool :=
  hold.card = card && hold.task_id = task_id

/- The holds after a commit: a reservation starts one, an outcome ends it, and the task's own
   refresh renews what the hold says about the card. -/
def watchCommit (s : Session) (row : Row) (holds : List Hold) :
    List Hold :=
  let isMine := Hold.isOf row.id (strip s.task_id)
  let others := holds.filter (fun hold => !isMine hold)
  let renewed := if holds.any isMine then holdOf s row :: others else others
  match s.request with
  | .reserveForAccount _ _ _ => holdOf s row :: others
  | .markSubmitSuccess _ _ => others
  | .markFailure _ _ _ _ => others
  | .markCodeInfo _ _ => renewed
  | .markQueryResponse _ _ => renewed
  | .markStatusResponse _ _ => renewed

def watch (op : Op) (pool next : Pool) (holds : List Hold) :
    List Hold :=
  match committing pool op with
  | none => holds
  | some (s, _) =>
    match next.cards.find? s.snapshot.id with
    | none => holds
    | some row => watchCommit s row holds

/- A step of the pool, with the holds kept in view. -/
def watchedStep (env : Env) (w : Watched) (op : Op) :
    Watched × Answer :=
  let r := step env w.pool op
  ({ pool := r.1, holds := watch op w.pool r.1 w.holds }, r.2)

/- The pool after an interleaving, with its holds. -/
abbrev watchedRun (env : Env) (w : Watched) (ops : List Op) :
    Watched :=
  run (watchedStep env) w ops

/- Another task holds the card of the session. -/
def HeldByOther (w : Watched) (s : Session) : Prop :=
  ∃ hold ∈ w.holds, hold.card = s.snapshot.id ∧ hold.task_id ≠ strip s.task_id

instance (w : Watched) (s : Session) :
    Decidable (HeldByOther w s) :=
  inferInstanceAs (Decidable (∃ hold ∈ w.holds, _))

/- The step does not rebind a card that another task holds and does not return it to `available`. -/
def Undisturbed (env : Env) (w : Watched) (op : Op) : Prop := ∀ s accounts row next,
    committing w.pool op = some (s, accounts) →
    HeldByOther w s →
    w.pool.cards.find? s.snapshot.id = some row →
    (step env w.pool op).1.cards.find? s.snapshot.id = some next →
    Kept row next

/- The step is no harmful commit on another task's card. -/
def Harmless (env : Env) (w : Watched) (op : Op) : Prop := ∀ s accounts row,
    committing w.pool op = some (s, accounts) →
    HeldByOther w s →
    w.pool.cards.find? s.snapshot.id = some row →
    HarmlessOn env accounts s row

def HoldKept (cards : Cards) (hold : Hold) : Prop := ∃ row, cards.find? hold.card = some row ∧
    row.binding = hold.left ∧
    (row.status = .available → hold.released)

/- Every held card is as its holder left it. -/
def HoldsKept (w : Watched) : Prop := ∀ hold ∈ w.holds, HoldKept w.pool.cards hold

----
-- Held Cards Over A Run
----

theorem step_cards (env : Env) (pool : Pool) (op : Op) :
    (step env pool op).1.cards =
      match committing pool op with
      | none => pool.cards
      | some (s, accounts) =>
        pool.cards.updateKey s.snapshot.id (s.write env accounts) (fun _ => rfl) := by
  cases op with
  | listSubmitCandidates ids => rfl
  | load task_id request now =>
    dsimp only [step, load, committing]
    split
    · rfl
    split
    · rfl
    · rfl
  | refresh i =>
    dsimp only [step, refresh, committing]
    split
    · rfl
    split
    · rfl
    · rfl
    · rfl
  | commit i accounts =>
    dsimp only [step, commit, committing, loadedSession]
    cases pool.sessions[i]? with
    | none => rfl
    | some s =>
      rw [Option.filter_some]
      dsimp only
      cases s.phase with
      | loaded => rfl
      | committed => rfl
      | closed => rfl

theorem find?_of_committing (env : Env) (hCommit : committing pool op = some (s, accounts)) :
    (step env pool op).1.cards.find? s.snapshot.id =
      (pool.cards.find? s.snapshot.id).map (s.write env accounts) := by
  rw [step_cards, hCommit]
  exact KeyedTable.find?_updateKey_self _ _ _ _

theorem find?_of_ne (hCommit : committing pool op = some (s, accounts))
    (hNe : card ≠ s.snapshot.id) :
    (step env pool op).1.cards.find? card = pool.cards.find? card := by
  rw [step_cards, hCommit]
  exact KeyedTable.find?_updateKey_of_ne _ _ _ hNe

theorem undisturbed_iff (env : Env) (w : Watched) (op : Op) :
    Undisturbed env w op ↔ Harmless env w op := by
  constructor
  · intro hUndisturbed s accounts row hCommit hHeld hRow
    apply (kept_write_iff env accounts s row).mp
    apply hUndisturbed s accounts row _ hCommit hHeld hRow
    rw [find?_of_committing env hCommit, hRow]
    rfl
  · intro hHarmless s accounts row next hCommit hHeld hRow
      hNext
    rw [find?_of_committing env hCommit, hRow] at hNext
    cases hNext
    apply (kept_write_iff env accounts s row).mpr
    exact hHarmless s accounts row hCommit hHeld hRow

theorem mem_watchCommit (hMem : hold ∈ watchCommit s row holds) :
    hold = holdOf s row ∨ hold ∈ holds ∧ Hold.isOf row.id (strip s.task_id) hold = false := by
  have hOthers : hold ∈ holds.filter
            (fun hold => !Hold.isOf row.id (strip s.task_id) hold) →
        hold ∈ holds ∧ Hold.isOf row.id (strip s.task_id) hold = false := by
    intro hIn
    simpa using hIn
  have hRenewed : hold ∈ (if holds.any
                (Hold.isOf row.id (strip s.task_id))
            then holdOf s row :: holds.filter (fun hold => !Hold.isOf row.id (strip s.task_id) hold)
            else holds.filter (fun hold => !Hold.isOf row.id (strip s.task_id) hold)) →
        hold = holdOf s row ∨ hold ∈ holds ∧ Hold.isOf row.id (strip s.task_id) hold = false := by
    intro hIn
    split at hIn
    · rcases List.mem_cons.mp hIn with hMine | hOther
      · exact .inl hMine
      · exact .inr (hOthers hOther)
    · exact .inr (hOthers hIn)
  unfold watchCommit at hMem
  dsimp only at hMem
  split at hMem
  · rcases List.mem_cons.mp hMem with hMine | hOther
    · exact .inl hMine
    · exact .inr (hOthers hOther)
  · exact .inr (hOthers hMem)
  · exact .inr (hOthers hMem)
  · exact hRenewed hMem
  · exact hRenewed hMem
  · exact hRenewed hMem

theorem HoldKept.commit (hKept : HoldKept w.pool.cards hold) (hMem : hold ∈ w.holds)
    (hHarmless : Harmless env w op) (hCommit : committing w.pool op = some (s, accounts))
    (hOther : Hold.isOf s.snapshot.id (strip s.task_id) hold = false) :
    HoldKept (step env w.pool op).1.cards hold := by
  rcases hKept with ⟨row, hRow, hLeft, hReleased⟩
  by_cases hCard : hold.card = s.snapshot.id
  · have hTask : hold.task_id ≠ strip s.task_id := by
      intro hSame
      simp [Hold.isOf, hCard, hSame] at hOther
    rw [hCard] at hRow
    have hKeep := (kept_write_iff env accounts s row).mpr
        (hHarmless s accounts row hCommit ⟨hold, hMem, hCard, hTask⟩ hRow)
    refine ⟨s.write env accounts row, ?_, ?_, ?_⟩
    · rw [hCard, find?_of_committing env hCommit, hRow]
      rfl
    · exact hKeep.1.trans hLeft
    · exact fun hNew => hReleased (hKeep.2 hNew)
  · refine ⟨row, ?_, hLeft, hReleased⟩
    rw [find?_of_ne hCommit hCard]
    exact hRow

theorem HoldsKept.step (hKept : HoldsKept w) (hHarmless : Harmless env w op) :
    HoldsKept (watchedStep env w op).1 := by
  intro hold hMem
  change hold ∈ watch op w.pool _ w.holds at hMem
  change HoldKept (BaxiGptCdk.step env w.pool op).1.cards hold
  unfold watch at hMem
  cases hCommit : committing w.pool op with
  | none =>
    rw [hCommit] at hMem
    rw [step_cards, hCommit]
    exact hKept hold hMem
  | some pair =>
    rcases pair with ⟨s, accounts⟩
    rw [hCommit] at hMem
    dsimp only at hMem
    have hFind := find?_of_committing env hCommit
    cases hRow : w.pool.cards.find? s.snapshot.id with
    | none =>
      rw [hRow] at hFind
      rw [hFind] at hMem
      rcases hKept hold hMem with ⟨row, hFound, hRest⟩
      have hCard : hold.card ≠ s.snapshot.id := by
        intro hSame
        rw [hSame, hRow] at hFound
        cases hFound
      refine ⟨row, ?_, hRest⟩
      rw [find?_of_ne hCommit hCard]
      exact hFound
    | some row =>
      rw [hRow] at hFind
      rw [hFind] at hMem
      have hId : row.id = s.snapshot.id := (KeyedTable.mem_of_find? hRow).2
      rcases mem_watchCommit hMem with hMine | hOld
      · subst hMine
        refine ⟨s.write env accounts row, ?_, rfl, ?_⟩
        · exact (congrArg _ hId).trans hFind
        · exact fun hNew => decide_eq_true hNew
      · apply HoldKept.commit (hKept hold hOld.1) hOld.1 hHarmless hCommit
        rw [← hId]
        exact hOld.2

/- A reservation of a card that nobody wrote since it was read binds the card as asked, and its task
   then holds it so. -/
theorem reserve_holds (hCommit : committing w.pool op = some (s, accounts))
    (hRequest : s.request = .reserveForAccount record_id account_id email)
    (hRow : w.pool.cards.find? s.snapshot.id = some s.snapshot) :
    { card := s.snapshot.id, task_id := strip s.task_id,
      left := ⟨account_id, strip email, strip s.task_id⟩, released := false } ∈
      (watchedStep env w op).1.holds := by
  change _ ∈ watch op w.pool _ w.holds
  have hFind := find?_of_committing env hCommit
  rw [hRow] at hFind
  unfold watch
  rw [hCommit]
  dsimp only
  rw [hFind]
  unfold watchCommit
  rw [hRequest]
  apply List.mem_cons.mpr
  left
  have hColumn : ∀ {α : Type} [DecidableEq α] (read new : α), column read new read = new := by
    intro α _ read new
    unfold column
    split
    next hSame => exact hSame.symm
    · rfl
  unfold holdOf Session.write perform
  rw [hRequest]
  simp only [updateColumns, Row.binding, hColumn, reserveForAccount]
  rfl

/- For every pool and every interleaving of the sessions of any number of tasks: no task disturbs a
   card that another task holds exactly when every commit on such a card is harmless. Every held
   card is then, in every state, bound as its holder left it and only available if its holder made
   it so; and a reservation without a commit in between binds the card to its account and task. -/
theorem undisturbed_iff_harmless (env : Env) (cards : Cards) (ops : List Op) :
    (Steps (watchedStep env) (Undisturbed env) { pool := { cards := cards } } ops ↔
      Steps (watchedStep env) (Harmless env) { pool := { cards := cards } } ops) ∧
    (Steps (watchedStep env) (Harmless env) { pool := { cards := cards } } ops →
      ∀ before after, ops = before ++ after →
        HoldsKept (watchedRun env { pool := { cards := cards } } before)) ∧
    (∀ before op after s accounts record_id account_id email, ops = before ++ op :: after →
      let w := watchedRun env { pool := { cards := cards } } before
      committing w.pool op = some (s, accounts) →
      s.request = .reserveForAccount record_id account_id email →
      w.pool.cards.find? s.snapshot.id = some s.snapshot →
      { card := s.snapshot.id, task_id := strip s.task_id,
        left := ⟨account_id, strip email, strip s.task_id⟩, released := false } ∈
        (watchedStep env w op).1.holds) := by
  have hSame : Undisturbed env = Harmless env := by
    funext w op
    exact propext (undisturbed_iff env w op)
  refine ⟨?_, ?_, ?_⟩
  · rw [hSame]
  · intro hSteps before after hSplit
    rw [hSplit, steps_append] at hSteps
    apply Machine.run_induction_of_steps _ _ hSteps.1
    · intro w op hKept hHarmless
      exact hKept.step hHarmless
    · intro hold hMem
      cases hMem
  · intro before op after s accounts record_id account_id
      email _ w hCommit hRequest hRow
    exact reserve_holds hCommit hRequest hRow

/- The pool with one new card, `CDK-AAAA-1111`. -/
def newCard : Row where
  id := 1
  code_hash := "978ae7c5cc1acd52ead42af8cedd73fa" ++ "018931c1e9aec0087827eda9afe4a8ad"

/- Lower-case texts, and the hash of the new card's code. -/
def newCardEnv : Env where
  lower := fun text => text
  sha256 := fun _ => newCard.code_hash

/- Two tasks list the card, and the first one reserves it. -/
def reservedByFirst : List Op := [.listSubmitCandidates [], .listSubmitCandidates [],
    .load "task_1" (.reserveForAccount 1 101 "first@example.com") "t1",
    .commit 0 [],
    .refresh 0]

/- The second task reserves the card it has listed. -/
def secondReserves : List Op :=
  [.load "task_2" (.reserveForAccount 1 102 "second@example.com") "t2", .commit 1 []]

/- The second task queries the card, which has quota left. -/
def secondQueries : List Op := [.load "task_2"
      (.markQueryResponse "CDK-AAAA-1111" { ok := true, remaining := some 1 })
      "t2",
    .commit 1 []]

/- The pool with the new card and no session. -/
def newPool : Watched where
  pool := { cards := { rows := [newCard], keys_nodup := by decide } }

/- The commit rebinds or frees a card held by another task. -/
def disturbs (env : Env) (w : Watched) (op : Op) : Bool :=
  match committing w.pool op with
  | none => false
  | some (s, _) =>
    let next := (step env w.pool op).1
    match w.pool.cards.find? s.snapshot.id, next.cards.find? s.snapshot.id with
    | some row, some after => decide (HeldByOther w s) && !decide (Kept row after)
    | _, _ => false

theorem not_undisturbed_of_disturbs (before : List Op) (op : Op)
    (hDisturbs : disturbs env (watchedRun env w before) op) :
    ¬ Steps (watchedStep env) (Undisturbed env) w (before ++ [op]) := by
  intro hSteps
  rw [steps_append] at hSteps
  have hStep := hSteps.2.1
  unfold disturbs at hDisturbs
  split at hDisturbs
  · cases hDisturbs
  next s accounts hCommit =>
    dsimp only at hDisturbs
    split at hDisturbs
    next row after hRow hAfter =>
      rw [Bool.and_eq_true, decide_eq_true_iff, Bool.not_eq_true', decide_eq_false_iff_not]
        at hDisturbs
      exact hDisturbs.2 (hStep s accounts row after hCommit hDisturbs.1 hRow hAfter)
    · cases hDisturbs

/- After the first task reserved the card, the second task's reservation takes it away, and the
   second task's query returns it to `available`. -/
theorem reserved_card_taken :
    ¬ Steps (watchedStep newCardEnv) (Undisturbed newCardEnv) newPool
        (reservedByFirst ++ secondReserves) ∧ ¬ Steps (watchedStep newCardEnv)
        (Undisturbed newCardEnv) newPool (reservedByFirst ++ secondQueries) := by
  constructor
  · exact not_undisturbed_of_disturbs (reservedByFirst ++ secondReserves.dropLast)
        (.commit 1 []) (by decide +kernel)
  · exact not_undisturbed_of_disturbs (reservedByFirst ++ secondQueries.dropLast)
        (.commit 1 []) (by decide +kernel)

end BaxiGptCdk
