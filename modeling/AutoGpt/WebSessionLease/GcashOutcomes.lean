import AutoGpt.WebSessionLease.GcashTable

/-
  The outcomes of the link commands of a lease: as long as
  the owner stores no result after a wait on the command has
  run out, and its log call after the result does not raise,
  each command ends with a result or an error but not both.

  Main theorems: `Resolved.step`, `moves_owner`, `Turn.moves`, `gcash_commands_settled_once`
-/

open List
open Option
open Machine

----
-- Statements
----

namespace LeaseCommands

open WebSessionLease (Lease LeaseStatus shortId)

/- The command on which a requester's wait has run out. -/
def Requester.ranOut : Requester → Option Nat
| .lapsed id => some id
| .expired id => some id
| _ => none

/- The command on which a requester waits, in any way. -/
def Requester.awaits : Requester → Option Nat
| .waiting id => some id
| .lapsed id => some id
| .expired id => some id
| _ => none

/- The owner stores a result only into a command that has no error and on which no wait has run out,
   and its log call after that does not raise. -/
def Timely (w : World) : CommandOp → Prop
| .owner outcome _ =>
    match w.owner with
    | .shown id =>
      outcome = .ok → w.errorOf id = "" ∧ ∀ requester ∈ w.requesters, requester.ranOut ≠ some id
    | .opened _ => outcome = .ok
    | _ => True
| _ => True

instance (w : World) (op : CommandOp) :
    Decidable (Timely w op) := by
  apply op.casesOn (motive := fun op => Decidable (Timely w op))
  case owner =>
    intro outcome now
    dsimp only [Timely]
    split <;> infer_instance
  all_goals
    intros
    exact instDecidableTrue

/- A link command has not both a result and an error, and one that is done has one of them. A
   requester of one that has a result is not told of an error. -/
structure Settled (env : Env) (w : World) : Prop where
  one : ∀ (id : Nat) (c : Command), w.commands[id]? = some c → c.kind = .open_gcash_link →
      ¬ (c.result.isSome ∧ c.error ≠ "")
  some_of_done : ∀ (id : Nat) (c : Command), w.commands[id]? = some c →
      c.kind = .open_gcash_link → c.done → c.result.isSome ∨ c.error ≠ ""
  told : ∀ (id : Nat) (c : Command), w.commands[id]? = some c →
      c.kind = .open_gcash_link → c.result.isSome →
      ∀ i requester, w.requesters[i]? = some requester → requester.awaits = some id →
        ∀ expires, (requesterStep env w i expires).2 = .returned c.result

----
-- The Invariant
----

/- The command that a requester has yet to put, to cancel or to fail. -/
def Requester.pends : Requester → Option Nat
| .putting id => some id
| .lapsed id => some id
| .expired id => some id
| _ => none

/- A thread other than the owner has the command ahead. -/
def World.Elsewhere (w : World) (id : Nat) : Prop :=
  (∃ requester ∈ w.requesters, requester.pends = some id) ∨ id ∈ w.queue ∨
    ∃ releaser ∈ w.releasers, releaser.held = some id

/- Some thread has the outcome of the command ahead. -/
def World.Busy (w : World) (id : Nat) : Prop :=
  w.Elsewhere id ∨ w.owner.held = some id ∧ w.owner.after = none

/- What a step does to the outcome of a link command. -/
inductive Moved (w w' : World) (id : Nat) (c c' : Command) : Prop
| keeps
    (hResult : c'.result = c.result) (hError : c'.error = c.error) (hDone : c'.done = c.done)
| fails
    (hBusy : w.Busy id) (hResult : c'.result = c.result) (hError : c'.error ≠ "")
| serves
    (hResult : c'.result.isSome) (hError : c'.error = "") (hDone : c'.done)
    (hOver : ¬ w'.Busy id)
| finishes
    (hAfter : w.owner.after = some id) (hResult : c'.result = c.result)
    (hError : c'.error = c.error) (hDone : c'.done)

/- What a step does to the outcomes and to the threads. -/
structure Moves (w w' : World) : Prop where
  moved : ∀ (id : Nat) (c c' : Command), w.commands[id]? = some c → w'.commands[id]? = some c' →
      c.kind = .open_gcash_link → Moved w w' id c c'
  busy : ∀ id, w'.Busy id → w.Busy id ∨ w.isDone id = false
  after : ∀ id, w'.owner.after = some id → w.owner.after = some id ∨
        ∀ c, w'.commands[id]? = some c → c.result.isSome ∨ c.error ≠ ""
  refreshes : ∀ id, w'.owner.refreshes = some id →
      w.owner.refreshes = some id ∨ ∃ c, w.commands[id]? = some c ∧ c.kind = .refresh_session

/- A link command with a result has no error, is done, and is ahead of no thread. One that is done,
   or that the owner has left, has an outcome; and the owner serves no link command as a refresh. -/
structure Resolved (w : World) : Prop where
  success : ∀ (id : Nat) (c : Command), w.commands[id]? = some c →
      c.kind = .open_gcash_link → c.result.isSome →
      c.error = "" ∧ c.done ∧ ¬ w.Busy id
  done : ∀ (id : Nat) (c : Command), w.commands[id]? = some c →
      c.kind = .open_gcash_link → c.done → c.result.isSome ∨ c.error ≠ ""
  after : ∀ (id : Nat) (c : Command), w.commands[id]? = some c →
      c.kind = .open_gcash_link → w.owner.after = some id → c.result.isSome ∨ c.error ≠ ""
  refreshes : ∀ (id : Nat) (c : Command), w.commands[id]? = some c →
      w.owner.refreshes = some id → c.kind = .refresh_session

theorem resolved_fresh (lease : Lease) :
    Resolved { lease := lease } where
  success := nofun
  done := nofun
  after := nofun
  refreshes := nofun

variable {id : Nat} {w : World}

/- What the owner holds has been created, and is the owner's alone. -/
theorem Tally.alone (hTally : Tally w) (hHeld : w.owner.held = some id) :
    id < w.commands.length ∧ .putting id ∉ w.requesters ∧ id ∉ w.queue ∧
      ∀ releaser ∈ w.releasers, releaser.held ≠ some id := by
  have hPut := hTally.put id
  have hPlaces := hTally.places id
  unfold World.places at hPlaces
  rw [if_pos hHeld] at hPlaces
  have hValid : id < w.commands.length := by
    by_contra hNew
    rw [if_neg hNew] at hPut
    omega
  rw [if_pos hValid] at hPut
  refine ⟨hValid, ?_, ?_, ?_⟩
  · intro hMem
    have hSome := count_pos_iff.mpr hMem
    omega
  · intro hMem
    have hSome := count_pos_iff.mpr hMem
    omega
  · intro releaser hMem hHolds
    have hSome : 0 < w.releasers.countP (fun releaser => decide (releaser.held = some id)) :=
      countP_pos_iff.mpr ⟨releaser, hMem, decide_eq_true hHolds⟩
    omega

theorem Resolved.step {env : Env} {op : CommandOp} (hResolved : Resolved w) (hTally : Tally w)
    (hMoves : Moves w (commandStep env w op).1) : Resolved (commandStep env w op).1 := by
  refine ⟨?_, ?_, ?_, ?_⟩
  · intro id c' hFound hKind hResult
    rcases commandStep_origin hFound with ⟨c, hWas, hDevelops⟩ | ⟨_, hFresh⟩
    · rw [hDevelops.kind] at hKind
      have hKept : c.result.isSome →
            c.error = "" ∧ c.done ∧ ¬ w.Busy id ∧ ¬ (commandStep env w op).1.Busy id := by
        intro hBefore
        rcases hResolved.success id c hWas hKind hBefore with ⟨hError, hDone, hOver⟩
        refine ⟨hError, hDone, hOver, ?_⟩
        intro hBusy
        rcases hMoves.busy id hBusy with hWasBusy | hUndone
        · exact hOver hWasBusy
        · unfold World.isDone at hUndone
          rw [hWas, any_some, hDone] at hUndone
          cases hUndone
      cases hMoves.moved id c c' hWas hFound hKind with
      | keeps hSame hError hDone =>
        rw [hSame] at hResult
        rcases hKept hResult with ⟨hClean, hWasDone, _, hOver⟩
        exact ⟨hError.trans hClean, hDone.trans hWasDone, hOver⟩
      | fails hBusy hSame hError =>
        rw [hSame] at hResult
        exact absurd hBusy (hKept hResult).2.2.1
      | serves _ hError hDone hOver => exact ⟨hError, hDone, hOver⟩
      | finishes _ hSame hError hDone =>
        rw [hSame] at hResult
        rcases hKept hResult with ⟨hClean, _, _, hOver⟩
        exact ⟨hError.trans hClean, hDone, hOver⟩
    · rw [hFresh.result] at hResult
      cases hResult
  · intro id c' hFound hKind hDone
    rcases commandStep_origin hFound with ⟨c, hWas, hDevelops⟩ | ⟨_, hFresh⟩
    · rw [hDevelops.kind] at hKind
      cases hMoves.moved id c c' hWas hFound hKind with
      | keeps hResult hError hSame =>
        rw [hSame] at hDone
        rw [hResult, hError]
        exact hResolved.done id c hWas hKind hDone
      | fails _ _ hError => exact .inr hError
      | serves hResult _ _ _ => exact .inl hResult
      | finishes hAfter hResult hError _ =>
        rw [hResult, hError]
        exact hResolved.after id c hWas hKind hAfter
    · rw [hFresh.done] at hDone
      cases hDone
  · intro id c' hFound hKind hAfter
    rcases hMoves.after id hAfter with hBefore | hSettled
    · rcases commandStep_origin hFound with
        ⟨c, hWas, hDevelops⟩ | ⟨hNew, _⟩
      · rw [hDevelops.kind] at hKind
        have hSettled := hResolved.after id c hWas hKind hBefore
        cases hMoves.moved id c c' hWas hFound hKind with
        | keeps hResult hError _ =>
          rw [hResult, hError]
          exact hSettled
        | fails _ _ hError => exact .inr hError
        | serves hResult _ _ _ => exact .inl hResult
        | finishes _ hResult hError _ =>
          rw [hResult, hError]
          exact hSettled
      · have hValid := (hTally.alone (held_of_after hBefore)).1
        have hEnd := getElem?_eq_none_iff.mp hNew
        omega
    · exact hSettled c' hFound
  · intro id c' hFound hRefreshes
    rcases commandStep_origin hFound with ⟨c, hWas, hDevelops⟩ | ⟨hNew, _⟩
    · rw [hDevelops.kind]
      rcases hMoves.refreshes id hRefreshes with hBefore | ⟨served, hServed, hKind⟩
      · exact hResolved.refreshes id c hWas hBefore
      · rw [hWas, some.injEq] at hServed
        rw [hServed]
        exact hKind
    · rcases hMoves.refreshes id hRefreshes with
        hBefore | ⟨served, hServed, _⟩
      · have hValid := (hTally.alone (held_of_refreshes hBefore)).1
        have hEnd := getElem?_eq_none_iff.mp hNew
        omega
      · rw [hNew] at hServed
        cases hServed

----
-- Steps Of Requesters And Releases
----

variable {w' : World}

theorem moved_of_same (hSame : w'.commands = w.commands) (id : Nat) (c c' : Command)
    (hWas : w.commands[id]? = some c) (hFound : w'.commands[id]? = some c') :
    Moved w w' id c c' := by
  rw [hSame, hWas, some.injEq] at hFound
  rw [← hFound]
  exact .keeps rfl rfl rfl

theorem moved_of_append (hCommands : w'.commands = w.commands ++ [command])
    (id : Nat) (c c' : Command) (hWas : w.commands[id]? = some c)
    (hFound : w'.commands[id]? = some c') : Moved w w' id c c' := by
  have hValid := (List.getElem?_eq_some_iff.mp hWas).1
  rw [hCommands, List.getElem?_append_left hValid, hWas, some.injEq] at hFound
  rw [← hFound]
  exact .keeps rfl rfl rfl

theorem moved_of_modify (hCommands : w'.commands = w.commands.modify i f)
    (hMoved : ∀ c, Moved w w' i c (f c)) (id : Nat) (c c' : Command)
    (hWas : w.commands[id]? = some c) (hFound : w'.commands[id]? = some c') :
    Moved w w' id c c' := by
  rw [hCommands, List.getElem?_modify, Option.map_eq_map, hWas,
    Option.map_some, Option.some.injEq] at hFound
  rw [← hFound]
  split
  next hIs =>
    rw [← hIs]
    exact hMoved c
  · exact .keeps rfl rfl rfl

theorem moves_of_others
    (hMoved : ∀ (id : Nat) (c c' : Command), w.commands[id]? = some c → w'.commands[id]? = some c' →
        Moved w w' id c c')
    (hElsewhere : ∀ id, w'.Elsewhere id → w.Elsewhere id ∨ w.isDone id = false)
    (hOwner : w'.owner = w.owner ∨ w'.owner = .publishing) : Moves w w' := by
  refine ⟨fun id c c' hWas hFound _ => hMoved id c c' hWas hFound, ?_, ?_, ?_⟩
  · rintro id (hElse | ⟨hHeld, hBefore⟩)
    · exact (hElsewhere id hElse).imp_left .inl
    · rcases hOwner with hSame | hBegins
      · rw [hSame] at hHeld hBefore
        exact .inl (.inr ⟨hHeld, hBefore⟩)
      · rw [hBegins] at hHeld
        cases hHeld
  · intro id hAfter
    rcases hOwner with hSame | hBegins
    · rw [hSame] at hAfter
      exact .inl hAfter
    · rw [hBegins] at hAfter
      cases hAfter
  · intro id hRefreshes
    rcases hOwner with hSame | hBegins
    · rw [hSame] at hRefreshes
      exact .inl hRefreshes
    · rw [hBegins] at hRefreshes
      cases hRefreshes

/- Neither the requesters nor the releases nor the queue change. -/
theorem elsewhere_of_same (hRequesters : w'.requesters = w.requesters) (hQueue : w'.queue = w.queue)
    (hReleasers : w'.releasers = w.releasers) (hElse : w'.Elsewhere id) : w.Elsewhere id := by
  unfold World.Elsewhere at *
  rw [hRequesters, hQueue, hReleasers] at hElse
  exact hElse

theorem moves_refl (w : World) : Moves w w :=
  moves_of_others (moved_of_same rfl) (fun _ hElse => .inl hElse) (.inl rfl)

/- A requester goes on, and what it pends was pending, or its command is not done. -/
theorem elsewhere_setRequester (next : Requester)
    (hNext : next.pends = some id → w.Elsewhere id ∨ w.isDone id = false)
    (hElse : (w.setRequester i next).Elsewhere id) : w.Elsewhere id ∨ w.isDone id = false := by
  rcases hElse with ⟨requester, hMem, hPends⟩ | hQueued | hHeld
  · rcases mem_or_eq_of_mem_set hMem with hOld | hNew
    · exact .inl (.inl ⟨requester, hOld, hPends⟩)
    · rw [hNew] at hPends
      exact hNext hPends
  · exact .inl (.inr (.inl hQueued))
  · exact .inl (.inr (.inr hHeld))

theorem moves_creates (hCommands : w'.commands = w.commands ++ [command])
    (hRequesters : w'.requesters = w.requesters ++ [.putting w.commands.length])
    (hQueue : w'.queue = w.queue) (hReleasers : w'.releasers = w.releasers)
    (hOwner : w'.owner = w.owner) : Moves w w' := by
  refine moves_of_others (moved_of_append hCommands) ?_ (.inl hOwner)
  intro id hElse
  unfold World.Elsewhere at hElse
  rw [hRequesters, hQueue, hReleasers] at hElse
  rcases hElse with ⟨requester, hMem, hPends⟩ | hQueued | hHeld
  · rcases mem_append.mp hMem with hOld | hNew
    · exact .inl (.inl ⟨requester, hOld, hPends⟩)
    · rw [mem_singleton.mp hNew] at hPends
      have hIs : w.commands.length = id := some.inj hPends
      right
      unfold World.isDone
      rw [getElem?_eq_none (Nat.le_of_eq hIs)]
      rfl
  · exact .inl (.inr (.inl hQueued))
  · exact .inl (.inr (.inr hHeld))

/- A release goes on, and what it holds it held, or it was in the queue. -/
theorem elsewhere_setReleaser (next : Releaser) (hNext : next.held = some id → w.Elsewhere id)
    (hElse : (w.setReleaser i next).Elsewhere id) : w.Elsewhere id := by
  rcases hElse with hPends | hQueued | ⟨releaser, hMem, hHeld⟩
  · exact .inl hPends
  · exact .inr (.inl hQueued)
  · rcases mem_or_eq_of_mem_set hMem with hOld | hNew
    · exact .inr (.inr ⟨releaser, hOld, hHeld⟩)
    · rw [hNew] at hHeld
      exact hNext hHeld

----
-- Steps Of The Owner
----

theorem elsewhere_owner (hElse : (hold_browser env w outcome now).Elsewhere id) :
    w.Elsewhere id := by
  have hWorks := hold_browser_works env w outcome now
  generalize hold_browser env w outcome now = w' at hWorks hElse
  unfold World.Elsewhere at hElse
  rw [hWorks.requesters, hWorks.releasers] at hElse
  refine hElse.imp_right (Or.imp_left ?_)
  intro hQueued
  rcases hWorks.hands with ⟨hQueue, _⟩ | ⟨other, hQueue, _⟩
  · exact hQueue ▸ hQueued
  · rw [hQueue]
    exact mem_cons_of_mem _ hQueued

theorem busy_owner (hTimely : Timely w (.owner outcome now))
    (hBusy : (hold_browser env w outcome now).Busy id) : w.Busy id := by
  rcases hBusy with hElse | ⟨hHeld, hNone⟩
  · exact .inl (elsewhere_owner hElse)
  have hWorks := hold_browser_works env w outcome now
  generalize hold_browser env w outcome now = w' at hWorks hHeld hNone
  have hLog : ∀ id, w.owner = .opened id → outcome = .ok := by
    intro other hOwner
    unfold Timely at hTimely
    dsimp only at hTimely
    rw [hOwner] at hTimely
    exact hTimely
  rcases hWorks.hands with ⟨_, hKept | ⟨hFree, _⟩⟩ | ⟨other, hQueue, _, hTaken, _⟩
  · rw [hKept] at hHeld
    refine .inr ⟨hHeld, ?_⟩
    cases hAfter : w.owner.after with
    | none => rfl
    | some other =>
      have hOther := held_of_after hAfter
      rw [hHeld, some.injEq] at hOther
      rw [← hOther] at hAfter
      have hStays := hWorks.stays hLog id hAfter (hKept.trans hHeld)
      rw [hNone] at hStays
      cases hStays
  · rw [hFree] at hHeld
    cases hHeld
  · rw [hTaken, some.injEq] at hHeld
    left
    refine .inr (.inl ?_)
    rw [hQueue, hHeld]
    exact mem_cons_self

/- A result is stored into a command that has no error and that no other thread has ahead. -/
theorem moved_of_serves (hResolved : Resolved w) (hTally : Tally w)
    (hTimely : Timely w (.owner outcome now)) (hWas : w.commands[id]? = some c)
    (hFound : (hold_browser env w outcome now).commands[id]? = some c')
    (hKind : c.kind = .open_gcash_link) (hShown : w.owner = .shown id)
    (hResult : c'.result.isSome) (hError : c'.error = c.error) (hDone : c'.done) :
    Moved w (hold_browser env w outcome now) id c c' := by
  have hHeld : w.owner.held = some id := hShown ▸ rfl
  unfold Timely at hTimely
  dsimp only at hTimely
  rw [hShown] at hTimely
  cases outcome with
  | raises exc =>
    unfold hold_browser at hFound
    rw [hShown] at hFound
    have hSame : w.commands[id]? = some c' := hFound
    rw [hWas, some.injEq] at hSame
    rw [← hSame] at hResult
    have hOver := (hResolved.success id c hWas hKind hResult).2.2
    exact absurd (.inr ⟨hHeld, hShown ▸ rfl⟩) hOver
  | ok =>
    rcases hTimely rfl with ⟨hNoError, hInTime⟩
    have hClean : c.error = "" := by
      unfold World.errorOf at hNoError
      rw [hWas] at hNoError
      exact hNoError
    refine .serves hResult (hError.trans hClean) hDone ?_
    rintro (hElse | ⟨_, hNone⟩)
    · rcases hTally.alone hHeld with
        ⟨_, hPut, hQueue, hReleasers⟩
      rcases elsewhere_owner hElse with
        ⟨requester, hMem, hPends⟩ | hQueued | ⟨releaser, hMem, hHolds⟩
      · have hNot := hInTime requester hMem
        cases requester with
        | putting other =>
          rw [some.inj hPends] at hMem
          exact hPut hMem
        | lapsed other => exact hNot hPends
        | expired other => exact hNot hPends
        | waiting other => cases hPends
        | ended => cases hPends
      · exact hQueue hQueued
      · exact hReleasers releaser hMem hHolds
    · unfold hold_browser at hNone
      rw [hShown] at hNone
      cases hNone

theorem moves_owner (hResolved : Resolved w) (hTally : Tally w)
    (hTimely : Timely w (.owner outcome now)) : Moves w (hold_browser env w outcome now) := by
  have hWorks := hold_browser_works env w outcome now
  refine ⟨?_, fun id hBusy => .inl (busy_owner hTimely hBusy),
      fun id hAfter => (hWorks.after id hAfter).imp_left And.left, hWorks.refreshes⟩
  intro id c c' hWas hFound hKind
  rcases hWorks.before hFound with ⟨before, hBefore, _, hWrites⟩
  rw [hWas, some.injEq] at hBefore
  rw [← hBefore] at hWrites
  cases hWrites with
  | keeps hResult hError hDone => exact .keeps hResult hError hDone
  | fails hHeld hNone hResult hError => exact .fails (.inr ⟨hHeld, hNone⟩) hResult hError
  | serves hShown hResult hError hDone =>
    exact moved_of_serves hResolved hTally hTimely hWas hFound hKind hShown hResult hError hDone
  | reports hReporting =>
    have hRefresh := hResolved.refreshes id c hWas (hReporting ▸ rfl)
    rw [hKind] at hRefresh
    cases hRefresh
  | finishes hAfter hResult hError hDone => exact .finishes hAfter hResult hError hDone

----
-- Steps Of All Threads
----

theorem moves_joins : Moves w { w with requesters := w.requesters ++ [.waiting id] } := by
  refine moves_of_others (moved_of_same rfl) ?_ (.inl rfl)
  rintro id (⟨requester, hMem, hPends⟩ | hRest)
  · rcases mem_append.mp hMem with hOld | hNew
    · exact .inl (.inl ⟨requester, hOld, hPends⟩)
    · rw [mem_singleton.mp hNew] at hPends
      cases hPends
  · exact .inl (.inr hRest)

theorem moves_puts (hRequester : w.requesters[i]? = some (.putting id)) :
    Moves w (w.puts i id) := by
  refine moves_of_others (moved_of_same rfl) ?_ (.inl rfl)
  rintro other (⟨requester, hIn, hPends⟩ | hQueued | hHeld)
  · exact elsewhere_setRequester (.waiting id) nofun
        (.inl ⟨requester, hIn, hPends⟩)
  · rcases mem_append.mp hQueued with hOld | hNew
    · exact .inl (.inr (.inl hOld))
    · rw [mem_singleton.mp hNew]
      exact .inl (.inl ⟨_, mem_of_getElem? hRequester, rfl⟩)
  · exact .inl (.inr (.inr hHeld))

theorem moves_takes (hQueue : w.queue = id :: rest) :
    Moves w { w.setReleaser i (.draining (some id)) with queue := rest } := by
  refine moves_of_others (moved_of_same rfl) ?_ (.inl rfl)
  have hFirst : ∀ other, other ∈ id :: rest → w.Elsewhere other :=
    fun _ hMem => .inr (.inl (hQueue ▸ hMem))
  rintro other (hPends | hQueued | hHeld)
  · exact .inl (.inl hPends)
  · exact .inl (hFirst other (mem_cons_of_mem _ hQueued))
  · left
    refine elsewhere_setReleaser (.draining (some id)) (fun hNext => ?_) (.inr (.inr hHeld))
    rw [← some.inj hNext]
    exact hFirst id mem_cons_self

theorem moves_releases (now : String)
    (hCancels : commands = w.commands ∨ ∃ id, commands = w.commands.modify id Command.cancel) :
    Moves w
      { w with
        lease := w.lease.releaseRequested now, commands := commands,
        releasers := w.releasers ++ [.draining none] } := by
  refine moves_of_others ?_ ?_ (.inl rfl)
  · rcases hCancels with hSame | ⟨id, hCancelled⟩
    · exact moved_of_same hSame
    · exact moved_of_modify hCancelled (fun _ => .keeps rfl rfl rfl)
  · rintro id (hPends | hQueued | ⟨releaser, hMem, hHeld⟩)
    · exact .inl (.inl hPends)
    · exact .inl (.inr (.inl hQueued))
    · rcases mem_append.mp hMem with hOld | hNew
      · exact .inl (.inr (.inr ⟨releaser, hOld, hHeld⟩))
      · rw [mem_singleton.mp hNew] at hHeld
        cases hHeld

theorem Turn.moves (hTurn : Turn env w op w') (hResolved : Resolved w) (hTally : Tally w)
    (hTimely : Timely w op) : Moves w w' := by
  cases hTurn with
  | stands => exact moves_refl w
  | stores status error now =>
    have hStored := written_transition w status error now
    exact moves_of_others (moved_of_same (transition_commands w _ _ _)) (fun _ hElse =>
          .inl (elsewhere_of_same hStored.requesters hStored.queue hStored.releasers hElse))
        (.inl (transition_owner w _ _ _))
  | begins => exact moves_of_others (moved_of_same rfl) (fun _ hElse => .inl hElse) (.inr rfl)
  | owner outcome now => exact moves_owner hResolved hTally hTimely
  | releases now commands hCancels => exact moves_releases now hCancels
  | drained =>
    exact moves_of_others (moved_of_same rfl) (fun _ hElse => .inl (elsewhere_setReleaser
          (w := w) .storing nofun hElse)) (.inl rfl)
  | drains i now id rest _ hQueue => exact moves_takes hQueue
  | fails i now id hReleaser =>
    have hHolds : w.Elsewhere id := .inr (.inr ⟨_, mem_of_getElem? hReleaser, rfl⟩)
    exact moves_of_others (moved_of_modify rfl
          (fun c => .fails (.inl hHolds) (fail_result env _ c) (fail_error_ne env _ c)))
        (fun _ hElse => .inl (elsewhere_setReleaser (w := w) (.draining none)
              nofun hElse)) (.inl rfl)
  | released i now =>
    have hStored := written_transition w .releasing "" now
    refine moves_of_others (moved_of_same (transition_commands w _ _ _)) ?_
        (.inl (transition_owner w _ _ _))
    intro id hElse
    have hBefore := elsewhere_setReleaser (w := w.transition .releasing "" now) .ended
        nofun hElse
    exact .inl (elsewhere_of_same hStored.requesters hStored.queue hStored.releasers hBefore)
  | creates => exact moves_creates rfl rfl rfl rfl rfl
  | joins => exact moves_joins
  | registers => exact moves_creates rfl rfl rfl rfl rfl
  | puts i expires id hRequester => exact moves_puts hRequester
  | goes i expires id next _ hNext =>
    refine moves_of_others (moved_of_same rfl) (fun other => elsewhere_setRequester next ?_)
        (.inl rfl)
    intro hPends
    rcases hNext with hEnded | ⟨hLapsed, hUndone⟩
    · rw [hEnded] at hPends
      cases hPends
    · rw [hLapsed] at hPends
      rw [← some.inj hPends]
      exact .inr hUndone
  | cancels i expires id next hRequester hNext =>
    refine moves_of_others (moved_of_modify rfl (fun _ => .keeps rfl rfl rfl))
        (fun other hElse => elsewhere_setRequester (w := w) next ?_ hElse) (.inl rfl)
    intro hPends
    rcases hNext with hEnded | hExpired
    · rw [hEnded] at hPends
      cases hPends
    · rw [hExpired] at hPends
      rw [← some.inj hPends]
      exact .inl (.inl ⟨_, mem_of_getElem? hRequester, rfl⟩)
  | times_out i expires id hRequester =>
    have hPending : w.Elsewhere id := .inl ⟨_, mem_of_getElem? hRequester, rfl⟩
    exact moves_of_others (moved_of_modify rfl
          (fun c => .fails (.inl hPending) rfl (recordFailure_error_ne env _ c)))
        (fun _ hElse => elsewhere_setRequester (w := w) .ended
            nofun hElse) (.inl rfl)

----
-- Runs
----

theorem run_resolved (hTimely : Machine.Steps (commandStep env) Timely { lease := lease } ops) :
    Resolved (run (commandStep env) { lease := lease } ops) := by
  have hStep : ∀ w op, Resolved w ∧ Tally w → Timely w op →
        Resolved (commandStep env w op).1 ∧ Tally (commandStep env w op).1 := by
    rintro w op ⟨hResolved, hTally⟩ hHere
    have hTurn := commandStep_turn env w op
    exact ⟨hResolved.step hTally (hTurn.moves hResolved hTally hHere), hTurn.tally hTally⟩
  exact (run_induction_of_steps hStep ⟨resolved_fresh lease, tally_fresh lease⟩ hTimely).1

theorem Resolved.settled (hResolved : Resolved w) (env : Env) : Settled env w := by
  refine ⟨?_, hResolved.done, ?_⟩
  · rintro id c hFound hKind ⟨hResult, hError⟩
    exact hError (hResolved.success id c hFound hKind hResult).1
  · intro id c hFound hKind hResult i requester hAt hAwaits
      expires
    rcases hResolved.success id c hFound hKind hResult with ⟨hError, hDone, hOver⟩
    have hFree : requester.pends ≠ some id := by
      intro hPends
      have hMem := mem_of_getElem? hAt
      exact hOver (.inl (.inl ⟨requester, hMem, hPends⟩))
    cases requester with
    | waiting other =>
      have hIs : other = id := some.inj hAwaits
      unfold requesterStep
      rw [hAt, hIs]
      dsimp only
      rw [hFound]
      dsimp only
      rw [if_pos hDone]
      unfold Command.answer
      rw [if_neg (not_not_intro hError)]
    | lapsed other => exact absurd hAwaits hFree
    | expired other => exact absurd hAwaits hFree
    | putting other => cases hAwaits
    | ended => cases hAwaits

theorem run_kept (hTabled : Tabled w) (hLookup : w.gcash_commands.lookup request_id = some id)
    (hKept : Machine.Steps (commandStep env) (StaysKept env request_id) w ops) :
    (run (commandStep env) w ops).gcash_commands.lookup request_id = some id := by
  have hStep : ∀ u op, Tabled u ∧ u.gcash_commands.lookup request_id = some id →
        StaysKept env request_id u op →
        Tabled (commandStep env u op).1 ∧
          (commandStep env u op).1.gcash_commands.lookup request_id = some id := by
    rintro u op ⟨hHere, hFound⟩ hStays
    exact ⟨hHere.step env op, lookup_step hHere env hFound hStays⟩
  exact (run_induction_of_steps hStep ⟨hTabled, hLookup⟩ hKept).2

theorem run_develops (env : Env) (w : World) (ops : List CommandOp) :
    Developed w (run (commandStep env) w ops) :=
  run_induction (fun u op hDeveloped => hDeveloped.trans (commandStep_develops env u op))
    (developed_of_same rfl) ops

/- In every run at most one command of the table is not done, and a request id that is kept has one
   command, with one link and one put. If its steps are timely, every command ends with a result or
   an error but not both. -/
theorem gcash_commands_settled_once (env : Env) (lease : Lease) (ops : List CommandOp) :
    (run (commandStep env) { lease := lease } ops).undone.length ≤ 1 ∧
      (∀ before after request_id, ops = before ++ after →
        (run (commandStep env) { lease := lease } before).keeps request_id →
        Machine.Steps (commandStep env) (StaysKept env request_id)
          (run (commandStep env) { lease := lease } before) after →
        ∃ id c, (run (commandStep env) { lease := lease }
              before).gcash_commands.lookup request_id = some id ∧
            (run (commandStep env) { lease := lease } before).commands[id]? = some c ∧
            Bound env request_id id c (run (commandStep env) { lease := lease } ops)) ∧
      (Machine.Steps (commandStep env) Timely { lease := lease } ops →
        Settled env (run (commandStep env) { lease := lease } ops)) := by
  refine ⟨(run_tabled env lease ops).undone, ?_, ?_⟩
  · intro before after request_id hSplit hHere hKept
    have hTabled := run_tabled env lease before
    rcases isSome_iff_exists.mp hHere with ⟨id, hLookup⟩
    rcases hTabled.known _ (mem_of_lookup hLookup) with ⟨c, hCommand, _⟩
    refine ⟨id, c, hLookup, hCommand, ?_⟩
    refine bound_of_kept (run_tabled env lease ops)
        (run_tally env lease ops) (run_linked env lease ops) ?_ hCommand ?_
    · rw [hSplit, run_append]
      exact run_develops env _ after
    · rw [hSplit, run_append]
      exact run_kept hTabled hLookup hKept
  · exact fun hTimely => (run_resolved hTimely).settled env

/- A link is requested, and again, and then opened. -/
def linkRequested : List CommandOp := holding ++ [.requestOpenGcash "https://a/1" "r-1" "j-1"]

def openedForBoth : List CommandOp := [.requester 0 false,
    .requestOpenGcash "https://a/1" "r-1" ""] ++
    ownerOps 10 ++ [.requester 0 false, .requester 1 true]

theorem openedForBoth_settled :
    (sampleRun (linkRequested ++ openedForBoth)).undone.length ≤ 1 ∧ (∃ id c,
        (sampleRun linkRequested).gcash_commands.lookup "r-1" = some id ∧
          (sampleRun linkRequested).commands[id]? = some c ∧
          Bound sampleEnv "r-1" id c (sampleRun (linkRequested ++ openedForBoth))) ∧
      Settled sampleEnv (sampleRun (linkRequested ++ openedForBoth)) :=
  have hOpened := gcash_commands_settled_once sampleEnv sampleLease (linkRequested ++ openedForBoth)
  ⟨hOpened.1,
    hOpened.2.1 linkRequested openedForBoth "r-1" rfl (by decide +kernel) (by decide +kernel),
    hOpened.2.2 (by decide +kernel)⟩

/- The wait of a requester runs out after the owner's check of the page, the owner stores the
   result, and the requester then fails the command and is told of a timeout. -/
theorem opened_and_timed_out :
    ¬ ∀ ops, ∀ c ∈ (sampleRun ops).commands,
      c.kind = .open_gcash_link → ¬ (c.result.isSome ∧ c.error ≠ "") := by
  intro hAll
  have hLate := hAll
      (holding ++ [.requestOpenGcash "https://a/1" "r-1" "j-1", .requester 0 false] ++
        ownerOps 7 ++ [.requester 0 true] ++ ownerOps 1 ++ [.requester 0 false, .requester 0 false])
  revert hLate
  decide +kernel

end LeaseCommands
