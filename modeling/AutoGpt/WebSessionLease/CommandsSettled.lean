import AutoGpt.WebSessionLease.CommandWrites

/-
  After `hold_browser` no command is left without an outcome,
  as long as a drain of the queue follows every put, and a
  lease under release does not become ready again, as long as
  the owner stores nothing before `releasing` is stored.

  Main theorems: `Inv.step`, `Turn.storesOnly`, `commands_settled`
-/

open List
open Machine

----
-- Statements
----

namespace LeaseCommands

open WebSessionLease (Lease LeaseStatus shortId)

/- Outside of `hold_browser` every command that was put on the queue is done. -/
def AllDone (w : World) : Prop := w.owner = .idle → ∀ id ∈ w.enqueued, w.isDone id

/- The step makes a lease under release ready again. -/
def ReadyAgain (env : Env) (w : World) (op : CommandOp) :
    Prop :=
  w.lease.release_requested ∧ w.lease.status ≠ .readyHolding ∧
    (commandStep env w op).1.lease.status = .readyHolding

def Releaser.drains : Releaser → Bool
| .draining _ => true
| _ => false

/- A drain of the queue is still to come. -/
def World.Ahead (w : World) : Prop :=
  w.owner.looks w.lease.release_requested ∨ ∃ releaser ∈ w.releasers, releaser.drains

/- No command is queued or in the hands of a release. -/
def World.NothingLeft (w : World) : Prop :=
  w.queue = [] ∧ ∀ releaser ∈ w.releasers, releaser.held = none

/- The status that this part of the owner thread stores. -/
def World.stores (w : World) : Option LeaseStatus :=
  match w.owner with
  | .early_release => some .releasing
  | .entering => some .readyHolding
  | .releasing => some .releasing
  | .refresh_begins _ => some .refreshingSession
  | .refreshed _ => some .readyHolding
  | .failed id _ =>
    match w.commands[id]? with
    | none => none
    | some command =>
      if command.kind = .refresh_session then some .readyHolding
      else none
  | .failing exc => some exc.status
  | _ => none

/- A lease in this status is not made ready. -/
def KeepsOut (status : LeaseStatus) : Prop :=
  status = .releasing ∨ status = .readyHolding ∨ status.isTerminal

/- A put comes with the owner inside of `hold_browser` and a drain ahead. The owner leaves with
   nothing left for a release to fail, or for its own log call before the loop. And it stores
   `ready_holding` on no lease under release whose status is not yet `releasing`. -/
def Meets (w : World) : CommandOp → Prop
| .requester i _ =>
    match w.requesters[i]? with
    | some (.putting _) => w.owner ≠ .idle ∧ w.Ahead
    | _ => True
| .owner outcome _ =>
    (w.ends outcome →
      (w.owner = .logging ∨ ∃ releaser ∈ w.releasers, releaser.drains) → w.NothingLeft) ∧
      (w.stores = some .readyHolding → w.lease.release_requested → KeepsOut w.lease.status)
| _ => True

instance (w : World) : Decidable (AllDone w) := inferInstanceAs (Decidable (_ → _))

instance (env : Env) (w : World) (op : CommandOp) :
    Decidable (ReadyAgain env w op) :=
  inferInstanceAs (Decidable (_ ∧ _))

instance (w : World) : Decidable w.Ahead := inferInstanceAs (Decidable (_ ∨ _))

instance (w : World) : Decidable w.NothingLeft := inferInstanceAs (Decidable (_ ∧ _))

instance (status : LeaseStatus) : Decidable (KeepsOut status) := inferInstanceAs (Decidable (_ ∨ _))

instance (w : World) (op : CommandOp) :
    Decidable (Meets w op) := by
  unfold Meets
  split
  · split <;> infer_instance
  · infer_instance
  · infer_instance

----
-- The Invariant
----

/- A thread has the command in its hands. -/
def World.holds (w : World) (id : Nat) : Prop :=
  w.owner.held = some id ∨ ∃ releaser ∈ w.releasers, releaser.held = some id

/- Every command that was put is done, queued or in the hands of a thread; a drain is ahead of a
   queue with commands; and outside of `hold_browser` all of them are done. -/
structure Inv (w : World) : Prop where
  valid : ∀ id ∈ w.enqueued, id < w.commands.length
  putting : ∀ id, .putting id ∈ w.requesters → id < w.commands.length
  placed : ∀ id ∈ w.enqueued, w.isDone id ∨ id ∈ w.queue ∨ w.holds id
  ahead : w.queue ≠ [] → w.Ahead
  settled : AllDone w

theorem inv_fresh (lease : Lease) : Inv { lease := lease } where
  valid := fun _ hMem => absurd hMem not_mem_nil
  putting := fun _ hMem => absurd hMem not_mem_nil
  placed := fun _ hMem => absurd hMem not_mem_nil
  ahead := fun hLeft => absurd rfl hLeft
  settled := fun _ _ hMem => absurd hMem not_mem_nil

/- What a step without a put keeps: a command that was queued or held still is, or is done, and a
   drain that was ahead of the queue still is. -/
structure Keeps (w w' : World) : Prop where
  putting : ∀ id, .putting id ∈ w'.requesters → .putting id ∈ w.requesters ∨ id < w'.commands.length
  enqueued : w'.enqueued = w.enqueued
  placed : ∀ id < w.commands.length, id ∈ w.queue ∨ w.holds id →
      w'.isDone id ∨ id ∈ w'.queue ∨ w'.holds id
  ahead : w'.queue ≠ [] → (w.queue ≠ [] → w.Ahead) → w'.Ahead

variable {w w' u : World}
variable {i id : Nat} {releaser next : Releaser}

theorem Inv.keeps (hInv : Inv w) (hDeveloped : Developed w w') (hKeeps : Keeps w w')
    (hSettled : w'.owner = .idle → w.owner = .idle ∨ ∀ id ∈ w.enqueued, w.isDone id) :
    Inv w' := by
  have hLength := hDeveloped.length
  refine ⟨?_, ?_, ?_, fun hLeft => hKeeps.ahead hLeft hInv.ahead, ?_⟩
  · intro id hMem
    rw [hKeeps.enqueued] at hMem
    exact Nat.lt_of_lt_of_le (hInv.valid id hMem) hLength
  · intro id hMem
    rcases hKeeps.putting id hMem with hOld | hNew
    · exact Nat.lt_of_lt_of_le (hInv.putting id hOld) hLength
    · exact hNew
  · intro id hMem
    rw [hKeeps.enqueued] at hMem
    rcases hInv.placed id hMem with hDone | hPlaced
    · exact .inl (hDeveloped.done hDone)
    · exact hKeeps.placed id (hInv.valid id hMem) hPlaced
  · intro hIdle id hMem
    rw [hKeeps.enqueued] at hMem
    rcases hSettled hIdle with hWasIdle | hDone
    · exact hDeveloped.done (hInv.settled hWasIdle id hMem)
    · exact hDeveloped.done (hDone id hMem)

/- Only requesters, commands and the status change. -/
theorem keeps_of_same
    (hPutting : ∀ id, .putting id ∈ w'.requesters →
      .putting id ∈ w.requesters ∨ id < w'.commands.length)
    (hQueue : w'.queue = w.queue) (hEnqueued : w'.enqueued = w.enqueued)
    (hReleasers : w'.releasers = w.releasers)
    (hRequested : w'.lease.release_requested = w.lease.release_requested)
    (hOwner : w'.owner = w.owner) : Keeps w w' := by
  refine ⟨hPutting, hEnqueued, ?_, ?_⟩
  · intro id _ hPlaced
    unfold World.holds at hPlaced ⊢
    rw [hQueue, hOwner, hReleasers]
    exact .inr hPlaced
  · intro hLeft hAhead
    rw [hQueue] at hLeft
    unfold World.Ahead at hAhead ⊢
    rw [hOwner, hRequested, hReleasers]
    exact hAhead hLeft

theorem keeps_setRequester (hQueue : u.queue = w.queue) (hEnqueued : u.enqueued = w.enqueued)
    (hRequesters : u.requesters = w.requesters) (hReleasers : u.releasers = w.releasers)
    (hLease : u.lease = w.lease) (hOwner : u.owner = w.owner) {requester : Requester}
    (hNext : ∀ id, requester ≠ .putting id) : Keeps w (u.setRequester i requester) := by
  refine keeps_of_same ?_ hQueue hEnqueued hReleasers (congrArg _ hLease) hOwner
  intro id hPutting
  rcases mem_or_eq_of_mem_set hPutting with hOld | hNew
  · exact .inl (hRequesters ▸ hOld)
  · exact absurd hNew.symm (hNext id)

theorem keeps_creates (hQueue : w'.queue = w.queue) (hEnqueued : w'.enqueued = w.enqueued)
    (hReleasers : w'.releasers = w.releasers) (hLease : w'.lease = w.lease)
    (hOwner : w'.owner = w.owner)
    (hRequesters : w'.requesters = w.requesters ++ [.putting w.commands.length])
    (hCommands : w'.commands = w.commands ++ [command]) : Keeps w w' := by
  refine keeps_of_same ?_ hQueue hEnqueued hReleasers (congrArg _ hLease) hOwner
  intro id hPutting
  rw [hRequesters] at hPutting
  rcases mem_append.mp hPutting with hOld | hNew
  · exact .inl hOld
  · have hIs := mem_singleton.mp hNew
    rw [Requester.putting.injEq] at hIs
    rw [hCommands, length_append, length_singleton]
    right
    omega

/- A requester comes to wait. -/
theorem keeps_joins : Keeps w { w with requesters := w.requesters ++ [.waiting id] } := by
  refine keeps_of_same ?_ rfl rfl rfl rfl rfl
  intro other hPutting
  rcases mem_append.mp hPutting with hOld | hNew
  · exact .inl hOld
  · cases mem_singleton.mp hNew

theorem keeps_begins (hIdle : w.owner = .idle) : Keeps w (w.goes .publishing) := by
  refine ⟨fun _ hPutting => .inl hPutting, rfl, ?_, ?_⟩
  · rintro id _ (hQueued | hOwn | hHeld)
    · exact .inr (.inl hQueued)
    · rw [hIdle] at hOwn
      cases hOwn
    · exact .inr (.inr (.inr hHeld))
  · intro hLeft hAhead
    rcases hAhead hLeft with hLooks | hDrain
    · rw [hIdle] at hLooks
      cases hLooks
    · exact .inr hDrain

----
-- Steps
----

theorem Inv.puts (hInv : Inv w) (hRequester : w.requesters[i]? = some (.putting id))
    (hInside : w.owner ≠ .idle) (hAhead : w.Ahead) : Inv (w.puts i id) := by
  have hValid := hInv.putting id (mem_of_getElem? hRequester)
  constructor
  · intro other hMem
    rcases mem_append.mp hMem with hOld | hNew
    · exact hInv.valid other hOld
    · rw [mem_singleton.mp hNew]
      exact hValid
  · intro other hPutting
    rcases mem_or_eq_of_mem_set hPutting with hOld | hNew
    · exact hInv.putting other hOld
    · cases hNew
  · intro other hMem
    rcases mem_append.mp hMem with hOld | hNew
    · rcases hInv.placed other hOld with hDone | hQueue | hHeld
      · exact .inl hDone
      · exact .inr (.inl (mem_append_left _ hQueue))
      · exact .inr (.inr hHeld)
    · exact .inr (.inl (mem_append_right _ hNew))
  · exact fun _ => hAhead
  · exact fun hIdle => absurd hIdle hInside

theorem keeps_releases (commands : List Command) (now : String) :
    Keeps w
      { w with
        lease := w.lease.releaseRequested now, commands := commands,
        releasers := w.releasers ++ [.draining none] } := by
  refine ⟨fun id hPutting => .inl hPutting, rfl, ?_, ?_⟩
  · rintro id _ (hQueued | hOwn | ⟨releaser, hIn, hHeld⟩)
    · exact .inr (.inl hQueued)
    · exact .inr (.inr (.inl hOwn))
    · exact .inr (.inr (.inr ⟨releaser, mem_append_left _ hIn, hHeld⟩))
  · intro _ _
    exact .inr ⟨.draining none, mem_append_right _ (mem_singleton_self _), rfl⟩

theorem mem_set_of_ne {releasers : List Releaser}
    (hReleaser : releasers[i]? = some releaser) (hOther : other ∈ releasers)
    (hNe : other ≠ releaser) : other ∈ releasers.set i next := by
  rcases getElem?_of_mem hOther with ⟨k, hk⟩
  have hApart : i ≠ k := by
    intro hSame
    rw [hSame, hk, Option.some.injEq] at hReleaser
    exact hNe hReleaser
  rw [← getElem?_set_ne hApart] at hk
  exact mem_of_getElem? hk

/- A release goes on: what it held is done, and what it took from the queue it holds. -/
theorem keeps_setReleaser {queue : List Nat} (hReleaser : w.releasers[i]? = some releaser)
    (hEnqueued : u.enqueued = w.enqueued) (hRequesters : u.requesters = w.requesters)
    (hReleasers : u.releasers = w.releasers) (hOwner : u.owner = w.owner)
    (hRequested : u.lease.release_requested = w.lease.release_requested)
    (hQueue : ∀ id ∈ w.queue, id ∈ queue ∨ next.held = some id)
    (hHeld : ∀ id < w.commands.length, releaser.held = some id → u.isDone id)
    (hAhead : queue ≠ [] → next.drains ∨ w.queue ≠ [] ∧ releaser.drains = false) :
    Keeps w { u.setReleaser i next with queue := queue } := by
  have hNext : next ∈ u.releasers.set i next := by
    rw [hReleasers]
    exact List.mem_set (List.getElem?_eq_some_iff.mp hReleaser).1 _
  have hOthers : ∀ other ∈ w.releasers, other ≠ releaser → other ∈ u.releasers.set i next := by
    intro other hIn hNe
    rw [hReleasers]
    exact mem_set_of_ne hReleaser hIn hNe
  refine ⟨fun id hPutting => .inl (hRequesters ▸ hPutting), hEnqueued, ?_, ?_⟩
  · rintro id hValid (hQueued | hOwn | ⟨other, hIn, hHolds⟩)
    · rcases hQueue id hQueued with hRest | hTaken
      · exact .inr (.inl hRest)
      · exact .inr (.inr (.inr ⟨next, hNext, hTaken⟩))
    · exact .inr (.inr (.inl (hOwner ▸ hOwn)))
    · by_cases hIs : other = releaser
      · exact .inl (hHeld id hValid (hIs ▸ hHolds))
      · exact .inr (.inr (.inr ⟨other, hOthers other hIn hIs, hHolds⟩))
  · intro hLeft hBefore
    rcases hAhead hLeft with hDrains | ⟨hFull, hStops⟩
    · exact .inr ⟨next, hNext, hDrains⟩
    rcases hBefore hFull with hLooks | ⟨other, hIn, hDrains⟩
    · left
      rw [← hOwner, ← hRequested] at hLooks
      exact hLooks
    · have hNe : other ≠ releaser := by
        intro hIs
        rw [hIs, hStops] at hDrains
        cases hDrains
      exact .inr ⟨other, hOthers other hIn hNe, hDrains⟩

theorem held_of_ends (hEnds : w.ends outcome) : w.owner.held = none := by
  unfold World.ends at hEnds
  split at hEnds
  next hOwner =>
    rw [hOwner]
    rfl
  next hOwner =>
    rw [hOwner]
    rfl
  next hOwner =>
    rw [hOwner]
    rfl
  next hOwner =>
    rw [hOwner]
    rfl
  · cases hEnds

theorem logging_of_ends (hEnds : w.ends outcome)
    (hLooks : w.owner.looks r) : w.owner = .logging := by
  unfold World.ends at hEnds
  split at hEnds
  next hOwner =>
    rw [hOwner] at hLooks
    cases hLooks
  next hOwner =>
    exact hOwner
  next hOwner =>
    rw [hOwner] at hLooks
    cases hLooks
  next hOwner =>
    rw [hOwner] at hLooks
    cases hLooks
  · cases hEnds

theorem Releaser.drains_of_held (hHeld : releaser.held = some id) : releaser.drains := by
  cases releaser with
  | draining held => rfl
  | storing => cases hHeld
  | ended => cases hHeld

theorem Inv.done_of_ends (hInv : Inv w) (hEnds : w.ends outcome)
    (hLeft : (w.owner = .logging ∨ ∃ releaser ∈ w.releasers, releaser.drains) →
      w.NothingLeft)
    (hMem : id ∈ w.enqueued) : w.isDone id := by
  rcases hInv.placed id hMem with hDone | hQueued | hOwn | ⟨releaser, hIn, hHeld⟩
  · exact hDone
  · have hFull : w.queue ≠ [] := ne_nil_of_mem hQueued
    have hDrain : w.owner = .logging ∨ ∃ releaser ∈ w.releasers, releaser.drains :=
      (hInv.ahead hFull).imp_left (logging_of_ends hEnds)
    exact absurd (hLeft hDrain).1 hFull
  · rw [held_of_ends hEnds] at hOwn
    cases hOwn
  · have hDrains := Releaser.drains_of_held hHeld
    have hNone := (hLeft (.inr ⟨releaser, hIn, hDrains⟩)).2 releaser hIn
    rw [hNone] at hHeld
    cases hHeld

theorem Inv.owner (hInv : Inv w) {now : String} (hMeets : Meets w (.owner outcome now)) :
    Inv (hold_browser env w outcome now) := by
  have hWorks := hold_browser_works env w outcome now
  generalize hold_browser env w outcome now = w' at hWorks ⊢
  refine hInv.keeps hWorks.developed ⟨?_, hWorks.enqueued, ?_, ?_⟩ ?_
  · exact fun id hPutting => .inl (hWorks.requesters ▸ hPutting)
  · intro id hValid hPlaced
    unfold World.holds at hPlaced ⊢
    rw [hWorks.releasers]
    rcases hWorks.hands with ⟨hQueue, hKept | ⟨_, hDone⟩⟩ | ⟨other, hQueue, hFree, hTaken, _⟩
    · rw [hQueue, hKept]
      exact .inr hPlaced
    · rcases hPlaced with hQueued | hOwn | hHeld
      · exact .inr (.inl (hQueue ▸ hQueued))
      · exact .inl (hDone id hValid hOwn)
      · exact .inr (.inr (.inr hHeld))
    · rw [hQueue, hFree] at hPlaced
      rcases hPlaced with hQueued | hOwn | hHeld
      · rcases mem_cons.mp hQueued with hIs | hRest
        · exact .inr (.inr (.inl (hIs ▸ hTaken)))
        · exact .inr (.inl hRest)
      · cases hOwn
      · exact .inr (.inr (.inr hHeld))
  · intro hLeft hAhead
    have hBefore : w.queue ≠ [] := by
      rcases hWorks.hands with ⟨hQueue, _⟩ | ⟨other, hQueue, _⟩
      · exact hQueue ▸ hLeft
      · rw [hQueue]
        exact cons_ne_nil _ _
    unfold World.Ahead
    rw [hWorks.releasers, hWorks.release_requested]
    rcases hAhead hBefore with hLooks | hDrain
    · rcases hWorks.next.looks hBefore hLooks with hAfter | hIdle
      · exact .inl hAfter
      · rcases hWorks.next.ends hIdle with hWasIdle | hEnds
        · rw [hWasIdle] at hLooks
          cases hLooks
        · have hLogging := logging_of_ends hEnds hLooks
          exact absurd (hMeets.1 hEnds (.inl hLogging)).1 hBefore
    · exact .inr hDrain
  · intro hIdle
    exact (hWorks.next.ends hIdle).imp_right
        (fun hEnds id hMem => hInv.done_of_ends hEnds (hMeets.1 hEnds) hMem)

theorem Turn.inv (hTurn : Turn env w op w') (hInv : Inv w) (hMeets : Meets w op) : Inv w' := by
  have hDeveloped := hTurn.developed
  have hKeeps : ∀ {w' : World}, Developed w w' → Keeps w w' → w'.owner = w.owner → Inv w' :=
    fun hGoes hKept hOwner => hInv.keeps hGoes hKept (fun hIdle => .inl (hOwner ▸ hIdle))
  cases hTurn with
  | stands => exact hInv
  | stores status error now hIdle =>
    have hStored := written_transition w status error now
    refine hInv.keeps hDeveloped ?_ (fun _ => .inl hIdle)
    exact keeps_of_same (fun id hPutting => .inl (hStored.requesters ▸ hPutting)) hStored.queue
        hStored.enqueued hStored.releasers hStored.release_requested (transition_owner w _ _ _)
  | begins hIdle => exact hInv.keeps hDeveloped (keeps_begins hIdle) (fun _ => .inl hIdle)
  | owner outcome now => exact hInv.owner hMeets
  | releases now commands => exact hKeeps hDeveloped (keeps_releases commands now) rfl
  | drained i now hReleaser hQueue =>
    exact hKeeps hDeveloped (keeps_setReleaser (u := w) hReleaser rfl rfl rfl rfl rfl
        (fun _ hQueued => .inl hQueued) nofun
        (fun hLeft => absurd hQueue hLeft)) rfl
  | drains i now id rest hReleaser hQueue =>
    refine hKeeps hDeveloped (keeps_setReleaser (u := w) hReleaser rfl rfl rfl rfl rfl ?_
        nofun (fun _ => .inl rfl)) rfl
    intro other hQueued
    rw [hQueue] at hQueued
    exact (mem_cons.mp hQueued).symm.imp_right (fun hIs => congrArg some hIs.symm)
  | fails i now id hReleaser =>
    refine hKeeps hDeveloped (keeps_setReleaser (u := w.modify id _) hReleaser rfl rfl rfl rfl rfl
        (fun _ hQueued => .inl hQueued) ?_ (fun _ => .inl rfl)) rfl
    intro other hValid hHeld
    rw [← Option.some.inj hHeld] at hValid ⊢
    exact isDone_modify_self (Command.fail_done env _) hValid
  | released i now hReleaser =>
    have hStored := written_transition w .releasing "" now
    have hOwner := transition_owner w .releasing "" now
    refine hKeeps hDeveloped (keeps_setReleaser (u := w.transition _ _ _) hReleaser
        hStored.enqueued hStored.requesters hStored.releasers hOwner hStored.release_requested
        (fun _ hQueued => .inl (hStored.queue ▸ hQueued)) nofun ?_) hOwner
    exact fun hLeft => .inr ⟨hStored.queue ▸ hLeft, rfl⟩
  | creates command => exact hKeeps hDeveloped (keeps_creates rfl rfl rfl rfl rfl rfl rfl) rfl
  | joins => exact hKeeps hDeveloped keeps_joins rfl
  | registers => exact hKeeps hDeveloped (keeps_creates rfl rfl rfl rfl rfl rfl rfl) rfl
  | puts i expires id hRequester =>
    unfold Meets at hMeets
    dsimp only at hMeets
    rw [hRequester] at hMeets
    exact hInv.puts hRequester hMeets.1 hMeets.2
  | goes i expires id next _ hNext =>
    refine hKeeps hDeveloped (keeps_setRequester rfl rfl rfl rfl rfl rfl ?_) rfl
    rintro other hIs
    rw [hIs] at hNext
    rcases hNext with hEnded | hLapsed
    · cases hEnded
    · cases hLapsed.1
  | cancels i expires id next _ hNext =>
    refine hKeeps hDeveloped
        (keeps_setRequester (w := w) (u := w.modify id _) rfl rfl rfl rfl rfl rfl ?_) rfl
    intro other hIs
    rw [hIs] at hNext
    rcases hNext with hEnded | hExpired
    · cases hEnded
    · cases hExpired
  | times_out i expires id =>
    exact hKeeps hDeveloped (keeps_setRequester (w := w) (u := w.modify id _) rfl rfl rfl rfl rfl rfl
        nofun) rfl

theorem Inv.step (hInv : Inv w) (hMeets : Meets w op) : Inv (commandStep env w op).1 :=
  (commandStep_turn env w op).inv hInv hMeets

----
-- Statuses
----

/- The step leaves the status, or it is a transition to the given one. -/
def StoresOnly (w : World) (status : Option LeaseStatus) (w' : World) : Prop :=
  w'.lease.status = w.lease.status ∨
    ∃ stored error now, status = some stored ∧ w'.lease = (w.transition stored error now).lease

theorem transition_lease (w : World) (status : LeaseStatus) (error now : String) :
    (w.transition status error now).lease =
      if w.lease.refuses status then w.lease
      else w.lease.moved status error now := by
  unfold World.transition
  split
  · rfl
  · rfl

theorem stores_transition (error now : String) (owner : Owner) (hStores : w.stores = some status) :
    StoresOnly w w.stores ((w.transition status error now).goes owner) :=
  .inr ⟨status, error, now, hStores, rfl⟩

theorem stores_either
    (outcome : Outcome) (handler : Raised → Owner) (hOk : ok.lease.status = w.lease.status) :
    StoresOnly w status (w.either outcome ok handler) := by
  cases outcome with
  | ok => exact .inl hOk
  | raises exc => exact .inl rfl

theorem takes_status (w : World) (id : Nat) : (w.takes id).lease.status = w.lease.status := by
  unfold World.takes
  dsimp only
  cases w.lease.release_requested with
  | true =>
    rw [if_pos rfl]
    split
    · rfl
    · rfl
  | false =>
    rw [if_neg Bool.false_ne_true]
    split
    · rfl
    · rfl

theorem refreshes_status (w : World) (id : Nat) :
    (w.refreshes id).lease.status = w.lease.status := by
  unfold World.refreshes
  split
  · rfl
  · rfl

theorem opens_status (w : World) (id : Nat) : (w.opens id).lease.status = w.lease.status := by
  unfold World.opens
  split
  · rfl
  · rfl

/- Which status a part of `hold_browser` stores. -/
theorem hold_browser_stores (env : Env) (w : World) (outcome : Outcome) (now : String) :
    StoresOnly w w.stores (hold_browser env w outcome now) := by
  unfold hold_browser
  split
  · exact .inl rfl
  · exact stores_either outcome _ rfl
  · exact .inl rfl
  next hOwner =>
    refine stores_transition _ now _ ?_
    unfold World.stores
    rw [hOwner]
  next hOwner =>
    refine stores_transition _ now _ ?_
    unfold World.stores
    rw [hOwner]
  · exact stores_either outcome _ rfl
  · exact .inl rfl
  next hOwner =>
    refine stores_transition _ now _ ?_
    unfold World.stores
    rw [hOwner]
  · exact stores_either outcome _ rfl
  · exact stores_either outcome _ rfl
  · split
    · exact .inl rfl
    · exact .inl rfl
  · exact stores_either outcome _ rfl
  · exact .inl (takes_status w _)
  · exact .inl rfl
  · split
    · exact .inl rfl
    · exact .inl rfl
  next hOwner =>
    refine stores_transition _ now _ ?_
    unfold World.stores
    rw [hOwner]
  · exact stores_either outcome _ (refreshes_status w _)
  next hOwner =>
    refine stores_transition _ now _ ?_
    unfold World.stores
    rw [hOwner]
  · unfold World.either
    cases outcome with
    | ok => exact .inl rfl
    | raises exc => exact .inl rfl
  · exact stores_either outcome _ (opens_status w _)
  · exact stores_either outcome _ rfl
  · exact stores_either outcome _ rfl
  next id error hOwner =>
    split
    · exact .inl rfl
    next command hCommand =>
      unfold World.commandFails
      split
      · exact .inl rfl
      next hKind =>
        right
        refine ⟨.readyHolding, env.safe_error (PyText.orElse (env.safe_error error) "同步最新登录态失败"),
            now, ?_, ?_⟩
        · unfold World.stores
          rw [hOwner]
          dsimp only
          rw [hCommand]
          exact if_pos hKind
        · unfold World.goes
          rw [transition_lease, transition_lease]
          rfl
  · exact .inl rfl
  · exact .inl rfl
  next exc hOwner =>
    refine stores_transition _ now _ ?_
    unfold World.stores
    rw [hOwner]
  · split
    · exact .inl rfl
    · exact .inl rfl
  · exact .inl rfl
  · exact .inl rfl

def storesOf (w : World) : CommandOp → Option LeaseStatus
| .caller status _ _ => if callerStatus status then some status else none
| .owner _ _ => w.stores
| .releaser _ _ => some .releasing
| _ => none

theorem Turn.storesOnly (hTurn : Turn env w op w') : StoresOnly w (storesOf w op) w' := by
  cases hTurn with
  | stands => exact .inl rfl
  | stores status error now _ hCaller => exact .inr ⟨status, error, now, if_pos hCaller, rfl⟩
  | begins => exact .inl rfl
  | owner outcome now => exact hold_browser_stores env w outcome now
  | releases => exact .inl rfl
  | drained => exact .inl rfl
  | drains => exact .inl rfl
  | fails => exact .inl rfl
  | released i now => exact .inr ⟨.releasing, "", now, rfl, rfl⟩
  | creates => exact .inl rfl
  | joins => exact .inl rfl
  | registers => exact .inl rfl
  | puts => exact .inl rfl
  | goes => exact .inl rfl
  | cancels => exact .inl rfl
  | times_out => exact .inl rfl

theorem status_kept (env : Env) (w : World) (op : CommandOp)
    (hTerminal : w.lease.status.isTerminal) :
    (commandStep env w op).1.lease.status = w.lease.status := by
  rcases (commandStep_turn env w op).storesOnly with hSame | ⟨status, error, now, _, hLease⟩
  · exact hSame
  · rw [hLease, transition_lease]
    split
    · rfl
    next hAccepted =>
      unfold Lease.refuses at hAccepted
      rw [hTerminal, Bool.true_and, Bool.or_eq_true, not_or,
        decide_eq_true_iff, ne_eq, not_not] at hAccepted
      exact hAccepted.1

theorem refuses_ready {lease : Lease} (hReleased : lease.release_requested)
    (hStatus : lease.status ≠ .readyHolding) (hOut : KeepsOut lease.status) :
    lease.refuses .readyHolding := by
  unfold Lease.refuses
  rw [hReleased, Bool.or_eq_true]
  rcases hOut with hReleasing | hReady | hTerminal
  · rw [hReleasing]
    exact .inr (by decide)
  · exact absurd hReady hStatus
  · left
    rw [hTerminal, Bool.true_and, decide_eq_true_iff]
    exact Ne.symm hStatus

theorem not_readyAgain (hMeets : Meets w op) : ¬ ReadyAgain env w op := by
  rintro ⟨hReleased, hStatus, hAfter⟩
  rcases (commandStep_turn env w op).storesOnly with hSame | ⟨status, error, now, hStores, hLease⟩
  · exact hStatus (hSame.symm.trans hAfter)
  · rw [hLease, transition_lease] at hAfter
    split at hAfter
    · exact hStatus hAfter
    next hAccepted =>
      have hReady : status = .readyHolding := hAfter
      rw [hReady] at hStores hAccepted
      cases op with
      | owner outcome time =>
        have hOut := hMeets.2 hStores hReleased
        exact hAccepted (refuses_ready hReleased hStatus hOut)
      | caller stored error' time =>
        unfold storesOf at hStores
        dsimp only at hStores
        split at hStores
        next hCaller =>
          rw [Option.some.injEq] at hStores
          rw [hStores] at hCaller
          cases hCaller
        · cases hStores
      | releaser i time => cases hStores
      | begins => cases hStores
      | requestRelease time => cases hStores
      | requestRefresh => cases hStores
      | requestOpenGcash url request job => cases hStores
      | requester i expires => cases hStores

end LeaseCommands

----
-- Runs
----

namespace LeaseCommands

open WebSessionLease (Lease LeaseStatus shortId)

/- In every run whose steps meet the condition, all commands are done whenever the owner is outside
   of `hold_browser`, a terminal status stays, and a lease under release is never made ready again.
   -/
theorem commands_settled (env : Env) (lease : Lease) (ops : List CommandOp)
    (hMeets : Machine.Steps (commandStep env) Meets { lease := lease } ops) :
    (∀ before after, ops = before ++ after →
      AllDone (run (commandStep env) { lease := lease } before)) ∧
      (∀ before middle after, ops = before ++ (middle ++ after) →
        (run (commandStep env) { lease := lease } before).lease.status.isTerminal →
        (run (commandStep env) { lease := lease } (before ++ middle)).lease.status =
          (run (commandStep env) { lease := lease } before).lease.status) ∧
      ∀ before op after, ops = before ++ op :: after → ¬ ReadyAgain env
          (run (commandStep env) { lease := lease } before)
          op := by
  refine ⟨?_, ?_, ?_⟩
  · intro before after hSplit
    rw [hSplit, steps_append] at hMeets
    have hStep : ∀ w op, Inv w → Meets w op → Inv (commandStep env w op).1 :=
      fun _ _ hInv hHere => hInv.step hHere
    exact (@Machine.run_induction_of_steps _ _ _ (commandStep env)
        Inv Meets hStep _ (inv_fresh lease) before hMeets.1).settled
  · intro before middle after _ hTerminal
    rw [run_append]
    generalize run (commandStep env) { lease := lease } before = w at hTerminal ⊢
    have hStep : ∀ (u : World) op, u.lease.status = w.lease.status →
          (commandStep env u op).1.lease.status = w.lease.status := by
      intro u op hSame
      rw [← hSame] at hTerminal
      exact (status_kept env u op hTerminal).trans hSame
    exact run_induction hStep rfl middle
  · intro before op after hSplit
    rw [steps_iff_forall_split] at hMeets
    exact not_readyAgain (hMeets before op after hSplit)

/- Errors as they are, and every url a payment link. -/
def sampleEnv : Env where
  safe_error := id
  safe_gcash_error := id
  url_digest := id
  validate_url := Except.ok

def sampleLease : Lease where
  lease_id := 1
  task_id := "task-1"
  account_id := 1
  email := "a@x.com"
  created_at := "t0"
  updated_at := "t0"

def sampleRun (ops : List CommandOp) : World :=
  run (commandStep sampleEnv) { lease := sampleLease } ops

def ownerOps (n : Nat) : List CommandOp := List.replicate n (.owner .ok "t1")

/- The owner waits in `hold_browser`. -/
def holding : List CommandOp :=
  [.caller .waitingCapacity "" "t1", .caller .authenticating "" "t1", .begins] ++ ownerOps 4

/- A refresh is served, and then the lease is released. -/
def servedThenReleased : List CommandOp := holding ++ [.requestRefresh, .requester 0 false] ++
    ownerOps 13 ++
    [.requester 0 false, .requestRelease "t2", .releaser 0 "t2", .releaser 0 "t2"] ++
    ownerOps 3

theorem servedThenReleased_settled :
    (∀ before after, servedThenReleased = before ++ after → AllDone (sampleRun before)) ∧
      (∀ before middle after, servedThenReleased = before ++ (middle ++ after) →
        (sampleRun before).lease.status.isTerminal →
        (sampleRun (before ++ middle)).lease.status = (sampleRun before).lease.status) ∧
      ∀ before op after, servedThenReleased = before ++ op :: after →
        ¬ ReadyAgain sampleEnv (sampleRun before) op :=
  commands_settled sampleEnv sampleLease servedThenReleased (by decide +kernel)

/- A refresh that passed its check before the release is put after `hold_browser` has returned; and
   a release during a refresh is followed by `ready_holding`. -/
theorem command_stranded_and_ready_again :
    (¬ ∀ ops, AllDone (sampleRun ops)) ∧ ¬ ∀ ops op, ¬ ReadyAgain sampleEnv (sampleRun ops) op := by
  constructor
  · intro hAll
    have hStranded := hAll
        (holding ++ [.requestRefresh, .requestRelease "t2", .releaser 0 "t2", .releaser 0 "t2"] ++
          ownerOps 3 ++ [.requester 0 false])
    revert hStranded
    decide +kernel
  · intro hNever
    have hReady := hNever (holding ++ [.requestRefresh, .requester 0 false] ++
          ownerOps 7 ++ [.requestRelease "t2"] ++ ownerOps 1) (.owner .ok "t2")
    revert hReady
    decide +kernel

end LeaseCommands
