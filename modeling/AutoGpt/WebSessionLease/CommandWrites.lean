import AutoGpt.WebSessionLease.Commands

/-
  What each thread writes into the commands of a lease, which
  command a part of the owner thread has in its hands, and
  what a step of any thread does.

  Main theorems: `hold_browser_works`, `commandStep_turn`, `commandStep_develops`
-/

open List

----
-- Commands
----

namespace LeaseCommands

open WebSessionLease (Lease LeaseStatus shortId)

/- A command stays bound to its request, its job and its
   link, whose url it may drop, and it stays done. -/
structure Command.Develops (c c' : Command) : Prop where
  kind : c'.kind = c.kind
  url : c'.url = c.url ∨ c'.url = ""
  url_digest : c'.url_digest = c.url_digest
  remote_request_id : c'.remote_request_id = c.remote_request_id
  remote_job_id : c'.remote_job_id = c.remote_job_id
  done : c.done → c'.done

theorem Command.Develops.refl (c : Command) : c.Develops c :=
  ⟨rfl, .inl rfl, rfl, rfl, rfl, fun hDone => hDone⟩

theorem Command.Develops.trans {a b c : Command} (hFirst : a.Develops b) (hSecond : b.Develops c) :
    a.Develops c := by
  constructor
  · exact hSecond.kind.trans hFirst.kind
  · rcases hSecond.url with hSame | hDropped
    · rw [hSame]
      exact hFirst.url
    · exact .inr hDropped
  · exact hSecond.url_digest.trans hFirst.url_digest
  · exact hSecond.remote_request_id.trans hFirst.remote_request_id
  · exact hSecond.remote_job_id.trans hFirst.remote_job_id
  · exact fun hDone => hSecond.done (hFirst.done hDone)

theorem develops_cancel (c : Command) : c.Develops c.cancel :=
  ⟨rfl, .inl rfl, rfl, rfl, rfl, fun hDone => hDone⟩

theorem develops_finish (c : Command) : c.Develops c.finish :=
  ⟨rfl, .inl rfl, rfl, rfl, rfl, fun _ => rfl⟩

theorem develops_recordFailure (env : Env) (error : String) (c : Command) :
    c.Develops (c.recordFailure env error) :=
  ⟨rfl, .inr rfl, rfl, rfl, rfl, fun _ => rfl⟩

theorem develops_fail (env : Env) (error : String) (c : Command) :
    c.Develops (c.fail env error) := by
  unfold Command.fail
  cases c.kind with
  | open_gcash_link => exact ⟨rfl, .inr rfl, rfl, rfl, rfl, fun _ => rfl⟩
  | refresh_session => exact ⟨rfl, .inl rfl, rfl, rfl, rfl, fun _ => rfl⟩

theorem orElse_ne_empty (hFallback : fallback ≠ "") : PyText.orElse text fallback ≠ "" := by
  unfold PyText.orElse
  split
  · exact hFallback
  · assumption

theorem recordFailure_error_ne (env : Env) (error : String) (c : Command) :
    (c.recordFailure env error).error ≠ "" :=
  orElse_ne_empty (by decide)

theorem fail_error_ne (env : Env) (error : String) (c : Command) :
    (c.fail env error).error ≠ "" := by
  unfold Command.fail
  cases c.kind with
  | open_gcash_link => exact recordFailure_error_ne env _ _
  | refresh_session => exact orElse_ne_empty (by decide)

theorem fail_result (env : Env) (error : String) (c : Command) :
    (c.fail env error).result = c.result := by
  unfold Command.fail
  cases c.kind with
  | open_gcash_link => rfl
  | refresh_session => rfl

----
-- Related Commands
----

/- Every command of `w` is one of `u`, in the relation. -/
structure Related (R : Nat → Command → Command → Prop) (w u : World) : Prop where
  length : u.commands.length = w.commands.length
  each : ∀ id c, w.commands[id]? = some c → ∃ c', u.commands[id]? = some c' ∧ R id c c'

theorem related_of_same {w u : World} (hRefl : ∀ id c, R id c c) (hSame : u.commands = w.commands) :
    Related R w u := by
  constructor
  · rw [hSame]
  · intro id c hFound
    rw [hSame]
    exact ⟨c, hFound, hRefl id c⟩

theorem related_modify {w : World} (hRefl : ∀ id c, R id c c)
    (hWrites : ∀ c, w.commands[i]? = some c → R i c (f c)) : Related R w (w.modify i f) := by
  unfold World.modify
  refine ⟨length_modify _ _ _, ?_⟩
  intro id c hFound
  rw [List.getElem?_modify, Option.map_eq_map, hFound, Option.map_some]
  split
  next hIs =>
    rw [hIs] at hWrites
    exact ⟨f c, rfl, hWrites c hFound⟩
  · exact ⟨c, rfl, hRefl id c⟩

theorem Related.before {w u : World} (hRelated : Related R w u) {id : Nat}
    (hFound : u.commands[id]? = some c') : ∃ c, w.commands[id]? = some c ∧ R id c c' := by
  have hValid := (List.getElem?_eq_some_iff.mp hFound).1
  rw [hRelated.length] at hValid
  have hWas := List.getElem?_eq_getElem hValid
  rcases hRelated.each id _ hWas with ⟨found, hIs, hR⟩
  rw [hFound, Option.some.injEq] at hIs
  rw [← hIs] at hR
  exact ⟨_, hWas, hR⟩

/- The commands of `w` are there in `w'`, and go on. -/
def Developed (w w' : World) : Prop := ∀ (id : Nat) (c : Command), w.commands[id]? = some c →
    ∃ c', w'.commands[id]? = some c' ∧ c.Develops c'

variable {w w' u : World} {id : Nat}

theorem developed_of_same (hSame : w'.commands = w.commands) : Developed w w' := by
  intro id c hFound
  rw [hSame]
  exact ⟨c, hFound, Command.Develops.refl c⟩

theorem Developed.trans {v : World} (hFirst : Developed u v) (hSecond : Developed v w) :
    Developed u w := by
  intro id c hFound
  rcases hFirst id c hFound with ⟨d, hMiddle, hBefore⟩
  rcases hSecond id d hMiddle with ⟨e, hLast, hAfter⟩
  exact ⟨e, hLast, hBefore.trans hAfter⟩

theorem developed_modify (w : World) (id : Nat)
    (hDevelops : ∀ c : Command, c.Develops (f c)) : Developed w (w.modify id f) := by
  have hRelated : Related (fun _ c c' => c.Develops c') w (w.modify id f) :=
    related_modify (fun _ c => Command.Develops.refl c) (fun c _ => hDevelops c)
  exact hRelated.each

theorem developed_creates (w : World) (command : Command) : Developed w (w.creates command) := by
  intro id c hFound
  have hValid := (List.getElem?_eq_some_iff.mp hFound).1
  unfold World.creates
  rw [List.getElem?_append_left hValid]
  exact ⟨c, hFound, Command.Develops.refl c⟩

theorem Developed.length (hDeveloped : Developed w w') :
    w.commands.length ≤ w'.commands.length := by
  by_contra hShort
  have hValid : w'.commands.length < w.commands.length := by omega
  rcases hDeveloped _ _ (List.getElem?_eq_getElem hValid) with ⟨c', hFound, _⟩
  exact absurd (List.getElem?_eq_some_iff.mp hFound).1 (Nat.lt_irrefl _)

theorem Developed.done (hDeveloped : Developed w w') (hDone : w.isDone id) :
    w'.isDone id := by
  unfold World.isDone at hDone ⊢
  rw [Option.any_eq_true] at hDone ⊢
  rcases hDone with ⟨c, hFound, hIs⟩
  rcases hDeveloped id c hFound with ⟨c', hAfter, hDevelops⟩
  exact ⟨c', hAfter, hDevelops.done hIs⟩

theorem isDone_modify_self
    (hDone : ∀ command, (f command).done) (hValid : id < w.commands.length) :
    (w.modify id f).isDone id := by
  unfold World.isDone World.modify
  rw [getElem?_modify, Option.map_eq_map, getElem?_eq_getElem hValid, Option.map_some,
    if_pos rfl, Option.any_some]
  exact hDone _

@[simp] theorem Command.fail_done (env : Env) (error : String) (command : Command) :
    (command.fail env error).done := by
  unfold Command.fail
  cases command.kind with
  | open_gcash_link => rfl
  | refresh_session => rfl

theorem settled_modify (hSettled : ∀ c, (f c).result.isSome ∨ (f c).error ≠ "") :
    ∀ c, (w.modify id f).commands[id]? = some c → c.result.isSome ∨ c.error ≠ "" := by
  intro c hFound
  unfold World.modify at hFound
  dsimp only at hFound
  rw [getElem?_modify, Option.map_eq_map, Option.map_eq_some_iff] at hFound
  rcases hFound with ⟨before, _, hIs⟩
  rw [if_pos rfl] at hIs
  rw [← hIs]
  exact hSettled before

----
-- The Owner Thread
----

/- The command in the hands of a thread. -/
def Releaser.held : Releaser → Option Nat
| .draining held => held
| _ => none

def Owner.held : Owner → Option Nat
| .taken id => some id
| .cleared id => some id
| .started id => some id
| .refresh_begins id => some id
| .refreshing id => some id
| .refreshed id => some id
| .reporting id => some id
| .opening id => some id
| .shown id => some id
| .opened id => some id
| .failed id _ => some id
| .interrupted id _ => some id
| .finishing id _ => some id
| .draining _ held => held
| _ => none

/- The owner looks at the queue once more before it leaves, or the lease is released first. -/
def Owner.looks (release_requested : Bool) : Owner → Bool
| .logging => !release_requested
| .waiting => !release_requested
| .paging => !release_requested
| .checking => true
| .getting => true
| .failing _ => true
| .draining _ _ => true
| .taken _ => true
| .cleared _ => true
| .started _ => true
| .refresh_begins _ => true
| .refreshing _ => true
| .refreshed _ => true
| .reporting _ => true
| .opening _ => true
| .shown _ => true
| .opened _ => true
| .failed _ _ => true
| .interrupted _ _ => true
| .finishing _ _ => true
| _ => false

/- This part of the owner thread is its last one. -/
def World.ends (w : World) (outcome : Outcome) : Bool :=
  match w.owner, outcome with
  | .publishing, .raises _ => true
  | .logging, .raises _ => true
  | .returning, .ok => true
  | .closing, _ => true
  | _, _ => false

/- The command whose outcome the owner has written. -/
def Owner.after : Owner → Option Nat
| .opened id => some id
| .finishing id _ => some id
| _ => none

/- The command that the owner serves as a refresh. -/
def Owner.refreshes : Owner → Option Nat
| .refresh_begins id => some id
| .refreshing id => some id
| .refreshed id => some id
| .reporting id => some id
| _ => none

/- What the owner writes of the outcome of a command. -/
inductive Writes (owner : Owner) (id : Nat) (c c' : Command) : Prop
| keeps
    (hResult : c'.result = c.result) (hError : c'.error = c.error) (hDone : c'.done = c.done)
| fails
    (hHeld : owner.held = some id) (hBefore : owner.after = none) (hResult : c'.result = c.result)
    (hError : c'.error ≠ "")
| serves
    (hShown : owner = .shown id) (hResult : c'.result.isSome) (hError : c'.error = c.error)
    (hDone : c'.done)
| reports
    (hReporting : owner = .reporting id)
| finishes
    (hAfter : owner.after = some id) (hResult : c'.result = c.result) (hError : c'.error = c.error)
    (hDone : c'.done)

def WritesOf (owner : Owner) (id : Nat) (c c' : Command) :
    Prop :=
  c.Develops c' ∧ Writes owner id c c'

theorem WritesOf.refl (owner : Owner) (id : Nat) (c : Command) : WritesOf owner id c c :=
  ⟨Command.Develops.refl c, .keeps rfl rfl rfl⟩

/- The commands of `u` come from `w` by writes of the owner,
   and the queue, the table and the threads are the same. -/
structure Written (w u : World) : Prop extends
    Related (WritesOf w.owner) w u where
  queue : u.queue = w.queue
  table : u.gcash_commands = w.gcash_commands
  enqueued : u.enqueued = w.enqueued
  requesters : u.requesters = w.requesters
  releasers : u.releasers = w.releasers
  release_requested : u.lease.release_requested = w.lease.release_requested

variable {owner : Owner}

theorem Written.refl (w : World) : Written w w :=
  ⟨related_of_same (WritesOf.refl w.owner) rfl, rfl, rfl, rfl, rfl, rfl, rfl⟩

theorem Related.developed (hRelated : Related (WritesOf owner) w u) : Developed w u := by
  intro id c hFound
  rcases hRelated.each id c hFound with ⟨c', hAfter, hWrites⟩
  exact ⟨c', hAfter, hWrites.1⟩

theorem written_modify (hDevelops : ∀ c : Command, c.Develops (f c))
    (hWrites : ∀ c, Writes w.owner id c (f c)) : Written w (w.modify id f) :=
  ⟨related_modify (WritesOf.refl w.owner) (fun c _ => ⟨hDevelops c, hWrites c⟩),
    rfl, rfl, rfl, rfl, rfl, rfl⟩

theorem Written.transition (hWritten : Written w u) (status : LeaseStatus) (error now : String) :
    Written w (u.transition status error now) := by
  unfold World.transition
  split
  · exact hWritten
  · exact ⟨⟨hWritten.length, hWritten.each⟩, hWritten.queue, hWritten.table, hWritten.enqueued,
      hWritten.requesters, hWritten.releasers, hWritten.release_requested⟩

theorem written_transition (w : World) (status : LeaseStatus) (error now : String) :
    Written w (w.transition status error now) :=
  (Written.refl w).transition status error now

theorem transition_commands (w : World) (status : LeaseStatus) (error now : String) :
    (w.transition status error now).commands = w.commands := by
  unfold World.transition
  split
  · rfl
  · rfl

theorem transition_owner (w : World) (status : LeaseStatus) (error now : String) :
    (w.transition status error now).owner = w.owner := by
  unfold World.transition
  split
  · rfl
  · rfl

/- The owner goes on to look at the queue if it did before, or
   to its end, which is the end of a last part. -/
structure Looks (w : World) (outcome : Outcome) (owner : Owner) : Prop where
  looks : w.queue ≠ [] → w.owner.looks w.lease.release_requested →
      owner.looks w.lease.release_requested ∨ owner = .idle
  ends : owner = .idle → w.owner = .idle ∨ w.ends outcome

theorem looks_on (hLooks : ∀ r, owner.looks r) : Looks w outcome owner := by
  refine ⟨fun _ _ => .inl (hLooks _), ?_⟩
  intro hIdle
  have hLook := hLooks true
  rw [hIdle] at hLook
  cases hLook

theorem looks_off (hBefore : w.owner.looks w.lease.release_requested = false)
    (hEnds : owner = .idle → w.ends outcome) : Looks w outcome owner := by
  refine ⟨?_, fun hIdle => .inr (hEnds hIdle)⟩
  intro _ hLook
  rw [hBefore] at hLook
  cases hLook

/- What a part of the owner thread does: the command in its hands stays there, is let go when it is
   done, or is the oldest one of the queue. -/
structure Works (w : World) (outcome : Outcome)
    (w' : World) : Prop extends Related (WritesOf w.owner) w w' where
  table : w'.gcash_commands = w.gcash_commands
  enqueued : w'.enqueued = w.enqueued
  requesters : w'.requesters = w.requesters
  releasers : w'.releasers = w.releasers
  release_requested : w'.lease.release_requested = w.lease.release_requested
  hands : (w'.queue = w.queue ∧ (w'.owner.held = w.owner.held ∨ w'.owner.held = none ∧
          ∀ id < w.commands.length, w.owner.held = some id → w'.isDone id)) ∨
      ∃ id, w.queue = id :: w'.queue ∧ w.owner.held = none ∧
        w'.owner.held = some id ∧ w'.owner.after = none
  after : ∀ id, w'.owner.after = some id → (w.owner.after = some id ∧ w'.commands = w.commands) ∨
        ∀ c, w'.commands[id]? = some c → c.result.isSome ∨ c.error ≠ ""
  stays : (∀ id, w.owner = .opened id → outcome = .ok) →
      ∀ id, w.owner.after = some id → w'.owner.held = some id → w'.owner.after = some id
  refreshes : ∀ id, w'.owner.refreshes = some id →
      w.owner.refreshes = some id ∨ ∃ c, w.commands[id]? = some c ∧ c.kind = .refresh_session
  next : Looks w outcome w'.owner

theorem held_of_after (hAfter : owner.after = some id) : owner.held = some id := by
  unfold Owner.after at hAfter
  split at hAfter
  · exact hAfter
  · exact hAfter
  · cases hAfter

theorem held_of_refreshes (hRefreshes : owner.refreshes = some id) : owner.held = some id := by
  unfold Owner.refreshes at hRefreshes
  split at hRefreshes
  · exact hRefreshes
  · exact hRefreshes
  · exact hRefreshes
  · exact hRefreshes
  · cases hRefreshes

theorem works_goes (hWritten : Written w u)
    (hHands : owner.held = w.owner.held ∧ w.owner.after = none ∨
      owner.held = none ∧ ∀ id < w.commands.length, w.owner.held = some id → u.isDone id)
    (hAfter : ∀ id, owner.after = some id →
        ∀ c, u.commands[id]? = some c → c.result.isSome ∨ c.error ≠ "")
    (hRefreshes : ∀ id, owner.refreshes = some id →
      w.owner.refreshes = some id ∨ ∃ c, w.commands[id]? = some c ∧ c.kind = .refresh_session)
    (hLooks : Looks w outcome owner) : Works w outcome (u.goes owner) := by
  refine ⟨⟨hWritten.length, hWritten.each⟩, hWritten.table, hWritten.enqueued,
    hWritten.requesters, hWritten.releasers, hWritten.release_requested,
    .inl ⟨hWritten.queue, hHands.imp_left And.left⟩,
    fun id hIs => .inr (hAfter id hIs), ?_, hRefreshes, hLooks⟩
  intro _ id hBefore hHolds
  rcases hHands with hKept | hFree
  · rw [hKept.2] at hBefore
    cases hBefore
  · have hNone : (u.goes owner).owner.held = none := hFree.1
    rw [hNone] at hHolds
    cases hHolds

theorem works_lets_go (hWritten : Written w u) (hFree : owner.held = none)
    (hDone : ∀ id < w.commands.length, w.owner.held = some id → u.isDone id)
    (hLooks : Looks w outcome owner) : Works w outcome (u.goes owner) := by
  refine works_goes hWritten (.inr ⟨hFree, hDone⟩) ?_ ?_ hLooks
  · intro id hIs
    rw [held_of_after hIs] at hFree
    cases hFree
  · intro id hIs
    rw [held_of_refreshes hIs] at hFree
    cases hFree

theorem works_free (hWritten : Written w u) (hBefore : w.owner.held = none)
    (hFree : owner.held = none) (hLooks : Looks w outcome owner) :
    Works w outcome (u.goes owner) := by
  refine works_lets_go hWritten hFree ?_ hLooks
  intro id _ hHeld
  rw [hBefore] at hHeld
  cases hHeld

/- The command in the owner's hands has no outcome yet. -/
structure Owner.Serves (owner : Owner) (id : Nat) : Prop where
  held : owner.held = some id
  after : owner.after = none
  looks : ∀ r, owner.looks r

theorem works_holds (hWritten : Written w u) (hBefore : w.owner.Serves id) (hNext : owner.Serves id)
    (hRefreshes : ∀ other, owner.refreshes = some other → w.owner.refreshes = some other ∨
      ∃ c, w.commands[other]? = some c ∧ c.kind = .refresh_session) :
    Works w outcome (u.goes owner) := by
  refine works_goes hWritten (.inl ⟨hNext.held.trans hBefore.held.symm, hBefore.after⟩) ?_
    hRefreshes (looks_on hNext.looks)
  intro other hIs
  rw [hNext.after] at hIs
  cases hIs

theorem works_settles (hWritten : Written w u) (hBefore : w.owner.Serves id)
    (hHeld : owner.held = some id) (hLooks : ∀ r, owner.looks r)
    (hSettled : ∀ c, u.commands[id]? = some c → c.result.isSome ∨ c.error ≠ "")
    (hRefreshes : owner.refreshes = none) : Works w outcome (u.goes owner) := by
  refine works_goes hWritten (.inl ⟨hHeld.trans hBefore.held.symm, hBefore.after⟩) ?_ ?_
    (looks_on hLooks)
  · intro other hIs
    have hOther := held_of_after hIs
    rw [hHeld, Option.some.injEq] at hOther
    rw [← hOther]
    exact hSettled
  · intro other hIs
    rw [hRefreshes] at hIs
    cases hIs

theorem works_takes (hQueue : w.queue = id :: rest) (hFree : w.owner.held = none)
    (hNext : owner.Serves id) (hRefreshes : owner.refreshes = none) :
    Works w outcome { w with queue := rest, owner := owner } := by
  refine ⟨⟨rfl, (Written.refl w).each⟩, rfl, rfl, rfl, rfl, rfl,
    .inr ⟨id, hQueue, hFree, hNext.held, hNext.after⟩, ?_, ?_, ?_, looks_on hNext.looks⟩
  · intro other hIs
    rw [hNext.after] at hIs
    cases hIs
  · intro _ other hIs
    rw [held_of_after hIs] at hFree
    cases hFree
  · intro other hIs
    rw [hRefreshes] at hIs
    cases hIs

----
-- Parts Of The Owner Thread
----

theorem caught_serves (id : Nat) (exc : Raised) :
    (caught id exc).Serves id ∧ (caught id exc).refreshes = none := by
  cases exc with
  | release text => exact ⟨⟨rfl, rfl, fun _ => rfl⟩, rfl⟩
  | interruption text => exact ⟨⟨rfl, rfl, fun _ => rfl⟩, rfl⟩
  | error text => exact ⟨⟨rfl, rfl, fun _ => rfl⟩, rfl⟩

theorem works_caught (hWritten : Written w u) (hBefore : w.owner.Serves id) (exc : Raised) :
    Works w outcome (u.goes (caught id exc)) := by
  rcases caught_serves id exc with ⟨hServes, hNone⟩
  refine works_holds hWritten hBefore hServes ?_
  intro other hIs
  rw [hNone] at hIs
  cases hIs

theorem works_started (hBefore : w.owner.Serves id) (hCommand : w.commands[id]? = some command) :
    Works w outcome (w.goes (startedAt env id command)) := by
  have hFailed : ∀ text, Works w outcome (w.goes (.failed id text)) :=
    fun _ => works_holds (Written.refl w) hBefore ⟨rfl, rfl, fun _ => rfl⟩ nofun
  unfold startedAt
  split
  next hKind =>
    split
    · exact hFailed _
    · refine works_holds (Written.refl w) hBefore ⟨rfl, rfl, fun _ => rfl⟩ ?_
      intro other hIs
      rw [← Option.some.inj hIs]
      exact .inr ⟨command, hCommand, hKind⟩
  · split
    · exact hFailed _
    · split
      · exact hFailed _
      · exact works_holds (Written.refl w) hBefore ⟨rfl, rfl, fun _ => rfl⟩
          nofun

theorem works_taken (hBefore : w.owner.Serves id) : Works w outcome (w.takes id) := by
  have hAsked : Written w
        (if w.lease.release_requested then w.modify id Command.cancel
        else w) := by
    split
    · exact written_modify develops_cancel (fun _ => .keeps rfl rfl rfl)
    · exact Written.refl w
  unfold World.takes
  dsimp only
  generalize
    (if w.lease.release_requested then w.modify id Command.cancel
    else w) = asked at hAsked ⊢
  split
  · exact works_holds hAsked hBefore ⟨rfl, rfl, fun _ => rfl⟩ nofun
  · exact works_holds hAsked hBefore ⟨rfl, rfl, fun _ => rfl⟩ nofun

theorem works_refreshes (hOwner : w.owner = .refreshing id) : Works w outcome (w.refreshes id) := by
  have hBefore : w.owner.Serves id := hOwner ▸ ⟨rfl, rfl, fun _ => rfl⟩
  unfold World.refreshes
  split
  · exact works_holds (Written.refl w) hBefore ⟨rfl, rfl, fun _ => rfl⟩ nofun
  · have hCounted : Written w { w with refresh_count := w.refresh_count + 1 } :=
      ⟨related_of_same (WritesOf.refl w.owner) rfl, rfl, rfl, rfl, rfl, rfl, rfl⟩
    exact works_holds hCounted hBefore ⟨rfl, rfl, fun _ => rfl⟩ (fun _ hIs => .inl (hOwner ▸ hIs))

theorem works_opens (hBefore : w.owner.Serves id) : Works w outcome (w.opens id) := by
  unfold World.opens
  split
  · exact works_holds (Written.refl w) hBefore ⟨rfl, rfl, fun _ => rfl⟩ nofun
  · exact works_holds (Written.refl w) hBefore ⟨rfl, rfl, fun _ => rfl⟩ nofun

theorem works_shows (hOwner : w.owner = .shown id) : Works w outcome (w.shows id) := by
  refine works_settles (written_modify ?_ (fun _ => .serves hOwner rfl rfl rfl))
    (hOwner ▸ ⟨rfl, rfl, fun _ => rfl⟩) rfl (fun _ => rfl) (settled_modify (fun _ => .inl rfl)) rfl
  exact fun _ => ⟨rfl, .inr rfl, rfl, rfl, rfl, fun _ => rfl⟩

theorem written_fails (hBefore : w.owner.Serves id)
    (hDevelops : ∀ c : Command, c.Develops (f c)) (hResult : ∀ c, (f c).result = c.result)
    (hError : ∀ c, (f c).error ≠ "") : Written w (w.modify id f) :=
  written_modify hDevelops (fun c => .fails hBefore.held hBefore.after (hResult c) (hError c))

/- The owner writes an error into the command, and finishes it. -/
theorem works_error (hBefore : w.owner.Serves id)
    (hDevelops : ∀ c : Command, c.Develops (f c)) (hResult : ∀ c, (f c).result = c.result)
    (hError : ∀ c, (f c).error ≠ "") : Works w outcome ((w.modify id f).goes (.finishing id exc)) :=
  works_settles (written_fails hBefore hDevelops hResult hError) hBefore rfl (fun _ => rfl)
    (settled_modify (fun c => .inr (hError c))) rfl

theorem works_failed (hBefore : w.owner.Serves id) (kind : CommandKind) (error now : String) :
    Works w outcome ((w.commandFails env id kind error now).goes (.finishing id none)) := by
  unfold World.commandFails
  cases kind with
  | open_gcash_link =>
    exact works_error hBefore (develops_recordFailure env _) (fun _ => rfl)
      (recordFailure_error_ne env _)
  | refresh_session =>
    generalize hText : PyText.orElse (env.safe_error error) "同步最新登录态失败" = text
    have hNe : text ≠ "" := hText ▸ orElse_ne_empty (by decide)
    have hWritten : Written w (w.modify id (fun c => { c with error := text })) :=
      written_fails hBefore (fun _ => ⟨rfl, .inl rfl, rfl, rfl, rfl, fun hDone => hDone⟩)
        (fun _ => rfl) (fun _ => hNe)
    refine works_settles (hWritten.transition _ _ now) hBefore rfl (fun _ => rfl) ?_ rfl
    rw [transition_commands]
    exact settled_modify (fun _ => .inr hNe)

theorem works_finishing (hOwner : w.owner = .finishing id exc) :
    Works w outcome ((w.finishes id).goes (afterCommand exc)) := by
  have hWritten : Written w (w.modify id Command.finish) :=
    written_modify develops_finish (fun _ => .finishes (hOwner ▸ rfl) rfl rfl rfl)
  have hFinished : Written w (w.finishes id) :=
    ⟨⟨hWritten.length, hWritten.each⟩, rfl, rfl, rfl, rfl, rfl, rfl⟩
  have hDone : ∀ other < w.commands.length, w.owner.held = some other →
        (w.finishes id).isDone other := by
    intro other hValid hHeld
    rw [hOwner] at hHeld
    rw [← Option.some.inj hHeld] at hValid ⊢
    exact isDone_modify_self (f := Command.finish) (fun _ => rfl) hValid
  cases exc with
  | none => exact works_lets_go hFinished rfl hDone (looks_on (fun _ => rfl))
  | some exc => exact works_lets_go hFinished rfl hDone (looks_on (fun _ => rfl))

theorem works_opened (hOwner : w.owner = .opened id) :
    Works w outcome (w.either outcome (w.goes (.finishing id none)) (caught id)) := by
  have hHeld : w.owner.held = some id := hOwner ▸ rfl
  have hBefore : w.owner.after = some id := hOwner ▸ rfl
  cases outcome with
  | ok =>
    refine ⟨⟨rfl, (Written.refl w).each⟩, rfl, rfl, rfl, rfl, rfl,
      .inl ⟨rfl, .inl hHeld.symm⟩, ?_, ?_, nofun, looks_on (fun _ => rfl)⟩
    · intro other hIs
      exact .inl ⟨hBefore.trans hIs, rfl⟩
    · exact fun _ _ _ hHolds => hHolds
  | raises exc =>
    rcases caught_serves id exc with ⟨hServes, hNone⟩
    refine ⟨⟨rfl, (Written.refl w).each⟩, rfl, rfl, rfl, rfl, rfl,
      .inl ⟨rfl, .inl (hServes.held.trans hHeld.symm)⟩, ?_, ?_, ?_, looks_on hServes.looks⟩
    · intro other hIs
      exact absurd (hServes.after.symm.trans hIs) nofun
    · intro hOk
      cases hOk id hOwner
    · intro other hIs
      exact absurd (hNone.symm.trans hIs) nofun

/- A part of `hold_browser` that starts at the given place. -/
theorem works_part (env : Env) (w : World) (owner : Owner) (outcome : Outcome) (now : String) :
    Works { w with owner := owner } outcome
      (hold_browser env { w with owner := owner } outcome now) := by
  have hSame := Written.refl { w with owner := owner }
  have hStored := written_transition { w with owner := owner }
  cases owner with
  | idle =>
    have hStays : Works { w with owner := .idle } outcome ({ w with owner := .idle }.goes .idle) :=
      works_free hSame rfl rfl ⟨fun _ hLook => .inl hLook, fun _ => .inl rfl⟩
    exact hStays
  | publishing =>
    cases outcome with
    | ok => exact works_free hSame rfl rfl (looks_off rfl nofun)
    | raises exc => exact works_free hSame rfl rfl (looks_off rfl (fun _ => rfl))
  | starting =>
    unfold hold_browser
    dsimp only
    split
    · exact works_free hSame rfl rfl (looks_off rfl nofun)
    · exact works_free hSame rfl rfl (looks_off rfl nofun)
  | early_release =>
    exact works_free (hStored _ _ _) rfl rfl (looks_off rfl nofun)
  | entering =>
    exact works_free (hStored _ _ _) rfl rfl (looks_off rfl nofun)
  | logging =>
    cases outcome with
    | ok => exact works_free hSame rfl rfl ⟨fun _ hLook => .inl hLook, nofun⟩
    | raises exc => exact works_free hSame rfl rfl ⟨fun _ _ => .inr rfl, fun _ => .inr rfl⟩
  | waiting =>
    unfold hold_browser
    dsimp only
    split
    next hReleased =>
      exact works_free hSame rfl rfl
        (looks_off (congrArg not hReleased) nofun)
    · exact works_free hSame rfl rfl (looks_on (fun _ => rfl))
  | releasing =>
    exact works_free (hStored _ _ _) rfl rfl (looks_off rfl nofun)
  | returning =>
    cases outcome with
    | ok => exact works_free hSame rfl rfl (looks_off rfl (fun _ => rfl))
    | raises exc => exact works_free hSame rfl rfl (looks_on (fun _ => rfl))
  | checking =>
    cases outcome with
    | ok => exact works_free hSame rfl rfl (looks_on (fun _ => rfl))
    | raises exc => exact works_free hSame rfl rfl (looks_on (fun _ => rfl))
  | getting =>
    unfold hold_browser
    dsimp only
    split
    next hQueue =>
      exact works_free hSame rfl rfl ⟨fun hLeft => absurd hQueue hLeft, nofun⟩
    next id rest hQueue =>
      exact works_takes hQueue rfl ⟨rfl, rfl, fun _ => rfl⟩ rfl
  | paging =>
    cases outcome with
    | ok =>
      have hTouched : Written { w with owner := .paging }
            { w with lease := w.lease.touched now, owner := .paging } :=
        ⟨related_of_same (WritesOf.refl _) rfl, rfl, rfl, rfl, rfl, rfl, rfl⟩
      exact works_free hTouched rfl rfl ⟨fun _ hLook => .inl hLook, nofun⟩
    | raises exc => exact works_free hSame rfl rfl (looks_on (fun _ => rfl))
  | taken id => exact works_taken ⟨rfl, rfl, fun _ => rfl⟩
  | cleared id =>
    have hCurrent : Written { w with owner := .cleared id }
          { w with current_command := some id, owner := .cleared id } :=
      ⟨related_of_same (WritesOf.refl _) rfl, rfl, rfl, rfl, rfl, rfl, rfl⟩
    have hStarts : Works { w with owner := .cleared id } outcome
          ({ w with current_command := some id, owner := .cleared id }.goes (.started id)) :=
      works_holds hCurrent ⟨rfl, rfl, fun _ => rfl⟩ ⟨rfl, rfl, fun _ => rfl⟩
        nofun
    exact hStarts
  | started id =>
    unfold hold_browser
    dsimp only
    cases hCommand : w.commands[id]? with
    | none =>
      have hStays : Works { w with owner := .started id } outcome
            ({ w with owner := .started id }.goes (.started id)) :=
        works_holds hSame ⟨rfl, rfl, fun _ => rfl⟩ ⟨rfl, rfl, fun _ => rfl⟩
          nofun
      exact hStays
    | some command => exact works_started ⟨rfl, rfl, fun _ => rfl⟩ hCommand
  | refresh_begins id =>
    exact works_holds (hStored _ _ _) ⟨rfl, rfl, fun _ => rfl⟩ ⟨rfl, rfl, fun _ => rfl⟩
      (fun _ hIs => .inl hIs)
  | refreshing id =>
    cases outcome with
    | ok => exact works_refreshes rfl
    | raises exc => exact works_caught hSame ⟨rfl, rfl, fun _ => rfl⟩ exc
  | refreshed id =>
    exact works_holds (hStored _ _ _) ⟨rfl, rfl, fun _ => rfl⟩ ⟨rfl, rfl, fun _ => rfl⟩
      (fun _ hIs => .inl hIs)
  | reporting id =>
    have hReported : Written { w with owner := .reporting id }
          ({ w with owner := .reporting id }.modify id (fun command =>
            { command with result := some { message := "已从保持中的浏览器同步最新登录态" } })) :=
      written_modify (fun _ => ⟨rfl, .inl rfl, rfl, rfl, rfl, fun hDone => hDone⟩)
        (fun _ => .reports rfl)
    cases outcome with
    | ok =>
      exact works_settles hReported ⟨rfl, rfl, fun _ => rfl⟩ rfl (fun _ => rfl)
          (settled_modify (fun _ => .inl rfl)) rfl
    | raises exc => exact works_caught hReported ⟨rfl, rfl, fun _ => rfl⟩ exc
  | opening id =>
    cases outcome with
    | ok => exact works_opens ⟨rfl, rfl, fun _ => rfl⟩
    | raises exc => exact works_caught hSame ⟨rfl, rfl, fun _ => rfl⟩ exc
  | shown id =>
    cases outcome with
    | ok => exact works_shows rfl
    | raises exc => exact works_caught hSame ⟨rfl, rfl, fun _ => rfl⟩ exc
  | opened id => exact works_opened rfl
  | failed id error =>
    unfold hold_browser
    dsimp only
    cases w.commands[id]? with
    | none =>
      have hStays : Works { w with owner := .failed id error } outcome
            ({ w with owner := .failed id error }.goes (.failed id error)) :=
        works_holds hSame ⟨rfl, rfl, fun _ => rfl⟩ ⟨rfl, rfl, fun _ => rfl⟩
          nofun
      exact hStays
    | some command => exact works_failed ⟨rfl, rfl, fun _ => rfl⟩ _ _ now
  | interrupted id exc =>
    exact works_error ⟨rfl, rfl, fun _ => rfl⟩
      (fun _ => ⟨rfl, .inl rfl, rfl, rfl, rfl, fun hDone => hDone⟩) (fun _ => rfl)
      (fun _ => orElse_ne_empty (by decide))
  | finishing id exc => exact works_finishing rfl
  | failing exc => exact works_free (hStored _ _ _) rfl rfl (looks_on (fun _ => rfl))
  | draining exc held =>
    cases held with
    | none =>
      unfold hold_browser
      dsimp only
      split
      next hQueue =>
        exact works_free hSame rfl rfl
          ⟨fun hLeft => absurd hQueue hLeft, nofun⟩
      next id rest hQueue =>
        exact works_takes hQueue rfl ⟨rfl, rfl, fun _ => rfl⟩ rfl
    | some id =>
      refine works_lets_go
        (written_fails ⟨rfl, rfl, fun _ => rfl⟩ (develops_fail env _) (fail_result env _)
          (fail_error_ne env _))
        rfl ?_ (looks_on (fun _ => rfl))
      intro other hValid hHeld
      rw [← Option.some.inj hHeld] at hValid ⊢
      exact isDone_modify_self (Command.fail_done env _) hValid
  | closing => exact works_free hSame rfl rfl (looks_off rfl (fun _ => rfl))

/- One part of `hold_browser`. -/
theorem hold_browser_works (env : Env) (w : World) (outcome : Outcome) (now : String) :
    Works w outcome (hold_browser env w outcome now) :=
  works_part env w w.owner outcome now

----
-- Steps
----

/- A new command has no outcome, and one for a link has the digest of its url. -/
structure Command.Fresh (env : Env) (c : Command) : Prop where
  result : c.result = none
  done : c.done = false
  link : c.kind = .open_gcash_link → env.url_digest c.url = c.url_digest

inductive Turn (env : Env) (w : World) : CommandOp → World → Prop
| stands (op : CommandOp) : Turn env w op w
| stores
    (status : LeaseStatus) (error now : String) (hIdle : w.owner = .idle)
    (hCaller : callerStatus status) :
    Turn env w (.caller status error now) (w.transition status error now)
| begins
    (hIdle : w.owner = .idle) :
    Turn env w .begins (w.goes .publishing)
| owner
    (outcome : Outcome) (now : String) :
    Turn env w (.owner outcome now) (hold_browser env w outcome now)
| releases
    (now : String) (commands : List Command)
    (hCancels : commands = w.commands ∨ ∃ id, commands = w.commands.modify id Command.cancel) :
    Turn env w (.requestRelease now)
      { w with
        lease := w.lease.releaseRequested now, commands := commands,
        releasers := w.releasers ++ [.draining none] }
| drained
    (i : Nat) (now : String) (hReleaser : w.releasers[i]? = some (.draining none))
    (hQueue : w.queue = []) :
    Turn env w (.releaser i now) (w.setReleaser i .storing)
| drains
    (i : Nat) (now : String) (id : Nat) (rest : List Nat)
    (hReleaser : w.releasers[i]? = some (.draining none)) (hQueue : w.queue = id :: rest) :
    Turn env w (.releaser i now) { w.setReleaser i (.draining (some id)) with queue := rest }
| fails
    (i : Nat) (now : String) (id : Nat) (hReleaser : w.releasers[i]? = some (.draining (some id))) :
    Turn env w (.releaser i now)
      ((w.modify id (Command.fail env "浏览器正在释放")).setReleaser i (.draining none))
| released
    (i : Nat) (now : String) (hReleaser : w.releasers[i]? = some .storing) :
    Turn env w (.releaser i now) ((w.transition .releasing "" now).setReleaser i .ended)
| creates
    (command : Command) (hFresh : command.Fresh env) :
    Turn env w .requestRefresh (w.creates command)
| joins
    (url remote_request_id remote_job_id : String) (id : Nat) :
    Turn env w (.requestOpenGcash url remote_request_id remote_job_id)
      { w with requesters := w.requesters ++ [.waiting id] }
| registers
    (url remote_request_id remote_job_id : String) (command : Command) (hFresh : command.Fresh env)
    (hKind : command.kind = .open_gcash_link)
    (hFree : ∀ id, w.gcash_commands.lookup command.remote_request_id = some id →
      w.commands[id]? = none)
    (hDone : ∀ entry ∈ w.gcash_commands, w.isDone entry.2) :
    Turn env w (.requestOpenGcash url remote_request_id remote_job_id) (w.registers command)
| puts
    (i : Nat) (expires : Bool) (id : Nat) (hRequester : w.requesters[i]? = some (.putting id)) :
    Turn env w (.requester i expires) (w.puts i id)
| goes
    (i : Nat) (expires : Bool) (id : Nat) (next : Requester)
    (hRequester : w.requesters[i]? = some (.waiting id))
    (hNext : next = .ended ∨ next = .lapsed id ∧ w.isDone id = false) :
    Turn env w (.requester i expires) (w.setRequester i next)
| cancels
    (i : Nat) (expires : Bool) (id : Nat) (next : Requester)
    (hRequester : w.requesters[i]? = some (.lapsed id))
    (hNext : next = .ended ∨ next = .expired id) :
    Turn env w (.requester i expires) ((w.modify id Command.cancel).setRequester i next)
| times_out
    (i : Nat) (expires : Bool) (id : Nat) (hRequester : w.requesters[i]? = some (.expired id)) :
    Turn env w (.requester i expires)
      ((w.modify id (Command.recordFailure env "GCash 标签页打开超时")).setRequester i .ended)

theorem request_open_gcash_turn (env : Env) (w : World)
    (url remote_request_id remote_job_id : String) :
    Turn env w (.requestOpenGcash url remote_request_id remote_job_id)
      (request_open_gcash env w url remote_request_id remote_job_id).1 := by
  unfold request_open_gcash
  dsimp only
  split
  · exact .stands _
  split
  · exact .stands _
  split
  · exact .stands _
  split
  · exact .stands _
  split
  · unfold World.joins
    split
    · exact .stands _
    split
    · exact .stands _
    · exact .joins _ _ _ _
  rename_i hFree
  split
  · exact .stands _
  next hDone =>
    refine .registers _ _ _ _ ⟨rfl, rfl, fun _ => rfl⟩ rfl ?_ ?_
    · intro id hFound
      rw [hFound, Option.bind_some, Option.map_eq_none_iff] at hFree
      exact hFree
    · intro entry hMem
      by_contra hNot
      apply hDone
      rw [any_eq_true]
      exact ⟨entry, hMem, by rw [Bool.not_eq_true] at hNot; rw [hNot]; rfl⟩

theorem releaserStep_turn (env : Env) (w : World) (i : Nat) (now : String) :
    Turn env w (.releaser i now) (releaserStep env w i now).1 := by
  unfold releaserStep
  split
  next hReleaser =>
    split
    next hQueue =>
      exact .drained i now hReleaser hQueue
    next id rest hQueue =>
      exact .drains i now id rest hReleaser hQueue
  next id hReleaser =>
    exact .fails i now id hReleaser
  next hReleaser =>
    exact .released i now hReleaser
  · exact .stands _

theorem requesterStep_turn (env : Env) (w : World) (i : Nat) (expires : Bool) :
    Turn env w (.requester i expires) (requesterStep env w i expires).1 := by
  unfold requesterStep
  split
  next id hRequester =>
    exact .puts i expires id hRequester
  next id hRequester =>
    split
    · exact .stands _
    rename_i command hCommand
    split
    · exact .goes i expires id .ended hRequester (.inl rfl)
    rename_i hUndone
    split
    · refine .goes i expires id (.lapsed id) hRequester (.inr ⟨rfl, ?_⟩)
      unfold World.isDone
      rw [hCommand]
      exact Bool.eq_false_iff.mpr hUndone
    · exact .stands _
  next id hRequester =>
    split
    · exact .stands _
    rename_i command _
    cases command.kind with
    | refresh_session => exact .cancels i expires id .ended hRequester (.inl rfl)
    | open_gcash_link => exact .cancels i expires id (.expired id) hRequester (.inr rfl)
  next id hRequester =>
    exact .times_out i expires id hRequester
  · exact .stands _

theorem commandStep_turn (env : Env) (w : World) (op : CommandOp) :
    Turn env w op (commandStep env w op).1 := by
  cases op with
  | caller status error now =>
    unfold commandStep
    dsimp only
    split
    next hCaller =>
      exact .stores status error now hCaller.1 hCaller.2
    · exact .stands _
  | begins =>
    unfold commandStep
    dsimp only
    split
    next hIdle =>
      exact .begins hIdle
    · exact .stands _
  | owner outcome now => exact .owner outcome now
  | requestRelease now =>
    unfold commandStep request_release
    dsimp only
    split
    · exact .stands _
    · refine .releases now _ ?_
      split
      · exact .inl rfl
      · exact .inr ⟨_, rfl⟩
  | releaser i now => exact releaserStep_turn env w i now
  | requestRefresh =>
    unfold commandStep request_refresh
    dsimp only
    split
    · exact .stands _
    · exact .creates _ ⟨rfl, rfl, by rintro ⟨⟩⟩
  | requestOpenGcash url remote_request_id remote_job_id =>
    exact request_open_gcash_turn env w url remote_request_id remote_job_id
  | requester i expires => exact requesterStep_turn env w i expires

theorem Turn.developed (hTurn : Turn env w op w') : Developed w w' := by
  cases hTurn with
  | stands => exact developed_of_same rfl
  | stores status error now => exact developed_of_same (transition_commands w _ _ _)
  | begins => exact developed_of_same rfl
  | owner outcome now => exact (hold_browser_works env w outcome now).developed
  | releases now commands hCancels =>
    rcases hCancels with hSame | ⟨id, hCancelled⟩
    · exact developed_of_same hSame
    · rw [hCancelled]
      exact developed_modify w id develops_cancel
  | drained => exact developed_of_same rfl
  | drains => exact developed_of_same rfl
  | fails i now id => exact developed_modify w id (develops_fail env _)
  | released => exact developed_of_same (transition_commands w _ _ _)
  | creates command => exact developed_creates w command
  | joins => exact developed_of_same rfl
  | registers url remote_request_id remote_job_id command => exact developed_creates w command
  | puts => exact developed_of_same rfl
  | goes => exact developed_of_same rfl
  | cancels i expires id => exact developed_modify w id develops_cancel
  | times_out i expires id => exact developed_modify w id (develops_recordFailure env _)

theorem commandStep_develops (env : Env) (w : World) (op : CommandOp) :
    Developed w (commandStep env w op).1 :=
  (commandStep_turn env w op).developed

/- A step creates one command at most. -/
theorem Turn.length (hTurn : Turn env w op w') :
    w'.commands.length = w.commands.length ∨
      ∃ command : Command, command.Fresh env ∧ w'.commands = w.commands ++ [command] := by
  have hModified :
      ∀ (id : Nat) (f : Command → Command), (w.modify id f).commands.length = w.commands.length :=
    fun _ _ => length_modify _ _ _
  cases hTurn with
  | stands => exact .inl rfl
  | stores => exact .inl (congrArg List.length (transition_commands w _ _ _))
  | begins => exact .inl rfl
  | owner outcome now => exact .inl (hold_browser_works env w outcome now).length
  | releases now commands hCancels =>
    rcases hCancels with hSame | ⟨id, hCancelled⟩
    · exact .inl (congrArg List.length hSame)
    · rw [hCancelled]
      exact .inl (hModified id _)
  | drained => exact .inl rfl
  | drains => exact .inl rfl
  | fails i now id => exact .inl (hModified id _)
  | released => exact .inl (congrArg List.length (transition_commands w _ _ _))
  | creates command hFresh => exact .inr ⟨command, hFresh, rfl⟩
  | joins => exact .inl rfl
  | registers url remote_request_id remote_job_id command hFresh =>
    exact .inr ⟨command, hFresh, rfl⟩
  | puts => exact .inl rfl
  | goes => exact .inl rfl
  | cancels i expires id => exact .inl (hModified id _)
  | times_out i expires id => exact .inl (hModified id _)

theorem commandStep_origin (hFound : (commandStep env w op).1.commands[id]? = some c') :
    (∃ c, w.commands[id]? = some c ∧ c.Develops c') ∨ w.commands[id]? = none ∧ c'.Fresh env := by
  cases hWas : w.commands[id]? with
  | some c =>
    left
    rcases commandStep_develops env w op id c hWas with ⟨after, hAfter, hDevelops⟩
    rw [hFound, Option.some.injEq] at hAfter
    rw [← hAfter] at hDevelops
    exact ⟨c, rfl, hDevelops⟩
  | none =>
    right
    have hNew := getElem?_eq_none_iff.mp hWas
    have hValid := (List.getElem?_eq_some_iff.mp hFound).1
    rcases (commandStep_turn env w op).length with hLength | ⟨command, hFresh, hCommands⟩
    · omega
    · rw [hCommands, length_append] at hValid
      have hLast : id = w.commands.length := by
        rw [length_singleton] at hValid
        omega
      rw [hCommands, hLast, getElem?_concat_length, Option.some.injEq] at hFound
      rw [← hFound]
      exact ⟨rfl, hFresh⟩

end LeaseCommands
