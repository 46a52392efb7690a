import AutoGpt.WebSessionLease.CommandsSettled

/-
  The table of the link commands of a lease: at most one of
  them is not done, and while a request id is kept its
  command is put on the queue once and keeps its link.

  Main theorems: `run_tabled`, `run_tally`, `bound_of_kept`
-/

open List
open Option
open Machine

----
-- The Table
----

namespace LeaseCommands

open WebSessionLease (Lease LeaseStatus shortId)

/- The entries of the table whose commands are not done. -/
def World.undone (w : World) : List (String × Nat) :=
  w.gcash_commands.filter (fun entry => !w.isDone entry.2)

/- Each request id has one command, which is its own. -/
structure Tabled (w : World) : Prop where
  known : ∀ entry ∈ w.gcash_commands,
      ∃ c, w.commands[entry.2]? = some c ∧ c.kind = .open_gcash_link ∧ c.remote_request_id = entry.1
  distinct : (w.gcash_commands.map Prod.fst).Nodup
  undone : w.undone.length ≤ 1

inductive TableStep (w w' : World) : Prop
| same (hTable : w'.gcash_commands = w.gcash_commands)
| registers
    (command : Command) (hKind : command.kind = .open_gcash_link)
    (hFree : w.gcash_commands.lookup command.remote_request_id = none)
    (hDone : ∀ entry ∈ w.gcash_commands, w.isDone entry.2)
    (hWorld : w' = w.registers command)

theorem tabled_fresh (lease : Lease) :
    Tabled { lease := lease } where
  known := fun _ hMem => absurd hMem not_mem_nil
  distinct := nodup_nil
  undone := Nat.zero_le _

/- Commands that are dropped from the end of the table's history leave the others in their order. -/
theorem iterate_eraseP_sublist {α : Type} (test : α → Bool) (n : Nat) (l : List α) :
    List.Sublist ((eraseP test)^[n] l) l := by
  induction n generalizing l with
  | zero => exact List.Sublist.refl l
  | succ n ih =>
    rw [Function.iterate_succ_apply]
    exact (ih _).trans eraseP_sublist

theorem registers_sublist (w : World) (command : Command) :
    List.Sublist (w.registers command).gcash_commands
      (w.gcash_commands ++ [(command.remote_request_id, w.commands.length)]) :=
  iterate_eraseP_sublist _ _ _

theorem registers_commands (w : World) (command : Command) :
    (w.registers command).commands = w.commands ++ [command] :=
  rfl

variable {l : List (String × Nat)} {id : Nat}
variable {w : World}

theorem mem_of_lookup (hLookup : l.lookup key = some id) : (key, id) ∈ l := by
  rw [lookup_eq_some_iff] at hLookup
  rcases hLookup with ⟨before, after, hSplit, _⟩
  rw [hSplit]
  exact mem_append_right _ mem_cons_self

theorem not_mem_keys_of_lookup (hLookup : l.lookup key = none) : key ∉ l.map Prod.fst := by
  intro hMem
  rcases mem_map.mp hMem with ⟨entry, hIn, hKey⟩
  rw [lookup_eq_none_iff] at hLookup
  have hNe := hLookup entry hIn
  rw [hKey] at hNe
  simp at hNe

theorem nodup_keys_append (hDistinct : (l.map Prod.fst).Nodup) (hFree : l.lookup key = none) :
    ((l ++ [(key, id)]).map Prod.fst).Nodup := by
  rw [map_append, nodup_append]
  refine ⟨hDistinct, nodup_singleton _, ?_⟩
  intro old hOld new hNew hSame
  rw [map_singleton, mem_singleton] at hNew
  rw [hSame, hNew] at hOld
  exact not_mem_keys_of_lookup hFree hOld

theorem Turn.table {env : Env} {w' : World} (hTurn : Turn env w op w')
    (hTabled : Tabled w) : TableStep w w' := by
  cases hTurn with
  | stands => exact .same rfl
  | stores status error now => exact .same (written_transition w status error now).table
  | begins => exact .same rfl
  | owner outcome now => exact .same (hold_browser_works env w outcome now).table
  | releases => exact .same rfl
  | drained => exact .same rfl
  | drains => exact .same rfl
  | fails => exact .same rfl
  | released i now => exact .same (written_transition w .releasing "" now).table
  | creates => exact .same rfl
  | joins => exact .same rfl
  | registers url remote_request_id remote_job_id command _ hKind hFree hDone =>
    refine .registers command hKind ?_ hDone rfl
    cases hFound : w.gcash_commands.lookup command.remote_request_id with
    | none => rfl
    | some id =>
      rcases hTabled.known _ (mem_of_lookup hFound) with ⟨c, hCommand, _⟩
      rw [hFree id hFound] at hCommand
      cases hCommand
  | puts => exact .same rfl
  | goes => exact .same rfl
  | cancels => exact .same rfl
  | times_out => exact .same rfl

theorem undone_of_same {w' : World} (hTable : w'.gcash_commands = w.gcash_commands)
    (hDeveloped : Developed w w') : w'.undone.length ≤ w.undone.length := by
  unfold World.undone
  rw [hTable, ← countP_eq_length_filter, ← countP_eq_length_filter]
  refine countP_mono_left ?_
  intro entry _ hUndone
  rw [Bool.not_eq_true'] at hUndone ⊢
  by_contra hDone
  rw [Bool.not_eq_false] at hDone
  rw [hDeveloped.done hDone] at hUndone
  cases hUndone

theorem undone_registers (command : Command)
    (hDone : ∀ entry ∈ w.gcash_commands, w.isDone entry.2) :
    (w.registers command).undone.length ≤ 1 := by
  have hDeveloped : Developed w (w.registers command) := developed_creates w command
  have hShort := (registers_sublist w command).countP_le
      (p := fun entry => !(w.registers command).isDone entry.2)
  have hOld : w.gcash_commands.countP
          (fun entry => !(w.registers command).isDone entry.2) =
        0 := by
    rw [countP_eq_zero]
    intro entry hMem
    rw [hDeveloped.done (hDone entry hMem)]
    exact Bool.false_ne_true
  have hNew := countP_le_length (l := [(command.remote_request_id, w.commands.length)])
      (p := fun entry => !(w.registers command).isDone entry.2)
  rw [countP_append, hOld, Nat.zero_add] at hShort
  unfold World.undone
  rw [← countP_eq_length_filter]
  exact hShort.trans hNew

theorem Tabled.step (hTabled : Tabled w) (env : Env) (op : CommandOp) :
    Tabled (commandStep env w op).1 := by
  have hDeveloped := commandStep_develops env w op
  have hStep := (commandStep_turn env w op).table hTabled
  generalize (commandStep env w op).1 = w' at hDeveloped hStep ⊢
  have hKnown : ∀ entry ∈ w.gcash_commands, ∃ c, w'.commands[entry.2]? = some c ∧
          c.kind = .open_gcash_link ∧
          c.remote_request_id = entry.1 := by
    intro entry hMem
    rcases hTabled.known entry hMem with ⟨c, hFound, hKind, hRequest⟩
    rcases hDeveloped entry.2 c hFound with ⟨c', hAfter, hDevelops⟩
    exact ⟨c', hAfter, hDevelops.kind.trans hKind, hDevelops.remote_request_id.trans hRequest⟩
  cases hStep with
  | same hTable =>
    refine ⟨?_, ?_, ?_⟩
    · rw [hTable]
      exact hKnown
    · rw [hTable]
      exact hTabled.distinct
    · exact (undone_of_same hTable hDeveloped).trans hTabled.undone
  | registers command hKind hFree hDone hWorld =>
    rw [hWorld] at hKnown ⊢
    have hSublist := registers_sublist w command
    refine ⟨?_, ?_, undone_registers command hDone⟩
    · intro entry hMem
      rcases mem_append.mp (hSublist.subset hMem) with hOld | hNew
      · exact hKnown entry hOld
      · rw [mem_singleton.mp hNew, registers_commands, getElem?_concat_length]
        exact ⟨command, rfl, hKind, rfl⟩
    · exact (hSublist.map Prod.fst).nodup (nodup_keys_append hTabled.distinct hFree)

theorem run_tabled (env : Env) (lease : Lease) (ops : List CommandOp) :
    Tabled (run (commandStep env) { lease := lease } ops) :=
  run_induction (fun _ op hTabled => hTabled.step env op) (tabled_fresh lease) ops

----
-- Puts
----

/- How often a command is queued or in some thread's hands. -/
def World.places (w : World) (id : Nat) : Nat := w.queue.count id +
      w.releasers.countP (fun releaser => decide (releaser.held = some id)) +
    if w.owner.held = some id then 1 else 0

/- Every command is put once, or its requester has yet to put it, and it is in one place at most. -/
structure Tally (w : World) : Prop where
  put : ∀ id, w.enqueued.count id + w.requesters.count (.putting id) =
        if id < w.commands.length then 1 else 0
  places : ∀ id, w.places id ≤ w.enqueued.count id

theorem tally_fresh (lease : Lease) :
    Tally { lease := lease } where
  put := fun _ => rfl
  places := fun _ => le_rfl

theorem countP_set_toNat {α : Type} {l : List α} {a : α} (test : α → Bool) (b : α)
    (hOld : l[i]? = some a) :
    (l.set i b).countP test + (test a).toNat = l.countP test + (test b).toNat := by
  induction l generalizing i with
  | nil => cases hOld
  | cons x l ih =>
    cases i with
    | zero =>
      rw [getElem?_cons_zero] at hOld
      rw [some.inj hOld, set_cons_zero, countP_cons, countP_cons]
      cases test a <;> cases test b <;> rfl
    | succ i =>
      rw [getElem?_cons_succ] at hOld
      have hTail := ih hOld
      rw [set_cons_succ, countP_cons, countP_cons]
      omega

theorem Tally.still (hTally : Tally w) (hLength : w'.commands.length = w.commands.length)
    (hEnqueued : w'.enqueued = w.enqueued)
    (hPutting : ∀ id, w'.requesters.count (.putting id) = w.requesters.count (.putting id))
    (hPlaces : ∀ id, w'.places id ≤ w.places id) : Tally w' := by
  constructor
  · intro id
    rw [hLength, hEnqueued, hPutting]
    exact hTally.put id
  · intro id
    rw [hEnqueued]
    exact (hPlaces id).trans (hTally.places id)

theorem Tally.creates (hTally : Tally w) (hLength : w'.commands.length = w.commands.length + 1)
    (hEnqueued : w'.enqueued = w.enqueued)
    (hRequesters : w'.requesters = w.requesters ++ [.putting w.commands.length])
    (hPlaces : ∀ id, w'.places id = w.places id) : Tally w' := by
  constructor
  · intro id
    have hPut := hTally.put id
    rw [hLength, hEnqueued, hRequesters, count_append]
    by_cases hNew : id = w.commands.length
    · rw [hNew] at hPut ⊢
      rw [if_neg (Nat.lt_irrefl _)] at hPut
      rw [if_pos (Nat.lt_succ_self _), count_singleton_self]
      omega
    · have hOther : List.count (Requester.putting id)
              [Requester.putting w.commands.length] =
            0 := by
        rw [count_eq_zero, mem_singleton, Requester.putting.injEq]
        exact hNew
      rw [hOther]
      by_cases hOld : id < w.commands.length
      · rw [if_pos hOld] at hPut
        rw [if_pos (by omega)]
        omega
      · rw [if_neg hOld] at hPut
        rw [if_neg (by omega)]
        omega
  · intro id
    rw [hPlaces, hEnqueued]
    exact hTally.places id

theorem Tally.puts (hTally : Tally w)
    (hRequester : w.requesters[i]? = some (.putting id)) : Tally (w.puts i id) := by
  have hSet : ∀ other, (w.requesters.set i (.waiting id)).count (.putting other) +
            (Requester.putting id == .putting other).toNat =
          w.requesters.count (.putting other) + 0 :=
    fun other => countP_set_toNat (· == Requester.putting other) (.waiting id) hRequester
  have hBoth : ∀ other, (Requester.putting id == .putting other).toNat = [id].count other := by
    intro other
    by_cases hIs : id = other
    · rw [hIs, beq_self_eq_true, count_singleton_self]
      rfl
    · have hNe : Requester.putting id ≠ .putting other := by
        intro hSame
        exact hIs (Requester.putting.inj hSame)
      rw [beq_eq_false_iff_ne.mpr hNe, Bool.toNat_false, eq_comm,
        count_eq_zero, mem_singleton]
      exact fun hSame => hIs hSame.symm
  unfold World.puts World.setRequester
  constructor
  · intro other
    have hPut := hTally.put other
    have hCount := hSet other
    rw [hBoth] at hCount
    dsimp only
    rw [count_append]
    omega
  · intro other
    have hPlaces := hTally.places other
    unfold World.places at hPlaces ⊢
    dsimp only
    rw [count_append, count_append]
    omega

theorem putting_count_set {old : Requester} (next : Requester) (hOld : w.requesters[i]? = some old)
    (hBefore : ∀ id, old ≠ .putting id) (hAfter : ∀ id, next ≠ .putting id) (id : Nat) :
    (w.requesters.set i next).count (.putting id) = w.requesters.count (.putting id) := by
  have hCount : (w.requesters.set i next).count (.putting id) + (old == .putting id).toNat =
        w.requesters.count (.putting id) + (next == .putting id).toNat :=
    countP_set_toNat (· == Requester.putting id) next hOld
  rw [beq_eq_false_iff_ne.mpr (hBefore id), beq_eq_false_iff_ne.mpr (hAfter id)] at hCount
  exact hCount

theorem count_head (id other : Nat) (rest : List Nat) :
    (id :: rest).count other = rest.count other + (if id = other then 1 else 0) := by
  rw [count_cons]
  simp only [beq_iff_eq]

/- A release goes on: what it holds then it held, or it took it from the queue. -/
theorem places_setReleaser {u : World} (next : Releaser)
    (hReleaser : w.releasers[i]? = some old) (hReleasers : u.releasers = w.releasers)
    (hOwner : u.owner = w.owner) (hTaken : queue.count id + (decide (next.held = some id)).toNat ≤
      w.queue.count id + (decide (old.held = some id)).toNat) :
    World.places { u.setReleaser i next with queue := queue } id ≤ w.places id := by
  have hCount := countP_set_toNat (fun releaser => decide (releaser.held = some id)) next hReleaser
  unfold World.places World.setReleaser
  dsimp only at hCount ⊢
  rw [hReleasers, hOwner]
  omega

theorem Tally.owner (hTally : Tally w) (env : Env) (outcome : Outcome) (now : String) :
    Tally (hold_browser env w outcome now) := by
  have hWorks := hold_browser_works env w outcome now
  generalize hold_browser env w outcome now = w' at hWorks ⊢
  refine hTally.still hWorks.length hWorks.enqueued
      (fun id => congrArg (List.count _) hWorks.requesters) ?_
  intro id
  unfold World.places
  rw [hWorks.releasers]
  rcases hWorks.hands with ⟨hQueue, hKept | ⟨hFree, _⟩⟩ | ⟨other, hQueue, hFree, hTaken, _⟩
  · rw [hQueue, hKept]
  · rw [hQueue, hFree, if_neg nofun]
    omega
  · rw [hQueue, count_head, hFree, hTaken]
    simp only [some.injEq, reduceCtorEq, if_false]
    omega

theorem Turn.tally {env : Env} {op : CommandOp} (hTurn : Turn env w op w') (hTally : Tally w) :
    Tally w' := by
  have hSame : ∀ id, w.places id ≤ w.places id := fun _ => le_rfl
  have hModified :
      ∀ (id : Nat) (f : Command → Command), (w.modify id f).commands.length = w.commands.length :=
    fun _ _ => length_modify _ _ _
  cases hTurn with
  | stands => exact hTally
  | stores status error now =>
    have hStored := written_transition w status error now
    refine hTally.still hStored.length hStored.enqueued
        (fun id => congrArg (List.count _) hStored.requesters) (fun id => ?_)
    unfold World.places
    rw [hStored.queue, hStored.releasers, transition_owner]
  | begins hIdle =>
    refine hTally.still rfl rfl (fun _ => rfl) (fun id => ?_)
    unfold World.places World.goes
    rw [hIdle]
    exact le_rfl
  | owner outcome now => exact hTally.owner env outcome now
  | releases now commands hCancels =>
    refine hTally.still ?_ rfl (fun _ => rfl) (fun id => ?_)
    · rcases hCancels with hKept | ⟨id, hCancelled⟩
      · exact congrArg List.length hKept
      · rw [hCancelled]
        exact hModified id _
    · unfold World.places
      rw [countP_append]
      exact le_rfl
  | drained i now hReleaser =>
    exact hTally.still rfl rfl (fun _ => rfl)
        (fun _ => places_setReleaser (u := w) .storing hReleaser rfl rfl (le_rfl))
  | drains i now id rest hReleaser hQueue =>
    refine hTally.still rfl rfl (fun _ => rfl)
        (fun other => places_setReleaser (u := w) _ hReleaser rfl rfl ?_)
    rw [hQueue, count_head]
    unfold Releaser.held
    by_cases hIs : id = other
    · rw [if_pos hIs, hIs, decide_eq_true rfl, Bool.toNat_true]
      omega
    · rw [if_neg hIs, decide_eq_false (fun hSome => hIs (some.inj hSome)), Bool.toNat_false]
      omega
  | fails i now id hReleaser =>
    exact hTally.still (hModified id _) rfl (fun _ => rfl)
        (fun _ => places_setReleaser (u := w.modify id _) (.draining none) hReleaser rfl rfl
          (Nat.add_le_add_left (Nat.zero_le _) _))
  | released i now hReleaser =>
    have hStored := written_transition w .releasing "" now
    refine hTally.still hStored.length hStored.enqueued
        (fun id => congrArg (List.count _) hStored.requesters) (fun id => ?_)
    refine places_setReleaser (u := w.transition _ _ _) .ended hReleaser hStored.releasers
        (transition_owner w _ _ _) ?_
    rw [hStored.queue]
    exact le_rfl
  | creates => exact hTally.creates length_append rfl rfl (fun _ => rfl)
  | joins =>
    refine hTally.still rfl rfl (fun id => ?_) hSame
    rw [count_append]
    rfl
  | registers => exact hTally.creates length_append rfl rfl (fun _ => rfl)
  | puts i expires id hRequester => exact hTally.puts hRequester
  | goes i expires id next hRequester hNext =>
    refine hTally.still rfl rfl
        (putting_count_set next hRequester nofun ?_) hSame
    intro other hIs
    rw [hIs] at hNext
    rcases hNext with hEnded | hLapsed
    · cases hEnded
    · cases hLapsed.1
  | cancels i expires id next hRequester hNext =>
    refine hTally.still (hModified id _) rfl
        (putting_count_set next hRequester nofun ?_) hSame
    intro other hIs
    rw [hIs] at hNext
    rcases hNext with hEnded | hExpired
    · cases hEnded
    · cases hExpired
  | times_out i expires id hRequester =>
    exact hTally.still (hModified id _) rfl
        (putting_count_set .ended hRequester nofun nofun)
        hSame

theorem run_tally (env : Env) (lease : Lease) (ops : List CommandOp) :
    Tally (run (commandStep env) { lease := lease } ops) :=
  run_induction (fun _ op hTally => (commandStep_turn env _ op).tally hTally) (tally_fresh lease) ops

----
-- Kept Requests
----

/- The url of a link command, while it is kept, is the one whose digest the command has. -/
def Linked (env : Env) (w : World) : Prop := ∀ (id : Nat) (c : Command), w.commands[id]? = some c →
    c.kind = .open_gcash_link →
    c.url = "" ∨ env.url_digest c.url = c.url_digest

theorem Linked.step (hLinked : Linked env w) (op : CommandOp) :
    Linked env (commandStep env w op).1 := by
  intro id c' hFound hKind
  rcases commandStep_origin hFound with ⟨c, hWas, hDevelops⟩ | ⟨_, hFresh⟩
  · rcases hDevelops.url with hSame | hDropped
    · rw [hSame, hDevelops.url_digest]
      rw [hDevelops.kind] at hKind
      exact hLinked id c hWas hKind
    · exact .inl hDropped
  · exact .inr (hFresh.link hKind)

theorem run_linked (env : Env) (lease : Lease) (ops : List CommandOp) :
    Linked env (run (commandStep env) { lease := lease } ops) :=
  run_induction (fun _ op hLinked => hLinked.step op) nofun ops

/- The request id has a command in the table. -/
def World.keeps (w : World) (request_id : String) : Bool :=
  (w.gcash_commands.lookup request_id).isSome

/- The request id is still in the table after the step. -/
def StaysKept (env : Env) (request_id : String) (w : World) (op : CommandOp) : Prop :=
  (commandStep env w op).1.keeps request_id

instance (env : Env) (request_id : String) (w : World)
    (op : CommandOp) : Decidable (StaysKept env request_id w op) :=
  inferInstanceAs (Decidable (_ = true))

/- The request id has this command, which was put once or is yet to be put. It has one link, which
   it drops at its end, and a request that is accepted under the id is for it. -/
structure Bound (env : Env) (request_id : String) (id : Nat) (c : Command) (w : World) : Prop where
  kept : w.gcash_commands.lookup request_id = some id
  put : w.enqueued.count id + w.requesters.count (.putting id) = 1
  command : ∃ c', w.commands[id]? = some c' ∧ c.Develops c' ∧ c'.remote_request_id = request_id ∧
      (c'.url = "" ∨ env.url_digest c'.url = c.url_digest)
  accepts : ∀ url remote_request_id remote_job_id, PyText.strip remote_request_id = request_id →
      (request_open_gcash env w url remote_request_id remote_job_id).2 = .pending → ∃ validated_url,
        env.validate_url url = .ok validated_url ∧ env.url_digest validated_url = c.url_digest

theorem lookup_of_sublist (hSublist : List.Sublist kept l) (hDistinct : (l.map Prod.fst).Nodup)
    (hLookup : l.lookup key = some id) (hKept : (kept.lookup key).isSome) :
    kept.lookup key = some id := by
  rcases isSome_iff_exists.mp hKept with ⟨other, hOther⟩
  have hMem := hSublist.subset (mem_of_lookup hOther)
  have hSame := inj_on_of_nodup_map hDistinct (mem_of_lookup hLookup) hMem rfl
  rw [hOther, (Prod.mk.inj hSame).2]

theorem lookup_step (hTabled : Tabled w) (env : Env)
    (hLookup : w.gcash_commands.lookup request_id = some id)
    (hKept : StaysKept env request_id w op) :
    (commandStep env w op).1.gcash_commands.lookup request_id = some id := by
  unfold StaysKept World.keeps at hKept
  have hStep := (commandStep_turn env w op).table hTabled
  generalize (commandStep env w op).1 = w' at hKept hStep ⊢
  cases hStep with
  | same hTable =>
    rw [hTable]
    exact hLookup
  | registers command _ hFree _ hWorld =>
    rw [hWorld] at hKept ⊢
    refine lookup_of_sublist (registers_sublist w command)
        (nodup_keys_append hTabled.distinct hFree) ?_ hKept
    rw [lookup_append, hLookup]
    rfl

theorem digest_of_pending
    (hLookup : w.gcash_commands.lookup (PyText.strip remote_request_id) = some id)
    (hCommand : w.commands[id]? = some c)
    (hPending : (request_open_gcash env w url remote_request_id remote_job_id).2 = .pending) :
    ∃ validated_url,
      env.validate_url url = .ok validated_url ∧ env.url_digest validated_url = c.url_digest := by
  unfold request_open_gcash at hPending
  dsimp only at hPending
  rw [hLookup, bind_some, hCommand, map_some] at hPending
  split at hPending
  · cases hPending
  split at hPending
  · cases hPending
  split at hPending
  · cases hPending
  next validated_url hValid =>
    refine ⟨validated_url, hValid, ?_⟩
    split at hPending
    · cases hPending
    · unfold World.joins at hPending
      dsimp only at hPending
      split at hPending
      · cases hPending
      next hDigest =>
        rw [ne_eq, not_not] at hDigest
        exact hDigest.symm

theorem bound_of_kept (hTabled : Tabled w') (hTally : Tally w')
    (hLinked : Linked env w') (hDeveloped : Developed w w') (hCommand : w.commands[id]? = some c)
    (hLookup : w'.gcash_commands.lookup request_id = some id) : Bound env request_id id c w' := by
  rcases hDeveloped id c hCommand with ⟨c', hAfter, hDevelops⟩
  rcases hTabled.known _ (mem_of_lookup hLookup) with ⟨known, hKnown, hKind, hRequest⟩
  rw [hAfter, some.injEq] at hKnown
  rw [← hKnown] at hKind hRequest
  refine ⟨hLookup, ?_, ?_, ?_⟩
  · rw [hTally.put, if_pos]
    exact (List.getElem?_eq_some_iff.mp hAfter).1
  · refine ⟨c', hAfter, hDevelops, hRequest, ?_⟩
    rw [← hDevelops.url_digest]
    exact hLinked id c' hAfter hKind
  · intro url remote_request_id remote_job_id hSame hPending
    rw [← hSame] at hLookup
    rw [← hDevelops.url_digest]
    exact digest_of_pending hLookup hAfter hPending

end LeaseCommands
