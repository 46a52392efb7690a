import AutoGpt.PhoneApiRelay.Registry

/-
  What holds of the relay's registry over every sequence of
  synchronisations, successful or not.

  Main theorems: `transaction_synced`, `registry_exact`
-/

open List
open KeyedTable

----
-- Validated Items
----

namespace PhoneApiRelay

open PyUrl

variable {env : Env}

/- A pool and a route are those of an item. -/
def OfItem (env : Env) (item : Item) (x : Text × RelayRoute) : Prop :=
  x.1 = stripText item.pool_id ∧ parse_source_api_url env item.source_api_url = .ok x.2

theorem prepareItem_ok (hOk : prepareItem env call p item = .ok p') :
    ∃ x, OfItem env item x ∧ p'.prepared = p.prepared ++ [x] := by
  unfold prepareItem at hOk
  dsimp only at hOk
  split at hOk
  · cases hOk
  · split at hOk
    · cases hOk
    next route hParse =>
      split at hOk
      · cases hOk
      · split at hOk
        · cases hOk
        · split at hOk
          · cases hOk
          · cases hOk
            exact ⟨(_, route), ⟨rfl, hParse⟩, rfl⟩

theorem prepareItems_ok (hOk : prepareItems env call p items = .ok p') (x : Text × RelayRoute) :
    x ∈ p'.prepared ↔ x ∈ p.prepared ∨ ∃ item ∈ items, OfItem env item x := by
  induction items generalizing p with
  | nil =>
    cases hOk
    simp
  | cons item items ih =>
    unfold prepareItems at hOk
    cases hItem : prepareItem env call p item with
    | error e =>
      rw [hItem] at hOk
      cases hOk
    | ok q =>
      rw [hItem] at hOk
      rcases prepareItem_ok hItem with ⟨y, hy, hq⟩
      have hUnique : OfItem env item x ↔ x = y := by
        constructor
        · rintro ⟨hPool, hRoute⟩
          rw [hy.2] at hRoute
          exact Prod.ext (hPool.trans hy.1.symm) (Except.ok.inj hRoute).symm
        · rintro rfl
          exact hy
      rw [ih hOk, hq]
      simp only [mem_append, mem_singleton, exists_mem_cons_iff, hUnique, or_assoc]

theorem prepareItems_total (hOk : prepareItems env call p items = .ok p') :
    ∀ item ∈ items, ∃ x, OfItem env item x := by
  induction items generalizing p with
  | nil =>
    intro item hItem
    cases hItem
  | cons head items ih =>
    unfold prepareItems at hOk
    cases hHead : prepareItem env call p head with
    | error e =>
      rw [hHead] at hOk
      cases hOk
    | ok q =>
      rw [hHead] at hOk
      rcases prepareItem_ok hHead with ⟨x, hx, _⟩
      intro item hItem
      rcases mem_cons.mp hItem with rfl | hTail
      · exact ⟨x, hx⟩
      · exact ih hOk item hTail

theorem prepare_total (hOk : prepare env call = .ok prepared) :
    ∀ item ∈ call.items, ∃ x, OfItem env item x := by
  unfold prepare at hOk
  split at hOk
  · cases hOk
  · split at hOk
    · cases hOk
    · split at hOk
      next p hItems =>
        exact prepareItems_total hItems
      · cases hOk

theorem prepare_ok (hOk : prepare env call = .ok prepared) (x : Text × RelayRoute) :
    x ∈ prepared ↔ ∃ item ∈ call.items, OfItem env item x := by
  unfold prepare at hOk
  split at hOk
  · cases hOk
  · split at hOk
    · cases hOk
    · split at hOk
      next p hItems =>
        cases hOk
        rw [prepareItems_ok hItems x]
        simp
      · cases hOk

----
-- The Loop Of The Transaction
----

def OneSuffix (db : Db) : Prop :=
  ∀ r ∈ db.routes.rows, ∀ r' ∈ db.routes.rows, r.raw_suffix = r'.raw_suffix → r = r'

/- Some row of the table is the route, up to its times. -/
def Routed (db : Db) (route : RelayRoute) : Prop := ∃ r ∈ db.routes.rows,
    r.route_hash = route.route_hash ∧ r.raw_suffix = route.raw_suffix ∧
      r.source_origin = route.source_origin

/- What the loop has made of the tables `base` after the items `done`: routes were only added, for
   owners; owners were only added, for the instance and as the items say. -/
structure Inserted (instanceId : Text) (base : Db) (done : List (Text × RelayRoute))
    (db : Db) : Prop where
  kept : ∀ r ∈ base.routes.rows, r ∈ db.routes.rows
  added : ∀ r ∈ db.routes.rows, r ∈ base.routes.rows ∨ ∃ p ∈ done, p.2.route_hash = r.route_hash
  others : ∀ o, o.instance_id ≠ instanceId → (o ∈ db.owners.rows ↔ o ∈ base.owners.rows)
  own : ∀ pool hash, (∃ o ∈ db.owners.rows, o.instance_id = instanceId ∧
          o.pool_id = pool ∧ o.route_hash = hash) ↔ ∃ p ∈ done, p.1 = pool ∧ p.2.route_hash = hash
  routed : ∀ p ∈ done, Routed db p.2
  suffixes : OneSuffix db

theorem insertOwner_ok {hash : String} (hOk : insertOwner instanceId now db pool hash = .ok db') :
    db'.routes = db.routes ∧
      ∀ o, o ∈ db'.owners.rows ↔ o ∈ db.owners.rows ∨ o = ⟨instanceId, pool, hash, now, now⟩ := by
  unfold insertOwner at hOk
  split at hOk
  · cases hOk
  next hNew =>
    cases hOk
    exact ⟨rfl, fun o =>
        mem_rows_insertNew (r := ⟨instanceId, pool, hash, now, now⟩) hNew o⟩

/- One round: the item's route is there afterwards, new or not, no suffix is doubled, and the item's
   owner is added. -/
theorem insertItem_ok (hSuffixes : OneSuffix db) (hOk : insertItem instanceId now db p = .ok db') :
    (∀ r ∈ db.routes.rows, r ∈ db'.routes.rows) ∧
      (∀ r ∈ db'.routes.rows, r ∈ db.routes.rows ∨ p.2.route_hash = r.route_hash) ∧
      Routed db' p.2 ∧ OneSuffix db' ∧ ∀ o, o ∈ db'.owners.rows ↔
        o ∈ db.owners.rows ∨ o = ⟨instanceId, p.1, p.2.route_hash, now, now⟩ := by
  unfold insertItem at hOk
  split at hOk
  next existing hFind =>
    split at hOk
    · cases hOk
    next hSame =>
      rw [not_or, not_not, not_not] at hSame
      rcases insertOwner_ok hOk with ⟨hRoutes, hOwners⟩
      have hMem := mem_of_find? hFind
      refine ⟨?_, ?_, ?_, ?_, hOwners⟩
      · rw [hRoutes]
        exact fun r hr => hr
      · rw [hRoutes]
        exact fun r hr => .inl hr
      · refine ⟨existing, ?_, hMem.2, hSame.1, hSame.2⟩
        rw [hRoutes]
        exact hMem.1
      · unfold OneSuffix
        rw [hRoutes]
        exact hSuffixes
  next hNone =>
    split at hOk
    · split at hOk
      · cases hOk
      · cases hOk
    next hFresh =>
      rcases insertOwner_ok hOk with ⟨hRoutes, hOwners⟩
      have hRows : ∀ r, r ∈ db'.routes.rows ↔ r ∈ db.routes.rows ∨ r = ⟨p.2, now, now⟩ := by
        intro r
        rw [hRoutes]
        exact mem_rows_insertNew (r := ⟨p.2, now, now⟩) hNone r
      have hOther : ∀ r ∈ db.routes.rows, r.raw_suffix ≠ p.2.raw_suffix := by
        intro r hr hSame
        have hNot := find?_eq_none.mp hFresh r hr
        exact hNot (decide_eq_true hSame)
      refine ⟨?_, ?_, ?_, ?_, hOwners⟩
      · intro r hr
        exact (hRows r).mpr (.inl hr)
      · intro r hr
        rcases (hRows r).mp hr with hOld | rfl
        · exact .inl hOld
        · exact .inr rfl
      · exact ⟨⟨p.2, now, now⟩, (hRows _).mpr (.inr rfl), rfl, rfl, rfl⟩
      · intro r hr r' hr' hSame
        rcases (hRows r).mp hr with hOld | rfl
        · rcases (hRows r').mp hr' with hOld' | rfl
          · exact hSuffixes r hOld r' hOld' hSame
          · exact absurd hSame (hOther r hOld)
        · rcases (hRows r').mp hr' with hOld' | rfl
          · exact absurd hSame.symm (hOther r' hOld')
          · rfl

theorem inserted_item (hInserted : Inserted instanceId base done db)
    (hOk : insertItem instanceId now db p = .ok db') :
    Inserted instanceId base (p :: done) db' := by
  rcases insertItem_ok hInserted.suffixes hOk with ⟨hKept, hAdded, hRouted, hSuffixes, hOwners⟩
  constructor
  · intro r hr
    exact hKept r (hInserted.kept r hr)
  · intro r hr
    rcases hAdded r hr with hOld | hNew
    · rcases hInserted.added r hOld with
        hBase | ⟨q, hq, hHash⟩
      · exact .inl hBase
      · exact .inr ⟨q, mem_cons_of_mem _ hq, hHash⟩
    · exact .inr ⟨p, mem_cons_self, hNew⟩
  · intro o hOther
    rw [hOwners, ← hInserted.others o hOther]
    constructor
    · rintro (hOld | rfl)
      · exact hOld
      · exact absurd rfl hOther
    · exact .inl
  · intro pool hash
    constructor
    · rintro ⟨o, hMem, hOwn, hPool, hHash⟩
      rcases (hOwners o).mp hMem with hOld | rfl
      · rcases (hInserted.own pool hash).mp
            ⟨o, hOld, hOwn, hPool, hHash⟩ with
          ⟨q, hq, hRest⟩
        exact ⟨q, mem_cons_of_mem _ hq, hRest⟩
      · exact ⟨p, mem_cons_self, hPool, hHash⟩
    · rintro ⟨q, hq, hPool, hHash⟩
      rcases mem_cons.mp hq with rfl | hOld
      · exact ⟨_, (hOwners _).mpr (.inr rfl), rfl, hPool, hHash⟩
      · rcases (hInserted.own pool hash).mpr
            ⟨q, hOld, hPool, hHash⟩ with
          ⟨o, hMem, hRest⟩
        exact ⟨o, (hOwners o).mpr (.inl hMem), hRest⟩
  · intro q hq
    rcases mem_cons.mp hq with rfl | hOld
    · exact hRouted
    · rcases hInserted.routed q hOld with ⟨r, hr, hRest⟩
      exact ⟨r, hKept r hr, hRest⟩
  · exact hSuffixes

theorem inserted_items (hInserted : Inserted instanceId base done db)
    (hOk : insertItems instanceId now db ps = .ok db') :
    Inserted instanceId base (ps.reverse ++ done) db' := by
  induction ps generalizing db done with
  | nil =>
    cases hOk
    exact hInserted
  | cons q ps ih =>
    unfold insertItems at hOk
    cases hItem : insertItem instanceId now db q with
    | error e =>
      rw [hItem] at hOk
      cases hOk
    | ok mid =>
      rw [hItem] at hOk
      have hNext := ih (inserted_item hInserted hItem) hOk
      simpa using hNext

----
-- The Whole Transaction
----

/- The routes are those owned by some instance and pool, and no two of them share a suffix. -/
structure Sound (db : Db) : Prop where
  owned : ∀ r ∈ db.routes.rows, ∃ o ∈ db.owners.rows, o.route_hash = r.route_hash
  routed : ∀ o ∈ db.owners.rows, ∃ r ∈ db.routes.rows, r.route_hash = o.route_hash
  suffixes : OneSuffix db

/- What a committed synchronisation has done: the owners of the instance are those of its items,
   each item is routed, and the owners and routes of the others are as before. -/
structure Synced (instanceId : Text) (prepared : List (Text × RelayRoute))
    (db db' : Db) : Prop where
  sound : Sound db'
  own : ∀ pool hash, (∃ o ∈ db'.owners.rows, o.instance_id = instanceId ∧
          o.pool_id = pool ∧ o.route_hash = hash) ↔
        ∃ p ∈ prepared, p.1 = pool ∧ p.2.route_hash = hash
  routed : ∀ p ∈ prepared, Routed db' p.2
  others : ∀ o, o.instance_id ≠ instanceId → (o ∈ db'.owners.rows ↔ o ∈ db.owners.rows)
  others_routes : ∀ o ∈ db.owners.rows, o.instance_id ≠ instanceId →
      ∀ r : RouteRow, r.route_hash = o.route_hash → (r ∈ db'.routes.rows ↔ r ∈ db.routes.rows)

variable {instanceId : Text}
variable {db db' : Db}
theorem mem_owners_release (o : OwnerRow) :
    o ∈ (db.release instanceId).owners.rows ↔ o ∈ db.owners.rows ∧ o.instance_id ≠ instanceId := by
  simp [Db.release, deleteWhere]

theorem mem_routes_prune (r : RouteRow) :
    r ∈ db.prune.routes.rows ↔
      r ∈ db.routes.rows ∧ ∃ o ∈ db.owners.rows, o.route_hash = r.route_hash := by
  simp [Db.prune, deleteWhere, Db.owned]

theorem inserted_start (hSuffixes : OneSuffix db) :
    Inserted instanceId (db.release instanceId).prune [] (db.release instanceId).prune where
  kept := fun r hr => hr
  added := fun r hr => .inl hr
  others := fun o _ => Iff.rfl
  own := by
    intro pool hash
    constructor
    · rintro ⟨o, hMem, hOwn, _⟩
      have hOther := ((mem_owners_release o).mp hMem).2
      exact absurd hOwn hOther
    · rintro ⟨p, hp, _⟩
      cases hp
  routed := by
    intro p hp
    cases hp
  suffixes := by
    intro r hr r' hr'
    exact hSuffixes r ((mem_routes_prune r).mp hr).1 r' ((mem_routes_prune r').mp hr').1

theorem transaction_synced (hSound : Sound db)
    (hOk : transaction instanceId now prepared db = .ok db') :
    Synced instanceId prepared db db' := by
  unfold transaction at hOk
  split at hOk
  next mid hLoop =>
    cases hOk
    have hInserted := inserted_items (inserted_start hSound.suffixes) hLoop
    rw [append_nil] at hInserted
    have hOwned : ∀ r ∈ mid.routes.rows, ∃ o ∈ mid.owners.rows, o.route_hash = r.route_hash := by
      intro r hr
      rcases hInserted.added r hr with hBase | ⟨p, hp, hHash⟩
      · rcases ((mem_routes_prune r).mp hBase).2 with
          ⟨o, ho, hHash⟩
        have hOther := ((mem_owners_release o).mp ho).2
        exact ⟨o, (hInserted.others o hOther).mpr ho, hHash⟩
      · rcases (hInserted.own p.1 p.2.route_hash).mpr
            ⟨p, hp, rfl, rfl⟩ with
          ⟨o, ho, _, _, hOwner⟩
        exact ⟨o, ho, hOwner.trans hHash⟩
    have hRoutes : ∀ r, r ∈ mid.prune.routes.rows ↔ r ∈ mid.routes.rows := by
      intro r
      rw [mem_routes_prune]
      exact ⟨fun h => h.1, fun h => ⟨h, hOwned r h⟩⟩
    have hOthers :
        ∀ o, o.instance_id ≠ instanceId → (o ∈ mid.owners.rows ↔ o ∈ db.owners.rows) := by
      intro o hOther
      rw [hInserted.others o hOther]
      have hBase := @mem_owners_release instanceId db o
      exact ⟨fun h => (hBase.mp h).1, fun h => hBase.mpr ⟨h, hOther⟩⟩
    have hKept : ∀ o ∈ db.owners.rows, o.instance_id ≠ instanceId →
          ∀ r ∈ db.routes.rows, r.route_hash = o.route_hash → r ∈ mid.routes.rows := by
      intro o ho hOther r hr hHash
      apply hInserted.kept r
      apply (mem_routes_prune r).mpr
      exact ⟨hr, o, (mem_owners_release o).mpr ⟨ho, hOther⟩, hHash.symm⟩
    constructor
    · constructor
      · intro r hr
        exact hOwned r ((hRoutes r).mp hr)
      · intro o ho
        by_cases hOwn : o.instance_id = instanceId
        · rcases (hInserted.own o.pool_id o.route_hash).mp
              ⟨o, ho, hOwn, rfl, rfl⟩ with
            ⟨p, hp, _, hHash⟩
          rcases hInserted.routed p hp with ⟨r, hr, hRow, _⟩
          exact ⟨r, (hRoutes r).mpr hr, hRow.trans hHash⟩
        · have hOld := (hOthers o hOwn).mp ho
          rcases hSound.routed o hOld with ⟨r, hr, hHash⟩
          exact ⟨r, (hRoutes r).mpr (hKept o hOld hOwn r hr hHash), hHash⟩
      · intro r hr r' hr'
        exact hInserted.suffixes r ((hRoutes r).mp hr) r' ((hRoutes r').mp hr')
    · intro pool hash
      rw [show mid.prune.owners = mid.owners from rfl, hInserted.own]
      simp only [mem_reverse]
    · intro p hp
      rcases hInserted.routed p (mem_reverse.mpr hp) with ⟨r, hr, hRest⟩
      exact ⟨r, (hRoutes r).mpr hr, hRest⟩
    · exact hOthers
    · intro o ho hOther r hHash
      rw [hRoutes]
      constructor
      · intro hr
        rcases hSound.routed o ho with ⟨r', hr', hHash'⟩
        have hMid := hKept o ho hOther r' hr' hHash'
        have hSame : r = r' := eq_of_mem_of_key_eq hr hMid (hHash.trans hHash'.symm)
        rw [hSame]
        exact hr'
      · intro hr
        exact hKept o ho hOther r hr hHash
  · cases hOk

----
-- All Synchronisations
----

theorem sound_initial : Sound Db.initial where
  owned := by
    intro r hr
    cases hr
  routed := by
    intro o ho
    cases ho
  suffixes := by
    intro r hr
    cases hr

/- A call changes nothing and answers an error, or commits the routes of its items. -/
theorem step_cases (hSound : Sound db) (call : Call) :
    (step env db call).1 = db ∧ (∃ e, (step env db call).2 = .error e) ∨ ∃ prepared,
        prepare env call = .ok prepared ∧ (∃ status, (step env db call).2 = .ok status) ∧
        Synced (stripText call.instance_id) prepared db (step env db call).1 := by
  unfold step
  cases hPrepare : prepare env call with
  | error e => exact .inl ⟨rfl, e, rfl⟩
  | ok prepared =>
    dsimp only
    cases hCommit : transaction (stripText call.instance_id) call.now prepared db with
    | error e => exact .inl ⟨rfl, e, rfl⟩
    | ok db' => exact .inr ⟨prepared, rfl, ⟨_, rfl⟩, transaction_synced hSound hCommit⟩

theorem sound_step (hSound : Sound db) (call : Call) : Sound (step env db call).1 := by
  rcases @step_cases env _ hSound call with ⟨hSame, _⟩ | ⟨prepared, _, _, hSynced⟩
  · rw [hSame]
    exact hSound
  · exact hSynced.sound

/- The items of the last successful call of an instance. -/
def lastItems (history : List (Call × Except SyncError InventoryStatus))
    (instanceId : Text) : List Item :=
  history.foldl
    (fun items e =>
      if stripText e.1.instance_id = instanceId ∧ e.2.isOk then e.1.items
      else items) []

/- The owners of an instance are those of the items, and the route of each item is in the registry.
   -/
def OwnsExactly (env : Env) (db : Db) (instanceId : Text) (items : List Item) : Prop :=
  (∀ pool hash, (∃ o ∈ db.owners.rows, o.instance_id = instanceId ∧
        o.pool_id = pool ∧ o.route_hash = hash) ↔
      ∃ item ∈ items, ∃ x, OfItem env item x ∧ x.1 = pool ∧ x.2.route_hash = hash) ∧
    ∀ item ∈ items, ∃ x, OfItem env item x ∧ Routed db x.2

theorem ownsExactly_of_synced (hPrepare : prepare env call = .ok prepared)
    (hSynced : Synced (stripText call.instance_id) prepared db db') :
    OwnsExactly env db' (stripText call.instance_id)
      call.items := by
  constructor
  · intro pool hash
    rw [hSynced.own]
    constructor
    · rintro ⟨x, hx, hRest⟩
      rcases (prepare_ok hPrepare x).mp hx with ⟨item, hItem, hOf⟩
      exact ⟨item, hItem, x, hOf, hRest⟩
    · rintro ⟨item, hItem, x, hOf, hRest⟩
      exact ⟨x, (prepare_ok hPrepare x).mpr ⟨item, hItem, hOf⟩, hRest⟩
  · intro item hItem
    rcases prepare_total hPrepare item hItem with ⟨x, hOf⟩
    have hMem := (prepare_ok hPrepare x).mpr ⟨item, hItem, hOf⟩
    exact ⟨x, hOf, hSynced.routed x hMem⟩

theorem ownsExactly_of_others
    (hSynced : Synced caller prepared db db') (hOther : instanceId ≠ caller)
    (hOwns : OwnsExactly env db instanceId items) : OwnsExactly env db' instanceId items := by
  constructor
  · intro pool hash
    rw [← hOwns.1]
    constructor
    · rintro ⟨o, ho, hOwn, hRest⟩
      refine ⟨o, (hSynced.others o ?_).mp ho, hOwn, hRest⟩
      rw [hOwn]
      exact hOther
    · rintro ⟨o, ho, hOwn, hRest⟩
      refine ⟨o, (hSynced.others o ?_).mpr ho, hOwn, hRest⟩
      rw [hOwn]
      exact hOther
  · intro item hItem
    rcases hOwns.2 item hItem with ⟨x, hOf, r, hr, hHash, hRest⟩
    rcases (hOwns.1 x.1 x.2.route_hash).mpr
        ⟨item, hItem, x, hOf, rfl, rfl⟩ with
      ⟨o, ho, hOwn, _, hOwner⟩
    have hNot : o.instance_id ≠ caller := by
      rw [hOwn]
      exact hOther
    refine ⟨x, hOf, r, ?_, hHash, hRest⟩
    exact (hSynced.others_routes o ho hNot r (hHash.trans hOwner.symm)).mpr hr

theorem lastItems_append (history : List (Call × Except SyncError InventoryStatus)) (call : Call)
    (answer : Except SyncError InventoryStatus) (instanceId : Text) :
    lastItems (history ++ [(call, answer)]) instanceId =
      if stripText call.instance_id = instanceId ∧ answer.isOk then call.items
      else lastItems history instanceId := by
  rw [lastItems, foldl_append]
  rfl

/- The registry is sound and holds the last items of each
instance, whatever the calls were. -/
theorem owns_after (calls : List Call) :
    Sound (after env calls) ∧ ∀ instanceId, OwnsExactly env (after env calls) instanceId (lastItems
            (Machine.trace (step env) Db.initial calls) instanceId) := by
  have hHistory := @Machine.run_history _ _ _ (step env)
      (fun h db => Sound db ∧ ∀ instanceId, OwnsExactly env db instanceId (lastItems h instanceId))
      (fun h db call hState => by
        refine ⟨sound_step hState.1 call, ?_⟩
        intro instanceId
        rw [lastItems_append]
        rcases @step_cases env _ hState.1 call with
          ⟨hSame, e, hAnswer⟩ | ⟨prepared, hPrepare, ⟨status, hAnswer⟩, hSynced⟩
        · rw [hSame, hAnswer, if_neg (fun hOk => by
            cases hOk.2)]
          exact hState.2 instanceId
        · rw [hAnswer]
          by_cases hCaller : stripText call.instance_id = instanceId
          · rw [if_pos ⟨hCaller, rfl⟩, ← hCaller]
            exact ownsExactly_of_synced hPrepare hSynced
          · rw [if_neg (fun hOk => hCaller hOk.1)]
            exact ownsExactly_of_others hSynced (fun hSame => hCaller hSame.symm)
                (hState.2 instanceId))
      (h := []) (s := Db.initial)
      ⟨sound_initial, by
        intro instanceId
        constructor
        · intro pool hash
          constructor
          · rintro ⟨o, ho, _⟩
            cases ho
          · rintro ⟨item, hItem, _⟩
            cases hItem
        · intro item hItem
          cases hItem⟩
      calls
  rw [nil_append] at hHistory
  exact hHistory

/- After any calls, the routes are those owned by some pair, a suffix has one origin, each instance
   owns exactly its last items, and a further call leaves the others' owners and routes, and
   everything when it fails. -/
theorem registry_exact (env : Env) (calls : List Call) :
    (∀ hash, (∃ r ∈ (after env calls).routes.rows, r.route_hash = hash) ↔
        ∃ o ∈ (after env calls).owners.rows, o.route_hash = hash) ∧
      (∀ r ∈ (after env calls).routes.rows, ∀ r' ∈ (after env calls).routes.rows,
          r.raw_suffix = r'.raw_suffix → r.source_origin = r'.source_origin) ∧
      (∀ instanceId, OwnsExactly env (after env calls) instanceId (lastItems
            (Machine.trace (step env) Db.initial calls) instanceId)) ∧
      ∀ call, (∀ o, o.instance_id ≠ stripText call.instance_id → (o ∈ (step env (after env calls)
              call).1.owners.rows ↔ o ∈ (after env calls).owners.rows)) ∧
        (∀ o ∈ (after env calls).owners.rows, o.instance_id ≠ stripText call.instance_id →
            ∀ r : RouteRow, r.route_hash = o.route_hash → (r ∈ (step env (after env calls)
                  call).1.routes.rows ↔ r ∈ (after env calls).routes.rows)) ∧
        ((step env (after env calls) call).2.isOk = false →
          (step env (after env calls) call).1 = after env calls) := by
  rcases @owns_after env calls with ⟨hSound, hOwns⟩
  refine ⟨?_, ?_, hOwns, ?_⟩
  · intro hash
    constructor
    · rintro ⟨r, hr, rfl⟩
      exact hSound.owned r hr
    · rintro ⟨o, ho, rfl⟩
      exact hSound.routed o ho
  · intro r hr r' hr' hSuffix
    rw [hSound.suffixes r hr r' hr' hSuffix]
  · intro call
    rcases @step_cases env _ hSound call with
      ⟨hSame, e, hAnswer⟩ | ⟨prepared, _, ⟨status, hAnswer⟩, hSynced⟩
    · rw [hSame]
      exact ⟨fun _ _ => Iff.rfl, fun _ _ _ _ _ => Iff.rfl, fun _ => rfl⟩
    · refine ⟨hSynced.others, hSynced.others_routes, ?_⟩
      intro hFailed
      rw [hAnswer] at hFailed
      cases hFailed

end PhoneApiRelay
