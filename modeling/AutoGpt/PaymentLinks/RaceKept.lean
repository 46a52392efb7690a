import AutoGpt.PaymentLinks.Applied
import AutoGpt.PaymentLinks.Race

/-
  What an apply run of the history import leaves of the
  application's commits.

  Main theorems: `imports_keep_updates`
-/

open KeyedTable (empty find?_deleteWhere find?_put find?_updateKey_of_ne find?_updateKey_self
  mem_of_find?)
open Machine (Steps run)
open List
open Option

----
-- Writes On Two Tables
----

namespace PaymentLinks

theorem rel_cases {α β : Type} {R : α → β → Prop} {a : Option α} {b : Option β}
    (hRel : Option.Rel R a b) : (a = none ∧ b = none) ∨ ∃ x y, a = some x ∧ b = some y ∧ R x y := by
  cases hRel with
  | none => exact .inl ⟨rfl, rfl⟩
  | some hOne => exact .inr ⟨_, _, rfl, rfl, hOne⟩

/- Rows that agree apart from the import's keys. -/
def SameRow (r r' : Account) : Prop := Option.Rel SameApart r.extra r'.extra

def SameRows (t u : Accounts) : Prop := ∀ id, Option.Rel SameRow (t.find? id) (u.find? id)

theorem SameApart.refl (e : Dict Entry) : SameApart e e := fun _ _ => rfl

theorem SameRow.refl (r : Account) : SameRow r r := by
  unfold SameRow
  cases r.extra with
  | none => exact .none
  | some e => exact .some (SameApart.refl e)

theorem SameRows.refl (t : Accounts) : SameRows t t := by
  intro id
  cases t.find? id with
  | none => exact .none
  | some r => exact .some (SameRow.refl r)

variable {entries : List (String × Option Entry)}

theorem SameRows.entryOf_eq (hSame : SameRows t u) (id : Nat) (hKey : key ∉ IMPORT_KEYS) :
    entryOf t id key = entryOf u id key := by
  unfold entryOf
  rcases rel_cases (hSame id) with ⟨hLeft, hRight⟩ | ⟨r, r', hLeft, hRight, hRow⟩
  · rw [hLeft, hRight]
  · rw [hLeft, hRight]
    rcases rel_cases hRow with ⟨hNone, hNone'⟩ | ⟨e, e', hSome, hSome', hApart⟩
    · simp [hNone, hNone']
    · simp [hSome, hSome', hApart key hKey]

theorem lookup_assignKey (e : Dict Entry) (x : String × Option Entry) (key : String) :
    (assignKey e x).lookup key = if key = x.1 then x.2 else e.lookup key := by
  unfold assignKey
  by_cases hSame : key = x.1
  · rw [if_pos hSame]
    subst hSame
    cases x.2 with
    | none => simp
    | some v => simp
  · rw [if_neg hSame]
    cases x.2 with
    | none => exact Finmap.lookup_erase_ne hSame
    | some v => exact Finmap.lookup_insert_of_ne _ hSame

theorem lookup_assignKeys_congr (entries : List (String × Option Entry))
    (hSame : e.lookup key = e'.lookup key) :
    (entries.foldl assignKey e).lookup key = (entries.foldl assignKey e').lookup key := by
  induction entries generalizing e e' with
  | nil => exact hSame
  | cons x entries ih =>
    apply ih
    rw [lookup_assignKey, lookup_assignKey, hSame]

theorem lookup_assignKeys_of_mem (hKey : key ∈ entries.map Prod.fst) (e e' : Dict Entry) :
    (entries.foldl assignKey e).lookup key = (entries.foldl assignKey e').lookup key := by
  induction entries generalizing e e' with
  | nil => cases hKey
  | cons x entries ih =>
    rcases mem_cons.mp hKey with hHead | hTail
    · have hOne : (assignKey e x).lookup key = (assignKey e' x).lookup key := by
        rw [lookup_assignKey, lookup_assignKey, if_pos hHead, if_pos hHead]
      exact lookup_assignKeys_congr entries hOne
    · exact ih hTail _ _

theorem lookup_assignKeys_of_not_mem (hKey : key ∉ entries.map Prod.fst) (e : Dict Entry) :
    (entries.foldl assignKey e).lookup key = e.lookup key := by
  induction entries generalizing e with
  | nil => rfl
  | cons x entries ih =>
    rw [map_cons, mem_cons, not_or] at hKey
    rw [foldl_cons, ih hKey.2, lookup_assignKey, if_neg hKey.1]

theorem SameApart.assignKeys (entries : List (String × Option Entry)) (hApart : SameApart e e') :
    SameApart (entries.foldl assignKey e) (entries.foldl assignKey e') :=
  fun key hKey => lookup_assignKeys_congr entries (hApart key hKey)

theorem SameRow.assignKeys (entries : List (String × Option Entry)) {r r' : Account}
    (hRow : SameRow r r') :
    SameRow (PaymentLinks.assignKeys entries r) (PaymentLinks.assignKeys entries r') := by
  unfold SameRow PaymentLinks.assignKeys
  rcases rel_cases hRow with ⟨hNone, hNone'⟩ | ⟨e, e', hSome, hSome', hApart⟩
  · rw [hNone, hNone']
    exact .none
  · rw [hSome, hSome']
    exact .some (hApart.assignKeys entries)

/- A write on two tables that agree. -/
theorem SameRows.write (hSame : SameRows t u) (w : AccountWrite) :
    SameRows (w.run t) (w.run u) := by
  intro id
  have hRow := hSame id
  cases w with
  | put row =>
    unfold AccountWrite.run
    rw [find?_put, find?_put]
    by_cases hId : row.id = id
    · rw [if_pos hId, if_pos hId]
      exact .some (SameRow.refl row)
    · rw [if_neg hId, if_neg hId]
      exact hRow
  | assign id' entries =>
    unfold AccountWrite.run
    by_cases hId : id = id'
    · subst hId
      rw [find?_updateKey_self, find?_updateKey_self]
      rcases rel_cases hRow with ⟨hNone, hNone'⟩ | ⟨r, r', hSome, hSome', hOne⟩
      · rw [hNone, hNone']
        exact .none
      · rw [hSome, hSome']
        exact .some (hOne.assignKeys entries)
    · rw [find?_updateKey_of_ne _ _ _ hId, find?_updateKey_of_ne _ _ _ hId]
      exact hRow
  | remove id' =>
    unfold AccountWrite.run
    rw [find?_deleteWhere, find?_deleteWhere]
    by_cases hId : id = id'
    · have hGone : ∀ t : Accounts, (t.find? id).filter (fun r => !decide (r.id = id')) = none := by
        intro t
        cases hFind : t.find? id with
        | none => rfl
        | some r =>
          have hKey := (mem_of_find? hFind).2
          rw [filter_some, if_neg (by simp [hKey, hId])]
      rw [hGone, hGone]
      exact .none
    · have hStays :
          ∀ t : Accounts, (t.find? id).filter (fun r => !decide (r.id = id')) = t.find? id := by
        intro t
        cases hFind : t.find? id with
        | none => rfl
        | some r =>
          have hKey := (mem_of_find? hFind).2
          rw [filter_some, if_pos (by simp [hKey, hId])]
      rw [hStays, hStays]
      exact hRow

----
-- Links After A Transaction
----

/- The links that were committed since the snapshot and meet a condition are the same in both
   tables. -/
def LinksKept (C : Nat → Option Entry → Prop) (t u : Accounts) (fresh : Nat → Bool) : Prop :=
  ∀ id, fresh id →
    C id (entryOf u id LINK_KEY) → entryOf t id LINK_KEY = entryOf u id LINK_KEY

theorem entryOf_assign (t : Accounts) (id id' : Nat) (entries : List (String × Option Entry))
    (key : String) :
    entryOf ((AccountWrite.assign id' entries).run t) id key =
      if id = id' then
        ((t.find? id).bind Account.extra).bind (fun e => (entries.foldl assignKey e).lookup key)
      else entryOf t id key := by
  unfold entryOf AccountWrite.run
  by_cases hId : id = id'
  · subst hId
    rw [if_pos rfl, find?_updateKey_self]
    cases t.find? id with
    | none => rfl
    | some r =>
      unfold assignKeys
      cases hExtra : r.extra with
      | none => simp [hExtra]
      | some e => simp [hExtra]
  · rw [if_neg hId, find?_updateKey_of_ne _ _ _ hId]

/- After a write the account's link is the same in both tables, or the write did not touch it. -/
theorem link_of_write (hSame : SameRows t u) (w : AccountWrite) (id : Nat) :
    entryOf (w.run t) id LINK_KEY = entryOf (w.run u) id LINK_KEY ∨ (w.commitsLink id = false ∧
        entryOf (w.run t) id LINK_KEY = entryOf t id LINK_KEY ∧
        entryOf (w.run u) id LINK_KEY = entryOf u id LINK_KEY) := by
  cases w with
  | put row =>
    have hPut : ∀ t : Accounts, entryOf ((AccountWrite.put row).run t) id LINK_KEY =
            if row.id = id then row.extra.bind (fun e => e.lookup LINK_KEY)
            else entryOf t id LINK_KEY := by
      intro t
      unfold entryOf AccountWrite.run
      rw [find?_put]
      split <;> rfl
    rw [hPut t, hPut u]
    by_cases hId : row.id = id
    · left
      rw [if_pos hId, if_pos hId]
    · right
      rw [if_neg hId, if_neg hId]
      exact ⟨by simp [AccountWrite.commitsLink, hId], rfl, rfl⟩
  | assign id' entries =>
    rw [entryOf_assign, entryOf_assign]
    by_cases hId : id = id'
    · rw [if_pos hId, if_pos hId]
      by_cases hKey : LINK_KEY ∈ entries.map Prod.fst
      · left
        rcases rel_cases (hSame id) with ⟨hLeft, hRight⟩ | ⟨r, r', hLeft, hRight, hRow⟩
        · rw [hLeft, hRight]
        · rw [hLeft, hRight]
          rcases rel_cases hRow with ⟨hNone, hNone'⟩ | ⟨e, e', hSome, hSome', _⟩
          · simp [hNone, hNone']
          · simp [hSome, hSome', lookup_assignKeys_of_mem hKey e e']
      · right
        have hKeeps : (fun e : Dict Entry =>
              (entries.foldl assignKey e).lookup LINK_KEY) = fun e => e.lookup LINK_KEY :=
          funext fun e => lookup_assignKeys_of_not_mem hKey e
        rw [hKeeps]
        refine ⟨?_, rfl, rfl⟩
        exact decide_eq_false fun hBoth => hKey hBoth.2
    · right
      rw [if_neg hId, if_neg hId]
      refine ⟨?_, rfl, rfl⟩
      exact decide_eq_false fun hBoth => hId hBoth.1.symm
  | remove id' =>
    have hRemove : ∀ t : Accounts, entryOf ((AccountWrite.remove id').run t) id
              LINK_KEY =
            if id = id' then none
            else entryOf t id LINK_KEY := by
      intro t
      unfold entryOf AccountWrite.run
      rw [find?_deleteWhere]
      cases hFind : t.find? id with
      | none => simp
      | some r =>
        have hKey := (mem_of_find? hFind).2
        by_cases hId : id = id'
        · rw [filter_some, if_neg (by simp [hKey, hId]), if_pos hId]
          rfl
        · rw [filter_some, if_pos (by simp [hKey, hId]), if_neg hId]
    rw [hRemove t, hRemove u]
    by_cases hId : id = id'
    · left
      rw [if_pos hId, if_pos hId]
    · right
      rw [if_neg hId, if_neg hId]
      exact ⟨rfl, rfl, rfl⟩

theorem writes_keep {C : Nat → Option Entry → Prop} (writes : List AccountWrite) {t u : Accounts}
    {fresh : Nat → Bool} (hSame : SameRows t u) (hLinks : LinksKept C t u fresh) :
    SameRows (writes.foldl AccountWrite.run t) (writes.foldl AccountWrite.run u) ∧
      LinksKept C (writes.foldl AccountWrite.run t) (writes.foldl AccountWrite.run u)
        (fun id => fresh id || writes.any (AccountWrite.commitsLink id)) := by
  induction writes generalizing t u fresh with
  | nil =>
    refine ⟨hSame, ?_⟩
    simpa using hLinks
  | cons w writes ih =>
    have hOne : LinksKept C (w.run t) (w.run u) (fun id => fresh id || w.commitsLink id) := by
      intro id hFresh hC
      rcases link_of_write hSame w id with hEq | ⟨hNot, hLeft, hRight⟩
      · exact hEq
      · dsimp only at hFresh
        rw [hNot, Bool.or_false] at hFresh
        rw [hRight] at hC
        rw [hLeft, hRight]
        exact hLinks id hFresh hC
    have hNext := ih (hSame.write w) hOne
    refine ⟨hNext.1, ?_⟩
    simpa [Bool.or_assoc] using hNext.2

----
-- Invariants Of A Run
----

theorem sameApart_withCurrentLink (env : Env) (extra : Dict Entry) (s : SourceLink) :
    SameApart (withCurrentLink env extra s) extra := by
  intro key hKey
  unfold IMPORT_KEYS LINK_KEY at hKey
  simp only [mem_cons, not_mem_nil, or_false, not_or] at hKey
  exact lookup_withCurrentLink env extra s hKey.1 hKey.2

/- The links of a database that a plan must not replace. -/
def Guarded (job : Job) (w : World) (d : String) (id : Nat) (e : Option Entry) : Prop :=
  ∃ s, latest_by_account (w.records job d) id = some s ∧ AtOrAfter job.env s.completed_at e

/- Targets are applied in order, after all were read; a target not yet applied holds what the
   application committed, and an applied one agrees with it apart from older links. -/
structure Kept (job : Job) (w : World) : Prop where
  applied_prefix : w.applied = job.databases.take w.applied.length
  read_first : w.applied ≠ [] → w.snapshots.length = job.databases.length
  untouched : ∀ d, d ∉ w.applied → (w.db d).accounts = w.alone d
  same_rows : ∀ d, SameRows (w.db d).accounts (w.alone d)
  links :
    ∀ d, d ∈ w.applied → LinksKept (Guarded job w d) (w.db d).accounts (w.alone d) (w.fresh_link d)

theorem kept_start (job : Job) (db : String → Target) :
    Kept job (start db) where
  applied_prefix := rfl
  read_first := fun hNot => absurd rfl hNot
  untouched := fun _ _ => rfl
  same_rows := fun _ => SameRows.refl _
  links := by
    intro d hMem
    cases hMem

theorem Kept.load (hKept : Kept job w) : Kept job (loadStep job w) := by
  unfold loadStep
  cases hNext : nextLoad job w with
  | none => exact hKept
  | some d =>
    have hShort : w.snapshots.length < job.databases.length := by
      unfold nextLoad at hNext
      split at hNext
      · cases hNext
      · exact (List.getElem?_eq_some_iff.mp hNext).1
    have hNone : w.applied = [] := by
      by_contra hSome
      have hRead := hKept.read_first hSome
      omega
    constructor
    · exact hKept.applied_prefix
    · intro hNot
      exact absurd hNone hNot
    · exact hKept.untouched
    · exact hKept.same_rows
    · intro d' hMem
      dsimp only at hMem
      rw [hNone] at hMem
      cases hMem

theorem Kept.app (hKept : Kept job w) (d : String) (writes : List AccountWrite)
    (generations : Generations) : Kept job (appStep d writes generations w) := by
  constructor
  · exact hKept.applied_prefix
  · exact hKept.read_first
  · intro d' hNot
    have hOld := hKept.untouched d' hNot
    unfold appStep
    dsimp only
    by_cases hSame : d' = d
    · subst hSame
      rw [Function.update_self, Function.update_self]
      rw [hOld]
    · rw [Function.update_of_ne hSame, Function.update_of_ne hSame]
      exact hOld
  · intro d'
    have hOld := hKept.same_rows d'
    unfold appStep
    dsimp only
    by_cases hSame : d' = d
    · subst hSame
      rw [Function.update_self, Function.update_self]
      exact (@writes_keep (fun _ _ => False) writes _ _ (fun _ => false) hOld
          (fun _ _ hFalse => hFalse.elim)).1
    · rw [Function.update_of_ne hSame, Function.update_of_ne hSame]
      exact hOld
  · intro d' hMem
    have hOld := hKept.links d' hMem
    have hRows := hKept.same_rows d'
    unfold appStep
    dsimp only
    by_cases hSame : d' = d
    · subst hSame
      rw [Function.update_self, Function.update_self, Function.update_self]
      exact (writes_keep writes hRows hOld).2
    · rw [Function.update_of_ne hSame, Function.update_of_ne hSame, Function.update_of_ne hSame]
      exact hOld

theorem nextApply_eq (hNext : nextApply job w = some (d, sn)) :
    w.snapshots.length = job.databases.length ∧ job.databases[w.applied.length]? = some d := by
  unfold nextApply at hNext
  split at hNext
  · cases hNext
  next hGuard =>
    rw [not_or, ne_eq, not_not] at hGuard
    refine ⟨hGuard.2, ?_⟩
    split at hNext
    next hDatabase _ =>
      cases hNext
      exact hDatabase
    · cases hNext

theorem Kept.not_applied (hKept : Kept job w) (hNext : job.databases[w.applied.length]? = some d) :
    d ∉ w.applied := by
  intro hMem
  rw [hKept.applied_prefix] at hMem
  rcases List.getElem?_eq_some_iff.mp hNext with ⟨hLt, hGet⟩
  rcases mem_take_iff_getElem.mp hMem with ⟨i, hi, hGet'⟩
  have hIndex := (job.databases_nodup.getElem_inj_iff).mp (hGet'.trans hGet.symm)
  omega

/- The row after the transaction, in a table that nobody disturbed. -/
theorem cachedRow_keeps {now_iso : String} {id : Nat} {row : Account}
    (hQuiet : Undisturbed job w (.apply now_iso)) (hNext : nextApply job w = some (d, sn))
    (hFind : (w.db d).accounts.find? id = some row) :
    SameRow (cachedRow job.env now_iso sn (w.records job d) id row) row ∧
      (w.fresh_link d id → Guarded job w d id (row.extra.bind (fun e => e.lookup LINK_KEY)) →
        cachedRow job.env now_iso sn (w.records job d) id row = row) := by
  unfold cachedRow
  cases hAccount : sn.account id with
  | none => exact ⟨SameRow.refl row, fun _ _ => rfl⟩
  | some a =>
    cases hLatest : latest_by_account (w.records job d) id with
    | none => exact ⟨SameRow.refl row, fun _ _ => rfl⟩
    | some s =>
      dsimp only
      cases hExtra : a.extra with
      | none => exact ⟨SameRow.refl row, fun _ _ => rfl⟩
      | some extra =>
        dsimp only
        split
        next hBoth =>
          have hAction : current_cache_action job.env a.extra s = .updated := by
            rw [hExtra]
            unfold current_cache_action
            simp [hBoth.1]
          have hRow := hQuiet d sn id a s row hNext hAccount hLatest hAction hFind hBoth.2
          have hA := Snapshot.account_id_of_account hAccount
          constructor
          · have hExtra' := hRow.1
            rw [hExtra] at hExtra'
            unfold SameRow linked_account
            rcases rel_cases hExtra' with ⟨hBad, _⟩ | ⟨e, e', hE, hE', hApart⟩
            · cases hBad
            · cases hE
              rw [hE']
              refine .some fun key hKey => ?_
              rw [sameApart_withCurrentLink _ _ _ key hKey]
              exact hApart key hKey
          · intro hFresh hGuarded
            exfalso
            rcases hGuarded with ⟨s', hs', hAfter⟩
            rw [hLatest] at hs'
            cases hs'
            rw [← hA] at hFresh
            apply hRow.2 hFresh
            unfold entryOf
            rw [hA, hFind]
            exact hAfter
        · exact ⟨SameRow.refl row, fun _ _ => rfl⟩

theorem Kept.apply (hKept : Kept job w) (now_iso : String)
    (hQuiet : Undisturbed job w (.apply now_iso)) : Kept job (applyStep job now_iso w) := by
  unfold applyStep
  cases hNext : nextApply job w with
  | none => exact hKept
  | some next =>
    rcases next with ⟨d, sn⟩
    dsimp only
    cases hApply : apply_target_plan job.env now_iso sn (w.records job d) (w.db d) with
    | none => exact
          ⟨hKept.applied_prefix, hKept.read_first, hKept.untouched, hKept.same_rows, hKept.links⟩
    | some t =>
      have hData := nextApply_eq hNext
      have hNew := hKept.not_applied hData.2
      have hOld := hKept.untouched d hNew
      have hAfter := find?_apply_target_plan job.env hApply
      have hRows : SameRows t.accounts (w.alone d) := by
        intro id
        rw [hAfter id, ← hOld]
        cases hFind : (w.db d).accounts.find? id with
        | none => exact .none
        | some row => exact .some (cachedRow_keeps hQuiet hNext hFind).1
      have hLinks : LinksKept (Guarded job w d) t.accounts (w.alone d) (w.fresh_link d) := by
        intro id hFresh hGuarded
        rw [← hOld] at hGuarded ⊢
        unfold entryOf at hGuarded ⊢
        rw [hAfter id]
        cases hFind : (w.db d).accounts.find? id with
        | none => rfl
        | some row =>
          rw [hFind] at hGuarded
          have hRow := (cachedRow_keeps hQuiet hNext hFind).2 hFresh hGuarded
          rw [map_some, hRow]
      constructor
      · dsimp only
        rw [length_append, length_singleton, take_add_one, hData.2,
          ← hKept.applied_prefix]
        rfl
      · intro _
        exact hData.1
      · intro d' hNot
        dsimp only at hNot ⊢
        rw [mem_append, mem_singleton, not_or] at hNot
        rw [Function.update_of_ne hNot.2]
        exact hKept.untouched d' hNot.1
      · intro d'
        dsimp only
        by_cases hSame : d' = d
        · subst hSame
          rw [Function.update_self]
          exact hRows
        · rw [Function.update_of_ne hSame]
          exact hKept.same_rows d'
      · intro d' hMem
        dsimp only at hMem ⊢
        by_cases hSame : d' = d
        · subst hSame
          rw [Function.update_self]
          exact hLinks
        · rw [Function.update_of_ne hSame]
          rw [mem_append, mem_singleton] at hMem
          exact hKept.links d' (hMem.resolve_right hSame)

theorem kept_step (hKept : Kept job w) (hQuiet : Undisturbed job w op) :
    Kept job (raceStep job w op).1 := by
  cases op with
  | load => exact hKept.load
  | apply now_iso => exact hKept.apply now_iso hQuiet
  | fail =>
    exact ⟨hKept.applied_prefix, hKept.read_first, hKept.untouched, hKept.same_rows, hKept.links⟩
  | app d writes generations => exact hKept.app d writes generations

theorem Kept.keeps (hKept : Kept job w) : KeepsKeys w ∧ KeepsLinks job w := by
  constructor
  · intro d id key hKey
    exact (hKept.same_rows d).entryOf_eq id hKey
  · intro d id s hLatest hFresh hAfter
    by_cases hMem : d ∈ w.applied
    · exact hKept.links d hMem id hFresh ⟨s, hLatest, hAfter⟩
    · rw [hKept.untouched d hMem]

/- An apply run that finds no planned account disturbed keeps every commit of the application, in
   every state. -/
theorem imports_keep_updates (job : Job) (db : String → Target) (ops : List Op)
    (hSteps : Steps (raceStep job) (Undisturbed job) (start db) ops) :
    ∀ before after, ops = before ++ after → KeepsKeys (run (raceStep job) (start db) before) ∧
          KeepsLinks job (run (raceStep job) (start db) before) := by
  intro before after hSplit
  rw [hSplit, Machine.steps_append] at hSteps
  have hKept : Kept job (run (raceStep job) (start db) before) :=
    Machine.run_induction_of_steps (P := Kept job) (fun _ _ hKept hQuiet => kept_step hKept hQuiet)
      (kept_start job db) hSteps.1
  exact hKept.keeps

/- Nothing was disturbed when the rows of the snapshot are still there and no link was committed
   since. -/
theorem undisturbed_of_current (now_iso : String)
    (hCurrent : ∀ d sn, nextApply job w = some (d, sn) →
        sn = load_target_snapshot job.env job.platform { w.db d with database := d } ∧
          ∀ id, w.fresh_link d id = false) :
    Undisturbed job w (.apply now_iso) := by
  intro d sn id a s row hNext hAccount _ _ hFind _
  have hNow := hCurrent d sn hNext
  rw [hNow.1, account_load] at hAccount
  rw [hFind] at hAccount
  rcases map_eq_some_iff.mp hAccount with ⟨row', hRow', hEq⟩
  have hSame := (filter_eq_some_iff.mp hRow').1
  cases hSame
  constructor
  · rw [← hEq]
    exact SameRow.refl row
  · intro hTrue
    rw [hNow.2] at hTrue
    cases hTrue

----
-- A Commit Inside The Window
----

def raceEnv : Env where
  lower := fun s => String.ofList (s.toList.map Char.toLower)
  upper := fun s => String.ofList (s.toList.map Char.toUpper)
  float_text := fun _ => none
  iso_time := fun s =>
    if s = "2023-11-14T22:13:20+00:00" then some 1700000000
    else none
  iso_epoch := fun t => if t = 1700000000 then "2023-11-14T22:13:20+00:00" else ""
  url_raises := fun _ => false
  payment_link_type_from_payload := fun _ => "pix"

def raceSource : SourceLink where
  job_id := "job-one"
  completed_at := 1700000000
  account_email := "one@example.test"
  url := "https://pay.example.test/one"
  link_type := "pix"
  source := "admin"
  billing_country := "BR"
  currency := "BRL"
  payment_method_type := "pix"
  cs_id := "cs-job-one"
  link_expires_at := some 1700003600

def raceJob : Job where
  env := raceEnv
  platform := "chatgpt"
  sources := [raceSource]
  databases := ["account_manager.db"]
  databases_nodup := by decide

def raceAccount : Account where
  id := 1
  platform := "chatgpt"
  email := "one@example.test"
  cashier_url := ""
  extra := some ∅
  created_at := "2026-07-01 00:00:00"
  updated_at := "2026-07-01 00:00:00"

def raceTarget : Target where
  database := "account_manager.db"
  schema := ⟨true, true, true, true⟩
  accounts := empty.put raceAccount
  generations := ⟨empty, nodup_nil⟩

/- The application stores a token of the account. -/
def tokenWrite : Op := .app "account_manager.db"
    [.assign 1 [("access_token", some (.plain (.text "new-token")))]]
    raceTarget.generations

/- A token that is stored before the run reads the account. -/
theorem imports_keep_updates_before_load :
    KeepsKeys (run (raceStep raceJob) (start fun _ => raceTarget)
          [tokenWrite, .load, .apply "2026-07-02T00:00:00+00:00"]) ∧ KeepsLinks raceJob
        (run (raceStep raceJob) (start fun _ => raceTarget)
          [tokenWrite, .load, .apply "2026-07-02T00:00:00+00:00"]) := by
  have hSteps : Steps (raceStep raceJob) (Undisturbed raceJob)
        (start fun _ => raceTarget)
        [tokenWrite, .load, .apply "2026-07-02T00:00:00+00:00"] := by
    refine ⟨trivial, trivial, ?_, trivial⟩
    apply undisturbed_of_current
    intro d sn hNext
    have hComputed : nextApply raceJob
            (run (raceStep raceJob) (start fun _ => raceTarget) [tokenWrite, .load]) =
          some ("account_manager.db", load_target_snapshot raceEnv "chatgpt"
              { (run (raceStep raceJob)
                  (start fun _ => raceTarget)
                  [tokenWrite, .load]).db "account_manager.db"
                with database := "account_manager.db" }) := rfl
    have hPair := some.inj (hNext.symm.trans hComputed)
    cases hPair
    exact ⟨rfl, fun _ => rfl⟩
  exact imports_keep_updates raceJob _ _ hSteps _ [] (append_nil _).symm

/- A token that is stored between the snapshot and the transaction is gone after the transaction. -/
theorem stored_token_lost :
    ¬ ∀ (job : Job) (db : String → Target) (ops : List Op),
        KeepsKeys (run (raceStep job) (start db) ops) ∧
          KeepsLinks job (run (raceStep job) (start db) ops) := by
  intro hAll
  have hKeys :=
    (hAll raceJob (fun _ => raceTarget) [.load, tokenWrite, .apply "2026-07-02T00:00:00+00:00"]).1
  have hToken := hKeys "account_manager.db" 1 "access_token" (by decide)
  have hLost : (entryOf
        ((run (raceStep raceJob) (start fun _ => raceTarget)
          [.load, tokenWrite, .apply "2026-07-02T00:00:00+00:00"]).db "account_manager.db").accounts
        1 "access_token").isSome = false := by
    decide +kernel
  have hStored : (entryOf
        ((run (raceStep raceJob) (start fun _ => raceTarget)
          [.load, tokenWrite, .apply "2026-07-02T00:00:00+00:00"]).alone "account_manager.db")
        1 "access_token").isSome := by
    decide +kernel
  rw [hToken, hStored] at hLost
  cases hLost

end PaymentLinks
