import AutoGpt.Library.KeyedTable

/-
  Tables with a primary key and a partial unique index: among
  the active rows, no two belong to one group. The index is a
  field of the table. A statement that would break it fails,
  and so does the insertion of a key that is taken.

  Key definitions: `ActiveTable`, `ActiveTable.insert?`, `ActiveTable.update?`

  A statement that succeeds is characterized by what a key
  lookup returns after it:
    * `ActiveTable.find?_insert?`
    * `ActiveTable.find?_update?`
    * `ActiveTable.find?_deactivateWhere`
-/

open List
open KeyedTable

----
-- Tables And Statements
----

/- Rows with distinct keys; the active ones with distinct groups. -/
structure ActiveTable (Row Key Group : Type) (key : Row → Key) (group : Row → Group)
    (active : Row → Bool)
    extends KeyedTable Row Key key where
  active_unique :
    ∀ r ∈ rows, ∀ r' ∈ rows, active r → active r' → group r = group r' → r = r'

namespace ActiveTable

variable {Row Key Group : Type}
/- The table without rows. -/
def empty : ActiveTable Row Key Group key group active where
  toKeyedTable := KeyedTable.empty
  active_unique := nofun

/- A statement that has no active rows in its result, apart
   from old ones, cannot break the index. -/
def deactivateWhere (t : ActiveTable Row Key Group key group active) (p : Row → Bool)
    (f : Row → Row) (hKey : ∀ r, key (f r) = key r) (hIdle : ∀ r, active (f r) = false) :
    ActiveTable Row Key Group key group active where
  toKeyedTable := t.toKeyedTable.updateWhere p f hKey
  active_unique := by
    have hOld : ∀ r ∈ (t.toKeyedTable.updateWhere p f hKey).rows, active r → r ∈ t.rows := by
      intro r hMem hActive
      rcases mem_map.mp hMem with ⟨r', hMem', hSame⟩
      by_cases hp : p r'
      · rw [if_pos hp] at hSame
        rw [← hSame, hIdle] at hActive
        cases hActive
      · rw [if_neg hp] at hSame
        exact hSame ▸ hMem'
    intro r hr r' hr' hActive hActive' hGroup
    exact t.active_unique r (hOld r hr hActive) r' (hOld r' hr' hActive') hActive hActive' hGroup

variable [DecidableEq Row] [DecidableEq Group]

/- The result of a statement, unless it breaks the index. -/
def commit? (t : KeyedTable Row Key key) :
    Option (ActiveTable Row Key Group key group active) :=
  if hUnique : ∀ r ∈ t.rows, ∀ r' ∈ t.rows, active r → active r' →
        group r = group r' → r = r' then
    some { toKeyedTable := t, active_unique := hUnique }
  else none

variable [DecidableEq Key]

/- `INSERT`. -/
def insert? (t : ActiveTable Row Key Group key group active) (r : Row) :
    Option (ActiveTable Row Key Group key group active) :=
  if (t.find? (key r)).isSome then none
  else commit? (t.toKeyedTable.insertNew r)

/- `UPDATE ... SET f` on the row of one key. -/
def update? (t : ActiveTable Row Key Group key group active) (k : Key) (f : Row → Row)
    (hKey : ∀ r, key (f r) = key r) : Option (ActiveTable Row Key Group key group active) :=
  commit? (t.toKeyedTable.updateKey k f hKey)

end ActiveTable

----
-- Lookup After A Statement
----

namespace ActiveTable

variable {Row Key Group : Type}
variable {key : Row → Key} {group : Row → Group}
variable {active : Row → Bool}
variable {t u : ActiveTable Row Key Group key group active}

theorem find?_deactivateWhere [DecidableEq Key] (p : Row → Bool) (f : Row → Row)
    (hKey : ∀ r, key (f r) = key r) (hIdle : ∀ r, active (f r) = false) (k : Key) :
    (t.deactivateWhere p f hKey hIdle).find? k = (t.find? k).map fun r => if p r then f r else r :=
  KeyedTable.find?_updateWhere t.toKeyedTable p f hKey k

variable [DecidableEq Row] [DecidableEq Group]

theorem commit?_eq_some {t : KeyedTable Row Key key} (hCommit : commit? t = some u) :
    u.toKeyedTable = t := by
  unfold commit? at hCommit
  split at hCommit
  · rw [← Option.some.inj hCommit]
  · cases hCommit

variable [DecidableEq Key]

/- A row that was inserted is new, and the rest is as it was. -/
theorem find?_insert? (hInsert : t.insert? r = some u) :
    t.find? (key r) = none ∧ ∀ k, u.find? k = if key r = k then some r else t.find? k := by
  unfold insert? at hInsert
  split at hInsert
  next _ => cases hInsert
  next hFree =>
    have hNew : t.find? (key r) = none := by simpa using hFree
    refine ⟨hNew, ?_⟩
    intro k
    rw [commit?_eq_some hInsert]
    exact find?_insertNew t.toKeyedTable hNew k

theorem find?_update? (hUpdate : t.update? k f hKey = some u) (k' : Key) :
    u.find? k' = if k' = k then (t.find? k).map f else t.find? k' := by
  rw [commit?_eq_some hUpdate]
  by_cases hSame : k' = k
  · rw [if_pos hSame, hSame]
    exact find?_updateKey_self t.toKeyedTable k f hKey
  · rw [if_neg hSame]
    exact find?_updateKey_of_ne t.toKeyedTable f hKey hSame

/- A new key of a group without active rows is inserted. -/
theorem insert?_isSome (hNew : t.find? (key r) = none)
    (hFree : ∀ r' ∈ t.rows, active r' → group r' ≠ group r) :
    (t.insert? r).isSome := by
  have hRows := rows_insertNew t.toKeyedTable hNew
  unfold insert?
  rw [if_neg (by simp [hNew])]
  unfold commit?
  rw [dif_pos]
  · rfl
  · rw [hRows]
    intro r₁ h₁ r₂ h₂ hActive₁ hActive₂ hGroup
    rcases mem_append.mp h₁ with hOld₁ | hNew₁
    · rcases mem_append.mp h₂ with hOld₂ | hNew₂
      · exact t.active_unique r₁ hOld₁ r₂ hOld₂ hActive₁ hActive₂ hGroup
      · rw [mem_singleton.mp hNew₂] at hGroup
        exact absurd hGroup (hFree r₁ hOld₁ hActive₁)
    · rcases mem_append.mp h₂ with hOld₂ | hNew₂
      · rw [mem_singleton.mp hNew₁] at hGroup
        exact absurd hGroup.symm (hFree r₂ hOld₂ hActive₂)
      · rw [mem_singleton.mp hNew₁, mem_singleton.mp hNew₂]

/- An update that makes no row active cannot break the index. -/
theorem update?_isSome (hGroup : ∀ r, group (f r) = group r)
    (hActive : ∀ r, t.find? k = some r → active (f r) → active r) :
    (t.update? k f hKey).isSome := by
  have hMixed : ∀ r₀ r', t.find? k = some r₀ → key r' ≠ k → r' ∈ t.rows →
        active (f r₀) → active r' →
        group (f r₀) ≠ group r' := by
    intro r₀ r' hFound hOther hMem hNew hIs hSame
    have hOld := mem_of_find? hFound
    have hEq := t.active_unique r₀ hOld.1 r' hMem (hActive r₀ hFound hNew) hIs
        ((hGroup r₀).symm.trans hSame)
    exact hOther (hEq ▸ hOld.2)
  unfold update? commit?
  rw [dif_pos]
  · rfl
  · intro r hr r' hr' hIs hIs' hSame
    rcases mem_rows_updateKey hr with ⟨r₀, hFound, hNew⟩ | ⟨hOther, hMem⟩
    · rcases mem_rows_updateKey hr' with
        ⟨r₁, hFound', hNew'⟩ | ⟨hOther', hMem'⟩
      · rw [hNew, hNew', Option.some.inj (hFound.symm.trans hFound')]
      · rw [hNew] at hIs hSame
        exact absurd hSame (hMixed r₀ r' hFound hOther' hMem' hIs hIs')
    · rcases mem_rows_updateKey hr' with
        ⟨r₁, hFound', hNew'⟩ | ⟨hOther', hMem'⟩
      · rw [hNew'] at hIs' hSame
        exact absurd hSame.symm (hMixed r₁ r hFound' hOther hMem hIs' hIs)
      · exact t.active_unique r hMem r' hMem' hIs hIs' hSame

end ActiveTable
