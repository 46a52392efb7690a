import Mathlib.Data.List.Forall2
import Mathlib.Data.List.Nodup

/-
  Tables with a primary key: a row list whose keys are
  pairwise distinct, and the four statements a store runs on
  it. The key constraint is a field of the table, so no
  statement can build a table that breaks it.

  Key definitions: `KeyedTable`, `KeyedTable.find?`, `KeyedTable.insertNew`

  Every statement is characterized by what a key lookup
  returns after it:
    * `KeyedTable.find?_insertNew`
    * `KeyedTable.find?_updateWhere`
    * `KeyedTable.find?_deleteWhere`

  Two tables are `KeyedTable.Related` when they hold the same
  rows up to a relation of rows.
-/

open List

----
-- Columns Of A Session
----

/- A session writes the columns whose values differ from those that it has loaded. -/
def Column.written {α : Type} [DecidableEq α] (new loaded current : α) : α :=
  if new = loaded then current else new

----
-- Tables And Statements
----

/- Rows with pairwise distinct keys. -/
structure KeyedTable (Row Key : Type) (key : Row → Key) where
  rows : List Row
  keys_nodup : (rows.map key).Nodup

namespace KeyedTable

variable {Row Key : Type}

/- The table without rows. -/
def empty : KeyedTable Row Key key where
  rows := []
  keys_nodup := nodup_nil

/- Tables are equal when their rows are. -/
theorem ext_rows {t u : KeyedTable Row Key key} (hRows : t.rows = u.rows) : t = u := by
  cases t
  cases u
  cases hRows
  rfl

instance [DecidableEq Row] :
    DecidableEq (KeyedTable Row Key key) :=
  fun t u => decidable_of_iff (t.rows = u.rows) ⟨ext_rows, fun h => h ▸ rfl⟩

/- `DELETE ... WHERE p`. -/
def deleteWhere (t : KeyedTable Row Key key) (p : Row → Bool) :
    KeyedTable Row Key key where
  rows := t.rows.filter (fun r => !p r)
  keys_nodup := t.keys_nodup.sublist (List.Sublist.map key filter_sublist)

/- `UPDATE ... SET f WHERE p`; no update writes the key. -/
def updateWhere (t : KeyedTable Row Key key) (p : Row → Bool) (f : Row → Row)
    (hKey : ∀ r, key (f r) = key r) :
    KeyedTable Row Key key where
  rows := t.rows.map (fun r => if p r then f r else r)
  keys_nodup := by
    have hSame : (t.rows.map (fun r => if p r then f r else r)).map key = t.rows.map key := by
      rw [map_map]
      apply map_congr_left
      intro r _
      by_cases hr : p r <;> simp [hr, hKey]
    rw [hSame]
    exact t.keys_nodup

variable [DecidableEq Key]

/- The row of a key. -/
def find? (t : KeyedTable Row Key key) (k : Key) : Option Row :=
  t.rows.find? (fun r => decide (key r = k))

/- `INSERT`; a row whose key is taken is not inserted. -/
def insertNew (t : KeyedTable Row Key key) (r : Row) : KeyedTable Row Key key :=
  if hNew : key r ∈ t.rows.map key then t
  else
    { rows := t.rows ++ [r]
      keys_nodup := by
        rw [map_append, nodup_append]
        refine ⟨t.keys_nodup, by simp, ?_⟩
        intro a ha b hb hEq
        simp only [map_cons, map_nil, mem_singleton] at hb
        exact hNew (hb ▸ hEq ▸ ha) }

/- `INSERT OR REPLACE`: the row takes the place of its key. -/
def put (t : KeyedTable Row Key key) (r : Row) : KeyedTable Row Key key :=
  (t.deleteWhere (fun r' => decide (key r' = key r))).insertNew r

/- `UPDATE ... SET f` on the row of one key. -/
def updateKey (t : KeyedTable Row Key key) (k : Key) (f : Row → Row)
    (hKey : ∀ r, key (f r) = key r) : KeyedTable Row Key key :=
  t.updateWhere (fun r => decide (key r = k)) f hKey

----
-- Lookup After A Statement
----

/- A found row is in the table and has the key. -/
theorem mem_of_find? {t : KeyedTable Row Key key} (hFind : t.find? k = some r) :
    r ∈ t.rows ∧ key r = k := by
  refine ⟨mem_of_find?_eq_some hFind, ?_⟩
  simpa using find?_some hFind

/- Two rows of the table with one key are one row. -/
omit [DecidableEq Key] in
theorem eq_of_mem_of_key_eq {t : KeyedTable Row Key key} (hr : r ∈ t.rows)
    (hr' : r' ∈ t.rows) (hKey : key r = key r') : r = r' :=
  inj_on_of_nodup_map t.keys_nodup hr hr' hKey

/- Every row is found under its key. -/
theorem find?_of_mem {t : KeyedTable Row Key key} (hr : r ∈ t.rows) : t.find? (key r) = some r := by
  cases hFind : t.find? (key r) with
  | none =>
    have hNone := find?_eq_none.mp hFind r hr
    simp at hNone
  | some r' =>
    have hFound := mem_of_find? hFind
    rw [eq_of_mem_of_key_eq hFound.1 hr hFound.2]

/- Being a row is being found under some key. -/
theorem mem_rows_iff {t : KeyedTable Row Key key} : r ∈ t.rows ↔ t.find? (key r) = some r :=
  ⟨find?_of_mem, fun h => (mem_of_find? h).1⟩

/- A key is not found exactly when no row has it. -/
theorem find?_eq_none_iff {t : KeyedTable Row Key key} :
    t.find? k = none ↔ ∀ r ∈ t.rows, key r ≠ k := by
  simp [find?]

/- A conditional row update that keeps the key commutes with the key lookup. -/
theorem find?_updateWhere (t : KeyedTable Row Key key) (p : Row → Bool) (f : Row → Row)
    (hKey : ∀ r, key (f r) = key r) (k : Key) :
    (t.updateWhere p f hKey).find? k = (t.find? k).map (fun r => if p r then f r else r) := by
  unfold updateWhere find?
  rw [find?_map]
  have hSame : ((fun r => decide (key r = k)) ∘
          fun r => if p r then f r else r) =
        fun r => decide (key r = k) := by
    funext r
    by_cases hr : p r <;> simp [hr, hKey]
  rw [hSame]

/- A lookup in a table whose rows are all mapped. -/
theorem find?_of_rows_map {t u : KeyedTable Row Key key}
    (hKey : ∀ r, key (f r) = key r) (hRows : u.rows = t.rows.map f) (k : Key) :
    u.find? k = (t.find? k).map f := by
  unfold find?
  rw [hRows, find?_map]
  have hSame : ((fun r => decide (key r = k)) ∘ f) = fun r => decide (key r = k) := by
    funext r
    simp [hKey]
  rw [hSame]

/- An update that no row meets changes nothing. -/
omit [DecidableEq Key] in
theorem updateWhere_of_none (t : KeyedTable Row Key key)
    (hKey : ∀ r, key (f r) = key r) (hNone : ∀ r ∈ t.rows, p r = false) :
    t.updateWhere p f hKey = t := by
  apply ext_rows
  unfold updateWhere
  conv_rhs => rw [← map_id t.rows]
  apply map_congr_left
  intro r hr
  rw [if_neg (by simp [hNone r hr])]
  rfl

@[simp] theorem find?_updateKey_self (t : KeyedTable Row Key key) (k : Key) (f : Row → Row)
    (hKey : ∀ r, key (f r) = key r) : (t.updateKey k f hKey).find? k = (t.find? k).map f := by
  rw [updateKey, find?_updateWhere]
  cases hFind : t.find? k with
  | none => rfl
  | some r => simp [(mem_of_find? hFind).2]

theorem find?_updateKey_of_ne (t : KeyedTable Row Key key) (f : Row → Row)
    (hKey : ∀ r, key (f r) = key r) (hNe : k' ≠ k) :
    (t.updateKey k f hKey).find? k' = t.find? k' := by
  rw [updateKey, find?_updateWhere]
  cases hFind : t.find? k' with
  | none => rfl
  | some r => simp [(mem_of_find? hFind).2, hNe]

/- A row after a key update is the updated or an old row. -/
theorem mem_rows_updateKey {t : KeyedTable Row Key key} {k : Key} {f : Row → Row}
    {hKey : ∀ r, key (f r) = key r} {row : Row} (hRow : row ∈ (t.updateKey k f hKey).rows) :
    (∃ r, t.find? k = some r ∧ row = f r) ∨ (key row ≠ k ∧ row ∈ t.rows) := by
  rw [mem_rows_iff] at hRow
  by_cases hSame : key row = k
  · left
    rw [hSame, find?_updateKey_self] at hRow
    rcases Option.map_eq_some_iff.mp hRow with ⟨r, hr, hEq⟩
    exact ⟨r, hr, hEq.symm⟩
  · right
    rw [find?_updateKey_of_ne t f hKey hSame] at hRow
    exact ⟨hSame, mem_rows_iff.mpr hRow⟩

/- Every old row has its successor after a key update. -/
theorem exists_mem_updateKey {t : KeyedTable Row Key key} (k : Key)
    (hKey : ∀ r, key (f r) = key r) (hr : r ∈ t.rows) :
    (if key r = k then f r else r) ∈ (t.updateKey k f hKey).rows := by
  unfold updateKey updateWhere
  rw [mem_map]
  exact ⟨r, hr, by simp⟩

theorem find?_deleteWhere (t : KeyedTable Row Key key) (p : Row → Bool) (k : Key) :
    (t.deleteWhere p).find? k = (t.find? k).filter (fun r => !p r) := by
  cases hFind : t.find? k with
  | none =>
    rw [find?_eq_none_iff] at hFind
    rw [Option.filter_none, find?_eq_none_iff]
    intro r hr
    exact hFind r (mem_of_mem_filter hr)
  | some r =>
    have hFound := mem_of_find? hFind
    by_cases hp : p r
    · rw [Option.filter_some, if_neg (by simp [hp]), find?_eq_none_iff]
      intro r' hr' hKey'
      have hMem := mem_filter.mp hr'
      have hEq := eq_of_mem_of_key_eq hMem.1 hFound.1 (hKey'.trans hFound.2.symm)
      rw [hEq] at hMem
      simp [hp] at hMem
    · rw [Option.filter_some, if_pos (by simp [hp])]
      have hMem : r ∈ (t.deleteWhere p).rows := mem_filter.mpr ⟨hFound.1, by simp [hp]⟩
      have hSelf := find?_of_mem hMem
      rwa [hFound.2] at hSelf

/- The rows after the insertion of a new key. -/
theorem rows_insertNew (t : KeyedTable Row Key key) {r : Row} (hNew : t.find? (key r) = none) :
    (t.insertNew r).rows = t.rows ++ [r] := by
  have hNot : key r ∉ t.rows.map key := by
    intro hMem
    rcases mem_map.mp hMem with ⟨r', hr', hKey'⟩
    exact find?_eq_none_iff.mp hNew r' hr' hKey'
  simp [insertNew, hNot]

/- Membership after the insertion of a new key. -/
theorem mem_rows_insertNew {t : KeyedTable Row Key key} {r : Row} (hNew : t.find? (key r) = none)
    (x : Row) : x ∈ (t.insertNew r).rows ↔ x ∈ t.rows ∨ x = r := by
  rw [rows_insertNew t hNew]
  simp

theorem find?_insertNew (t : KeyedTable Row Key key) (hNew : t.find? (key r) = none)
    (k : Key) : (t.insertNew r).find? k = if key r = k then some r else t.find? k := by
  have hRows := rows_insertNew t hNew
  unfold find? at hNew ⊢
  rw [hRows, find?_append]
  by_cases hk : key r = k
  · subst hk
    simp [hNew]
  · simp [hk]

theorem find?_put (t : KeyedTable Row Key key) (r : Row) (k : Key) :
    (t.put r).find? k = if key r = k then some r else t.find? k := by
  have hNew : (t.deleteWhere (fun r' => decide (key r' = key r))).find? (key r) = none := by
    rw [find?_deleteWhere]
    cases hFind : t.find? (key r) with
    | none => rfl
    | some r' => simp [(mem_of_find? hFind).2]
  unfold put
  rw [find?_insertNew _ hNew]
  by_cases hk : key r = k
  · rw [if_pos hk, if_pos hk]
  · rw [if_neg hk, if_neg hk, find?_deleteWhere]
    cases hFind : t.find? k with
    | none => rfl
    | some r' =>
      have hKey := (mem_of_find? hFind).2
      simp [hKey, Ne.symm hk]

/- A row after a replacement is the new or an old row. -/
theorem mem_rows_put {t : KeyedTable Row Key key} (hRow : r' ∈ (t.put r).rows) :
    r' = r ∨ (key r' ≠ key r ∧ r' ∈ t.rows) := by
  rw [mem_rows_iff, find?_put] at hRow
  by_cases hk : key r = key r'
  · rw [if_pos hk] at hRow
    exact .inl (Option.some.inj hRow).symm
  · rw [if_neg hk] at hRow
    exact .inr ⟨Ne.symm hk, mem_rows_iff.mpr hRow⟩

end KeyedTable

----
-- Fresh Ids
----

namespace KeyedTable

variable {Row : Type} {key : Row → Nat}

/- The id of a new row: one more than the largest id. -/
def nextId (t : KeyedTable Row Nat key) : Nat := (t.rows.map key).foldr max 0 + 1

/- No member of a list is larger than their maximum. -/
omit key in
theorem le_foldr_max {ids : List Nat} (hMem : n ∈ ids) : n ≤ ids.foldr max 0 := by
  induction ids with
  | nil => cases hMem
  | cons a ids ih =>
    rcases mem_cons.mp hMem with hHead | hTail
    · rw [hHead]
      exact Nat.le_max_left _ _
    · exact Nat.le_trans (ih hTail) (Nat.le_max_right _ _)

/- Every id of the table is smaller than the next one. -/
theorem lt_nextId {t : KeyedTable Row Nat key} {r : Row} (hr : r ∈ t.rows) : key r < t.nextId := by
  have hBound := le_foldr_max (mem_map_of_mem (f := key) hr)
  unfold nextId
  omega

/- No row has the next id. -/
theorem find?_nextId (t : KeyedTable Row Nat key) : t.find? t.nextId = none := by
  rw [find?_eq_none_iff]
  intro r hr
  have hLt := lt_nextId hr
  omega

end KeyedTable

----
-- Counting After An Update
----

namespace KeyedTable

variable {Row Key : Type} {key : Row → Key}
variable [DecidableEq Key]

/- A row list with one row of the key counts that row once. -/
private theorem countP_update_list {rows : List Row} (hNodup : (rows.map key).Nodup)
    (hr : r ∈ rows) (f : Row → Row) (q : Row → Bool) :
    (rows.map (fun r' => if key r' = key r then f r' else r')).countP q + (if q r then 1 else 0) =
      rows.countP q + (if q (f r) then 1 else 0) := by
  induction rows with
  | nil => simp at hr
  | cons a rows ih =>
    simp only [map_cons, nodup_cons] at hNodup
    rcases mem_cons.mp hr with hEq | hTail
    · subst hEq
      have hRest : rows.map
              (fun r' => if key r' = key r then f r' else r') =
            rows := by
        conv_rhs => rw [← map_id rows]
        apply map_congr_left
        intro r' hr'
        have hNe : key r' ≠ key r := by
          intro hKey
          exact hNodup.1 (mem_map.mpr ⟨r', hr', hKey⟩)
        simp [hNe]
      simp only [map_cons, if_true, hRest, countP_cons]
      omega
    · have hNe : key a ≠ key r := by
        intro hKey
        exact hNodup.1 (mem_map.mpr ⟨r, hTail, hKey.symm⟩)
      have hIH := ih hNodup.2 hTail
      simp only [map_cons, hNe, if_false, countP_cons]
      omega

/- At most the row of a key is counted by a condition on it. -/
theorem countP_of_key (t : KeyedTable Row Key key) (hKey : ∀ r, p r → key r = k) :
    t.rows.countP p = if (t.find? k).any p then 1 else 0 := by
  cases hFind : t.find? k with
  | none =>
    rw [Option.any_none, if_neg (by simp), countP_eq_zero]
    intro r hr hp
    exact find?_eq_none_iff.mp hFind r hr (hKey r hp)
  | some r =>
    have hFound := mem_of_find? hFind
    have hOnly : ∀ r' ∈ t.rows, p r' → r' = r := by
      intro r' hr' hp
      exact eq_of_mem_of_key_eq hr' hFound.1 ((hKey r' hp).trans hFound.2.symm)
    rw [Option.any_some]
    by_cases hp : p r
    · rw [if_pos hp, countP_eq_length_filter]
      have hNodup : (t.rows.filter p).Nodup := (t.keys_nodup.of_map).filter p
      have hPerm : (t.rows.filter p).Perm [r] := by
        rw [perm_ext_iff_of_nodup hNodup (nodup_singleton r)]
        intro r'
        rw [mem_filter, mem_singleton]
        constructor
        · exact fun h => hOnly r' h.1 h.2
        · intro h
          rw [h]
          exact ⟨hFound.1, hp⟩
      exact hPerm.length_eq
    · rw [if_neg hp, countP_eq_zero]
      intro r' hr' hp'
      exact hp (hOnly r' hr' hp' ▸ hp')

/- Updating one row moves a count of rows by that row alone. -/
theorem countP_updateKey (t : KeyedTable Row Key key) {k : Key}
    (hFind : t.find? k = some r) (f : Row → Row) (hKey : ∀ r, key (f r) = key r) (q : Row → Bool) :
    (t.updateKey k f hKey).rows.countP q + (if q r then 1 else 0) =
      t.rows.countP q + (if q (f r) then 1 else 0) := by
  have hFound := mem_of_find? hFind
  have hCount := countP_update_list t.keys_nodup hFound.1 f q
  rw [hFound.2] at hCount
  simpa [updateKey, updateWhere] using hCount

end KeyedTable

----
-- Row By Row Relations
----

namespace KeyedTable

variable {Row Key : Type} {key : Row → Key}

/- The second table has the rows of the first one in order, each in the relation to its successor.
   -/
def Related (R : Row → Row → Prop) (t u : KeyedTable Row Key key) : Prop :=
  List.Forall₂ R t.rows u.rows

variable {t u v : KeyedTable Row Key key}

theorem Related.refl (hRefl : ∀ r, R r r) (t : KeyedTable Row Key key) : Related R t t :=
  forall₂_same.mpr fun r _ => hRefl r

theorem Related.trans (hTrans : ∀ r r' r'', R r r' → R r' r'' → R r r'') (hFirst : Related R t u)
    (hSecond : Related R u v) : Related R t v := by
  unfold Related at hFirst hSecond ⊢
  generalize t.rows = first at hFirst ⊢
  generalize u.rows = second at hFirst hSecond
  generalize v.rows = third at hSecond ⊢
  induction hFirst generalizing third with
  | nil =>
    cases hSecond
    exact .nil
  | cons hHead hTail ih =>
    cases hSecond with
    | cons hHead' hTail' => exact .cons (hTrans _ _ _ hHead hHead') (ih _ hTail')

/- Every row of the second table succeeds one of the first. -/
theorem Related.exists_left (hRelated : Related R t u) (hRow : r' ∈ u.rows) :
    ∃ r ∈ t.rows, R r r' := by
  unfold Related at hRelated
  generalize t.rows = first at hRelated ⊢
  generalize u.rows = second at hRelated hRow
  induction hRelated with
  | nil => cases hRow
  | cons hHead _ ih =>
    rcases mem_cons.mp hRow with hSame | hTail
    · exact ⟨_, mem_cons_self, hSame ▸ hHead⟩
    · rcases ih hTail with ⟨r, hr, hRel⟩
      exact ⟨r, mem_cons_of_mem _ hr, hRel⟩

/- A count that no successor joins does not grow. -/
theorem Related.countP_le (hCount : ∀ r r', R r r' → q r' → q r)
    (hRelated : Related R t u) : u.rows.countP q ≤ t.rows.countP q := by
  unfold Related at hRelated
  generalize t.rows = first at hRelated ⊢
  generalize u.rows = second at hRelated ⊢
  induction hRelated with
  | nil => exact Nat.le_refl _
  | @cons a b _ _ hHead _ ih =>
    rw [countP_cons, countP_cons]
    have hOne := hCount a b hHead
    by_cases hb : q b
    · rw [if_pos hb, if_pos (hOne hb)]
      omega
    · rw [if_neg hb]
      omega

/- A projection that successors keep is the same list. -/
theorem Related.map_eq {V : Type} {f : Row → V} (hSame : ∀ r r', R r r' → f r' = f r)
    (hRelated : Related R t u) : u.rows.map f = t.rows.map f := by
  unfold Related at hRelated
  generalize t.rows = first at hRelated ⊢
  generalize u.rows = second at hRelated ⊢
  induction hRelated with
  | nil => rfl
  | cons hHead _ ih => rw [map_cons, map_cons, hSame _ _ hHead, ih]

/- An update relates a table to the updated one. -/
theorem related_updateWhere (t : KeyedTable Row Key key) (p : Row → Bool) (f : Row → Row)
    (hKey : ∀ r, key (f r) = key r) (hRel : ∀ r ∈ t.rows, R r (if p r then f r else r)) :
    Related R t (t.updateWhere p f hKey) :=
  forall₂_map_right_iff.mpr (forall₂_same.mpr hRel)

variable [DecidableEq Key]

/- An update of one row, seen row by row. -/
theorem related_updateKey (t : KeyedTable Row Key key) (k : Key) (f : Row → Row)
    (hKey : ∀ r, key (f r) = key r) (hRefl : ∀ r, R r r)
    (hRel : ∀ r, t.find? k = some r → R r (f r)) : Related R t (t.updateKey k f hKey) := by
  apply related_updateWhere
  intro r hr
  by_cases hSame : key r = k
  · rw [decide_eq_true hSame, if_pos rfl]
    apply hRel
    rw [← hSame]
    exact find?_of_mem hr
  · rw [decide_eq_false hSame]
    exact hRefl r

/- Related rows have the same key, so lookups correspond. -/
theorem Related.find? (hKey : ∀ r r', R r r' → key r' = key r)
    (hRelated : Related R t u) (hFind : t.find? k = some r) :
    ∃ r', u.find? k = some r' ∧ R r r' := by
  have hExists : ∀ first second : List Row,
        List.Forall₂ R first second → r ∈ first → ∃ r' ∈ second, R r r' := by
    intro first second hAll hr
    induction hAll with
    | nil => cases hr
    | cons hHead _ ih =>
      rcases mem_cons.mp hr with hSame | hTail
      · exact ⟨_, mem_cons_self, hSame ▸ hHead⟩
      · rcases ih hTail with ⟨r', hr', hRel⟩
        exact ⟨r', mem_cons_of_mem _ hr', hRel⟩
  have hFound := mem_of_find? hFind
  rcases hExists _ _ hRelated hFound.1 with ⟨r', hr', hRel⟩
  refine ⟨r', ?_, hRel⟩
  rw [← hFound.2, ← hKey r r' hRel]
  exact find?_of_mem hr'

end KeyedTable
