import Mathlib.Data.List.Perm.Basic
import Mathlib.Data.List.Nodup

/-
  Events that each concern one key: what is read under a key
  after a run is decided by the events of that key alone, in
  their order, and not by how they lie between the others.

  Main theorems:
    * `KeyedEvents.read_foldl`
    * `KeyedEvents.read_foldl_congr`
    * `KeyedEvents.perm_of_find?_eq`
-/

open List

namespace KeyedEvents

----
-- Reading A Key
----

section Reading

variable {σ ε κ β : Type} [DecidableEq κ]
variable {read : κ → σ → β} {key : ε → κ}
variable {apply : σ → ε → σ} {effect : β → ε → β} {k : κ}
variable (hOwn : ∀ s e, key e = k → read k (apply s e) = effect (read k s) e)
  (hOther : ∀ s e, key e ≠ k → read k (apply s e) = read k s)
include hOwn hOther

/- The events of the key are replayed on what is read. -/
theorem read_foldl (events : List ε) (s : σ) :
    read k (events.foldl apply s) =
      (events.filter (fun e => key e = k)).foldl effect (read k s) := by
  induction events generalizing s with
  | nil => rfl
  | cons e events ih =>
    rw [foldl_cons, ih]
    by_cases hKey : key e = k
    · rw [filter_cons, if_pos (decide_eq_true hKey), foldl_cons, hOwn s e hKey]
    · rw [filter_cons, if_neg (fun h => hKey (of_decide_eq_true h)), hOther s e hKey]

/- Two runs with the same events of a key read the same. -/
theorem read_foldl_congr {events others : List ε}
    (hSame : events.filter (fun e => key e = k) = others.filter (fun e => key e = k)) (s : σ) :
    read k (events.foldl apply s) = read k (others.foldl apply s) := by
  rw [read_foldl hOwn hOther, read_foldl hOwn hOther, hSame]

end Reading

----
-- Tables With The Same Rows
----

section Tables

variable {α κ : Type} [DecidableEq κ] {key : α → κ}

theorem find?_of_mem {rows : List α} {row : α} (hKeys : (rows.map key).Nodup) (hRow : row ∈ rows) :
    rows.find? (fun a => key a = key row) = some row := by
  induction rows with
  | nil => cases hRow
  | cons first rows ih =>
    rw [map_cons, nodup_cons] at hKeys
    rcases mem_cons.mp hRow with rfl | hRest
    · rw [find?_cons_of_pos]
      exact decide_eq_true rfl
    · rw [find?_cons_of_neg]
      · exact ih hKeys.2 hRest
      · intro hIs
        apply hKeys.1
        rw [of_decide_eq_true hIs]
        exact mem_map_of_mem hRest

/- Tables that answer every key alike have the same rows. -/
theorem perm_of_find?_eq {rows others : List α} (hKeys : (rows.map key).Nodup)
    (hOtherKeys : (others.map key).Nodup)
    (hFind : ∀ k, rows.find? (fun a => key a = k) = others.find? (fun a => key a = k)) :
    rows.Perm others := by
  rw [perm_ext_iff_of_nodup hKeys.of_map hOtherKeys.of_map]
  intro row
  constructor
  · intro hRow
    have hFound := find?_of_mem hKeys hRow
    rw [hFind] at hFound
    exact mem_of_find?_eq_some hFound
  · intro hRow
    have hFound := find?_of_mem hOtherKeys hRow
    rw [← hFind] at hFound
    exact mem_of_find?_eq_some hFound

end Tables

end KeyedEvents
