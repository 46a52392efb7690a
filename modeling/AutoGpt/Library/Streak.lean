import Mathlib.Data.List.Basic
import Mathlib.Data.List.Induction
import Mathlib.Data.List.Perm.Basic

/-
  Streaks: the number of hits after the last reset of a list
  in order, and the same number without an order of reading.

  Key definitions: `Streak.trailing`, `Streak.since`

  Main theorems:
    * `Streak.trailing_eq_since`
    * `Streak.since_perm`
-/

open List

namespace Streak

variable {α : Type}

/- The hits at the end of the list, behind the last reset. -/
def trailing (hit reset : α → Bool) (items : List α) : Nat :=
  ((items.filter (fun a => hit a || reset a)).reverse.takeWhile (fun a => !reset a)).length

/- The hits that come after every reset. -/
def since (before : α → α → Bool) (hit reset : α → Bool) (items : List α) : Nat :=
  items.countP fun a => hit a && items.all fun b => !reset b || before b a

theorem trailing_append (items : List α) (last : α) :
    trailing hit reset (items ++ [last]) =
      if reset last then 0
      else if hit last then trailing hit reset items + 1
      else trailing hit reset items := by
  unfold trailing
  rw [filter_append, reverse_append]
  cases hReset : reset last with
  | true => simp [hReset]
  | false =>
    cases hHit : hit last with
    | true => simp [hReset, hHit]
    | false => simp [hReset, hHit]

/- In order, the last item has no say on the earlier hits unless it is a reset. -/
theorem since_append (items : List α) (last : α) (hBefore : ∀ a ∈ items, before a last)
    (hAfter : ∀ a ∈ items, before last a = false) (hApart : ∀ a, hit a → reset a = false) :
    since before hit reset (items ++ [last]) =
      if reset last then 0
      else if hit last then since before hit reset items + 1
      else since before hit reset items := by
  have hEarlier : ∀ a ∈ items, (items ++ [last]).all (fun b => !reset b || before b a) =
          (items.all (fun b => !reset b || before b a) && !reset last) := by
    intro a hA
    rw [all_append]
    simp [hAfter a hA]
  have hLast : items.all (fun b => !reset b || before b last) := by
    rw [all_eq_true]
    intro b hB
    rw [hBefore b hB, Bool.or_true]
  unfold since
  rw [countP_append]
  have hCount : items.countP
          (fun a => hit a && (items ++ [last]).all fun b => !reset b || before b a) =
        items.countP
          (fun a => hit a && (items.all (fun b => !reset b || before b a) && !reset last)) := by
    apply countP_congr
    intro a hA
    rw [hEarlier a hA]
  rw [hCount, countP_singleton, all_append, hLast]
  cases hReset : reset last with
  | true =>
    have hMiss : hit last = false := by
      by_contra hNot
      have hHit := hApart last ((Bool.not_eq_false _).mp hNot)
      rw [hReset] at hHit
      cases hHit
    simp [hMiss]
  | false =>
    cases hHit : hit last with
    | true => simp [hReset]
    | false => simp

/- In a list in order the trailing hits are those after every reset. -/
theorem trailing_eq_since (items : List α) (hSorted : items.Pairwise (fun a b => before a b))
    (hAsymm : ∀ a b, before a b → before b a = false)
    (hApart : ∀ a, hit a → reset a = false) :
    trailing hit reset items = since before hit reset items := by
  induction items using reverseRecOn with
  | nil => rfl
  | append_singleton items last ih =>
    rw [pairwise_append] at hSorted
    have hBefore : ∀ a ∈ items, before a last :=
      fun a hA => hSorted.2.2 a hA last (mem_singleton_self last)
    rw [trailing_append items last,
      since_append items last hBefore (fun a hA => hAsymm a last (hBefore a hA)) hApart,
      ih hSorted.1]

/- The count does not see the order of the list. -/
theorem since_perm (hPerm : items.Perm others) :
    since before hit reset items = since before hit reset others := by
  unfold since
  rw [hPerm.countP_eq]
  apply countP_congr
  intro a _
  have hAll :
      items.all (fun b => !reset b || before b a) = others.all (fun b => !reset b || before b a) :=
    Bool.eq_iff_iff.mpr (by
      rw [all_eq_true, all_eq_true]
      exact ⟨fun h b hB => h b (hPerm.mem_iff.mpr hB), fun h b hB => h b (hPerm.mem_iff.mp hB)⟩)
  rw [hAll]

end Streak
