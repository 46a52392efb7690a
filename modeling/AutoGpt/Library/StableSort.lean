import Mathlib.Data.List.Pairwise
import Mathlib.Data.List.Sort

/-
  Sorting by several keys. A row order is a list of terms, the
  first one counts most. A list that is ordered by the later
  terms stays ordered by them within the ties of a stable sort
  by an earlier one, so that stable sorts in reverse order
  give the order of all terms.

  Key definitions: `StableSort.Term`, `StableSort.lex`

  The rules used by clients are:
    * `StableSort.pairwise_insertionSort`
    * `StableSort.pairwise_append`
    * `StableSort.eq_iff_le`
-/

open List

----
-- Terms
----

namespace StableSort

variable {α κ : Type}

/- A term tells which of two rows may stand first. -/
structure Term (α : Type) where
  le : α → α → Bool
  total : ∀ a b, le a b = false → le b a
  trans : ∀ a b c, le a b → le b c → le a c

/- The order of a key, rising or falling. -/
def Term.ofKey [LinearOrder κ] (key : α → κ) (desc : Bool) : Term α where
  le a b := if desc then decide (key b ≤ key a) else decide (key a ≤ key b)
  total a b hNot := by
    cases desc with
    | true => exact decide_eq_true (le_of_not_ge (of_decide_eq_false hNot))
    | false => exact decide_eq_true (le_of_not_ge (of_decide_eq_false hNot))
  trans a b c hFirst hSecond := by
    cases desc with
    | true => exact decide_eq_true (le_trans (of_decide_eq_true hSecond) (of_decide_eq_true hFirst))
    | false =>
      exact decide_eq_true (le_trans (of_decide_eq_true hFirst) (of_decide_eq_true hSecond))

/- Rows with one key stand in any order. -/
theorem ofKey_of_eq [LinearOrder κ] {key : α → κ} {desc : Bool} {a b : α} (hKey : key a = key b) :
    (Term.ofKey key desc).le a b := by
  unfold Term.ofKey
  cases desc with
  | true => exact decide_eq_true hKey.ge
  | false => exact decide_eq_true hKey.le

/- The order of several terms. -/
def lex : List (Term α) → α → α → Bool
| [], _, _ => true
| term :: terms, a, b => term.le a b && (!term.le b a || lex terms a b)

theorem lex_cons : lex (term :: terms) a b ↔
    term.le a b ∧ (term.le b a → lex terms a b) := by
  change (term.le a b && (!term.le b a || lex terms a b)) ↔ _
  cases term.le b a with
  | true => simp
  | false => simp

theorem le_refl (term : Term α) (a : α) : term.le a a := by
  cases hLe : term.le a a with
  | true => rfl
  | false => exact hLe.symm.trans (term.total a a hLe)

theorem lex_refl (terms : List (Term α)) (a : α) : lex terms a a := by
  induction terms with
  | nil => rfl
  | cons term terms ih => exact lex_cons.mpr ⟨le_refl term a, fun _ => ih⟩

/- Two rows that are ordered both ways tie in every term. -/
theorem ties_of_lex (hFirst : lex terms a b) (hSecond : lex terms b a) :
    ∀ term ∈ terms, term.le a b ∧ term.le b a := by
  induction terms with
  | nil => exact fun _ hMem => absurd hMem not_mem_nil
  | cons term terms ih =>
    rcases lex_cons.mp hFirst with ⟨hLe, hRest⟩
    rcases lex_cons.mp hSecond with ⟨hGe, hRest'⟩
    intro other hMem
    rcases mem_cons.mp hMem with rfl | hMem
    · exact ⟨hLe, hGe⟩
    · exact ih (hRest hGe) (hRest' hLe) other hMem

end StableSort

----
-- Stable Sorts
----

namespace StableSort

variable {α : Type} {xs ys : List α}

theorem pairwise_orderedInsert (hSorted : xs.Pairwise (lex (term :: terms) · ·))
    (hFirst : ∀ b ∈ xs, lex terms a b) :
    (xs.orderedInsert (term.le · ·) a).Pairwise (lex (term :: terms) · ·) := by
  induction xs with
  | nil => exact pairwise_singleton _ a
  | cons b xs ih =>
    rcases pairwise_cons.mp hSorted with ⟨hHead, hTail⟩
    rw [orderedInsert_cons]
    split
    next hLe =>
      refine pairwise_cons.mpr ⟨fun c hMem => ?_, hSorted⟩
      have hOrdered : term.le a c := by
        rcases mem_cons.mp hMem with rfl | hMem
        · exact hLe
        · exact term.trans a b c hLe (lex_cons.mp (hHead c hMem)).1
      exact lex_cons.mpr ⟨hOrdered, fun _ => hFirst c hMem⟩
    next hNot =>
      have hAfter := ih hTail (fun c hMem => hFirst c (mem_cons_of_mem b hMem))
      refine pairwise_cons.mpr ⟨fun c hMem => ?_, hAfter⟩
      rcases (mem_orderedInsert _).mp hMem with rfl | hMem
      · exact lex_cons.mpr ⟨term.total c b (Bool.eq_false_iff.mpr hNot), fun hLe => absurd hLe hNot⟩
      · exact hHead c hMem

/- A stable sort keeps the order of the later terms in ties. -/
theorem pairwise_insertionSort (hSorted : xs.Pairwise (lex terms · ·)) :
    (xs.insertionSort (term.le · · = true)).Pairwise (lex (term :: terms) · · = true) := by
  induction xs with
  | nil => exact List.Pairwise.nil
  | cons a xs ih =>
    rcases List.pairwise_cons.mp hSorted with ⟨hHead, hTail⟩
    exact pairwise_orderedInsert (ih hTail)
      (fun b hMem => hHead b ((List.mem_insertionSort _).mp hMem))

/- Rows that come before the others by a term. -/
theorem pairwise_append (hBefore : ∀ a ∈ xs, ∀ b ∈ ys, term.le a b ∧ term.le b a = false)
    (hTies : ∀ zs ∈ [xs, ys], ∀ a ∈ zs, ∀ b ∈ zs, term.le a b)
    (hFirst : xs.Pairwise (lex terms · ·)) (hSecond : ys.Pairwise (lex terms · ·)) :
    (xs ++ ys).Pairwise (lex (term :: terms) · ·) := by
  refine List.pairwise_append.mpr ⟨?_, ?_, fun a hA b hB => ?_⟩
  · exact hFirst.imp_of_mem (fun hA hB hLex =>
      lex_cons.mpr ⟨hTies xs (by simp) _ hA _ hB, fun _ => hLex⟩)
  · exact hSecond.imp_of_mem (fun hA hB hLex =>
      lex_cons.mpr ⟨hTies ys (by simp) _ hA _ hB, fun _ => hLex⟩)
  · have hOrder := hBefore a hA b hB
    refine lex_cons.mpr ⟨hOrder.1, fun hLe => ?_⟩
    rw [hOrder.2] at hLe
    cases hLe

end StableSort

----
-- Equal Results
----

namespace StableSort

variable {α : Type} {xs ys rows : List α}

/- Two orders of the same rows, none with ties, are the same
   list just when one order implies the other. -/
theorem eq_iff_le (hXs : xs.Perm rows) (hYs : ys.Perm rows) (hLe : xs.Pairwise le)
    (hLe' : ys.Pairwise le') (hRefl : ∀ a ∈ rows, le' a a)
    (hAnti : ∀ a ∈ rows, ∀ b ∈ rows, le a b → le b a → a = b)
    (hAnti' : ∀ a ∈ rows, ∀ b ∈ rows, le' a b → le' b a → a = b) :
    xs = ys ↔ ∀ a ∈ rows, ∀ b ∈ rows, le a b → le' a b := by
  constructor
  · rintro rfl a hA b hB hOrder
    by_cases hSame : a = b
    · exact hSame ▸ hRefl a hA
    · have hEither : xs.Pairwise (fun a b => (le a b ∧ le' a b) ∨ (le b a ∧ le' b a)) :=
        (hLe.and hLe').imp .inl
      have hSymm : Std.Symm (fun a b => (le a b ∧ le' a b) ∨ (le b a ∧ le' b a)) :=
        ⟨fun _ _ h => h.symm⟩
      rcases hEither.forall (hXs.mem_iff.mpr hA) (hXs.mem_iff.mpr hB) hSame with hAb | hBa
      · exact hAb.2
      · exact absurd (hAnti a hA b hB hOrder hBa.1) hSame
  · intro hImplies
    have hMem : ∀ a ∈ xs, a ∈ rows := fun a hA => hXs.mem_iff.mp hA
    refine List.Perm.eq_of_pairwise (fun a b hA hB => hAnti' a (hMem a hA) b (hYs.mem_iff.mp hB))
      (hLe.imp_of_mem fun hA hB => hImplies _ (hMem _ hA) _ (hMem _ hB)) hLe' (hXs.trans hYs.symm)

end StableSort
