import Mathlib.Data.List.Basic

/-
  Decision lists: questions in a fixed order, each with a
  label, and the label of the first one that is answered with
  yes. Two parties answer the same questions; the rules say
  when they find the same label.

  Key definitions: `DecisionList.first`, `DecisionList.Question`, `DecisionList.Agree`

  The rules used by clients are:
    * `DecisionList.getD_first_iff_agree`
    * `DecisionList.first_words`
-/

open List

----
-- Decisions
----

namespace DecisionList

variable {L : Type}

/- The label of the first yes. -/
def first : List (L × Bool) → Option L
| [] => none
| (label, yes) :: rest => if yes then some label else first rest

/- A question with the answers of two parties. -/
structure Question (L : Type) where
  label : L
  left : Bool
  right : Bool

def lefts (questions : List (Question L)) : List (L × Bool) :=
  questions.map (fun q => (q.label, q.left))

def rights (questions : List (Question L)) : List (L × Bool) :=
  questions.map (fun q => (q.label, q.right))

@[simp] theorem lefts_append (asked rest : List (Question L)) :
    lefts (asked ++ rest) = lefts asked ++ lefts rest :=
  map_append

@[simp] theorem rights_append (asked rest : List (Question L)) :
    rights (asked ++ rest) = rights asked ++ rights rest :=
  map_append

@[simp] theorem lefts_nil : lefts ([] : List (Question L)) = [] := rfl

@[simp] theorem rights_nil : rights ([] : List (Question L)) = [] := rfl

@[simp] theorem lefts_cons (q : Question L) (rest : List (Question L)) :
    lefts (q :: rest) = (q.label, q.left) :: lefts rest := rfl

@[simp] theorem rights_cons (q : Question L) (rest : List (Question L)) :
    rights (q :: rest) = (q.label, q.right) :: rights rest := rfl

/- At the first question that the parties answer differently, if none was answered with yes before,
   the party that says no finds the same label later. -/
def Agree : List (Question L) → Prop
| [] => True
| q :: rest =>
    match q.left, q.right with
    | true, true => True
    | true, false => first (rights rest) = some q.label
    | false, true => first (lefts rest) = some q.label
    | false, false => Agree rest

theorem first_cons (label : L) (yes : Bool) (rest : List (L × Bool)) :
    first ((label, yes) :: rest) = if yes then some label else first rest := rfl

/- With a label for the case that every answer is no. -/
@[simp] theorem getD_first_nil (otherwise : L) :
    (first ([] : List (L × Bool))).getD otherwise = otherwise :=
  rfl

@[simp] theorem getD_first_cons (label : L) (yes : Bool) (rest : List (L × Bool)) (otherwise : L) :
    (first ((label, yes) :: rest)).getD otherwise =
      if yes then label else (first rest).getD otherwise := by
  cases yes with
  | true => rfl
  | false => rfl

----
-- Rules
----

/- Two parties find the same label just when they agree. -/
theorem first_eq_iff_agree (questions : List (Question L)) :
    first (lefts questions) = first (rights questions) ↔ Agree questions := by
  induction questions with
  | nil => exact iff_of_true rfl trivial
  | cons q rest ih =>
    unfold lefts rights Agree
    rw [map_cons, map_cons, first_cons, first_cons]
    cases hLeft : q.left with
    | true =>
      cases hRight : q.right with
      | true => exact iff_of_true rfl trivial
      | false => exact eq_comm
    | false =>
      cases hRight : q.right with
      | true => exact Iff.rfl
      | false => exact ih

theorem exists_of_first
    (hFirst : first answers = some label) : ∃ answer ∈ answers, answer.1 = label := by
  induction answers with
  | nil => cases hFirst
  | cons answer rest ih =>
    rw [first_cons] at hFirst
    split at hFirst
    · exact ⟨answer, mem_cons_self, Option.some.inj hFirst⟩
    · rcases ih hFirst with ⟨found, hMem, hLabel⟩
      exact ⟨found, mem_cons_of_mem _ hMem, hLabel⟩

/- With a label for the case that every answer is no, which is that of no question. -/
theorem getD_first_iff_agree {otherwise : L} (hLabels : ∀ q ∈ questions, q.label ≠ otherwise) :
    (first (lefts questions)).getD otherwise = (first (rights questions)).getD otherwise ↔
      Agree questions := by
  have hNever : ∀ answer : Question L → Bool,
        first (questions.map (fun q => (q.label, answer q))) ≠ some otherwise := by
    intro answer hFirst
    rcases exists_of_first hFirst with ⟨item, hItem, hLabel⟩
    rcases mem_map.mp hItem with ⟨q, hMem, hIs⟩
    rw [← hIs] at hLabel
    exact hLabels q hMem hLabel
  have hLeft := hNever (·.left)
  have hRight := hNever (·.right)
  rw [← first_eq_iff_agree]
  unfold lefts rights
  generalize first (questions.map (fun q => (q.label, q.left))) = left at hLeft ⊢
  generalize first (questions.map (fun q => (q.label, q.right))) = right at hRight ⊢
  constructor
  · intro hSame
    cases left with
    | none =>
      cases right with
      | none => rfl
      | some label => exact absurd (congrArg some hSame.symm) hRight
    | some label =>
      cases right with
      | none => exact absurd (congrArg some hSame) hLeft
      | some other => exact congrArg some hSame
  · exact fun hSame => congrArg (·.getD otherwise) hSame

/- A word that is looked up in a list of words. -/
theorem first_words [DecidableEq L] (words : List L) (word : L) (rest : List (L × Bool)) :
    first (words.map (fun label => (label, word == label)) ++ rest) =
      if word ∈ words then some word
      else first rest := by
  induction words with
  | nil => rfl
  | cons label words ih =>
    rw [map_cons, cons_append, first_cons, ih]
    by_cases hIs : word = label
    · rw [hIs, beq_self_eq_true, if_pos rfl, if_pos mem_cons_self]
    · rw [beq_eq_false_iff_ne.mpr hIs, if_neg Bool.false_ne_true]
      simp only [mem_cons, hIs, false_or]

end DecisionList
