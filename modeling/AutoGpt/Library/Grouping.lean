import Mathlib

/-
  Dictionaries in insertion order that a loop fills with
  `setdefault`: one entry for each key of the items, whose
  value collects the items of the key.

  Key definitions: `Grouping.upsert`, `Grouping.collect`, `Grouping.firstKeys`
  Main theorems: `Grouping.sum_collect`, `Grouping.sum_members_of_perm`,
  `Grouping.sum_limited_eq_iff`
-/

open List

----
-- Dictionaries
----

namespace Grouping

variable {α κ β : Type} [DecidableEq κ]

/- `d[k] = change(d.setdefault(k, new))`. -/
def upsert (k : κ) (new : β) (change : β → β) :
    List (κ × β) → List (κ × β)
| [] => [(k, change new)]
| entry :: rest =>
    if entry.1 = k then (k, change entry.2) :: rest
    else entry :: upsert k new change rest

/- `d.get(k)`. -/
def value? (d : List (κ × β)) (k : κ) : Option β :=
  (d.find? (fun entry => decide (entry.1 = k))).map Prod.snd

variable (key : α → Option κ)

/- A round of the loop; an item without a key is skipped. -/
def collectStep (new : κ → β) (add : β → α → β) (d : List (κ × β)) (item : α) : List (κ × β) :=
  match key item with
  | none => d
  | some k => upsert k (new k) (fun v => add v item) d

/- The dictionary after the loop. -/
def collect (new : κ → β) (add : β → α → β) (items : List α) : List (κ × β) :=
  items.foldl (collectStep key new add) []

/- A key is appended when it is new. -/
def addKey (keys : List κ) (item : α) : List κ :=
  match key item with
  | none => keys
  | some k => if k ∈ keys then keys else keys ++ [k]

/- The keys of the items in the order of their first items. -/
def firstKeys (items : List α) : List κ := items.foldl (addKey key) []

/- The items of a key. -/
def members (items : List α) (k : κ) : List α :=
  items.filter (fun item => decide (key item = some k))

end Grouping

----
-- Keys
----

namespace Grouping

variable {α κ β : Type} [DecidableEq κ]
variable {key : α → Option κ} {keys : List κ}

theorem addKey_nodup (hNodup : keys.Nodup) (item : α) : (addKey key keys item).Nodup := by
  unfold addKey
  split
  · exact hNodup
  next k hKey =>
    split
    · exact hNodup
    next hNew =>
      rw [nodup_append_comm]
      exact nodup_cons.mpr ⟨hNew, hNodup⟩

theorem mem_addKey : k ∈ addKey key keys item ↔ k ∈ keys ∨ key item = some k := by
  unfold addKey
  split
  next hKey => simp [hKey]
  next k' hKey =>
    split
    next hOld =>
      rw [hKey, Option.some.injEq]
      constructor
      · exact .inl
      · rintro (hMem | rfl)
        · exact hMem
        · exact hOld
    · rw [mem_append, mem_singleton, hKey, Option.some.injEq, eq_comm]

theorem firstKeys_snoc (items : List α) (item : α) :
    firstKeys key (items ++ [item]) = addKey key (firstKeys key items) item :=
  foldl_concat _ _ _ _

theorem firstKeys_nodup (items : List α) : (firstKeys key items).Nodup := by
  induction items using reverseRecOn with
  | nil => exact nodup_nil
  | append_singleton items item ih =>
    rw [firstKeys_snoc]
    exact addKey_nodup ih item

theorem mem_firstKeys : k ∈ firstKeys key items ↔ ∃ item ∈ items, key item = some k := by
  induction items using reverseRecOn with
  | nil => simp [firstKeys]
  | append_singleton items item ih =>
    rw [firstKeys_snoc, mem_addKey, ih]
    simp [or_and_right, exists_or]

theorem mem_members : item ∈ members key items k ↔ item ∈ items ∧ key item = some k := by
  unfold members
  rw [mem_filter, decide_eq_true_iff]

theorem members_eq_nil (hNew : k ∉ firstKeys key items) : members key items k = [] := by
  rw [eq_nil_iff_forall_not_mem]
  intro item hMem
  exact hNew (mem_firstKeys.mpr ⟨item, mem_members.mp hMem⟩)

theorem members_snoc (items : List α) (item : α) (k : κ) :
    members key (items ++ [item]) k =
      members key items k ++ if key item = some k then [item] else [] := by
  unfold members
  rw [filter_append]
  by_cases hKey : key item = some k
  · simp [hKey]
  · simp [hKey]

----
-- The Collected Dictionary
----

/- An entry of a key that is there is changed in place. -/
theorem upsert_of_mem {keys : List κ} {f : κ → β} (hNodup : keys.Nodup) (hMem : k ∈ keys) :
    upsert k new change (keys.map fun k => (k, f k)) = keys.map fun k' =>
        (k', if k' = k then change (f k') else f k') := by
  induction keys with
  | nil => cases hMem
  | cons first rest ih =>
    rcases nodup_cons.mp hNodup with ⟨hFirst, hRest⟩
    simp only [map_cons, upsert]
    by_cases hSame : first = k
    · rw [if_pos hSame, if_pos hSame, hSame]
      congr 1
      apply map_congr_left
      intro k' hMem'
      rw [if_neg]
      rintro rfl
      exact hFirst (hSame ▸ hMem')
    · rw [if_neg hSame, if_neg hSame]
      have hTail : k ∈ rest := (mem_cons.mp hMem).resolve_left (fun hEq => hSame hEq.symm)
      rw [ih hRest hTail]

/- A new key gets an entry at the end. -/
theorem upsert_of_not_mem {keys : List κ} {f : κ → β} (hNew : k ∉ keys) :
    upsert k new change (keys.map fun k => (k, f k)) =
      (keys.map fun k => (k, f k)) ++ [(k, change new)] := by
  induction keys with
  | nil => rfl
  | cons first rest ih =>
    rcases not_or.mp (mt mem_cons.mpr hNew) with ⟨hFirst, hRest⟩
    simp only [map_cons, upsert, cons_append]
    rw [if_neg (Ne.symm hFirst), ih hRest]

theorem collect_snoc (new : κ → β) (add : β → α → β) (items : List α) (item : α) :
    collect key new add (items ++ [item]) = collectStep key new add (collect key new add items)
        item :=
  foldl_concat _ _ _ _

/- The collected dictionary has an entry for each key, with the value that its items give. -/
theorem collect_eq (new : κ → β) (add : β → α → β) (items : List α) :
    collect key new add items = (firstKeys key items).map fun k =>
        (k, (members key items k).foldl add (new k)) := by
  induction items using reverseRecOn with
  | nil => rfl
  | append_singleton items item ih =>
    rw [collect_snoc, ih, firstKeys_snoc]
    unfold collectStep addKey
    cases hKey : key item with
    | none =>
      apply map_congr_left
      intro k _
      rw [members_snoc, hKey]
      simp
    | some k =>
      have hOther : ∀ k' ∈ firstKeys key items, k' ≠ k →
            members key (items ++ [item]) k' = members key items k' := by
        intro k' _ hNe
        rw [members_snoc, hKey, if_neg (by simpa using hNe.symm), append_nil]
      have hSame : members key (items ++ [item]) k = members key items k ++ [item] := by
        rw [members_snoc, hKey, if_pos rfl]
      dsimp only
      by_cases hMem : k ∈ firstKeys key items
      · rw [if_pos hMem, upsert_of_mem (firstKeys_nodup items) hMem]
        apply map_congr_left
        intro k' hMem'
        by_cases hEq : k' = k
        · rw [if_pos hEq, hEq, hSame, foldl_append]
          rfl
        · rw [if_neg hEq, hOther k' hMem' hEq]
      · rw [if_neg hMem, upsert_of_not_mem hMem, map_append]
        congr 1
        · apply map_congr_left
          intro k' hMem'
          rw [hOther k' hMem' (fun hEq => hMem (hEq ▸ hMem'))]
        · simp [hSame, members_eq_nil hMem]

/- A loop with a guard collects the items that pass it. -/
theorem collect_guarded (p : α → Bool) (new : κ → β) (add : β → α → β) (items : List α) :
    collect (fun item => if p item then key item else none) new add items =
      collect key new add (items.filter p) := by
  unfold collect
  rw [foldl_filter]
  congr 1
  funext d item
  unfold collectStep
  cases hGuard : p item with
  | true => simp [hGuard]
  | false => simp [hGuard]

/- A loop that appends its items collects the groups. -/
theorem foldl_snoc (first items : List α) :
    items.foldl (fun group item => group ++ [item]) first = first ++ items := by
  induction items generalizing first with
  | nil => exact (append_nil first).symm
  | cons item items ih =>
    rw [foldl_cons, ih, append_assoc]
    rfl

/- A loop that counts its items gives their number. -/
theorem foldl_count (first : Nat) (items : List α) :
    items.foldl (fun count _ => count + 1) first = first + items.length := by
  induction items generalizing first with
  | nil => rfl
  | cons item items ih =>
    rw [foldl_cons, ih, length_cons]
    omega

theorem value?_map {keys : List κ} {f : κ → β} (hMem : k ∈ keys) :
    value? (keys.map fun k => (k, f k)) k = some (f k) := by
  induction keys with
  | nil => cases hMem
  | cons first rest ih =>
    unfold value?
    by_cases hSame : first = k
    · simp [hSame]
    · have hTail : k ∈ rest := (mem_cons.mp hMem).resolve_left (fun hEq => hSame hEq.symm)
      have hRest := ih hTail
      unfold value? at hRest
      simpa [hSame] using hRest

theorem value?_map_none {keys : List κ} {f : κ → β} (hNew : k ∉ keys) :
    value? (keys.map fun k => (k, f k)) k = none := by
  unfold value?
  rw [Option.map_eq_none_iff, find?_eq_none]
  intro entry hEntry
  rcases mem_map.mp hEntry with ⟨k', hMem, rfl⟩
  rw [decide_eq_true_iff]
  rintro rfl
  exact hNew hMem

----
-- Sums Over Groups
----

/- A sum over the keys. -/
theorem sum_firstKeys (items : List α) (f : κ → Nat) :
    ((firstKeys key items).map f).sum = ∑ k ∈ (firstKeys key items).toFinset, f k :=
  (sum_toFinset f (firstKeys_nodup items)).symm

/- A sum over the entries of a dictionary. -/
theorem sum_collect (new : κ → β) (add : β → α → β) (items : List α) (f : κ × β → Nat) :
    ((collect key new add items).map f).sum =
      ∑ k ∈ (firstKeys key items).toFinset, f (k, (members key items k).foldl add (new k)) := by
  rw [collect_eq, map_map, ← sum_firstKeys]
  rfl

/- The size of a group among the items that pass a test. -/
theorem length_members_of_perm (hPerm : picked.Perm (items.filter p)) (k : κ) :
    (members key picked k).length = (members key items k).countP p := by
  unfold members
  rw [(hPerm.filter _).length_eq, filter_comm, countP_eq_length_filter]

/- A sum over the groups of picked items runs over all
   groups, where an empty group counts nothing. -/
theorem sum_members_of_perm
    (hPerm : picked.Perm (items.filter p)) (f : Nat → Nat) (hZero : f 0 = 0) :
    ∑ k ∈ (firstKeys key picked).toFinset, f (members key picked k).length =
      ∑ k ∈ (firstKeys key items).toFinset, f ((members key items k).countP p) := by
  have hSame : ∀ k, f (members key picked k).length = f ((members key items k).countP p) := by
    intro k
    rw [length_members_of_perm hPerm]
  rw [Finset.sum_congr rfl (fun k _ => hSame k)]
  apply Finset.sum_subset
  · intro k hMem
    rw [mem_toFinset, mem_firstKeys] at hMem ⊢
    rcases hMem with ⟨item, hItem, hKey⟩
    have hFiltered := hPerm.mem_iff.mp hItem
    exact ⟨item, (mem_filter.mp hFiltered).1, hKey⟩
  · intro k _ hNew
    rw [mem_toFinset] at hNew
    rw [← hSame, members_eq_nil hNew]
    exact hZero

/- Sums of smaller parts are equal when the parts are. -/
theorem sum_eq_iff_of_le {f g : κ → Nat} (hLe : ∀ k, f k ≤ g k) :
    ∑ k ∈ (firstKeys key items).toFinset, f k = ∑ k ∈ (firstKeys key items).toFinset, g k ↔
      ∀ k ∈ firstKeys key items, f k = g k := by
  rw [Finset.sum_eq_sum_iff_of_le (fun k _ => hLe k)]
  simp only [mem_toFinset]

/- Two tests, one of which is stronger, count differently when
   an item passes only the weaker one. -/
theorem countP_lt_iff {items : List α} (hWeaker : ∀ item, q item → p item) :
    items.countP q < items.countP p ↔ ∃ item ∈ items, p item ∧ q item = false := by
  induction items with
  | nil => simp
  | cons item items ih =>
    have hLe : items.countP q ≤ items.countP p := countP_mono_left (fun item _ => hWeaker item)
    rw [countP_cons, countP_cons]
    simp only [mem_cons, or_and_right, exists_or, exists_eq_left]
    rw [← ih]
    have hItem := hWeaker item
    cases hq : q item with
    | true =>
      rw [hItem hq]
      simp
    | false =>
      cases hp : p item with
      | true =>
        simp
        omega
      | false => simp

/- Limited counts by two tests are equal when each key with an item that passes only the weaker one
   has enough items that pass the stronger one. -/
theorem sum_limited_eq_iff {items : List α} {p q : α → Bool}
    (hWeaker : ∀ item, q item → p item) (size : Nat) :
    ∑ k ∈ (firstKeys key items).toFinset, min ((members key items k).countP q) size =
        ∑ k ∈ (firstKeys key items).toFinset, min ((members key items k).countP p) size ↔
      ∀ k, (∃ item ∈ members key items k, p item ∧ q item = false) →
        size ≤ (members key items k).countP q := by
  have hLe : ∀ k, (members key items k).countP q ≤ (members key items k).countP p :=
    fun k => countP_mono_left (fun item _ => hWeaker item)
  rw [sum_eq_iff_of_le (fun k => by have hThis := hLe k; omega)]
  constructor
  · intro hEqual k hOnly
    have hLt := (countP_lt_iff hWeaker).mpr hOnly
    have hMem : k ∈ firstKeys key items := by
      by_contra hNew
      rw [members_eq_nil hNew] at hLt
      exact Nat.not_lt_zero _ hLt
    have hMin := hEqual k hMem
    omega
  · intro hEnough k _
    have hThis := hLe k
    rcases Nat.lt_or_ge ((members key items k).countP q)
        ((members key items k).countP p) with hLt | hGe
    · have hSize := hEnough k ((countP_lt_iff hWeaker).mp hLt)
      omega
    · omega

end Grouping
