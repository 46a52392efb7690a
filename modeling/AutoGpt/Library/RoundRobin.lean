import AutoGpt.Library.Grouping

/-
  Picking from ranked groups in turns: the first item of
  every group, then the second of every group, and so on.

  Key definitions: `RoundRobin.turn`, `RoundRobin.picks`, `RoundRobin.Ranked`
  Main theorems: `RoundRobin.length_picks`, `RoundRobin.picks_fair`
-/

open Grouping (members)

----
-- Turns
----

namespace RoundRobin

variable {α κ : Type}

/- The items with the number `i` of the groups. -/
def turn (keys : List κ) (group : κ → List α) (i : Nat) :
    List α :=
  keys.filterMap fun k => (group k)[i]?

/- The items of the first turns. -/
def picks (keys : List κ) (group : κ → List α) (size : Nat) :
    List α :=
  (List.range size).flatMap (turn keys group)

/- The first turn stands at the front. -/
theorem picks_front (keys : List κ) (group : κ → List α) (size : Nat) :
    ∃ rest, picks keys group (size + 1) = turn keys group 0 ++ rest := by
  unfold picks
  rw [List.range_succ_eq_map, List.flatMap_cons]
  exact ⟨_, rfl⟩

theorem picks_succ (size : Nat) :
    picks keys group (size + 1) = picks keys group size ++ turn keys group size := by
  unfold picks
  rw [List.range_succ, List.flatMap_append]
  simp

theorem mem_turn : item ∈ turn keys group i ↔ ∃ k ∈ keys, (group k)[i]? = some item :=
  List.mem_filterMap

theorem mem_picks :
    item ∈ picks keys group size ↔ ∃ i < size, ∃ k ∈ keys, (group k)[i]? = some item := by
  unfold picks
  rw [List.mem_flatMap]
  simp only [List.mem_range, mem_turn]

/- A turn takes an item of each group that is long enough. -/
theorem length_turn (i : Nat) :
    (turn keys group i).length = (keys.map fun k => if i < (group k).length then 1 else 0).sum := by
  induction keys with
  | nil => rfl
  | cons k keys ih =>
    unfold turn at ih ⊢
    rw [List.filterMap_cons, List.map_cons, List.sum_cons, ← ih]
    by_cases hLong : i < (group k).length
    · rw [if_pos hLong, List.getElem?_eq_getElem hLong]
      simp only [List.length_cons]
      omega
    · rw [if_neg hLong, List.getElem?_eq_none (Nat.le_of_not_lt hLong)]
      simp only [Nat.zero_add]

/- From each group as many items are picked as there are turns, or all. -/
theorem length_picks (size : Nat) :
    (picks keys group size).length = (keys.map fun k => min (group k).length size).sum := by
  induction size with
  | zero => simp [picks]
  | succ size ih =>
    rw [picks_succ, List.length_append, ih, length_turn, ← List.sum_map_add]
    congr 1
    apply List.map_congr_left
    intro k _
    split
    · omega
    · omega

end RoundRobin

----
-- Fair Picks
----

namespace RoundRobin

variable {α κ : Type} [DecidableEq κ]

/- The groups hold the items of their keys in order. -/
structure Ranked (key : α → Option κ) (le : α → α → Prop) (items : List α)
    (keys : List κ) (group : κ → List α) : Prop where
  keys_nodup : keys.Nodup
  has_key : ∀ k, ∀ item ∈ group k, key item = some k
  mem_items : ∀ k, ∀ item ∈ group k, item ∈ items
  complete : ∀ item ∈ items, ∀ k, key item = some k → k ∈ keys ∧ item ∈ group k
  nodup : ∀ k, (group k).Nodup
  ordered : ∀ k, (group k).Pairwise le

/- What a fair pick of at most `size` items of each key is. -/
structure Fair (key : α → Option κ) (le : α → α → Prop)
    (items picked : List α) (size : Nat) : Prop where
  /- Items are picked once. -/
  from_items : ∀ item ∈ picked, item ∈ items
  nodup : picked.Nodup
  /- No key has more than its share. -/
  bounded : ∀ k, (members key picked k).length ≤ size
  /- Every key has an item, -/
  covers : ∀ item ∈ items, ∀ k, key item = some k → ∃ first ∈ picked, key first = some k
  /- the first of which is a least one, -/
  least : ∀ before first after, picked = before ++ first :: after →
      (∀ item ∈ before, key item ≠ key first) →
      ∀ other ∈ items, key other = key first → le first other
  /- and stands before the second of any key. -/
  firsts_before_seconds : ∀ before second after, picked = before ++ second :: after →
      (∃ item ∈ before, key item = key second) →
      ∀ later ∈ after, ∃ item ∈ before, key item = key later

variable {group : κ → List α}

/- A turn has at most an item of each key. -/
theorem members_turn (hKey : ∀ k, ∀ item ∈ group k, key item = some k) (i : Nat) (k : κ) :
    (members key (turn keys group i) k).length ≤ keys.count k := by
  induction keys with
  | nil => exact Nat.le_refl 0
  | cons first keys ih =>
    unfold turn at ih ⊢
    rw [List.filterMap_cons, List.count_cons]
    cases hItem : (group first)[i]? with
    | none => exact Nat.le_trans ih (Nat.le_add_right _ _)
    | some item =>
      have hFirst := hKey first item (List.mem_of_getElem? hItem)
      unfold members at ih ⊢
      rw [List.filter_cons, hFirst]
      by_cases hSame : first = k
      · simp only [hSame, decide_true, if_true, List.length_cons, beq_self_eq_true]
        omega
      · simp only [Option.some.injEq, hSame, decide_false, Bool.false_eq_true, if_false]
        exact Nat.le_trans ih (Nat.le_add_right _ _)

theorem members_turn_le_one (hRanked : Ranked key le items keys group) (i : Nat) (k : κ) :
    (members key (turn keys group i) k).length ≤ 1 :=
  Nat.le_trans (members_turn hRanked.has_key i k)
    (List.nodup_iff_count_le_one.mp hRanked.keys_nodup k)

theorem members_picks (hRanked : Ranked key le items keys group) (size : Nat) (k : κ) :
    (members key (picks keys group size) k).length ≤ size := by
  induction size with
  | zero => exact Nat.le_refl 0
  | succ size ih =>
    have hTurn := members_turn_le_one hRanked size k
    unfold members at ih hTurn ⊢
    rw [picks_succ, List.filter_append, List.length_append]
    omega

omit [DecidableEq κ] in
theorem nodup_turn (hRanked : Ranked key le items keys group) (i : Nat) :
    (turn keys group i).Nodup := by
  apply hRanked.keys_nodup.filterMap
  intro k k' item hItem hItem'
  have hKey := hRanked.has_key k item (List.mem_of_getElem? hItem)
  have hKey' := hRanked.has_key k' item (List.mem_of_getElem? hItem')
  exact Option.some.inj (hKey.symm.trans hKey')

/- An item has one place. -/
omit [DecidableEq κ] in
theorem place_unique (hRanked : Ranked key le items keys group) {i j : Nat}
    (hItem : (group k)[i]? = some item) (hItem' : (group k')[j]? = some item) : i = j := by
  have hKey := hRanked.has_key k item (List.mem_of_getElem? hItem)
  have hKey' := hRanked.has_key k' item (List.mem_of_getElem? hItem')
  have hSame : k = k' := Option.some.inj (hKey.symm.trans hKey')
  subst hSame
  rcases List.getElem?_eq_some_iff.mp hItem with ⟨hLt, -⟩
  exact (List.getElem?_inj hLt (hRanked.nodup k)).mp (hItem.trans hItem'.symm)

omit [DecidableEq κ] in
theorem nodup_picks (hRanked : Ranked key le items keys group) (size : Nat) :
    (picks keys group size).Nodup := by
  unfold picks
  rw [List.nodup_flatMap]
  refine ⟨fun i _ => nodup_turn hRanked i, ?_⟩
  apply List.nodup_range.imp
  intro i j hNe item hItem hItem'
  rcases mem_turn.mp hItem with ⟨k, -, hPlace⟩
  rcases mem_turn.mp hItem' with ⟨k', -, hPlace'⟩
  exact hNe (place_unique hRanked hPlace hPlace')

/- The first turn has the first of every key. -/
omit [DecidableEq κ] in
theorem first_in_turn (hRanked : Ranked key le items keys group) (hItem : item ∈ items)
    (hKey : key item = some k) : ∃ first ∈ turn keys group 0, key first = some k := by
  rcases hRanked.complete item hItem k hKey with ⟨hMem, hGroup⟩
  have hLong : 0 < (group k).length := List.length_pos_of_mem hGroup
  refine ⟨(group k)[0], mem_turn.mpr ⟨k, hMem, List.getElem?_eq_getElem hLong⟩, ?_⟩
  exact hRanked.has_key k _ (List.getElem_mem hLong)

/- Before an item of a later turn stands the first turn. -/
omit [DecidableEq κ] in
theorem turn_or_before (hSplit : picks keys group (size + 1) = before ++ item :: after) :
    (∀ first ∈ turn keys group 0, first ∈ before) ∨
      ∃ rest, turn keys group 0 = before ++ item :: rest := by
  rcases picks_front keys group size with ⟨rest, hRest⟩
  rw [hRest, List.append_eq_append_iff] at hSplit
  rcases hSplit with ⟨more, hBefore, -⟩ | ⟨more, hTurn, hMore⟩
  · left
    intro first hFirst
    rw [hBefore]
    exact List.mem_append_left more hFirst
  · cases more with
    | nil =>
      left
      rw [hTurn, List.append_nil]
      exact fun first hFirst => hFirst
    | cons head more =>
      right
      rw [List.cons_append, List.cons.injEq] at hMore
      exact ⟨more, by rw [hTurn, hMore.1]⟩

theorem firsts_before_seconds (hRanked : Ranked key le items keys group)
    (hSplit : picks keys group (size + 1) = before ++ second :: after)
    (hSecond : ∃ item ∈ before, key item = key second) (hLater : later ∈ after) :
    ∃ item ∈ before, key item = key later := by
  have hPicked : ∀ item, item ∈ before ++ second :: after →
      ∃ k ∈ keys, key item = some k ∧ item ∈ items := by
    intro item hItem
    rw [← hSplit] at hItem
    rcases mem_picks.mp hItem with ⟨i, -, k, hMem, hPlace⟩
    have hGroup := List.mem_of_getElem? hPlace
    exact ⟨k, hMem, hRanked.has_key k item hGroup, hRanked.mem_items k item hGroup⟩
  have hAll : ∀ first ∈ turn keys group 0, first ∈ before := by
    rcases turn_or_before hSplit with hAll | ⟨rest, hTurn⟩
    · exact hAll
    · rcases hSecond with ⟨item, hItem, hSame⟩
      rcases hPicked second (by simp) with ⟨k, -, hKey, -⟩
      have hOnce := members_turn_le_one hRanked 0 k
      have hTwice : 1 < (members key (turn keys group 0) k).length := by
        have hBefore : 0 < (members key before k).length :=
          List.length_pos_of_mem (Grouping.mem_members.mpr ⟨hItem, hSame.trans hKey⟩)
        unfold members at hBefore ⊢
        rw [hTurn, List.filter_append, List.filter_cons_of_pos (by simpa using hKey),
          List.length_append, List.length_cons]
        omega
      omega
  rcases hPicked later (List.mem_append_right _ (List.mem_cons_of_mem _ hLater))
    with ⟨k, -, hKey, hItem⟩
  rcases first_in_turn hRanked hItem hKey with ⟨first, hFirst, hFirstKey⟩
  exact ⟨first, hAll first hFirst, hFirstKey.trans hKey.symm⟩

omit [DecidableEq κ] in
theorem least_first (hRanked : Ranked key le items keys group) (hRefl : ∀ item, le item item)
    (hSplit : picks keys group (size + 1) = before ++ first :: after)
    (hFirst : ∀ item ∈ before, key item ≠ key first) (hOther : other ∈ items)
    (hSame : key other = key first) : le first other := by
  have hPicked : first ∈ picks keys group (size + 1) := by
    rw [hSplit]
    simp
  rcases mem_picks.mp hPicked with ⟨i, -, k, hMem, hPlace⟩
  have hKey := hRanked.has_key k first (List.mem_of_getElem? hPlace)
  have hTurn : first ∈ turn keys group 0 := by
    rcases turn_or_before hSplit with hAll | ⟨rest, hTurn⟩
    · rcases first_in_turn hRanked
          (hRanked.mem_items k first (List.mem_of_getElem? hPlace)) hKey with
        ⟨head, hHead, hHeadKey⟩
      exact absurd (hHeadKey.trans hKey.symm) (hFirst head (hAll head hHead))
    · rw [hTurn]
      simp
  rcases mem_turn.mp hTurn with ⟨k', -, hHead⟩
  have hKey' := hRanked.has_key k' first (List.mem_of_getElem? hHead)
  have hGroup := (hRanked.complete other hOther k' (hSame.trans hKey')).2
  have hOrdered := hRanked.ordered k'
  cases hCases : group k' with
  | nil =>
    rw [hCases] at hGroup
    cases hGroup
  | cons head rest =>
    rw [hCases] at hHead hGroup hOrdered
    have hIs : head = first := Option.some.inj hHead
    rw [hIs] at hGroup hOrdered
    rcases List.mem_cons.mp hGroup with rfl | hRest
    · exact hRefl _
    · exact (List.pairwise_cons.mp hOrdered).1 other hRest

/- Picks in turns from ranked groups are fair. -/
theorem picks_fair (hRanked : Ranked key le items keys group) (hRefl : ∀ item, le item item)
    (size : Nat) :
    Fair key le items (picks keys group (size + 1)) (size + 1) where
  from_items := by
    intro item hItem
    rcases mem_picks.mp hItem with ⟨i, -, k, -, hPlace⟩
    exact hRanked.mem_items k item (List.mem_of_getElem? hPlace)
  nodup := nodup_picks hRanked (size + 1)
  bounded := members_picks hRanked (size + 1)
  covers := by
    intro item hItem k hKey
    rcases first_in_turn hRanked hItem hKey with ⟨first, hFirst, hFirstKey⟩
    rcases picks_front keys group size with ⟨rest, hRest⟩
    refine ⟨first, ?_, hFirstKey⟩
    rw [hRest]
    exact List.mem_append_left rest hFirst
  least := fun _ _ _ hSplit hFirst _ hOther hSame =>
    least_first hRanked hRefl hSplit hFirst hOther hSame
  firsts_before_seconds := fun _ _ _ hSplit hSecond _ hLater =>
    firsts_before_seconds hRanked hSplit hSecond hLater

end RoundRobin
