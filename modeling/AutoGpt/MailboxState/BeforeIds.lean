import Mathlib.Data.List.Perm.Subperm
import AutoGpt.Library.ByteText
import AutoGpt.Library.PyText

/-
  The baseline of mail ids that is kept with an account: the
  cap on its items, the cap on its bytes, and which ids it
  keeps.

  Main theorems: `fills_all`, `fills_sublist`, `bound_before_ids_keeps_newest_iff`
-/

open ByteText (utf8)
open List

----
-- Code
----

namespace MailboxState

/- Whole characters only: the rest of a cut one is ignored. -/
def cutBytes : Nat → List Char → List Char
| _, [] => []
| max_bytes, c :: text =>
    if c.utf8Size ≤ max_bytes then c :: cutBytes (max_bytes - c.utf8Size) text else []

def _bounded_string (text : String) (max_bytes : Nat) : String :=
  if (utf8 text.toList).length ≤ max_bytes then text
  else String.ofList (cutBytes max_bytes text.toList)

def hexDigit (n : Nat) : Char := Char.ofNat (if n < 10 then 48 + n else 87 + n)

/- A character in `json.dumps(…, ensure_ascii=False)`. -/
def escape (c : Char) : List Char :=
  if c = '"' then ['\\', '"']
  else if c = '\\' then ['\\', '\\']
  else if c = '\n' then ['\\', 'n']
  else if c = '\r' then ['\\', 'r']
  else if c = '\t' then ['\\', 't']
  else if c.toNat = 8 then ['\\', 'b']
  else if c.toNat = 12 then ['\\', 'f']
  else if c.toNat < 32 then ['\\', 'u', '0', '0', hexDigit (c.toNat / 16), hexDigit (c.toNat % 16)]
  else [c]

def dumpsText (text : String) : List Char := '"' :: text.toList.flatMap escape ++ ['"']

def dumps (ids : List String) : List Char :=
  '[' :: [',', ' '].intercalate (ids.map dumpsText) ++ [']']

def textBytes (text : String) : Nat := (utf8 (dumpsText text)).length

def jsonBytes (ids : List String) : Nat := (utf8 (dumps ids)).length

def storedId (item : String) : String := PyText.strip (_bounded_string item 1024)

/- `seen` holds what `normalized` holds. -/
def collects (normalized : List String) (value : String) : List String :=
  if value = "" ∨ value ∈ normalized then normalized else normalized ++ [value]

def storedIds (values : List String) : List String := values.map storedId

def distinctIds (values : List String) : List String := (storedIds values).foldl collects []

/- What `item` adds to the bytes of `result`. -/
def extraBytes (result : List String) (item : String) : Nat :=
  textBytes item + (if result = [] then 0 else 2)

def fills (max_bytes : Nat) : List String → Nat → List String → List String
| result, _, [] => result
| result, used, item :: candidates =>
    if max_bytes < used + extraBytes result item then fills max_bytes result used candidates
    else fills max_bytes (result ++ [item]) (used + extraBytes result item) candidates

def bound_before_ids (values : List String) (max_items max_bytes : ℤ) : List String :=
  if max_items.toNat ≤ 0 ∨ max_bytes.toNat ≤ 2 then []
  else fills max_bytes.toNat [] 2 ((distinctIds values).rtake max_items.toNat)

----
-- Age Of Ids
----

/- `a` comes up before `b`. -/
def Older (values : List String) (a b : String) : Prop :=
  (storedIds values).idxOf a < (storedIds values).idxOf b

instance (values : List String) (a b : String) : Decidable (Older values a b) :=
  inferInstanceAs (Decidable (_ < _))

/- No id is dropped while an older one is kept. -/
def KeepsNewest (values result : List String) : Prop :=
  ∀ a ∈ result, ∀ b ∈ storedIds values, b ≠ "" → Older values a b → b ∈ result

structure Bounded (values : List String) (max_items max_bytes : ℤ) (result : List String) :
    Prop where
  nodup : result.Nodup
  items : (result.length : ℤ) ≤ max_items
  bytes : (jsonBytes result : ℤ) ≤ max_bytes
  newest : KeepsNewest values result

variable {values result candidates ids : List String}

theorem fills_cons (max_bytes : Nat) (result : List String) (used : Nat) (item : String)
    (candidates : List String) :
    fills max_bytes result used (item :: candidates) =
      if max_bytes < used + extraBytes result item then fills max_bytes result used candidates
      else fills max_bytes (result ++ [item]) (used + extraBytes result item) candidates :=
  rfl

theorem distinctIds_concat (values : List String) (item : String) :
    distinctIds (values ++ [item]) = collects (distinctIds values) (storedId item) := by
  unfold distinctIds storedIds
  rw [map_append, map_singleton, foldl_append, foldl_cons, foldl_nil]

theorem storedIds_concat (values : List String) (item : String) :
    storedIds (values ++ [item]) = storedIds values ++ [storedId item] := by
  unfold storedIds
  rw [map_append, map_singleton]

theorem mem_distinctIds : a ∈ distinctIds values ↔ a ∈ storedIds values ∧ a ≠ "" := by
  induction values using reverseRecOn with
  | nil => simp [distinctIds, storedIds]
  | append_singleton values item ih =>
    rw [distinctIds_concat, storedIds_concat, collects, mem_append, mem_singleton]
    split
    next hSkip =>
      rw [ih]
      constructor
      · exact fun hIn => ⟨.inl hIn.1, hIn.2⟩
      · rintro ⟨hIn | hIs, hText⟩
        · exact ⟨hIn, hText⟩
        · rw [hIs] at ih hText ⊢
          exact ih.mp (hSkip.resolve_left hText)
    next hNew =>
      rw [mem_append, mem_singleton, ih]
      constructor
      · rintro (hIn | hIs)
        · exact ⟨.inl hIn.1, hIn.2⟩
        · rw [hIs]
          exact ⟨.inr rfl, fun hEmpty => hNew (.inl hEmpty)⟩
      · rintro ⟨hIn | hIs, hText⟩
        · exact .inl ⟨hIn, hText⟩
        · exact .inr hIs

/- The distinct ids stand in the order of their age. -/
theorem distinctIds_pairwise (values : List String) :
    (distinctIds values).Pairwise (Older values) := by
  induction values using reverseRecOn with
  | nil => exact List.Pairwise.nil
  | append_singleton values item ih =>
    have hBefore : ∀ id ∈ distinctIds values,
        (storedIds (values ++ [item])).idxOf id = (storedIds values).idxOf id := by
      intro id hIn
      rw [storedIds_concat]
      exact idxOf_append_of_mem (mem_distinctIds.mp hIn).1
    have hKept : (distinctIds values).Pairwise (Older (values ++ [item])) := by
      refine ih.imp_of_mem ?_
      intro a b hA hB hOlder
      unfold Older
      rw [hBefore a hA, hBefore b hB]
      exact hOlder
    rw [distinctIds_concat, collects]
    split
    · exact hKept
    next hNew =>
      refine pairwise_append.mpr ⟨hKept, pairwise_singleton _ _, ?_⟩
      intro id hIn b hB
      rw [mem_singleton.mp hB]
      unfold Older
      rw [hBefore id hIn, storedIds_concat, idxOf_append_of_notMem]
      · exact Nat.lt_add_right _ (idxOf_lt_length_of_mem (mem_distinctIds.mp hIn).1)
      · intro hThere
        rw [not_or] at hNew
        exact hNew.2 (mem_distinctIds.mpr ⟨hThere, hNew.1⟩)

theorem nodup_of_older (hAge : ids.Pairwise (Older values)) : ids.Nodup := by
  refine hAge.imp ?_
  intro a b hOlder hSame
  rw [hSame] at hOlder
  exact Nat.lt_irrefl _ hOlder

----
-- The Cap On The Bytes
----

theorem length_utf8_append (s t : List Char) :
    (utf8 (s ++ t)).length = (utf8 s).length + (utf8 t).length := by
  unfold utf8
  rw [flatMap_append, length_append]

def itemsBytes (ids : List String) : Nat :=
  (utf8 ([',', ' '].intercalate (ids.map dumpsText))).length

theorem jsonBytes_eq (ids : List String) : jsonBytes ids = 2 + itemsBytes ids := by
  unfold jsonBytes dumps itemsBytes
  rw [length_utf8_append, ← singleton_append, length_utf8_append]
  have hOpen : (utf8 ['[']).length = 1 := by decide
  have hClose : (utf8 [']']).length = 1 := by decide
  omega

theorem itemsBytes_cons (item : String) (ids : List String) :
    itemsBytes (item :: ids) = extraBytes ids item + itemsBytes ids := by
  unfold itemsBytes extraBytes textBytes
  cases ids with
  | nil => simp [utf8]
  | cons next ids =>
    have hComma : (utf8 [',', ' ']).length = 2 := by decide
    rw [map_cons, map_cons, intercalate_cons_cons, length_utf8_append,
      length_utf8_append, hComma, if_neg (cons_ne_nil _ _)]

theorem jsonBytes_concat (ids : List String) (item : String) :
    jsonBytes (ids ++ [item]) = jsonBytes ids + extraBytes ids item := by
  rw [jsonBytes_eq, jsonBytes_eq, Nat.add_assoc]
  congr 1
  induction ids with
  | nil =>
    rw [nil_append, itemsBytes_cons]
    exact Nat.add_comm _ _
  | cons first ids ih =>
    rw [cons_append, itemsBytes_cons, itemsBytes_cons, ih]
    unfold extraBytes
    cases ids with
    | nil => simp; omega
    | cons next ids => simp; omega

theorem jsonBytes_le_append (ids more : List String) : jsonBytes ids ≤ jsonBytes (ids ++ more) := by
  induction more using reverseRecOn with
  | nil => rw [append_nil]
  | append_singleton more item ih =>
    rw [← append_assoc, jsonBytes_concat]
    omega

theorem fills_sublist (max_bytes : Nat) (result : List String) (used : Nat)
    (candidates : List String) :
    ∃ kept, fills max_bytes result used candidates = result ++ kept ∧
      List.Sublist kept candidates := by
  induction candidates generalizing result used with
  | nil => exact ⟨[], (append_nil _).symm, List.Sublist.slnil⟩
  | cons item candidates ih =>
    rw [fills_cons]
    split
    · rcases ih result used with ⟨kept, hKept, hSub⟩
      exact ⟨kept, hKept, hSub.cons item⟩
    · rcases ih (result ++ [item]) _ with ⟨kept, hKept, hSub⟩
      refine ⟨item :: kept, ?_, hSub.cons_cons item⟩
      rw [hKept, append_assoc]
      rfl

/- Candidates that fit together are all kept. -/
theorem fills_all (hFits : jsonBytes (result ++ candidates) ≤ max_bytes) :
    fills max_bytes result (jsonBytes result) candidates = result ++ candidates := by
  induction candidates generalizing result with
  | nil => exact (append_nil _).symm
  | cons item candidates ih =>
    rw [append_cons] at hFits ⊢
    have hItem := (jsonBytes_le_append (result ++ [item]) candidates).trans hFits
    rw [fills_cons, ← jsonBytes_concat, if_neg (Nat.not_lt.mpr hItem)]
    exact ih hFits

/- This id is too long to be kept even alone. -/
def tooLong (max_bytes : Nat) (id : String) : Bool := decide (max_bytes < jsonBytes [id])

/- Ids at the old end that are too long alone are passed. -/
theorem fills_passes (max_bytes : Nat) (candidates : List String) :
    fills max_bytes [] 2 candidates =
      match candidates.dropWhile (tooLong max_bytes) with
      | [] => []
      | first :: rest => fills max_bytes [first] (jsonBytes [first]) rest := by
  induction candidates with
  | nil => rfl
  | cons item candidates ih =>
    have hAlone : jsonBytes [item] = 2 + extraBytes [] item := jsonBytes_concat [] item
    rw [fills_cons, ← hAlone, nil_append, dropWhile_cons]
    split
    next hLong =>
      have hPassed : tooLong max_bytes item := decide_eq_true hLong
      rw [if_pos hPassed]
      exact ih
    next hFits =>
      have hKept : ¬ tooLong max_bytes item := fun hLong => hFits (of_decide_eq_true hLong)
      rw [if_neg hKept]

theorem lt_jsonBytes (id : String) : 2 < jsonBytes [id] := by
  have hQuote : (utf8 ['"']).length = 1 := by decide
  have hAlone : jsonBytes [id] = 2 + extraBytes [] id := jsonBytes_concat [] id
  unfold extraBytes textBytes dumpsText at hAlone
  rw [length_utf8_append, hQuote] at hAlone
  omega

----
-- Newest Ids
----

/- The newest distinct ids, without the ones at the old end that are too long alone. -/
def fitting (values : List String) (max_items max_bytes : ℤ) : List String :=
  ((distinctIds values).rtake max_items.toNat).dropWhile (tooLong max_bytes.toNat)

theorem fitting_suffix (values : List String) (max_items max_bytes : ℤ) :
    fitting values max_items max_bytes <:+ distinctIds values :=
  (List.dropWhile_suffix _).trans (List.drop_suffix _ _)

theorem bound_before_ids_eq (values : List String) (max_items max_bytes : ℤ) :
    bound_before_ids values max_items max_bytes =
      match fitting values max_items max_bytes with
      | [] => []
      | first :: rest => fills max_bytes.toNat [first] (jsonBytes [first]) rest := by
  unfold bound_before_ids
  split
  next hNone =>
    have hFitting : fitting values max_items max_bytes = [] := by
      unfold fitting
      rcases hNone with hItems | hBytes
      · rw [Nat.le_zero.mp hItems, List.rtake_zero, List.dropWhile_nil]
      · rw [List.dropWhile_eq_nil_iff]
        intro id _
        exact decide_eq_true (hBytes.trans_lt (lt_jsonBytes id))
    rw [hFitting]
  · exact fills_passes _ _

theorem bound_before_ids_eq_nil (hNone : fitting values max_items bytes = []) :
    bound_before_ids values max_items bytes = [] := by
  rw [bound_before_ids_eq, hNone]

theorem bound_before_ids_eq_cons (hSome : fitting values max_items bytes = first :: rest) :
    bound_before_ids values max_items bytes =
      fills bytes.toNat [first] (jsonBytes [first]) rest := by
  rw [bound_before_ids_eq, hSome]

/- No younger id is passed over only if all fit. -/
theorem KeepsNewest.eq_fitting
    (hNewest : KeepsNewest values (bound_before_ids values max_items bytes)) :
    bound_before_ids values max_items bytes = fitting values max_items bytes := by
  have hSuffix := fitting_suffix values max_items bytes
  have hAge := (distinctIds_pairwise values).sublist hSuffix.sublist
  cases hFitting : fitting values max_items bytes with
  | nil => exact bound_before_ids_eq_nil hFitting
  | cons first rest =>
    have hIs := bound_before_ids_eq_cons hFitting
    rcases fills_sublist bytes.toNat [first] (jsonBytes [first]) rest with ⟨kept, hKept, hSub⟩
    rw [hKept] at hIs
    rw [hFitting] at hAge hSuffix
    have hAll : rest ⊆ kept := by
      intro id hIn
      have hOlder := List.rel_of_pairwise_cons hAge hIn
      have hStored := mem_distinctIds.mp (hSuffix.subset (List.mem_cons_of_mem _ hIn))
      have hThere := hNewest first (hIs ▸ List.mem_cons_self) id hStored.1 hStored.2 hOlder
      rw [hIs] at hThere
      rcases List.mem_cons.mp hThere with hFirst | hLater
      · rw [hFirst] at hOlder
        exact absurd hOlder (Nat.lt_irrefl _)
      · exact hLater
    have hLength := ((nodup_of_older hAge.of_cons).subperm hAll).length_le
    rw [hIs, hSub.eq_of_length_le hLength]
    rfl

theorem keepsNewest_of_suffix (hSuffix : result <:+ distinctIds values) :
    KeepsNewest values result := by
  intro a hA b hStored hText hOlder
  have hIn := mem_distinctIds.mpr ⟨hStored, hText⟩
  rcases hSuffix with ⟨dropped, hIs⟩
  have hAge := distinctIds_pairwise values
  rw [← hIs] at hIn hAge
  rcases List.mem_append.mp hIn with hDropped | hKept
  · exact absurd ((List.pairwise_append.mp hAge).2.2 b hDropped a hA) (Nat.lt_asymm hOlder)
  · exact hKept

theorem bound_before_ids_of_fits
    (hFits : jsonBytes (fitting values max_items bytes) ≤ bytes.toNat) :
    bound_before_ids values max_items bytes = fitting values max_items bytes := by
  cases hFitting : fitting values max_items bytes with
  | nil => exact bound_before_ids_eq_nil hFitting
  | cons first rest =>
    rw [hFitting] at hFits
    rw [bound_before_ids_eq_cons hFitting]
    exact fills_all hFits

/- The baseline keeps the newest ids within both caps exactly
   if the ids that are not too long alone fit together. -/
theorem bound_before_ids_bounded_iff (values : List String) (max_items max_bytes : ℤ) :
    Bounded values max_items max_bytes (bound_before_ids values max_items max_bytes) ↔
      0 ≤ max_items ∧ 2 ≤ max_bytes ∧
        jsonBytes (fitting values max_items max_bytes) ≤ max_bytes := by
  constructor
  · intro hBounded
    have hItems := hBounded.items
    have hBytes := hBounded.bytes
    have hOpen := jsonBytes_eq (bound_before_ids values max_items max_bytes)
    rw [hBounded.newest.eq_fitting] at hItems hBytes hOpen
    exact ⟨by omega, by omega, hBytes⟩
  · rintro ⟨hItems, hLow, hFits⟩
    rw [bound_before_ids_of_fits (by omega)]
    have hSuffix := fitting_suffix values max_items max_bytes
    refine ⟨nodup_of_older ((distinctIds_pairwise values).sublist hSuffix.sublist), ?_, hFits,
      keepsNewest_of_suffix hSuffix⟩
    have hLength : (fitting values max_items max_bytes).length ≤
        ((distinctIds values).rtake max_items.toNat).length := (List.dropWhile_suffix _).length_le
    rw [List.rtake, List.length_drop] at hLength
    omega

/- The newer of two ids is dropped by the cap on the bytes. -/
theorem bound_before_ids_drops_newest :
    ¬ ∀ (values : List String) (max_items max_bytes : ℤ),
      Bounded values max_items max_bytes (bound_before_ids values max_items max_bytes) := by
  intro hAll
  have hNewest := (hAll ["a1", "b2"] 128 8).newest "a1" (by decide +kernel) "b2"
    (by decide +kernel) (by decide) (by decide +kernel)
  exact absurd hNewest (by decide +kernel)

end MailboxState
