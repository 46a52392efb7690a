import AutoGpt.PhonePool.Lines

/-
  The import of phones: which lines of the text become
  entries, and what becomes of all others.

  Main theorems: `parseLine_accounts`, `parse_import_lines_accounts`
-/

open List

----
-- Valid Lines
----

namespace PhoneLines

open PySplit

variable {raw_line : Text}

def counted (raw_line : Text) : Bool := !(strip raw_line = [] ∨ (strip raw_line).head? = some '#')

/- The line has a separator, a phone with digits and an HTTP URL, and `entry` is what it says. -/
structure ValidLine (env : Env) (raw_line : Text) (entry : Entry) : Prop where
  counted : counted raw_line
  separated : 2 ≤ (split_import_phone_api_line (strip raw_line)).2.2.length
  phone : entry.phone = normalize_phone (split_import_phone_api_line (strip raw_line)).1
  phone_ne : entry.phone ≠ []
  api_url : entry.api_url = strip (split_import_phone_api_line (strip raw_line)).2.1
  url_ok : valid_api_url env entry.api_url = .ok true
  line : entry.line = strip raw_line

/- The entry comes from the last valid line of its phone. -/
def LastValid (env : Env) (lines : List Text) (entry : Entry) : Prop := ∃ before raw_line after,
    lines = before ++ raw_line :: after ∧ entry.index = before.length + 1 ∧
      ValidLine env raw_line entry ∧
      ∀ later ∈ after, ∀ other, ValidLine env later other → other.phone ≠ entry.phone

theorem lastValid_snoc : LastValid env (done ++ [raw_line]) entry ↔
      (ValidLine env raw_line entry ∧ entry.index = done.length + 1) ∨ (LastValid env done entry ∧
          ∀ other, ValidLine env raw_line other → other.phone ≠ entry.phone) := by
  constructor
  · rintro ⟨before, line, after, hLines, hIndex, hValid, hAfter⟩
    rcases eq_nil_or_concat after with rfl | ⟨after, last, rfl⟩
    · rcases append_inj' hLines rfl with ⟨rfl, hLast⟩
      cases hLast
      exact .inl ⟨hValid, hIndex⟩
    · rw [concat_eq_append] at hLines hAfter
      rw [← cons_append, ← append_assoc] at hLines
      rcases append_inj' hLines rfl with ⟨rfl, hLast⟩
      cases hLast
      exact .inr ⟨⟨before, line, after, rfl, hIndex, hValid,
        fun later hMem => hAfter later (mem_append_left _ hMem)⟩, hAfter _ (by simp)⟩
  · rintro (⟨hValid, hIndex⟩ | ⟨⟨before, line, after, rfl, hIndex, hValid, hAfter⟩, hLast⟩)
    · exact ⟨done, raw_line, [], rfl, hIndex, hValid, nofun⟩
    · refine ⟨before, line, after ++ [raw_line], by simp, hIndex, hValid, fun later hMem => ?_⟩
      rcases mem_append.mp hMem with hOld | hNew
      · exact hAfter later hOld
      · rw [mem_singleton.mp hNew]
        exact hLast

/- Two entries with one line number have one phone. -/
theorem LastValid.phone_eq (hEntry : LastValid env done entry)
    (hOther : LastValid env done other) (hIndex : entry.index = other.index) :
    entry.phone = other.phone := by
  rcases hEntry with ⟨before, line, after, rfl, hBefore, hValid, -⟩
  rcases hOther with ⟨before', line', after', hLines, hBefore', hValid', -⟩
  rcases append_inj hLines (by omega) with ⟨-, hSame⟩
  cases hSame
  rw [hValid.phone, hValid'.phone]

----
-- A Round
----

/- What a round does with its line: it skips it, reports it or takes its entry. -/
theorem parseLine_cases {next : Parsed}
    (hNext : parseLine env parsed index raw_line = .ok next) :
    (counted raw_line = false ∧ next = parsed) ∨
      (counted raw_line ∧ (∀ entry, ¬ ValidLine env raw_line entry) ∧
        next.entries_by_phone = parsed.entries_by_phone ∧
        next.errors.length = parsed.errors.length + 1 ∧ next.deduped = parsed.deduped) ∨
      ∃ entry, ValidLine env raw_line entry ∧ entry.index = index ∧ next.entries_by_phone =
          Grouping.upsert entry.phone entry (fun _ => entry) parsed.entries_by_phone ∧
        next.errors = parsed.errors ∧ next.deduped = parsed.deduped +
          (Grouping.value? parsed.entries_by_phone entry.phone).toList.length := by
  unfold parseLine at hNext
  dsimp only at hNext
  by_cases hSkip : strip raw_line = [] ∨ (strip raw_line).head? = some '#'
  · rw [if_pos hSkip] at hNext
    cases hNext
    exact .inl ⟨by rw [counted, decide_eq_true hSkip]; rfl, rfl⟩
  rw [if_neg hSkip] at hNext
  have hCounted : counted raw_line := by rw [counted, decide_eq_false hSkip]; rfl
  refine .inr ?_
  by_cases hParts : (split_import_phone_api_line (strip raw_line)).2.2.length < 2
  · rw [if_pos hParts] at hNext
    cases hNext
    exact .inl ⟨hCounted, fun _ hValid => absurd hValid.separated (by omega), rfl, by simp, rfl⟩
  rw [if_neg hParts] at hNext
  cases hUrl : valid_api_url env (strip (split_import_phone_api_line (strip raw_line)).2.1) with
  | error e =>
    rw [hUrl] at hNext
    cases hNext
  | ok valid =>
    rw [hUrl] at hNext
    dsimp only at hNext
    split at hNext
    next hPhone =>
      cases hNext
      exact .inl ⟨hCounted, fun _ hValid => hValid.phone_ne (hValid.phone.trans hPhone), rfl,
        by simp, rfl⟩
    next hPhone =>
      cases valid with
      | false =>
        cases hNext
        refine .inl ⟨hCounted, fun _ hValid => ?_, rfl, by simp, rfl⟩
        have hOk := hValid.url_ok
        rw [hValid.api_url, hUrl] at hOk
        cases hOk
      | true =>
        rw [if_neg (by decide)] at hNext
        cases hNext
        let entry : Entry :=
          { index := index
            phone := normalize_phone (split_import_phone_api_line (strip raw_line)).1
            api_url := strip (split_import_phone_api_line (strip raw_line)).2.1
            line := strip raw_line }
        have hValid : ValidLine env raw_line entry :=
          ⟨hCounted, Nat.le_of_not_lt hParts, rfl, hPhone, rfl, hUrl, rfl⟩
        refine .inr ⟨entry, hValid, rfl, rfl, rfl, ?_⟩
        dsimp only
        cases Grouping.value? parsed.entries_by_phone entry.phone <;> rfl

end PhoneLines

----
-- Upsert
----

namespace Grouping

variable {κ β : Type} [DecidableEq κ] {d : List (κ × β)}

/- The written key has the new value, and all others what they had. -/
theorem mem_upsert (hNodup : (d.map Prod.fst).Nodup) {entry : κ × β} :
    entry ∈ upsert k v (fun _ => v) d ↔ entry = (k, v) ∨ (entry ∈ d ∧ entry.1 ≠ k) := by
  induction d with
  | nil => simp [upsert]
  | cons first rest ih =>
    rw [map_cons, nodup_cons] at hNodup
    unfold upsert
    split
    next hSame =>
      have hRest : ∀ entry ∈ rest, entry.1 ≠ k := fun entry hMem hKey =>
        hNodup.1 (hSame ▸ hKey ▸ mem_map_of_mem hMem)
      grind
    next hOther =>
      rw [mem_cons, ih hNodup.2]
      grind

theorem upsert_keys : (upsert k v (fun _ => v) d).map Prod.fst =
      if (value? d k).isSome then d.map Prod.fst else d.map Prod.fst ++ [k] := by
  induction d with
  | nil => rfl
  | cons first rest ih =>
    unfold upsert value?
    by_cases hSame : first.1 = k
    · simp [hSame]
    · unfold value? at ih
      rw [if_neg hSame, map_cons, ih, find?_cons_of_neg (by simpa using hSame)]
      split <;> rfl

theorem not_mem_keys (hNone : (value? d k).isSome = false) : k ∉ d.map Prod.fst := by
  intro hMem
  rcases mem_map.mp hMem with ⟨entry, hEntry, rfl⟩
  simp only [value?, Option.isSome_map, find?_isSome, Bool.eq_false_iff, ne_eq] at hNone
  exact hNone ⟨entry, hEntry, by simp⟩

end Grouping

----
-- All Lines
----

namespace PhoneLines

open PySplit

variable {raw_line : Text}

/- The loop after the lines `done`: an entry for each phone, from its last valid line, and each
   line that is neither blank nor a comment is an entry, an error or a replaced line. -/
structure Accounted (env : Env) (done : List Text) (parsed : Parsed) : Prop where
  phones : (parsed.entries_by_phone.map Prod.fst).Nodup
  entries : ∀ item : Text × Entry, item ∈ parsed.entries_by_phone ↔
    item.1 = item.2.phone ∧ LastValid env done item.2
  count : done.countP counted =
    parsed.entries_by_phone.length + parsed.errors.length + parsed.deduped

theorem parseLine_accounts {next : Parsed} (hDone : Accounted env done parsed)
    (hNext : parseLine env parsed (done.length + 1) raw_line = .ok next) :
    Accounted env (done ++ [raw_line]) next := by
  have hCount : (done ++ [raw_line]).countP counted =
      done.countP counted + if counted raw_line then 1 else 0 := by
    rw [countP_append, countP_singleton]
  have hOld := hDone.count
  rcases parseLine_cases hNext with ⟨hSkip, rfl⟩ | ⟨hCounted, hNone, hEntries, hErrors, hDeduped⟩ |
      ⟨entry, hValid, hIndex, hEntries, hErrors, hDeduped⟩
  · refine ⟨hDone.phones, fun item => ?_, by rw [hCount, hSkip]; exact hOld⟩
    have hNone : ∀ entry, ¬ ValidLine env raw_line entry := fun _ hValid => by
      rw [hValid.counted] at hSkip
      cases hSkip
    rw [hDone.entries, lastValid_snoc]
    simp [hNone]
  · refine ⟨hEntries ▸ hDone.phones, fun item => ?_, ?_⟩
    · rw [hEntries, hDone.entries, lastValid_snoc]
      simp [hNone]
    · rw [hCount, hCounted, hEntries, if_pos rfl]
      omega
  · have hLength := congrArg List.length (Grouping.upsert_keys (k := entry.phone) (v := entry)
      (d := parsed.entries_by_phone))
    rw [length_map] at hLength
    refine ⟨?_, fun item => ?_, ?_⟩
    · rw [hEntries, Grouping.upsert_keys]
      split
      next hSome => exact hDone.phones
      next hNone =>
        have hNew := Grouping.not_mem_keys (Bool.eq_false_iff.mpr hNone)
        exact nodup_append.mpr ⟨hDone.phones, nodup_singleton _, by grind⟩
    · have hSame : ∀ other, ValidLine env raw_line other → other.phone = entry.phone :=
        fun other hOther => hOther.phone.trans hValid.phone.symm
      rw [hEntries, Grouping.mem_upsert hDone.phones, hDone.entries, lastValid_snoc]
      constructor
      · rintro (rfl | ⟨⟨hKey, hLast⟩, hOther⟩)
        · exact ⟨rfl, .inl ⟨hValid, hIndex⟩⟩
        · exact ⟨hKey, .inr ⟨hLast, fun other hIs => by
            rw [hSame other hIs, ← hKey]
            exact hOther.symm⟩⟩
      · rintro ⟨hKey, ⟨hItem, hAt⟩ | ⟨hLast, hOther⟩⟩
        · left
          have hEntry : item.2 = entry := by
            rcases item with ⟨key, index, phone, api_url, line⟩
            rcases entry with ⟨index', phone', api_url', line'⟩
            have hPhone := hSame _ hItem
            have hUrl := hItem.api_url.trans hValid.api_url.symm
            have hLine := hItem.line.trans hValid.line.symm
            simp_all
          rw [← hEntry, ← hKey]
        · exact .inr ⟨⟨hKey, hLast⟩, fun hIs => hOther _ hValid (hIs.symm.trans hKey)⟩
    · rw [hCount, hValid.counted, hEntries, hErrors, hDeduped, if_pos rfl, hLength, hOld]
      cases Grouping.value? parsed.entries_by_phone entry.phone with
      | none =>
        rw [Option.isSome_none, if_neg (by decide), length_append]
        simp
        omega
      | some previous =>
        rw [Option.isSome_some, if_pos rfl]
        simp
        omega

theorem parseLines_accounts {next : Parsed} (hDone : Accounted env done parsed)
    (hNext : parseLines env parsed (done.length + 1) rest = .ok next) :
    Accounted env (done ++ rest) next := by
  induction rest generalizing done parsed with
  | nil =>
    cases hNext
    rw [append_nil]
    exact hDone
  | cons raw_line rest ih =>
    unfold parseLines at hNext
    split at hNext
    · cases hNext
    next parsed' hLine =>
      have hLater := ih (parseLine_accounts hDone hLine) (by rw [length_append]; exact hNext)
      rw [append_assoc] at hLater
      exact hLater

end PhoneLines
