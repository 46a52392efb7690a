import AutoGpt.Library.PySplit
import AutoGpt.SharedConfig.Chain
import Mathlib

/-
  Reading the configuration of an instance
  (`core/config_store.py`): one key by `get`, all keys by
  `get_all`, over its own table, the environment and the shared
  store, and what leaving the shared store does to both.

  Main theorems: `ConfigStore.reads_agree_iff`, `ConfigStore.disable_shared_keeps`
-/

open PyText (isSpace orElse squeeze strip strip_strip)
open List
open String

----
-- The Environment
----

namespace ConfigStore

open SharedConfig (Config is_shareable_key)

/- The process: `str.lower()`, `str.upper()`, the values of `_runtime_env_values()` in the order of
   the dictionary, and `os.getenv("CONFIG_SHARE_ENABLED", "false")`. -/
structure Process where
  lower : String → String
  upper : String → String
  env_values : List (String × String)
  share_default : String

variable (process : Process)

/- `text.strip("_")`. -/
def trim (cs : List Char) : String := ofList ((cs.dropWhile (· == '_')).rdropWhile (· == '_'))

/- A character of `[a-z0-9]`. -/
def isSmall (c : Char) : Bool := c.isLower || c.isDigit

/- `_canonical_config_key(key)`. -/
def canonical_config_key (key : String) : String :=
  let value := strip key
  if value = "" then ""
  else trim (squeeze (fun c => !isSmall c) false (process.lower value).toList)

/- `_config_key_candidates(key)`. -/
def config_key_candidates (key : String) : List String :=
  let raw := strip key
  if raw = "" then []
  else
    let normalized := trim (squeeze (fun c => !c.isAlphanum) false raw.toList)
    (([raw, process.lower raw, process.upper raw, normalized, process.lower normalized,
      process.upper normalized].map strip).filter (· ≠ "")).eraseDups

/- The stripped value of an entry of a dictionary. -/
def textUnder (values : List (String × String)) (key : String) : String :=
  strip ((values.lookup key).getD "")

def firstText (texts : List String) : String := (texts.find? (· ≠ "")).getD ""

/- `_get_env_fallback_value(key)`. -/
def get_env_fallback_value (key : String) : String :=
  firstText ((config_key_candidates process key).map (textUnder process.env_values))

def textIn (values : Config) (key : String) : String := strip ((values.lookup key).getD "")

/- One target of an entry of the environment. -/
def mergeTarget (text : String) (merged : Config) (target_key : String) : Config :=
  if target_key = "" ∨ textIn merged target_key ≠ "" then merged else merged.insert target_key text

def mergeEntry (merged : Config) (entry : String × String) : Config :=
  let text := strip entry.2
  if text = "" then merged
  else [entry.1, canonical_config_key process entry.1].foldl (mergeTarget text) merged

/- `_merge_env_fallback(values)`. -/
def merge_env_fallback (values : Config) : Config :=
  process.env_values.foldl (mergeEntry process) values

----
-- The Store
----

/- The table of the instance and the shared store. -/
structure State where
  configs : Config
  shared : SharedConfig.Db

/- `_get_local(key, default)`. -/
def get_local (st : State) (key default : String) : String :=
  if textIn st.configs key ≠ "" then textIn st.configs key
  else orElse (get_env_fallback_value process key) default

/- `shared_enabled()`. -/
def shared_enabled (st : State) : Bool :=
  process.lower (strip (get_local process st "_config_share_enabled" process.share_default)) ∈
    ["1", "true", "yes", "on"]

/- The value of the shared store that answers for a key. -/
def sharedValue (st : State) (key : String) : Option String :=
  if is_shareable_key key && shared_enabled process st then
    (st.shared.items.find? key).map SharedConfig.ItemRow.value
  else none

/- `get(key, default)`. -/
def get (st : State) (key default : String) : String :=
  (sharedValue process st key).getD (get_local process st key default)

/- The items that `get_all` takes over. -/
def overlay (values : Config) (item : String × String) : Config :=
  if is_shareable_key item.1 then values.insert item.1 item.2 else values

/- `get_all()`. -/
def get_all (st : State) : Config :=
  let values := merge_env_fallback process st.configs
  if shared_enabled process st then
    (st.shared.items.rows.map (fun row => (row.key, row.value))).foldl overlay values
  else values

/- `_set_many_local(data)`. -/
def State.set_many_local (st : State) (data : Config) : State :=
    { st with configs := data ∪ st.configs }

/- `pull_shared_to_local()`. -/
def pull_shared_to_local (now : String) (st : State) : State :=
  let pulled := st.set_many_local st.shared.readAll
  pulled.set_many_local (((∅ : Config).insert "_config_share_baseline_revision"
      (toString st.shared.config.revision)).insert "_config_share_last_pull_at" now)

/- `disable_shared()`. -/
def disable_shared (now : String) (st : State) : State :=
  let left := if shared_enabled process st then pull_shared_to_local now st else st
  left.set_many_local
    ((((∅ : Config).insert "_config_share_enabled" "false").insert "_config_share_baseline_revision"
      (toString st.shared.config.revision)).insert "_config_share_detached_at" now)

----
-- Texts
----

def isSnake (s : String) : Bool := s.toList.all (fun c => isSmall c || c = '_')

/- The case mappings on lower snake case, and an environment without empty names. -/
structure Process.Lawful (process : Process) : Prop where
  lower_snake : ∀ s, isSnake s → process.lower s = s
  upper_snake : ∀ s, isSnake s → process.upper s = ofList (s.toList.map Char.toUpper)
  named : ∀ entry ∈ process.env_values, entry.1 ≠ ""

/- The name of a key without repeated underscores. -/
def trimmed (key : String) : String := trim (squeeze (fun c => !isSmall c) false key.toList)

/- The text of the first entry that spells the key. -/
def spelledText (key : String) : String := firstText ((process.env_values.filter
    (fun entry => entry.1 = key ∨ canonical_config_key process entry.1 = key)).map
      (fun entry => strip entry.2))

/- The text under the key, its upper case, its trimmed name or
   the upper case of that, whichever comes first. -/
def namedText (key : String) : String :=
  firstText ([key, process.upper key, trimmed key, process.upper (trimmed key)].map
    (textUnder process.env_values))

variable {process : Process} {st : State} {key : String}

theorem firstText_cons (text : String) (texts : List String) :
    firstText (text :: texts) = if text ≠ "" then text else firstText texts := by
  by_cases hText : text = ""
  · simp [firstText, hText]
  · simp [firstText, hText]

theorem strip_firstText (values : List (String × String)) (names : List String) :
    strip (firstText (names.map (textUnder values))) =
      firstText (names.map (textUnder values)) := by
  induction names with
  | nil => rfl
  | cons name names ih =>
    rw [map_cons, firstText_cons]
    split
    · exact strip_strip _
    · exact ih

theorem firstText_eraseDups (f : String → String) (names : List String) :
    firstText (names.eraseDups.map f) = firstText (names.map f) := by
  induction hLength : names.length using Nat.strong_induction_on generalizing names with
  | _ n ih =>
    cases names with
    | nil => rfl
    | cons name rest =>
      have hShort : (rest.filter (fun other => !other == name)).length < n := by
        rw [← hLength]
        exact Nat.lt_succ_of_le (length_filter_le _ _)
      rw [eraseDups_cons, map_cons, map_cons, firstText_cons, firstText_cons,
        ih _ hShort _ rfl]
      by_cases hText : f name = ""
      · rw [if_neg (not_not.mpr hText), if_neg (not_not.mpr hText)]
        clear hShort ih hLength
        induction rest with
        | nil => rfl
        | cons other rest ih =>
          by_cases hSame : other = name
          · rw [filter_cons_of_neg (by simp [hSame]), ih, map_cons, firstText_cons,
              hSame, if_neg (not_not.mpr hText)]
          · rw [filter_cons_of_pos (by simp [hSame]), map_cons, map_cons,
              firstText_cons, firstText_cons, ih]
      · rw [if_pos hText, if_pos hText]

theorem isSpace_of_range (hRange : 33 ≤ c.toNat ∧ c.toNat < 127) : isSpace c = false := by
  unfold isSpace
  simp only [mem_cons, not_mem_nil, or_false, decide_eq_false_iff_not]
  omega

theorem snake_plain (hSnake : (isSmall c || c = '_')) :
    isSpace c = false ∧ isSpace c.toUpper = false ∧ (!c.isAlphanum) = !isSmall c := by
  simp only [isSmall, Bool.or_eq_true, decide_eq_true_eq] at hSnake
  rcases hSnake with (hLower | hDigit) | rfl
  · have hBounds := hLower
    unfold Char.isLower at hBounds
    rw [Bool.and_eq_true, decide_eq_true_eq, decide_eq_true_eq] at hBounds
    have hLeft : 97 ≤ c.val.toNat := hBounds.1
    have hRight : c.val.toNat ≤ 122 := hBounds.2
    have hUpper : c.toUpper.val = c.val + ('A'.val - 'a'.val) := by
      unfold Char.toUpper
      rw [dif_pos hBounds]
    have hGap : ('A'.val - 'a'.val).toNat = 4294967264 := rfl
    have hNat : c.toUpper.val.toNat = c.val.toNat - 32 := by
      rw [hUpper, UInt32.toNat_add, hGap]
      omega
    refine ⟨isSpace_of_range ?_, isSpace_of_range ?_, ?_⟩
    · change 33 ≤ c.val.toNat ∧ c.val.toNat < 127
      omega
    · change 33 ≤ c.toUpper.val.toNat ∧ c.toUpper.val.toNat < 127
      omega
    · simp [isSmall, Char.isAlphanum, Char.isAlpha, hLower]
  · have hBounds := hDigit
    unfold Char.isDigit at hBounds
    rw [Bool.and_eq_true, decide_eq_true_eq, decide_eq_true_eq] at hBounds
    have hLeft : 48 ≤ c.val.toNat := hBounds.1
    have hRight : c.val.toNat ≤ 57 := hBounds.2
    have hUpper : c.toUpper = c := by
      refine dif_neg (fun hLower => ?_)
      have hLetter : 97 ≤ c.val.toNat := hLower.1
      omega
    have hSpace : isSpace c = false := by
      refine isSpace_of_range ?_
      change 33 ≤ c.val.toNat ∧ c.val.toNat < 127
      omega
    rw [hUpper]
    exact ⟨hSpace, hSpace, by simp [isSmall, Char.isAlphanum, hDigit]⟩
  · decide

theorem mem_squeeze
    (hMem : c ∈ squeeze p run cs) : c = '_' ∨ c ∈ cs := by
  induction cs generalizing run with
  | nil => exact absurd hMem not_mem_nil
  | cons d ds ih =>
    rw [squeeze] at hMem
    grind

theorem squeeze_congr
    (hSame : ∀ c ∈ cs, p c = q c) : squeeze p run cs = squeeze q run cs := by
  induction cs generalizing run with
  | nil => rfl
  | cons c cs ih =>
    have hRest (run : Bool) : squeeze p run cs = squeeze q run cs :=
      ih fun d hMem => hSame d (mem_cons_of_mem c hMem)
    rw [squeeze, squeeze, hSame c mem_cons_self, hRest, hRest]

theorem snake_trimmed (hKey : isSnake key) : isSnake (trimmed key) := by
  refine all_eq_true.mpr (fun c hMem => ?_)
  unfold trimmed trim at hMem
  rw [toList_ofList] at hMem
  rcases mem_squeeze ((dropWhile_sublist _).subset
    (( rdropWhile_prefix _ _).subset hMem)) with rfl | hIn
  · rfl
  · exact all_eq_true.mp hKey c hIn

/- A text in lower snake case and its upper case have no spaces. -/
theorem strip_snake (hKey : isSnake key) (hLawful : process.Lawful) :
    strip key = key ∧ strip (process.upper key) = process.upper key := by
  refine ⟨PyText.strip_of_plain fun c hMem => (snake_plain (all_eq_true.mp hKey c hMem)).1, ?_⟩
  rw [hLawful.upper_snake key hKey]
  refine PyText.strip_of_plain fun c hMem => ?_
  rw [toList_ofList] at hMem
  rcases mem_map.mp hMem with ⟨d, hIn, rfl⟩
  exact (snake_plain (all_eq_true.mp hKey d hIn)).2.1

theorem textUnder_empty (hLawful : process.Lawful) : textUnder process.env_values "" = "" := by
  have hNone : process.env_values.lookup "" = none := by
    refine lookup_eq_none_iff.mpr (fun entry hMem => ?_)
    exact bne_iff_ne.mpr (hLawful.named entry hMem).symm
  rw [textUnder, hNone]
  rfl

/- The fallback of a key in lower snake case. -/
theorem fallback_of_snake (hLawful : process.Lawful) (hKey : isSnake key)
    (hGiven : key ≠ "") : get_env_fallback_value process key = namedText process key := by
  have hNormal : squeeze (fun c => !c.isAlphanum) false key.toList =
      squeeze (fun c => !isSmall c) false key.toList :=
    squeeze_congr fun c hMem => (snake_plain (all_eq_true.mp hKey c hMem)).2.2
  have hTrimmed := snake_trimmed hKey
  have hFilter (names : List String) :
      firstText ((names.filter (· ≠ "")).map (textUnder process.env_values)) =
        firstText (names.map (textUnder process.env_values)) := by
    induction names with
    | nil => rfl
    | cons name names ih =>
      by_cases hName : name = ""
      · rw [filter_cons_of_neg (by simp [hName]), ih, map_cons, firstText_cons, hName,
          textUnder_empty hLawful]
        rfl
      · rw [filter_cons_of_pos (by simp [hName]), map_cons, map_cons,
          firstText_cons, firstText_cons, ih]
  unfold get_env_fallback_value config_key_candidates
  rw [(strip_snake hKey hLawful).1, if_neg hGiven, firstText_eraseDups, hFilter, hNormal]
  change firstText (List.map _ (List.map _ [key, process.lower key, process.upper key, trimmed key,
    process.lower (trimmed key), process.upper (trimmed key)])) = _
  rw [hLawful.lower_snake key hKey, hLawful.lower_snake _ hTrimmed]
  simp only [namedText, map_cons, map_nil, firstText_cons,
    (strip_snake hKey hLawful).1, (strip_snake hKey hLawful).2,
    (strip_snake hTrimmed hLawful).1, (strip_snake hTrimmed hLawful).2]
  grind

----
-- Point And Bulk Reads
----

theorem textIn_mergeTarget (hGiven : key ≠ "") (hText : strip text = text) :
    textIn (mergeTarget text merged target_key) key =
      if textIn merged key ≠ "" then textIn merged key
      else if target_key = key then text else "" := by
  unfold mergeTarget
  by_cases hTarget : target_key = key
  · subst hTarget
    by_cases hBefore : textIn merged target_key = ""
    · rw [if_neg (by simp [hGiven, hBefore]), if_neg (not_not.mpr hBefore), if_pos rfl]
      simp [textIn, Finmap.lookup_insert, hText]
    · rw [if_pos (.inr hBefore), if_pos hBefore]
  · rw [if_neg hTarget]
    have hOther : textIn (merged.insert target_key text) key = textIn merged key := by
      simp [textIn, Finmap.lookup_insert_of_ne _ (Ne.symm hTarget)]
    grind

theorem textIn_mergeEntry (hGiven : key ≠ "") :
    textIn (mergeEntry process merged entry) key =
      if textIn merged key ≠ "" then textIn merged key
      else if entry.1 = key ∨ canonical_config_key process entry.1 = key then strip entry.2
      else "" := by
  have hStrip := strip_strip entry.2
  unfold mergeEntry
  by_cases hText : strip entry.2 = ""
  · rw [if_pos hText, hText]
    grind
  · rw [if_neg hText]
    simp only [foldl_cons, foldl_nil, textIn_mergeTarget hGiven hStrip]
    grind

theorem textIn_merge (hGiven : key ≠ "") (values : Config) :
    textIn (merge_env_fallback process values) key =
      if textIn values key ≠ "" then textIn values key else spelledText process key := by
  unfold merge_env_fallback spelledText
  generalize process.env_values = entries
  induction entries generalizing values with
  | nil =>
    by_cases hText : textIn values key = ""
    · simp [hText, firstText]
    · simp [hText]
  | cons entry entries ih =>
    rw [foldl_cons, ih, textIn_mergeEntry hGiven]
    by_cases hSpells : entry.1 = key ∨ canonical_config_key process entry.1 = key
    · rw [filter_cons_of_pos (by simpa using hSpells), map_cons, firstText_cons,
        if_pos hSpells]
      grind
    · rw [filter_cons_of_neg (by simpa using hSpells), if_neg hSpells]
      grind

theorem lookup_overlay {rows : List SharedConfig.ItemRow} (values : Config)
    (hNodup : (rows.map SharedConfig.ItemRow.key).Nodup) :
    ((rows.map (fun row => (row.key, row.value))).foldl overlay values).lookup key =
      if is_shareable_key key then
        ((rows.find? (fun row => row.key = key)).map SharedConfig.ItemRow.value).or
          (values.lookup key)
      else values.lookup key := by
  induction rows generalizing values with
  | nil => simp
  | cons row rows ih =>
    rw [map_cons, nodup_cons] at hNodup
    rw [map_cons, foldl_cons, ih _ hNodup.2]
    by_cases hRow : row.key = key
    · have hNone : rows.find? (fun other => other.key = key) = none := by
        refine find?_eq_none.mpr (fun other hMem hSame => hNodup.1 ?_)
        rw [hRow, ← of_decide_eq_true hSame]
        exact mem_map_of_mem hMem
      rw [hNone, find?_cons_of_pos (by simp [hRow])]
      by_cases hShareable : is_shareable_key key
      · simp [overlay, hRow, hShareable]
      · simp [overlay, hRow, hShareable]
    · have hOther : (overlay values (row.key, row.value)).lookup key = values.lookup key := by
        unfold overlay
        split
        · exact Finmap.lookup_insert_of_ne _ (Ne.symm hRow)
        · rfl
      rw [hOther, find?_cons_of_neg (by simpa using hRow)]

theorem textIn_get_all (hGiven : key ≠ "") :
    textIn (get_all process st) key =
      match sharedValue process st key with
      | some value => strip value
      | none =>
        if textIn st.configs key ≠ "" then textIn st.configs key else spelledText process key := by
  rw [← textIn_merge hGiven]
  unfold get_all sharedValue
  by_cases hShared : shared_enabled process st
  · rw [if_pos hShared, hShared, Bool.and_true]
    unfold textIn
    rw [lookup_overlay _ st.shared.items.keys_nodup]
    by_cases hShareable : is_shareable_key key
    · rw [if_pos hShareable, if_pos hShareable]
      unfold KeyedTable.find?
      cases st.shared.items.rows.find? (fun row => row.key = key) with
      | none => rfl
      | some row => rfl
    · rw [if_neg hShareable, if_neg hShareable]
  · rw [if_neg hShared, if_neg (by simp [hShared])]

/- For a key in lower snake case the two reads agree, spaces around them aside, just when the shared
   store answers, the table of the instance has a text, or the first entry of the environment that
   spells the key has the text that is found under its name, its upper case, its trimmed name or the
   upper case of that. -/
theorem reads_agree_iff (hLawful : process.Lawful) (st : State) (hKey : isSnake key)
    (hGiven : key ≠ "") :
    strip (get process st key "") = textIn (get_all process st) key ↔
      (sharedValue process st key).isSome ∨ textIn st.configs key ≠ "" ∨
        spelledText process key = namedText process key := by
  have hNamed : strip (namedText process key) = namedText process key := strip_firstText _ _
  have hOrElse : orElse (namedText process key) "" = namedText process key := by
    unfold orElse
    split
    next hNone =>
      exact hNone.symm
    · rfl
  have hLocal : strip (textIn st.configs key) = textIn st.configs key := strip_strip _
  rw [textIn_get_all hGiven]
  unfold get get_local
  rw [fallback_of_snake hLawful hKey hGiven, hOrElse]
  cases sharedValue process st key with
  | some value => exact iff_of_true rfl (.inl rfl)
  | none =>
    rw [Option.getD_none, Option.isSome_none]
    by_cases hText : textIn st.configs key = ""
    · rw [if_neg (not_not.mpr hText), if_neg (not_not.mpr hText), hNamed]
      simp [hText, eq_comm]
    · rw [if_pos hText, if_pos hText, hLocal]
      exact iff_of_true rfl (.inr (.inl hText))

/- ASCII texts, and an environment of two spellings. -/
def twoSpellings : Process where
  lower s := ofList (s.toList.map Char.toLower)
  upper s := ofList (s.toList.map Char.toUpper)
  env_values := [("Proxy-Url", "http://a"), ("PROXY_URL", "http://b")]
  share_default := "false"

def freshState : State := ⟨∅, SharedConfig.Db.initial⟩

theorem lower_of_snake (hSnake : (isSmall c || c = '_')) : c.toLower = c := by
  refine dif_neg (fun hUpper => ?_)
  have hLeft : 65 ≤ c.val.toNat := hUpper.1
  have hRight : c.val.toNat ≤ 90 := hUpper.2
  simp only [isSmall, Bool.or_eq_true, decide_eq_true_eq] at hSnake
  rcases hSnake with (hLower | hDigit) | rfl
  · unfold Char.isLower at hLower
    rw [Bool.and_eq_true, decide_eq_true_eq, decide_eq_true_eq] at hLower
    have hFrom : 97 ≤ c.val.toNat := hLower.1
    omega
  · unfold Char.isDigit at hDigit
    rw [Bool.and_eq_true, decide_eq_true_eq, decide_eq_true_eq] at hDigit
    have hUntil : c.val.toNat ≤ 57 := hDigit.2
    omega
  · exact absurd hRight (by decide)

theorem twoSpellings_lawful : twoSpellings.Lawful where
  lower_snake s hSnake := by
    change ofList (s.toList.map Char.toLower) = s
    rw [map_congr_left fun c hMem => lower_of_snake (all_eq_true.mp hSnake c hMem),
      map_id', ofList_toList]
  upper_snake _ _ := rfl
  named := by decide +kernel

/- A key that only the upper case spells. -/
theorem proxy_user_read_alike :
    strip (get twoSpellings freshState "proxy_user" "") =
      textIn (get_all twoSpellings freshState) "proxy_user" ↔
    (sharedValue twoSpellings freshState "proxy_user").isSome ∨
      textIn freshState.configs "proxy_user" ≠ "" ∨
        spelledText twoSpellings "proxy_user" = namedText twoSpellings "proxy_user" :=
  reads_agree_iff twoSpellings_lawful freshState (by decide +kernel) (by decide +kernel)

/- A mixed spelling in front of the upper case one. -/
theorem two_spellings_read_apart :
    ¬ ∀ key : String, isSnake key → key ≠ "" → strip (get twoSpellings freshState key "") =
        textIn (get_all twoSpellings freshState) key := by
  intro hAll
  exact absurd (hAll "proxy_url" (by decide +kernel) (by decide +kernel)) (by decide +kernel)

----
-- Leaving The Shared Store
----

theorem strip_get_local (st : State) (key : String) :
    strip (get_local process st key "") = get_local process st key "" := by
  unfold get_local orElse
  split
  · exact strip_strip _
  · split
    · rfl
    · exact strip_firstText _ _

/- A key of the instance that the pull and the switch do not write. -/
theorem lookup_disabled (hKey : key ∉ SharedConfig.CONTROL_KEYS) :
    (disable_shared process now st).configs.lookup key =
      if shared_enabled process st then (st.shared.readAll.lookup key).or (st.configs.lookup key)
      else st.configs.lookup key := by
  simp only [SharedConfig.CONTROL_KEYS, mem_cons, not_mem_nil, or_false, not_or] at hKey
  rcases hKey with ⟨hEnabled, hBaseline, hDetached, hPulled⟩
  have hOver (data values : Config) : (data ∪ values).lookup key =
      (data.lookup key).or (values.lookup key) := by
    by_cases hMem : key ∈ data
    · rw [Finmap.lookup_union_left hMem]
      rcases Finmap.mem_iff.mp hMem with ⟨value, hFound⟩
      rw [hFound]
      rfl
    · rw [Finmap.lookup_union_right hMem, Finmap.lookup_eq_none.mpr hMem]
      rfl
  unfold disable_shared pull_shared_to_local State.set_many_local
  split
  · simp [hOver, Finmap.lookup_insert_of_ne, hEnabled, hBaseline, hDetached, hPulled]
  · simp [hOver, Finmap.lookup_insert_of_ne, hEnabled, hBaseline, hDetached]

theorem shared_left (hLawful : process.Lawful) (now : String) :
    shared_enabled process (disable_shared process now st) = false := by
  have hFalse : strip "false" = "false" := by decide +kernel
  have hLookup : (disable_shared process now st).configs.lookup "_config_share_enabled" =
      some "false" := by
    unfold disable_shared State.set_many_local
    rw [Finmap.lookup_union_left (by simp)]
    simp [Finmap.lookup_insert_of_ne]
  have hText : textIn (disable_shared process now st).configs "_config_share_enabled" =
      "false" := by
    unfold textIn
    rw [hLookup, Option.getD_some, hFalse]
  unfold shared_enabled get_local
  rw [hText, if_pos (by decide), hFalse, hLawful.lower_snake "false" (by decide +kernel)]
  decide

/- Leaving the shared store keeps the value of every key that the switch itself does not write, up
   to the spaces around it, unless the shared store answered with a blank value and the environment
   has a text for the key. -/
theorem disable_shared_keeps (hLawful : process.Lawful) (env : SharedConfig.Env)
    (ops : List SharedConfig.Op) (configs : Config) (now key : String)
    (hKey : key ∉ SharedConfig.CONTROL_KEYS)
    (hBlank : ∀ value, sharedValue process ⟨configs, SharedConfig.after env ops⟩ key = some value →
      strip value = "" → get_env_fallback_value process key = "") :
    get process (disable_shared process now ⟨configs, SharedConfig.after env ops⟩) key "" =
      strip (get process ⟨configs, SharedConfig.after env ops⟩ key "") := by
  generalize hState : (⟨configs, SharedConfig.after env ops⟩ : State) = st at hBlank ⊢
  have hChained : SharedConfig.Chained env st.shared := by
    rw [← hState]
    exact SharedConfig.chained_after env ops
  have hAfter : sharedValue process (disable_shared process now st) key = none := by
    unfold sharedValue
    rw [shared_left hLawful, Bool.and_false]
    rfl
  -- the table of the instance has what the shared store answered
  have hLookup : (disable_shared process now st).configs.lookup key =
      (sharedValue process st key).or (st.configs.lookup key) := by
    rw [lookup_disabled hKey]
    unfold sharedValue
    rw [← SharedConfig.lookup_readAll]
    by_cases hShared : shared_enabled process st
    · rw [if_pos hShared, hShared, Bool.and_true]
      split
      · rfl
      next hPrivate =>
        have hNone : st.shared.readAll.lookup key = none :=
          Finmap.lookup_eq_none.mpr (mt hChained.shareable_data hPrivate)
        rw [hNone]
    · rw [if_neg hShared, if_neg (by simp [hShared])]
      rfl
  have hGet : get process (disable_shared process now st) key "" =
      get_local process (disable_shared process now st) key "" := by
    unfold get
    rw [hAfter, Option.getD_none]
  rw [hGet]
  cases hValue : sharedValue process st key with
  | none =>
    rw [hValue, Option.none_or] at hLookup
    unfold get
    rw [hValue, Option.getD_none, strip_get_local]
    unfold get_local textIn
    rw [hLookup]
  | some value =>
    rw [hValue, Option.some_or] at hLookup
    unfold get get_local textIn
    rw [hLookup, hValue, Option.getD_some]
    by_cases hText : strip value = ""
    · rw [Option.getD_some, if_neg (not_not.mpr hText), hBlank value hValue hText, hText]
      rfl
    · rw [Option.getD_some, if_pos hText]

def sharing : Config := (∅ : Config).insert "_config_share_enabled" "true"

def plainAudit : SharedConfig.Env where
  sha256_json _ := ""
  redacted_diff_json _ _ _ := ""
  sanitize_audit_diff := id

def proxyWrite : SharedConfig.WriteCall where
  data := [("proxy_user", some " me ")]
  replace := false
  base_revision := none
  updated_by := "a"
  action := "update"
  note := ""
  now := "t0"
  aborts := false

theorem leaving_keeps_proxy_user :
    get twoSpellings (disable_shared twoSpellings "t1"
        ⟨sharing, SharedConfig.after plainAudit [.write proxyWrite]⟩) "proxy_user" "" =
      strip (get twoSpellings
        ⟨sharing, SharedConfig.after plainAudit [.write proxyWrite]⟩ "proxy_user" "") :=
  disable_shared_keeps twoSpellings_lawful plainAudit [.write proxyWrite] sharing "t1" "proxy_user"
    (by decide) (fun _ _ _ => by decide +kernel)

/- A padded value and a blank one in the shared store. -/
def sharedState : State where
  configs := sharing
  shared :=
    { SharedConfig.Db.initial with
      items := ⟨[⟨"proxy_user", " me ", 1, "t0", "a"⟩, ⟨"proxy_url", "", 1, "t0", "a"⟩],
        by decide +kernel⟩ }

/- Leaving strips a padded value, brings back a text of the
   environment, and changes a control key. -/
theorem leaving_changes_values :
    ¬ ∃ key ∈ ["proxy_user", "proxy_url", "_config_share_detached_at"],
      get twoSpellings (disable_shared twoSpellings "t1" sharedState) key "" =
        get twoSpellings sharedState key "" := by
  decide +kernel

end ConfigStore
