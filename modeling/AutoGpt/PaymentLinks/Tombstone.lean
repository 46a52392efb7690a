import AutoGpt.PaymentLinks.CleanupExact
import AutoGpt.PaymentLinks.Settled
import Mathlib.Data.Int.CharZero
import Mathlib.Tactic.NormNum

/-
  A cleaned link in the history import: the time up to which
  a tombstone covers the history, and when an apply run keeps
  the tombstone or replaces it.

  Main theorems: `replaced_cleaned_link`, `tombstone_survives`, `holdsTombstone_iff`
-/

open KeyedTable (empty)
open List
open Option

----
-- Texts Of A Tombstone
----

namespace PaymentLinks

/- What Python documents of `isoformat` beside the functions of the import: a short text without
   outer blanks that is no number and reads as the time it was made of. It is empty for an integer
   that is no `datetime`. -/
structure ScanEnv.Lawful (env : ScanEnv) : Prop where
  texts : env.toEnv.Lawful
  isoformat_plain :
    ∀ t, PyText.strip (env.isoformat t) = env.isoformat t ∧ (env.isoformat t).toList.length ≤ 128
  isoformat_reads : ∀ t, env.isoformat t ≠ "" → env.float_text (env.isoformat t) = none ∧
        env.iso_time (env.isoformat t) = some ((t : ℚ) / 1000000)

variable {env : ScanEnv}

theorem get_updated (payload : Dict Value) (fields : List (String × Value)) (key : String) :
    get (updated payload fields) key =
      ((fields.reverse.find? (fun f => f.1 = key)).map Prod.snd).getD (get payload key) := by
  induction fields using reverseRecOn with
  | nil => rfl
  | append_singleton fields f ih =>
    have hParts : updated payload (fields ++ [f]) = (updated payload fields).insert f.1 f.2 := by
      unfold updated
      rw [foldl_append]
      rfl
    rw [hParts, reverse_append, reverse_singleton, singleton_append]
    by_cases hKey : f.1 = key
    · rw [find?_cons_of_pos (by simp [hKey]), hKey, get_insert_self]
      rfl
    · rw [find?_cons_of_neg (by simp [hKey]), get_insert_of_ne _ (Ne.symm hKey), ih]

theorem expiry_fields_keys (c : Candidate) (mode : CleanupMode) :
    ∀ f ∈ expiry_fields env c mode, f.1 ∈ ["expired_at", "link_expires_at"] := by
  intro f hf
  unfold expiry_fields at hf
  rw [mem_append] at hf
  rcases hf with hExpired | hDeadline
  · split at hExpired
    · rw [mem_singleton.mp hExpired]
      simp
    · cases hExpired
  · split at hDeadline
    · rw [mem_singleton.mp hDeadline]
      simp
    · cases hDeadline

theorem get_cleaned_of_find (c : Candidate) (t : Int) (mode : CleanupMode)
    (hKey : key ∉ ["expired_at", "link_expires_at"])
    (hFind : (cleanup_fields env c t mode).reverse.find? (fun f => f.1 = key) = some (key, v)) :
    get (cleaned_link_payload env c t mode) key = v := by
  have hParts : cleaned_link_payload env c t mode = updated
          (updated (updated (kept_fields c.payload) (previous_status_fields c.payload))
            (cleanup_fields env c t mode))
          (expiry_fields env c mode) := by
    unfold cleaned_link_payload updated
    rw [foldl_append, foldl_append]
  rw [hParts, lookup_updated_of_ne, get_updated, hFind]
  · rfl
  · intro f hf hSame
    apply hKey
    rw [← hSame]
    exact expiry_fields_keys c mode f hf

theorem link_status_cleaned (c : Candidate) (t : Int) (mode : CleanupMode) :
    get (cleaned_link_payload env c t mode) "link_status" =
      .text (cleaned_status c.payment_type mode) := by
  apply get_cleaned_of_find
  · decide
  · simp [cleanup_fields]

theorem through_at_cleaned (c : Candidate) (t : Int) (mode : CleanupMode) :
    get (cleaned_link_payload env c t mode) "pix_cleanup_through_at" =
      .text (env.isoformat (cleanup_through_at c t mode)) := by
  apply get_cleaned_of_find
  · decide
  · simp [cleanup_fields]

theorem cleaned_status_mem (payment_type : PaymentType) (mode : CleanupMode) :
    cleaned_status payment_type mode ∈ PAYMENT_LINK_CLEANED_STATUSES ∧
      TypeText (cleaned_status payment_type mode) := by
  have hAll : ∀ s ∈ PAYMENT_LINK_CLEANED_STATUSES, TypeText s := by decide +kernel
  have hMem : cleaned_status payment_type mode ∈ PAYMENT_LINK_CLEANED_STATUSES := by
    cases payment_type <;> cases mode <;> decide
  exact ⟨hMem, hAll _ hMem⟩

theorem is_tombstone_cleaned (hEnv : env.Lawful) (c : Candidate) (t : Int) (mode : CleanupMode) :
    is_tombstone env.toEnv (cleaned_link_payload env c t mode) := by
  have hStatus := cleaned_status_mem c.payment_type mode
  have hStrip :
      PyText.strip (cleaned_status c.payment_type mode) = cleaned_status c.payment_type mode :=
    PyText.strip_of_plain fun ch hch => isSpace_of_isTypeChar (hStatus.2.plain ch hch)
  unfold is_tombstone
  rw [link_status_cleaned, safe_text_of_strip hStrip hStatus.2.short,
    lower_of_typeText hEnv.texts hStatus.2]
  exact decide_eq_true hStatus.1

----
-- The Time Of A Tombstone
----

theorem foldl_max_ge (l : List Int) (t : Int) : t ≤ l.foldl max t := by
  induction l generalizing t with
  | nil => exact le_refl t
  | cons x l ih => exact (le_max_left t x).trans (ih _)

theorem latest_ge (t : Int) (others : List (Option Int)) : t ≤ latest t others := foldl_max_ge _ t

theorem cleanup_through_at_bound (c : Candidate) (t : Int) (mode : CleanupMode) :
    t - hours 24 < cleanup_through_at c t mode := by
  have hDay : 0 < hours 24 := by decide
  have hCutoff := latest_pix_expiry_cutoff_bounds t
  cases mode with
  | expired =>
    unfold cleanup_through_at
    dsimp only
    split
    · have hLatest := latest_ge (latest_pix_expiry_cutoff t) [c.generated_at]
      omega
    · have hLatest := latest_ge t [c.expires_at, c.generated_at]
      omega
  | valid => exact sub_lt_self t hDay
  | paid => exact sub_lt_self t hDay
  | cancelled => exact sub_lt_self t hDay
  | unknown => exact sub_lt_self t hDay

theorem timestamp_isoformat (hEnv : env.Lawful) (hDated : env.isoformat t ≠ "") :
    timestamp_for_compare env.toEnv (.text (env.isoformat t)) =
      some (((t : ℚ) / 1000000 : ℚ) : Time) := by
  have hPlain := hEnv.isoformat_plain t
  have hReads := hEnv.isoformat_reads t hDated
  unfold timestamp_for_compare
  dsimp only
  rw [safe_text_of_strip hPlain.1 hPlain.2, if_neg hDated, hReads.1, hReads.2]
  rfl

theorem seconds_lt_epochTime_iff (t k : Int) :
    (((t : ℚ) / 1000000 : ℚ) : Time) < epochTime k ↔ t < k * 1000000 := by
  unfold epochTime
  rw [WithBotTop.coe_lt_coe, WithTop.coe_lt_coe, div_lt_iff₀ (by norm_num)]
  exact_mod_cast Iff.rfl

theorem tombstone_time_cleaned (hEnv : env.Lawful) (hLate : hours 24 ≤ t)
    (hDated : env.isoformat (cleanup_through_at c t mode) ≠ "") :
    tombstone_time env.toEnv (cleaned_link_payload env c t mode) =
      some (((cleanup_through_at c t mode : ℚ) / 1000000 : ℚ) : Time) := by
  have hPos : 0 < cleanup_through_at c t mode := by
    have hBound := cleanup_through_at_bound c t mode
    omega
  have hNonzero :
      (((cleanup_through_at c t mode : ℚ) / 1000000 : ℚ) : Time) ≠ ((0 : ℚ) : Time) := by
    intro hZero
    rw [WithBotTop.coe_injective.eq_iff, WithTop.coe_inj, div_eq_zero_iff] at hZero
    rcases hZero with hNum | hDen
    · rw [Int.cast_eq_zero] at hNum
      omega
    · norm_num at hDen
  unfold tombstone_time
  rw [through_at_cleaned, timestamp_isoformat hEnv hDated]
  unfold orTime
  dsimp only
  rw [if_neg hNonzero]

/- A source row replaces a cleaned link just when it was completed after the time that the tombstone
   covers. -/
theorem replaced_cleaned_link (hEnv : env.Lawful) (hLate : hours 24 ≤ t)
    (hDated : env.isoformat (cleanup_through_at c t mode) ≠ "")
    (hLink : last_payment_link (some extra) = some (cleaned_link_payload env c t mode))
    (s : SourceLink) :
    current_cache_should_be_replaced env.toEnv extra s ↔
      cleanup_through_at c t mode < s.completed_at * 1000000 := by
  have hLookup : extra.lookup "chatgpt_last_payment_link" =
        some (.dict (cleaned_link_payload env c t mode)) := by
    unfold last_payment_link at hLink
    dsimp only at hLink
    split at hLink
    next payload hEntry =>
      rw [hEntry, some.inj hLink]
    · cases hLink
  unfold current_cache_should_be_replaced
  rw [hLookup]
  dsimp only
  rw [if_pos (is_tombstone_cleaned hEnv c t mode), tombstone_time_cleaned hEnv hLate hDated]
  rw [decide_eq_true_eq, seconds_lt_epochTime_iff]

----
-- Covered Source Rows
----

/- The known times of a link that a tombstone of an expired link looks at. -/
def link_times (c : Candidate) : List Int :=
  if c.payment_type = .pix then [c.generated_at].reduceOption
  else [c.expires_at, c.generated_at].reduceOption

/- A time that lies between the last PIX cutoff, or the generation after it, and the cleanup of an
   expired PIX link. -/
def AfterCutoff (call : CleanupCall) (c : Candidate) (t : Int) : Prop :=
  c.payment_type = .pix ∧ latest_pix_expiry_cutoff call.now < t ∧
    (∀ generated ∈ link_times c, generated < t) ∧ t ≤ call.now

/- A time after the cleanup of an expired link, but not after all known times of the link. -/
def BeforeLinkTime (call : CleanupCall) (c : Candidate) (t : Int) : Prop :=
  call.now < t ∧ ∃ known ∈ link_times c, t ≤ known

/- A source row completed at the second meets the tombstone as its cleanup time says. -/
def Covered (call : CleanupCall) (c : Candidate) (second : Int) :
    Prop :=
  call.cleanup_mode = .expired →
    ¬ AfterCutoff call c (second * 1000000) ∧ ¬ BeforeLinkTime call c (second * 1000000)

theorem foldl_max_lt_iff (l : List Int) (t x : Int) :
    l.foldl max t < x ↔ t < x ∧ ∀ y ∈ l, y < x := by
  induction l generalizing t with
  | nil => simp
  | cons y l ih => rw [foldl_cons, ih, max_lt_iff, forall_mem_cons, and_assoc]

theorem cleanup_through_at_lt_iff (call : CleanupCall) (c : Candidate) (t : Int) :
    cleanup_through_at c call.now call.cleanup_mode < t ↔ (call.cleanup_mode = .expired ∧
          c.payment_type = .pix ∧ latest_pix_expiry_cutoff call.now < t ∧
          ∀ known ∈ link_times c, known < t) ∨
        (call.cleanup_mode = .expired ∧ c.payment_type ≠ .pix ∧ call.now < t ∧
          ∀ known ∈ link_times c, known < t) ∨ (call.cleanup_mode ≠ .expired ∧ call.now < t) := by
  have hOther :
      ∀ mode : CleanupMode, mode ≠ .expired → cleanup_through_at c call.now mode = call.now := by
    intro mode hMode
    cases mode with
    | expired => exact absurd rfl hMode
    | valid => rfl
    | paid => rfl
    | cancelled => rfl
    | unknown => rfl
  by_cases hMode : call.cleanup_mode = .expired
  · rw [hMode]
    unfold cleanup_through_at link_times latest
    by_cases hPix : c.payment_type = .pix
    · rw [if_pos hPix, if_pos hPix, foldl_max_lt_iff]
      simp [hPix]
    · rw [if_neg hPix, if_neg hPix, foldl_max_lt_iff]
      simp [hPix]
  · rw [hOther _ hMode]
    simp [hMode]

theorem covered_iff (call : CleanupCall) (c : Candidate) (second : Int) :
    Covered call c second ↔ ((second * 1000000 ≤ call.now →
          ¬ cleanup_through_at c call.now call.cleanup_mode < second * 1000000) ∧
        (call.now < second * 1000000 →
          cleanup_through_at c call.now call.cleanup_mode < second * 1000000)) := by
  have hCutoff := (latest_pix_expiry_cutoff_bounds call.now).1
  unfold Covered AfterCutoff BeforeLinkTime
  rw [cleanup_through_at_lt_iff]
  generalize second * 1000000 = t
  have hKnown : (∃ known ∈ link_times c, t ≤ known) ↔ ¬ ∀ known ∈ link_times c, known < t := by simp
  rw [hKnown]
  generalize (∀ known ∈ link_times c, known < t) = All
  by_cases hMode : call.cleanup_mode = .expired
  · by_cases hPix : c.payment_type = .pix
    · simp only [hMode, hPix, true_and, ne_eq, not_true_eq_false, false_and, or_false, forall_const]
      constructor
      · rintro ⟨hAfter, hBefore⟩
        refine ⟨fun hLate hIn => hAfter ⟨hIn.1, hIn.2, hLate⟩, fun hNew => ⟨by omega, ?_⟩⟩
        by_contra hNot
        exact hBefore ⟨hNew, hNot⟩
      · rintro ⟨hOld, hNew⟩
        exact ⟨fun hIn => hOld hIn.2.2 ⟨hIn.1, hIn.2.1⟩, fun hIn => hIn.2 (hNew hIn.1).2⟩
    · simp only [hMode, hPix, true_and, false_and, ne_eq,
        not_false_eq_true, not_true_eq_false, false_or,
        or_false, forall_const]
      constructor
      · intro hBefore
        refine ⟨fun hLate hIn => by omega, fun hNew => ⟨hNew, ?_⟩⟩
        by_contra hNot
        exact hBefore ⟨hNew, hNot⟩
      · rintro ⟨_, hNew⟩ hIn
        exact hIn.2 (hNew hIn.1).2
  · simp only [hMode, false_and, ne_eq, not_false_eq_true,
      true_and, false_or, false_implies, imp_self, and_true, not_lt]

end PaymentLinks

----
-- Apply Runs After A Cleanup
----

namespace PaymentLinks

variable (env : ScanEnv) (call : CleanupCall)

/- A cleanup that was committed cleared the row of the candidate. Its times are of `datetime` type,
   after the first day of the epoch. -/
structure ClearedBy (first now db : Database) (c : Candidate) (r : Account) : Prop where
  committed :
    ∃ refreshed report, clean_payment_links env call refreshed first now = (some report, db)
  candidate : c ∈ still_eligible env call first now
  row : now.accounts.find? c.account_id = some r
  changed : db.accounts.find? c.account_id ≠ some r
  late : hours 24 ≤ call.now
  dated : env.isoformat (cleanup_through_at c call.now call.cleanup_mode) ≠ ""

/- What a run owes an account that was cleaned, when the given source row is its latest one: a row
   of the cleanup time or before leaves the account as it is, a later one becomes its current link.
   -/
structure HoldsTombstone (s : SourceLink) (before after : Option Account) : Prop where
  kept : s.completed_at * 1000000 ≤ call.now → after = before
  replaced : call.now < s.completed_at * 1000000 → ∃ r, after = some r ∧
        last_payment_link r.extra = some (record_payload env.toEnv s) ∧ r.cashier_url = s.url

variable {env call}

theorem ClearedBy.find? (hCleared : ClearedBy env call first now db c r) :
    db.accounts.find? c.account_id = some (cleaned_account env call c r) ∧ Shows r c := by
  have hNodup := still_eligible_ids_nodup env call first now
  have hShows := (shows_of_find? (mem_still_eligible.mp hCleared.candidate).1 hCleared.row).2
  refine ⟨?_, hShows⟩
  rcases hCleared.committed with ⟨refreshed, report, hRun⟩
  have hChanged := hCleared.changed
  have hCases := clean_payment_links_cases env call refreshed first now
  rw [hRun] at hCases
  rcases hCases with hSame | hSet
  · dsimp only at hSame
    rw [hSame] at hChanged
    exact absurd hCleared.row hChanged
  · dsimp only at hSet
    rw [hSet] at hChanged ⊢
    rw [find?_clean_candidates env call hNodup, hCleared.row, map_some,
      cleaned_row_of_mem env call hNodup hCleared.candidate hShows.account_id] at hChanged ⊢
    by_cases hCurrent : still_current env c r
    · rw [if_pos hCurrent]
    · rw [if_neg hCurrent] at hChanged
      exact absurd rfl hChanged

theorem last_payment_link_withCurrentLink (extra : Dict Entry) (s : SourceLink) :
    last_payment_link (some (withCurrentLink env.toEnv extra s)) =
      some (record_payload env.toEnv s) := by
  have hLookup : (withCurrentLink env.toEnv extra s).lookup
          "chatgpt_last_payment_link" =
        some (.dict (record_payload env.toEnv s)) := by
    unfold withCurrentLink
    split
    · rw [Finmap.lookup_insert_of_ne _ (by decide), Finmap.lookup_insert]
    · rw [Finmap.lookup_insert]
  unfold last_payment_link
  dsimp only
  rw [hLookup]

/- An apply run on a target with the cleaned account: the row stays or is linked again, as the
   tombstone's time says. -/
theorem find?_run_cleaned (hEnv : env.Lawful) (hCleared : ClearedBy env call first now db c r)
    {now_iso : String} {t t' : Target}
    (hHere : t.accounts.find? c.account_id = some (cleaned_account env call c r))
    (hApply : apply_target_plan env.toEnv now_iso
        (load_target_snapshot env.toEnv "chatgpt" t) records t = some t')
    (hLatest : latest_by_account records c.account_id = some s) :
    ∃ extra, t'.accounts.find? c.account_id = some
          (if cleanup_through_at c call.now call.cleanup_mode < s.completed_at * 1000000 then
            linked_account env.toEnv now_iso extra s (cleaned_account env call c r)
          else cleaned_account env call c r) := by
  have hShows := hCleared.find?.2
  have hLink : last_payment_link (cleaned_account env call c r).extra =
        some (cleaned_link_payload env c call.now call.cleanup_mode) :=
    last_payment_link_cleaned_account call hShows
  have hPlatform : (cleaned_account env call c r).platform = "chatgpt" := hShows.platform
  have hSnapshot : (load_target_snapshot env.toEnv "chatgpt" t).account
          c.account_id =
        some (account_row env.toEnv t (cleaned_account env call c r)) := by
    rw [account_load, hHere, filter_some, if_pos (decide_eq_true hPlatform)]
    rfl
  generalize cleaned_account env call c r = cleaned at *
  cases hExtra : cleaned.extra with
  | none =>
    rw [hExtra] at hLink
    cases hLink
  | some extra =>
    rw [hExtra] at hLink
    have hReplaced := replaced_cleaned_link hEnv hCleared.late hCleared.dated hLink s
    have hRowExtra : (account_row env.toEnv t cleaned).extra = some extra := hExtra
    refine ⟨extra, ?_⟩
    rw [find?_apply_target_plan env.toEnv hApply, hHere, map_some]
    congr 1
    unfold cachedRow
    rw [hSnapshot, hLatest]
    dsimp only
    rw [hRowExtra]
    dsimp only
    by_cases hLater : cleanup_through_at c call.now call.cleanup_mode < s.completed_at * 1000000
    · rw [if_pos ⟨hReplaced.mpr hLater, hPlatform⟩, if_pos hLater]
    · rw [if_neg fun hBoth => hLater (hReplaced.mp hBoth.1), if_neg hLater]

theorem record_ne_cleaned (c : Candidate) (call : CleanupCall) (s : SourceLink) :
    record_payload env.toEnv s ≠ cleaned_link_payload env c call.now
        call.cleanup_mode := by
  intro hSame
  have hUrl : get (record_payload env.toEnv s) "url" = .text s.url := (record_payload_fields s).1
  rw [hSame, get_cleaned_link_payload c call.now call.cleanup_mode (by decide)] at hUrl
  cases hUrl

theorem linked_ne_cleaned (hShows : Shows r c)
    (now_iso : String) (extra : Dict Entry) (s : SourceLink) :
    linked_account env.toEnv now_iso extra s
        (cleaned_account env call c r) ≠
      cleaned_account env call c r := by
  intro hSame
  have hLink : last_payment_link (cleaned_account env call c r).extra =
        some (cleaned_link_payload env c call.now call.cleanup_mode) :=
    last_payment_link_cleaned_account call hShows
  rw [← hSame] at hLink
  apply record_ne_cleaned c call s
  apply some.inj
  rw [← hLink]
  exact (last_payment_link_withCurrentLink extra s).symm

----
-- Runs After Runs
----

/- Apply runs one after the other, nobody else writing. -/
def apply_runs (env : ScanEnv) (runs : List (String × List SourceLink))
    (targets : List Target) : Option (List Target) :=
  runs.foldlM (fun targets run => synchronize env.toEnv "chatgpt" run.1 run.2 targets) targets

/- The row is no later than the cleanup, and it is covered. -/
def OldRow (call : CleanupCall) (c : Candidate) (s : SourceLink) :
    Prop :=
  s.completed_at * 1000000 ≤ call.now ∧ Covered call c s.completed_at

variable {i : Nat}
theorem getElem?_synchronize
    (hRun : synchronize env.toEnv "chatgpt" now_iso sources targets = some targets')
    (hAt : targets[i]? = some t) :
    ∃ t', targets'[i]? = some t' ∧ apply_target_plan env.toEnv now_iso
        (load_target_snapshot env.toEnv "chatgpt" t)
        (planned env.toEnv "chatgpt" sources targets t) t = some t' := by
  rcases forall₂_iff_get.mp (forall₂_of_mapM hRun) with ⟨hLength, hAll⟩
  rcases List.getElem?_eq_some_iff.mp hAt with ⟨hLt, hGet⟩
  have hLt' : i < targets'.length := hLength ▸ hLt
  have hOne := hAll i hLt hLt'
  refine ⟨targets'[i], getElem?_eq_getElem hLt', ?_⟩
  rw [← hGet]
  exact hOne

theorem find?_run_without
    (hApply : apply_target_plan env.toEnv now_iso sn records t = some t') {id : Nat}
    (hNone : latest_by_account records id = none) : t'.accounts.find? id = t.accounts.find? id := by
  have hSame : cachedRow env.toEnv now_iso sn records id = fun row => row := by
    funext row
    unfold cachedRow
    rw [hNone]
    split
    next hBad =>
      cases hBad
    · rfl
  rw [find?_apply_target_plan env.toEnv hApply, hSame, Option.map_id']

theorem tombstone_survives_run (hEnv : env.Lawful) (hCleared : ClearedBy env call first now db c r)
    (hRun : synchronize env.toEnv "chatgpt" now_iso sources targets = some targets')
    (hOld : ∀ s ∈ sources, OldRow call c s) (hAt : targets[i]? = some t)
    (hHere : t.accounts.find? c.account_id = db.accounts.find? c.account_id) :
    ∃ t', targets'[i]? = some t' ∧
      t'.accounts.find? c.account_id = db.accounts.find? c.account_id := by
  rcases getElem?_synchronize hRun hAt with ⟨t', hAt', hApply⟩
  refine ⟨t', hAt', ?_⟩
  cases hLatest : latest_by_account (planned env.toEnv "chatgpt" sources targets t)
        c.account_id with
  | none =>
    rw [find?_run_without hApply hLatest]
    exact hHere
  | some s =>
    rcases latest_mem hLatest with ⟨record, hRecord, _, hs⟩
    rcases mem_planned.mp hRecord with ⟨s', hs', hPlan, _⟩
    have hSource := (plan_source_ok hPlan).2.2.1
    have hOldRow : OldRow call c s := by
      rw [← hs, hSource]
      exact hOld s' hs'
    rw [hCleared.find?.1] at hHere ⊢
    rcases find?_run_cleaned hEnv hCleared hHere hApply hLatest with ⟨extra, hAfter⟩
    have hNot := ((covered_iff call c s.completed_at).mp hOldRow.2).1 hOldRow.1
    rw [hAfter, if_neg hNot]

theorem tombstone_survives (hEnv : env.Lawful) (hCleared : ClearedBy env call first now db c r)
    (hRuns : apply_runs env runs targets = some targets')
    (hOld : ∀ run ∈ runs, ∀ s ∈ run.2, OldRow call c s) (hAt : targets[i]? = some t)
    (hHere : t.accounts.find? c.account_id = db.accounts.find? c.account_id) :
    ∃ t', targets'[i]? = some t' ∧
      t'.accounts.find? c.account_id = db.accounts.find? c.account_id := by
  induction runs generalizing targets t with
  | nil =>
    cases hRuns
    exact ⟨t, hAt, hHere⟩
  | cons run runs ih =>
    unfold apply_runs at hRuns
    rw [foldlM_cons] at hRuns
    rcases Option.bind_eq_some_iff.mp hRuns with ⟨targets₁, hRun, hRest⟩
    rcases tombstone_survives_run hEnv hCleared hRun
        (hOld run mem_cons_self) hAt hHere with
      ⟨t₁, hAt₁, hHere₁⟩
    exact ih hRest (fun run' hMem => hOld run' (mem_cons_of_mem _ hMem)) hAt₁ hHere₁

/- After any number of runs over old rows, an apply run keeps the tombstone or replaces it as it
   should just when its latest row of the account is covered. -/
theorem holdsTombstone_iff (hEnv : env.Lawful)
    {first now db : Database} {c : Candidate} {r : Account}
    (hCleared : ClearedBy env call first now db c r) {earlier : List (String × List SourceLink)}
    {targets₀ targets targets' : List Target}
    (hEarlier : apply_runs env earlier targets₀ = some targets)
    (hOld : ∀ run ∈ earlier, ∀ s ∈ run.2, OldRow call c s) {i : Nat} {t₀ t t' : Target}
    (hAt₀ : targets₀[i]? = some t₀)
    (hHere : t₀.accounts.find? c.account_id = db.accounts.find? c.account_id)
    {now_iso : String} {sources : List SourceLink}
    (hRun : synchronize env.toEnv "chatgpt" now_iso sources targets = some targets')
    (hAt : targets[i]? = some t) (hAt' : targets'[i]? = some t') {s : SourceLink}
    (hLatest : latest_by_account (planned env.toEnv "chatgpt" sources targets t)
          c.account_id = some s) :
    HoldsTombstone env call s (db.accounts.find? c.account_id) (t'.accounts.find? c.account_id) ↔
      Covered call c s.completed_at := by
  rcases tombstone_survives hEnv hCleared hEarlier hOld hAt₀ hHere with ⟨t₁, hAt₁, hStill⟩
  rw [hAt] at hAt₁
  cases hAt₁
  rcases getElem?_synchronize hRun hAt with ⟨t₂, hAt₂, hApply⟩
  rw [hAt'] at hAt₂
  cases hAt₂
  rw [hCleared.find?.1] at hStill ⊢
  rcases find?_run_cleaned hEnv hCleared hStill hApply hLatest with ⟨extra, hAfter⟩
  rw [covered_iff, hAfter]
  constructor
  · intro hHolds
    constructor
    · intro hTime hLater
      have hKept := hHolds.kept hTime
      rw [if_pos hLater] at hKept
      exact linked_ne_cleaned hCleared.find?.2 now_iso extra s (some.inj hKept)
    · intro hTime
      by_contra hNot
      rcases hHolds.replaced hTime with ⟨row, hRow, hLink, _⟩
      rw [if_neg hNot] at hRow
      cases hRow
      rw [last_payment_link_cleaned_account call hCleared.find?.2] at hLink
      exact record_ne_cleaned c call s (some.inj hLink).symm
  · rintro ⟨hBefore, hAfterwards⟩
    constructor
    · intro hTime
      rw [if_neg (hBefore hTime)]
    · intro hTime
      rw [if_pos (hAfterwards hTime)]
      exact ⟨_, rfl, last_payment_link_withCurrentLink extra s, rfl⟩

/- A cleanup that is alone at the database clears each eligible link that SQLite sees. -/
theorem clearedBy_alone (hc : c ∈ eligible_candidates env call db) (hSees : SqlSees env c)
    (hLate : hours 24 ≤ call.now)
    (hDated : env.isoformat (cleanup_through_at c call.now call.cleanup_mode) ≠ "") :
    ∃ r, ClearedBy env call db db (cleaned_database env call db) c r := by
  rcases exists_row_of_eligible hc with ⟨r, hr, _, hShows⟩
  rcases clean_alone env call db with ⟨report, hRun, _⟩
  have hStill : c ∈ still_eligible env call db db := by
    rw [still_eligible_self]
    exact hc
  refine ⟨r, ⟨_, report, hRun⟩, hStill, hr, ?_, hLate, hDated⟩
  unfold cleaned_database
  rw [find?_clean_candidates env call (eligible_ids_nodup env call db), hr, map_some,
    cleaned_row_of_mem env call (eligible_ids_nodup env call db) hc hShows.account_id,
    if_pos ((still_current_iff hShows).mpr hSees)]
  intro hSame
  have hLink : last_payment_link (cleaned_account env call c r).extra =
        some (cleaned_link_payload env c call.now call.cleanup_mode) :=
    last_payment_link_cleaned_account call hShows
  rw [some.inj hSame, hShows.link] at hLink
  have hUrl := hShows.current_url
  rw [some.inj hLink, current_payment_link_url_of_null] at hUrl
  · exact hShows.given hUrl
  · intro key hKey
    exact get_cleaned_link_payload c call.now call.cleanup_mode (mem_append_left _ hKey)

/- The functions of Python on the texts of the samples. -/
def tombstoneEnv : ScanEnv where
  toEnv :=
    { raceEnv with
      iso_time := fun s =>
        if s = "2023-11-14T03:00:00+00:00" then some 1699930800
        else if s = "2023-11-14T23:00:00+00:00" then some 1700002800
        else raceEnv.iso_time s }
  decimal := fun _ => none
  fromtimestamp := fun _ => none
  fromisoformat := fun _ => none
  isoformat := fun t =>
    if t = 1699930800000000 then "2023-11-14T03:00:00+00:00"
    else if t = 1700002800000000 then "2023-11-14T23:00:00+00:00"
    else ""
  extract_payment_link_qr_expires_at := fun _ => none
  payment_link_platform_from_payload := fun _ => "pix"
  json_object := fun _ => none
  sql_number := fun shown => shown
  sql_json := fun shown => shown

theorem tombstoneEnv_lawful : tombstoneEnv.Lawful where
  texts :=
    { lower_ascii := raceEnv_lawful.lower_ascii
      lower_not_upper := raceEnv_lawful.lower_not_upper
      lower_length := raceEnv_lawful.lower_length
      iso_plain := raceEnv_lawful.iso_plain
      iso_reads := by
        intro t ht
        have hRead := raceEnv_lawful.iso_reads t ht
        refine ⟨rfl, ?_⟩
        unfold tombstoneEnv raceEnv at ht ⊢
        dsimp only at ht ⊢
        split
        next hTime =>
          rw [hTime]
          rfl
        next hTime =>
          rw [if_neg hTime] at ht
          exact absurd rfl ht }
  isoformat_plain := by
    intro t
    unfold tombstoneEnv
    dsimp only
    split
    · exact ⟨by decide +kernel, by decide +kernel⟩
    · split
      · exact ⟨by decide +kernel, by decide +kernel⟩
      · exact ⟨by decide +kernel, by decide +kernel⟩
  isoformat_reads := by
    intro t ht
    refine ⟨rfl, ?_⟩
    unfold tombstoneEnv at ht ⊢
    dsimp only at ht ⊢
    split
    next hTime =>
      rw [hTime, if_pos rfl]
      norm_num
    next hTime =>
      rw [if_neg hTime] at ht
      split
      next hTime' =>
        rw [hTime', if_neg (by decide), if_pos rfl]
        norm_num
      next hTime' =>
        rw [if_neg hTime'] at ht
        exact absurd rfl ht

/- A cleanup of PIX links at eleven o'clock in the evening. -/
def pixCall (mode : CleanupMode) : CleanupCall where
  payment_type := .pix
  cleanup_mode := mode
  now := 1700002800000000
  direct_results := fun _ => none

/- An account with the link of the source row. -/
def pixAccount (status : String) : Account where
  id := 1
  platform := "chatgpt"
  email := "one@example.test"
  cashier_url := ""
  extra := some (Finmap.singleton "chatgpt_last_payment_link" (.dict (ofFields
      [("url", .text "https://pay.example.test/one"), ("link_status", .text status)])))
  created_at := "2026-07-01 00:00:00"
  updated_at := "2026-07-01 00:00:00"

def pixDatabase (status : String) : Database where
  accounts := empty.put (pixAccount status)
  generations := ⟨empty, nodup_nil⟩

/- The database after the cleanup, as a target of the import. -/
def pixTarget (status : String) (mode : CleanupMode) :
    Target where
  database := "account_manager.db"
  schema := ⟨true, true, true, true⟩
  accounts := (cleaned_database tombstoneEnv (pixCall mode) (pixDatabase status)).accounts
  generations := ⟨empty, nodup_nil⟩

/- The candidate of the sample in the category. -/
def pixCheck (mode : CleanupMode) (c : Candidate) : Bool :=
  sql_payload_url tombstoneEnv c.payload = c.current_url ∧ c.account_id = 1 ∧
    c.current_url = raceSource.url ∧
    tombstoneEnv.isoformat (cleanup_through_at c (pixCall mode).now mode) ≠ ""

theorem exists_pixCleared {mode : CleanupMode} {check : Candidate → Bool}
    (hAny : (eligible_candidates tombstoneEnv (pixCall mode)
        (pixDatabase status)).any (fun c => pixCheck mode c && check c)) :
    ∃ c r, ClearedBy tombstoneEnv (pixCall mode) (pixDatabase status) (pixDatabase status)
          (cleaned_database tombstoneEnv (pixCall mode) (pixDatabase status)) c r ∧
        c.account_id = 1 ∧ c.current_url = raceSource.url ∧ check c := by
  have hLate : hours 24 ≤ (pixCall mode).now := by
    unfold hours pixCall
    norm_num
  rcases any_eq_true.mp hAny with ⟨c, hc, hBoth⟩
  rw [Bool.and_eq_true] at hBoth
  rcases of_decide_eq_true hBoth.1 with ⟨hSees, hId, hUrl, hDated⟩
  rcases clearedBy_alone hc hSees hLate hDated with ⟨r, hCleared⟩
  exact ⟨c, r, hCleared, hId, hUrl, hBoth.2⟩

/- A paid link that the history holds stays cleaned. -/
theorem holdsTombstone_iff_paid :
    ∃ (c : Candidate) (t' : Target), (synchronize tombstoneEnv.toEnv "chatgpt"
          "2023-11-15T00:00:00+00:00" [raceSource]
          [pixTarget "paid" .paid]).bind (fun targets => targets[0]?) = some t' ∧
        HoldsTombstone tombstoneEnv (pixCall .paid) raceSource
          ((cleaned_database tombstoneEnv (pixCall .paid)
            (pixDatabase "paid")).accounts.find? c.account_id)
          (t'.accounts.find? c.account_id) := by
  have hAny : (eligible_candidates tombstoneEnv (pixCall .paid)
        (pixDatabase "paid")).any (fun c => pixCheck .paid c && true) := by
    decide +kernel
  rcases exists_pixCleared hAny with ⟨c, r, hCleared, hId, _, _⟩
  have hSome : (synchronize tombstoneEnv.toEnv "chatgpt"
        "2023-11-15T00:00:00+00:00" [raceSource]
        [pixTarget "paid" .paid]).isSome := by
    decide +kernel
  have hLatest : latest_by_account
          (planned tombstoneEnv.toEnv "chatgpt" [raceSource]
            [pixTarget "paid" .paid] (pixTarget "paid" .paid))
          1 = some raceSource := by
    decide +kernel
  rw [← hId] at hLatest
  rcases isSome_iff_exists.mp hSome with ⟨targets', hRun⟩
  rcases getElem?_synchronize hRun
      (show [pixTarget "paid" .paid][0]? = some _ from rfl) with
    ⟨t', hAt', _⟩
  refine ⟨c, t', ?_, ?_⟩
  · rw [hRun, bind_some]
    exact hAt'
  · refine (holdsTombstone_iff tombstoneEnv_lawful hCleared
      (show apply_runs tombstoneEnv [] [pixTarget "paid" .paid] = some _ from rfl)
      (fun run hMem => absurd hMem (not_mem_nil))
      (show [pixTarget "paid" .paid][0]? = some _ from rfl) rfl
      hRun (show [pixTarget "paid" .paid][0]? = some _ from rfl)
      hAt' hLatest).mpr ?_
    intro hMode
    cases hMode

/- An expired PIX link without a generation time: the history row of its own URL, completed between
   the last cutoff and the cleanup, brings it back. -/
theorem cleared_link_restored :
    ¬ ∀ (env : ScanEnv) (call : CleanupCall)
        (first now db : Database) (c : Candidate) (r : Account),
        env.Lawful → ClearedBy env call first now db c r →
        ∀ (now_iso : String) (sources : List SourceLink) (targets targets' : List Target),
          synchronize env.toEnv "chatgpt" now_iso sources targets = some targets' →
          ∀ (i : Nat) (t t' : Target), targets[i]? = some t → targets'[i]? = some t' →
            t.accounts.find? c.account_id = db.accounts.find? c.account_id → ∀ s, latest_by_account
                  (planned env.toEnv "chatgpt" sources targets t) c.account_id = some s →
              s.url = c.current_url → HoldsTombstone env call s (db.accounts.find? c.account_id)
                (t'.accounts.find? c.account_id) := by
  intro hAll
  have hAny : (eligible_candidates tombstoneEnv (pixCall .expired)
        (pixDatabase "expired")).any (fun c => pixCheck .expired c && decide
            (cleanup_through_at c (pixCall .expired).now
              .expired < raceSource.completed_at * 1000000)) =
        true := by
    decide +kernel
  rcases exists_pixCleared hAny with ⟨c, r, hCleared, hId, hUrl, hCheck⟩
  have hBefore : cleanup_through_at c (pixCall .expired).now (pixCall .expired).cleanup_mode <
        raceSource.completed_at * 1000000 := of_decide_eq_true hCheck
  have hSome : (synchronize tombstoneEnv.toEnv "chatgpt"
        "2023-11-15T00:00:00+00:00" [raceSource]
        [pixTarget "expired" .expired]).isSome := by
    decide +kernel
  have hLatest : latest_by_account
          (planned tombstoneEnv.toEnv "chatgpt" [raceSource] [pixTarget "expired" .expired]
            (pixTarget "expired" .expired))
          1 = some raceSource := by
    decide +kernel
  rw [← hId] at hLatest
  rcases isSome_iff_exists.mp hSome with ⟨targets', hRun⟩
  rcases getElem?_synchronize hRun (show [pixTarget "expired" .expired][0]? = some _ from rfl)
    with ⟨t', hAt', hApply⟩
  have hHolds := hAll tombstoneEnv (pixCall .expired) _ _ _ c r
      tombstoneEnv_lawful hCleared _ _ _ _ hRun 0 _ t' rfl hAt'
      rfl raceSource hLatest hUrl.symm
  have hKept := hHolds.kept (by decide)
  rcases find?_run_cleaned tombstoneEnv_lawful hCleared
      hCleared.find?.1 hApply hLatest with ⟨extra, hAfter⟩
  rw [hAfter, hCleared.find?.1, if_pos hBefore] at hKept
  exact linked_ne_cleaned hCleared.find?.2 _ extra raceSource (some.inj hKept)

end PaymentLinks
