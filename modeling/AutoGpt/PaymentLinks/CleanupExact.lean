import AutoGpt.PaymentLinks.CleanupRows

/-
  What a cleanup changes: only links that both of its scans
  found eligible, of these only the link and its mirror, and
  every eligible link exactly when SQLite reads its URL as
  Python does.

  Main theorems: `cleans_nothing_again`, `exactCleanup_iff`, `sqlSees_of_plain`
-/

open KeyedTable (empty find?_of_mem)
open List

----
-- Exactness
----

namespace PaymentLinks

variable (env : ScanEnv) (call : CleanupCall)

/- The account of a cleared URL: its link has no URL left, the cashier URL is gone when it was the
   same one, and besides the update time nothing else changed. -/
structure Cleared (url : String) (r r' : Account) :
    Prop where
  id : r'.id = r.id
  platform : r'.platform = r.platform
  email : r'.email = r.email
  created_at : r'.created_at = r.created_at
  cashier_url : r'.cashier_url = if r.cashier_url = url then "" else r.cashier_url
  other_keys : ∀ key ≠ "chatgpt_last_payment_link",
      r'.extra.bind (fun extra => extra.lookup key) = r.extra.bind (fun extra => extra.lookup key)
  no_url : ∃ payload, last_payment_link r'.extra = some payload ∧
      (∀ key ∈ CURRENT_LINK_URL_FIELDS, get payload key = .null) ∧
      current_payment_link_url payload = ""

/- The account was in the category that is cleaned in both
   scans, with the URL as its current one. -/
structure EligibleTwice (first now : Database) (id : Nat) (url : String) : Prop where
  at_first : ∃ c ∈ eligible_candidates env call first, c.account_id = id ∧ c.current_url = url
  at_last : ∃ c ∈ eligible_candidates env call now, c.account_id = id ∧ c.current_url = url

/- The cleanup is exact: it changes only accounts that were eligible twice, and on them only the
   link and its mirror; it leaves the generations alone; without a complete refresh it changes
   nothing; and with nobody else at the database it cleans what the preview counts, and nothing
   again. -/
structure ExactCleanup (refreshed : List Nat → Nat) (first now : Database) : Prop where
  accounts : ∀ id, (clean_payment_links env call refreshed first
          now).2.accounts.find? id = now.accounts.find? id ∨
        ∃ url r r', EligibleTwice env call first now id url ∧ now.accounts.find? id = some r ∧
          (clean_payment_links env call refreshed first now).2.accounts.find? id = some r' ∧
          Cleared url r r'
  generations : (clean_payment_links env call refreshed first now).2.generations = now.generations
  incomplete : ∀ ids, ids = (clean_candidates env call now.accounts
        (still_eligible env call first now)).cleaned_ids → ids ≠ [] → refreshed ids ≠ ids.length →
        clean_payment_links env call refreshed first now = (none, now)
  alone : ∃ report db, clean_payment_links env call List.length first first = (some report, db) ∧
        report.cleaned_links = preview_payment_link_cleanup env call first ∧
        (∀ c ∈ eligible_candidates env call first,
          ∃ r r', first.accounts.find? c.account_id = some r ∧
            db.accounts.find? c.account_id = some r' ∧ Cleared c.current_url r r') ∧
        ∀ refreshed', ∃ report', clean_payment_links env call refreshed' db db =
              (some report', db) ∧ report'.cleaned_links = 0

variable {env call}

theorem cleared_cleaned_account {r : Account} {c : Candidate} (hShows : Shows r c) :
    Cleared c.current_url r (cleaned_account env call c r) := by
  have hNull : ∀ key ∈ CURRENT_LINK_URL_FIELDS,
        get (cleaned_link_payload env c call.now call.cleanup_mode) key = .null := fun key hKey =>
      get_cleaned_link_payload c call.now call.cleanup_mode (mem_append_left _ hKey)
  constructor
  · rfl
  · rfl
  · rfl
  · rfl
  · rfl
  · intro key hKey
    unfold cleaned_account
    cases r.extra with
    | none => rfl
    | some extra =>
      dsimp only [Option.map_some, Option.bind_some]
      rw [Finmap.lookup_insert_of_ne _ hKey]
  · exact ⟨_, last_payment_link_cleaned_account call hShows, hNull,
        current_payment_link_url_of_null hNull⟩

theorem mem_still_eligible {c : Candidate} :
    c ∈ still_eligible env call first now ↔ c ∈ eligible_candidates env call now ∧
        ∃ c₀ ∈ eligible_candidates env call first,
          c₀.account_id = c.account_id ∧ c₀.current_url = c.current_url := by
  unfold still_eligible
  rw [mem_filter, decide_eq_true_eq, mem_map]
  simp only [Prod.mk.injEq]

variable (env call)

theorem still_eligible_self (db : Database) :
    still_eligible env call db db = eligible_candidates env call db := by
  unfold still_eligible
  rw [filter_eq_self]
  intro c hc
  rw [decide_eq_true_eq]
  exact mem_map.mpr ⟨c, hc, rfl⟩

theorem still_eligible_ids_nodup (first now : Database) :
    ((still_eligible env call first now).map Candidate.account_id).Nodup :=
  (eligible_ids_nodup env call now).sublist (filter_sublist.map _)

/- What a cleanup leaves: all as it was, or the rows that the updates make. -/
theorem clean_payment_links_cases (refreshed : List Nat → Nat) (first now : Database) :
    (clean_payment_links env call refreshed first now).2 = now ∨
      (clean_payment_links env call refreshed first now).2 =
        { now with
          accounts := (clean_candidates env call now.accounts
            (still_eligible env call first now)).accounts } := by
  unfold clean_payment_links
  dsimp only
  split
  · exact .inl rfl
  · split
    · exact .inl rfl
    · exact .inr rfl

theorem cleanup_frame (refreshed : List Nat → Nat) (first now : Database) (id : Nat) :
    (clean_payment_links env call refreshed first now).2.accounts.find? id = now.accounts.find? id ∨
      ∃ url r r', EligibleTwice env call first now id url ∧ now.accounts.find? id = some r ∧
        (clean_payment_links env call refreshed first now).2.accounts.find? id = some r' ∧
        Cleared url r r' := by
  have hNodup := still_eligible_ids_nodup env call first now
  rcases clean_payment_links_cases env call refreshed first now with hSame | hCleaned
  · exact .inl (by rw [hSame])
  · rw [hCleaned]
    rw [find?_clean_candidates env call hNodup]
    cases hFind : now.accounts.find? id with
    | none => exact .inl rfl
    | some r =>
      have hId := (KeyedTable.mem_of_find? hFind).2
      rw [Option.map_some]
      by_cases hMem : r.id ∈ (still_eligible env call first now).map Candidate.account_id
      · rcases mem_map.mp hMem with ⟨c, hc, hcId⟩
        rw [cleaned_row_of_mem env call hNodup hc hcId]
        by_cases hCurrent : still_current env c r
        · right
          rw [if_pos hCurrent]
          rcases mem_still_eligible.mp hc with ⟨hLast, c₀, hc₀, hId₀, hUrl₀⟩
          rcases exists_row_of_eligible hLast with ⟨row, hRow, _, hShows⟩
          rw [hcId, hId, hFind] at hRow
          cases hRow
          refine ⟨c.current_url, r, _, ?_, rfl, rfl, cleared_cleaned_account hShows⟩
          exact ⟨⟨c₀, hc₀, hId₀.trans (hcId.trans hId), hUrl₀⟩, ⟨c, hLast, hcId.trans hId, rfl⟩⟩
        · exact .inl (by rw [if_neg hCurrent])
      · left
        rw [cleaned_row_of_not_mem env call hMem]

theorem cleanup_incomplete (refreshed : List Nat → Nat) (first now : Database)
    (hIds : ids = (clean_candidates env call now.accounts
      (still_eligible env call first now)).cleaned_ids)
    (hSome : ids ≠ []) (hCount : refreshed ids ≠ ids.length) :
    clean_payment_links env call refreshed first now = (none, now) := by
  have hFirst : ¬ (eligible_candidates env call first).isEmpty := by
    intro hEmpty
    apply hSome
    have hNil : still_eligible env call first now = [] := by
      rw [eq_nil_iff_forall_not_mem]
      intro c hc
      rcases (mem_still_eligible.mp hc).2 with ⟨c₀, hc₀, _⟩
      rw [isEmpty_iff.mp hEmpty] at hc₀
      cases hc₀
    rw [hIds, hNil]
    rfl
  have hCalled : refreshed_count refreshed ids ≠ ids.length := by
    unfold refreshed_count
    rw [if_neg (by simpa using hSome)]
    exact hCount
  subst hIds
  unfold clean_payment_links
  rw [if_neg hFirst, if_pos hCalled]

----
-- Nobody Else Writes
----

/- The database after the updates for its eligible links. -/
def cleaned_database (db : Database) : Database :=
  { db with
    accounts := (clean_candidates env call db.accounts (eligible_candidates env call db)).accounts }

variable {env call}

variable {db : Database} {c : Candidate} {r : Account}

theorem shows_of_find? (hc : c ∈ eligible_candidates env call db)
    (hFind : db.accounts.find? c.account_id = some r) :
    row_eligible env call db.generations r = some c ∧ Shows r c := by
  rcases exists_row_of_eligible hc with ⟨r', hr', hRow, hShows⟩
  rw [hFind] at hr'
  cases hr'
  exact ⟨hRow, hShows⟩

theorem cleans_iff (hc : c ∈ eligible_candidates env call db) :
    cleans env db.accounts c ↔ SqlSees env c := by
  rcases exists_row_of_eligible hc with ⟨r, hr, _, hShows⟩
  unfold cleans
  rw [hr, Option.any_some]
  exact still_current_iff hShows

variable (env call)

theorem refreshed_count_length (ids : List Nat) : refreshed_count List.length ids = ids.length := by
  cases ids with
  | nil => rfl
  | cons id ids => rfl

theorem clean_alone (db : Database) :
    ∃ report, clean_payment_links env call List.length db db =
          (some report, cleaned_database env call db) ∧ report.cleaned_links =
          ((eligible_candidates env call db).filter (cleans env db.accounts)).length := by
  have hIds := cleaned_ids_clean_candidates env call (eligible_ids_nodup env call db) db.accounts
  unfold clean_payment_links cleaned_database
  dsimp only
  by_cases hEmpty : (eligible_candidates env call db).isEmpty
  · rw [if_pos hEmpty]
    rw [List.isEmpty_iff] at hEmpty
    rw [hEmpty]
    exact ⟨_, rfl, rfl⟩
  · rw [if_neg hEmpty, still_eligible_self, refreshed_count_length, if_neg (not_not.mpr rfl)]
    refine ⟨_, rfl, ?_⟩
    rw [hIds, length_map]

/- After the updates no guard of an eligible link holds. -/
theorem not_still_current_again (db : Database)
    (hc : c ∈ eligible_candidates env call (cleaned_database env call db))
    (hr : r ∈ (cleaned_database env call db).accounts.rows) : still_current env c r = false := by
  have hNodup := eligible_ids_nodup env call db
  rw [← Bool.not_eq_true]
  intro hCurrent
  have hFind := find?_of_mem hr
  rw [id_of_still_current hCurrent] at hFind
  have hAgain := (shows_of_find? hc hFind).1
  have hRows :
      r ∈ db.accounts.rows.map (cleaned_row env call (eligible_candidates env call db)) := by
    rw [← rows_clean_candidates env call hNodup]
    exact hr
  rcases mem_map.mp hRows with ⟨r₀, hr₀, hEq⟩
  by_cases hMem : r₀.id ∈ (eligible_candidates env call db).map Candidate.account_id
  · rcases mem_map.mp hMem with ⟨c₀, hc₀, hId₀⟩
    have hFind₀ := find?_of_mem hr₀
    rw [← hId₀] at hFind₀
    rcases shows_of_find? hc₀ hFind₀ with ⟨hRow₀, hShows₀⟩
    rw [cleaned_row_of_mem env call hNodup hc₀ hId₀] at hEq
    by_cases hCurrent₀ : still_current env c₀ r₀
    · rw [if_pos hCurrent₀] at hEq
      have hNone : row_eligible env call db.generations (cleaned_account env call c₀ r₀) = none :=
        row_eligible_cleaned_account call db.generations hShows₀
      rw [hEq] at hNone
      rw [show (cleaned_database env call db).generations =
        db.generations from rfl, hNone] at hAgain
      cases hAgain
    · rw [if_neg hCurrent₀] at hEq
      subst hEq
      rw [show (cleaned_database env call db).generations =
        db.generations from rfl, hRow₀] at hAgain
      cases hAgain
      exact hCurrent₀ hCurrent
  · rw [cleaned_row_of_not_mem env call hMem] at hEq
    subst hEq
    apply hMem
    have hEligible : c ∈ eligible_candidates env call db := by
      rw [eligible_candidates_eq, mem_filterMap]
      exact ⟨r₀, hr₀, hAgain⟩
    have hId := (shows_of_row_eligible hAgain).account_id
    rw [← hId]
    exact mem_map_of_mem hEligible

/- A second cleanup with the same call, whatever its refresh would report, has nothing to clean. -/
theorem cleans_nothing_again (db : Database) (refreshed : List Nat → Nat) :
    ∃ report, clean_payment_links env call refreshed (cleaned_database env call db)
          (cleaned_database env call db) = (some report, cleaned_database env call db) ∧
      report.cleaned_links = 0 := by
  have hNone := clean_candidates_of_none env call
      (fun c hc r hr => not_still_current_again env call db hc hr)
  unfold clean_payment_links
  dsimp only
  split
  · exact ⟨_, rfl, rfl⟩
  · rw [still_eligible_self, hNone]
    exact ⟨_, rfl, rfl⟩

theorem sqlSees_of_exact (hExact : ExactCleanup env call refreshed first now) :
    ∀ c ∈ eligible_candidates env call first, SqlSees env c := by
  rcases clean_alone env call first with ⟨report, hAlone, hCleaned⟩
  intro c hc
  rcases hExact.alone with ⟨report', db, hRun, hCount, _⟩
  rw [hAlone] at hRun
  cases hRun
  rw [hCleaned] at hCount
  unfold preview_payment_link_cleanup at hCount
  rw [length_filter_eq_length_iff] at hCount
  exact (cleans_iff hc).mp (hCount c hc)

/- The cleanup is exact just when SQLite reads the URL of every eligible link as Python does. -/
theorem exactCleanup_iff (refreshed : List Nat → Nat) (first now : Database) :
    ExactCleanup env call refreshed first now ↔
      ∀ c ∈ eligible_candidates env call first, SqlSees env c := by
  constructor
  · exact sqlSees_of_exact env call
  · intro hSees
    rcases clean_alone env call first with ⟨report, hAlone, hCleaned⟩
    constructor
    · exact cleanup_frame env call refreshed first now
    · rcases clean_payment_links_cases env call refreshed first
        now with hSame | hSet
      · rw [hSame]
      · rw [hSet]
    · intro ids hIds hSome hCount
      exact cleanup_incomplete env call refreshed first now hIds hSome hCount
    · refine ⟨report, cleaned_database env call first, hAlone, ?_, ?_,
          cleans_nothing_again env call first⟩
      · rw [hCleaned]
        unfold preview_payment_link_cleanup
        rw [length_filter_eq_length_iff]
        intro c hc
        exact (cleans_iff hc).mpr (hSees c hc)
      · intro c hc
        have hNodup := eligible_ids_nodup env call first
        rcases exists_row_of_eligible hc with ⟨r, hr, _, hShows⟩
        have hCurrent := (still_current_iff hShows).mpr (hSees c hc)
        refine ⟨r, cleaned_account env call c r, hr, ?_, cleared_cleaned_account hShows⟩
        unfold cleaned_database
        rw [find?_clean_candidates env call hNodup, hr, Option.map_some,
          cleaned_row_of_mem env call hNodup hc hShows.account_id, if_pos hCurrent]

def cleanupEnv : ScanEnv where
  lower := fun s => String.ofList (s.toList.map Char.toLower)
  upper := fun s => String.ofList (s.toList.map Char.toUpper)
  float_text := fun _ => none
  iso_time := fun _ => none
  iso_epoch := fun _ => ""
  url_raises := fun _ => false
  payment_link_type_from_payload := fun _ => ""
  decimal := fun _ => none
  fromtimestamp := fun _ => none
  fromisoformat := fun _ => none
  isoformat := fun _ => ""
  extract_payment_link_qr_expires_at := fun _ => none
  payment_link_platform_from_payload := fun _ => "other"
  json_object := fun _ => none
  sql_number := fun shown => shown
  sql_json := fun shown => shown

def expiredCall : CleanupCall where
  payment_type := .other
  cleanup_mode := .expired
  now := 0
  direct_results := fun _ => none

/- An account whose expired link ends in a line break. -/
def brokenLineAccount : Account where
  id := 1
  platform := "chatgpt"
  email := "one@example.test"
  cashier_url := ""
  extra := some (Finmap.singleton "chatgpt_last_payment_link"
    (.dict (ofFields [("url", .text "https://pay.example/1\n"), ("link_status", .text "expired")])))
  created_at := "2026-07-01 00:00:00"
  updated_at := "2026-07-01 00:00:00"

def brokenLineDatabase : Database where
  accounts := empty.put brokenLineAccount
  generations := ⟨empty, nodup_nil⟩

/- A link that ends in a line break is eligible, but no cleanup removes it. -/
theorem line_break_link_stays :
    ¬ ∀ (env : ScanEnv) (call : CleanupCall)
        (refreshed : List Nat → Nat)
        (first now : Database),
        ExactCleanup env call refreshed first now := by
  intro hAll
  have hSees := sqlSees_of_exact cleanupEnv expiredCall
      (hAll cleanupEnv expiredCall List.length brokenLineDatabase brokenLineDatabase)
  have hUnseen : (eligible_candidates cleanupEnv expiredCall
        brokenLineDatabase).any
          (fun c => decide (sql_payload_url cleanupEnv c.payload ≠ c.current_url)) := by
    decide +kernel
  rcases any_eq_true.mp hUnseen with ⟨c, hc, hNe⟩
  exact of_decide_eq_true hNe (hSees c hc)

end PaymentLinks
