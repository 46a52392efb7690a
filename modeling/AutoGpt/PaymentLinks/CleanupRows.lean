import AutoGpt.PaymentLinks.Cleanup
import AutoGpt.PaymentLinks.Texts

/-
  What the updates of a cleanup do to the account rows: the
  row of each candidate that SQLite still sees becomes its
  tombstone, the others stay.

  Main theorems: `still_current_iff`, `get_cleaned_link_payload`, `clean_candidates_spec`
-/

open List
open KeyedTable

----
-- Candidates Of Rows
----

namespace PaymentLinks

variable (env : ScanEnv) (call : CleanupCall)

/- The candidate shows the current link of the row. -/
structure Shows (r : Account) (c : Candidate) : Prop where
  account_id : c.account_id = r.id
  platform : r.platform = "chatgpt"
  link : last_payment_link r.extra = some c.payload
  current_url : c.current_url = current_payment_link_url c.payload
  given : c.current_url ≠ ""

/- SQLite reads the URL of the link as Python does. -/
def SqlSees (c : Candidate) : Prop := sql_payload_url env c.payload = c.current_url

/- The eligible candidate of an account row. -/
def row_eligible (g : Generations) (r : Account) :
    Option Candidate :=
  ((account_candidate env g r).filter
    (fun c => c.payment_type = call.payment_type)).bind (eligible_candidate env call)

theorem eligible_candidates_eq (db : Database) :
    eligible_candidates env call db =
      db.accounts.rows.filterMap (row_eligible env call db.generations) := by
  unfold eligible_candidates load_current_payment_link_candidates
  rw [← filterMap_eq_filter, filterMap_filterMap, filterMap_filterMap]
  congr 1
  funext r
  unfold row_eligible
  cases account_candidate env db.generations r with
  | none => rfl
  | some c =>
    by_cases hType : c.payment_type = call.payment_type
    · simp [hType, Option.guard, Option.filter_some]
    · simp [hType, Option.guard, Option.filter_some]

variable {env call}

theorem shows_of_account_candidate (hCandidate : account_candidate env g r = some c) :
    Shows r c := by
  unfold account_candidate at hCandidate
  split at hCandidate
  · cases hCandidate
  next hPlatform =>
    split at hCandidate
    next extra payload _ hLink =>
      split at hCandidate
      · cases hCandidate
      next hGiven =>
        cases hCandidate
        exact ⟨rfl, not_not.mp hPlatform, hLink, rfl, hGiven⟩
    · cases hCandidate

theorem shows_of_eligible_candidate (hShows : Shows r c)
    (hEligible : eligible_candidate env call c = some c') : Shows r c' := by
  unfold eligible_candidate at hEligible
  dsimp only at hEligible
  split at hEligible
  · cases hEligible
    unfold with_direct_expiry
    split
    · exact hShows
    · split
      · exact hShows
      · exact ⟨hShows.account_id, hShows.platform, hShows.link, hShows.current_url, hShows.given⟩
  · cases hEligible

theorem shows_of_row_eligible (hRow : row_eligible env call g r = some c) : Shows r c := by
  rcases Option.bind_eq_some_iff.mp hRow with ⟨c₀, hFilter, hEligible⟩
  have hCandidate := (Option.filter_eq_some_iff.mp hFilter).1
  exact shows_of_eligible_candidate (shows_of_account_candidate hCandidate) hEligible

theorem exists_row_of_eligible (hEligible : c ∈ eligible_candidates env call db) :
    ∃ r, db.accounts.find? c.account_id = some r ∧ row_eligible env call db.generations r = some c ∧
      Shows r c := by
  rw [eligible_candidates_eq, mem_filterMap] at hEligible
  rcases hEligible with ⟨r, hr, hRow⟩
  have hShows := shows_of_row_eligible hRow
  refine ⟨r, ?_, hRow, hShows⟩
  rw [hShows.account_id]
  exact find?_of_mem hr

variable (env call)

theorem eligible_ids_nodup (db : Database) :
    ((eligible_candidates env call db).map Candidate.account_id).Nodup := by
  rw [eligible_candidates_eq]
  have hSub : ∀ rows : List Account, ((rows.filterMap
            (row_eligible env call db.generations)).map
          Candidate.account_id).Sublist
          (rows.map Account.id) := by
    intro rows
    induction rows with
    | nil => exact .slnil
    | cons r rows ih =>
      cases hRow : row_eligible env call db.generations r with
      | none =>
        rw [filterMap_cons_none hRow, map_cons]
        exact ih.cons _
      | some c =>
        have hId := (shows_of_row_eligible hRow).account_id
        rw [filterMap_cons_some hRow, map_cons, map_cons, hId]
        exact ih.cons_cons _
  exact db.accounts.keys_nodup.sublist (hSub _)

variable {env}

theorem still_current_iff (hShows : Shows r c) : still_current env c r ↔ SqlSees env c := by
  have hExtra : r.extra.isSome := by
    cases hCase : r.extra with
    | none =>
      have hLink := hShows.link
      rw [hCase] at hLink
      cases hLink
    | some extra => rfl
  unfold still_current SqlSees sql_current_url
  rw [hShows.link]
  simp [hShows.account_id, hShows.platform, hExtra]

end PaymentLinks

----
-- Tombstones
----

namespace PaymentLinks

theorem lookup_updated_of_ne (payload : Dict Value)
    (hNone : ∀ f ∈ fields, f.1 ≠ key) : get (updated payload fields) key = get payload key := by
  unfold updated
  induction fields generalizing payload with
  | nil => rfl
  | cons f fields ih => rw [foldl_cons, ih _ (fun x hx => hNone x (mem_cons_of_mem _ hx)),
        get_insert_of_ne _ (Ne.symm (hNone f mem_cons_self))]

theorem get_erase_of_null (key' : String) (hNull : get payload key = .null) :
    get (payload.erase key') key = .null := by
  unfold get at hNull ⊢
  by_cases hSame : key = key'
  · rw [hSame, Finmap.lookup_erase]
    rfl
  · rw [Finmap.lookup_erase_ne hSame]
    exact hNull

theorem get_kept_fields (payload : Dict Value) (hKey : key ∈ LINK_URL_FIELDS_TO_REMOVE) :
    get (kept_fields payload) key = .null := by
  have hStays : ∀ (keys : List String) (p : Dict Value), get p key = .null →
          get (keys.foldl (fun p k => p.erase k) p) key = .null := by
    intro keys
    induction keys with
    | nil => exact fun p hNull => hNull
    | cons k keys ih =>
      intro p hNull
      exact ih _ (get_erase_of_null k hNull)
  have hErased : ∀ (keys : List String) (p : Dict Value), key ∈ keys →
          get (keys.foldl (fun p k => p.erase k) p) key = .null := by
    intro keys
    induction keys with
    | nil =>
      intro p hMem
      cases hMem
    | cons k keys ih =>
      intro p hMem
      rw [foldl_cons]
      rcases mem_cons.mp hMem with hHead | hTail
      · apply hStays
        rw [hHead]
        unfold get
        rw [Finmap.lookup_erase]
        rfl
      · exact ih _ hTail
  exact hErased _ payload hKey

def tombstone_keys : List String := ["previous_link_status", "link_status",
    "link_status_reason", "link_status_updated_at",
    "cleaned_at", "payment_link_cleanup_through_at",
    "payment_link_cleanup_mode", "payment_link_cleanup_type",
    "pix_cleanup_through_at", "pix_cleanup_mode",
    "payment_link_type", "link_expiry_source", "expired_at",
    "link_expires_at"]

theorem tombstone_fields_keys (c : Candidate) (t : Int) (mode : CleanupMode) :
    ∀ f ∈ previous_status_fields c.payload ++
        cleanup_fields env c t mode ++ expiry_fields env c mode, f.1 ∈ tombstone_keys := by
  intro f hf
  rw [mem_append, mem_append] at hf
  rcases hf with (hPrevious | hCleanup) | hExpiry
  · unfold previous_status_fields at hPrevious
    dsimp only at hPrevious
    split at hPrevious
    · rw [mem_singleton.mp hPrevious]
      simp [tombstone_keys]
    · cases hPrevious
  · unfold cleanup_fields at hCleanup
    have hKey := mem_map_of_mem (f := Prod.fst) hCleanup
    have hSub : ∀ key ∈ ["link_status", "link_status_reason",
            "link_status_updated_at", "cleaned_at",
            "payment_link_cleanup_through_at",
            "payment_link_cleanup_mode",
            "payment_link_cleanup_type",
            "pix_cleanup_through_at", "pix_cleanup_mode",
            "payment_link_type", "link_expiry_source"],
          key ∈ tombstone_keys := by
      intro key hMem
      exact mem_cons_of_mem _ (mem_append_left ["expired_at", "link_expires_at"] hMem)
    exact hSub f.1 hKey
  · unfold expiry_fields at hExpiry
    rw [mem_append] at hExpiry
    rcases hExpiry with hExpired | hDeadline
    · split at hExpired
      · rw [mem_singleton.mp hExpired]
        simp [tombstone_keys]
      · cases hExpired
    · split at hDeadline
      · rw [mem_singleton.mp hDeadline]
        simp [tombstone_keys]
      · cases hDeadline

theorem get_cleaned_link_payload (c : Candidate) (t : Int) (mode : CleanupMode)
    (hKey : key ∈ LINK_URL_FIELDS_TO_REMOVE) :
    get (cleaned_link_payload env c t mode) key = .null := by
  have hDisjoint : ∀ k ∈ tombstone_keys, k ∉ LINK_URL_FIELDS_TO_REMOVE := by decide
  unfold cleaned_link_payload
  rw [lookup_updated_of_ne]
  · exact get_kept_fields c.payload hKey
  · intro f hf hSame
    have hMem := tombstone_fields_keys c t mode f hf
    rw [hSame] at hMem
    exact hDisjoint key hMem hKey

theorem current_payment_link_url_of_null
    (hNull : ∀ key ∈ CURRENT_LINK_URL_FIELDS, get payload key = .null) :
    current_payment_link_url payload = "" := by
  have hTexts : CURRENT_LINK_URL_FIELDS.map
          (fun key => PyText.strip (get payload key).str) =
        CURRENT_LINK_URL_FIELDS.map (fun _ => "") := by
    apply map_congr_left
    intro key hKey
    rw [hNull key hKey]
    exact strip_empty
  unfold current_payment_link_url
  rw [hTexts]
  decide

theorem last_payment_link_cleaned_account (call : CleanupCall) (hShows : Shows r c) :
    last_payment_link (cleaned_account env call c r).extra =
      some (cleaned_link_payload env c call.now call.cleanup_mode) := by
  unfold cleaned_account last_payment_link
  cases hCase : r.extra with
  | none =>
    have hLink := hShows.link
    rw [hCase] at hLink
    cases hLink
  | some extra =>
    dsimp only [Option.map_some]
    rw [Finmap.lookup_insert]

theorem row_eligible_cleaned_account (call : CleanupCall) (g : Generations) (hShows : Shows r c) :
    row_eligible env call g (cleaned_account env call c r) = none := by
  cases hRow : row_eligible env call g (cleaned_account env call c r) with
  | none => rfl
  | some c' =>
    have hShows' := shows_of_row_eligible hRow
    have hLink := hShows'.link
    rw [last_payment_link_cleaned_account call hShows] at hLink
    have hPayload := Option.some.inj hLink
    exfalso
    apply hShows'.given
    rw [hShows'.current_url, ← hPayload]
    apply current_payment_link_url_of_null
    intro key hKey
    exact get_cleaned_link_payload c call.now call.cleanup_mode (mem_append_left _ hKey)

end PaymentLinks

----
-- The Updates Of A Transaction
----

namespace PaymentLinks

variable (env : ScanEnv) (call : CleanupCall)

/- What the updates for the candidates make of a row. -/
def cleaned_row (cs : List Candidate) (r : Account) :
    Account :=
  match cs.find? (fun c => c.account_id = r.id) with
  | some c =>
    if still_current env c r then cleaned_account env call c r
    else r
  | none => r

/- The update for the candidate meets its row. -/
def cleans (accounts : Accounts) (c : Candidate) : Bool :=
  (accounts.find? c.account_id).any (still_current env c)

variable {env}

variable {cs : List Candidate}

theorem id_of_still_current (hCurrent : still_current env c r) : r.id = c.account_id := by
  exact (of_decide_eq_true hCurrent).1

variable (env)

theorem cleaned_row_id (cs : List Candidate) (r : Account) :
    (cleaned_row env call cs r).id = r.id := by
  unfold cleaned_row
  split
  · split
    · rfl
    · rfl
  · rfl

theorem cleaned_row_of_not_mem (hNot : r.id ∉ cs.map Candidate.account_id) :
    cleaned_row env call cs r = r := by
  have hNone : cs.find? (fun c => c.account_id = r.id) = none := by
    rw [find?_eq_none]
    intro c hc hId
    apply hNot
    rw [← of_decide_eq_true hId]
    exact mem_map_of_mem hc
  unfold cleaned_row
  rw [hNone]

theorem cleaned_row_of_mem (hNodup : (cs.map Candidate.account_id).Nodup) (hc : c ∈ cs)
    (hId : c.account_id = r.id) :
    cleaned_row env call cs r =
      if still_current env c r then cleaned_account env call c r
      else r := by
  have hFind : cs.find? (fun c => c.account_id = r.id) = some c := by
    cases hCase : cs.find? (fun c => c.account_id = r.id) with
    | none =>
      have hNone := find?_eq_none.mp hCase c hc
      simp [hId] at hNone
    | some c' =>
      have hMem := mem_of_find?_eq_some hCase
      have hId' := find?_some hCase
      rw [inj_on_of_nodup_map hNodup hMem hc ((of_decide_eq_true hId').trans hId.symm)]
  unfold cleaned_row
  rw [hFind]

theorem cleaned_row_cons (hNodup : ((c :: cs).map Candidate.account_id).Nodup) (r : Account) :
    cleaned_row env call cs
        (if still_current env c r then cleaned_account env call c r
        else r) =
      cleaned_row env call (c :: cs) r := by
  rw [map_cons, nodup_cons] at hNodup
  by_cases hId : c.account_id = r.id
  · have hHere : cleaned_row env call (c :: cs) r =
          if still_current env c r then cleaned_account env call c r
          else r := by
      unfold cleaned_row
      rw [find?_cons_of_pos (by simp [hId])]
    rw [hHere]
    apply cleaned_row_of_not_mem
    split
    · rw [cleaned_account_id, ← hId]
      exact hNodup.1
    · rw [← hId]
      exact hNodup.1
  · have hNot : ¬ still_current env c r := by
      intro hCurrent
      exact hId (id_of_still_current hCurrent).symm
    rw [if_neg hNot]
    unfold cleaned_row
    rw [find?_cons_of_neg (by simp [hId])]

theorem cleans_clean_candidate (s : Cleaning) (hNe : c'.account_id ≠ c.account_id) :
    cleans env (clean_candidate env call s c).accounts c' = cleans env s.accounts c' := by
  unfold cleans clean_candidate
  rw [find?_updateWhere]
  cases hFind : s.accounts.find? c'.account_id with
  | none => rfl
  | some r =>
    have hId := (mem_of_find? hFind).2
    have hNot : ¬ still_current env c r := by
      intro hCurrent
      exact hNe (hId.symm.trans (id_of_still_current hCurrent))
    rw [Option.map_some, if_neg hNot]

section

variable (hNodup : (cs.map Candidate.account_id).Nodup)
include hNodup

/- The updates in a row: every account row as its candidate leaves it, and the ids of the candidates
   whose update met its row. -/
theorem clean_candidates_spec (s : Cleaning) :
    (cs.foldl (clean_candidate env call) s).accounts.rows =
        s.accounts.rows.map (cleaned_row env call cs) ∧
      (cs.foldl (clean_candidate env call) s).cleaned_ids = s.cleaned_ids ++
          (cs.filter (cleans env s.accounts)).map
            Candidate.account_id := by
  induction cs generalizing s with
  | nil =>
    constructor
    · have hSame : cleaned_row env call [] = id := rfl
      rw [hSame, map_id]
      rfl
    · exact (append_nil _).symm
  | cons c cs ih =>
    have hTail : (cs.map Candidate.account_id).Nodup := (nodup_cons.mp hNodup).2
    have hOther : ∀ c' ∈ cs, c'.account_id ≠ c.account_id := by
      intro c' hc' hSame
      apply (nodup_cons.mp hNodup).1
      rw [← hSame]
      exact mem_map_of_mem hc'
    rcases ih hTail (clean_candidate env call s c) with ⟨hRows, hIds⟩
    rw [foldl_cons]
    constructor
    · rw [hRows]
      unfold clean_candidate updateWhere
      rw [map_map]
      apply map_congr_left
      intro r _
      exact cleaned_row_cons env call hNodup r
    · have hFilter : cs.filter
              (cleans env (clean_candidate env call s c).accounts) =
            cs.filter (cleans env s.accounts) := by
        apply filter_congr
        intro c' hc'
        exact cleans_clean_candidate env call s (hOther c' hc')
      have hCount : s.accounts.rows.countP (still_current env c) =
            if cleans env s.accounts c then 1 else 0 :=
        s.accounts.countP_of_key (fun r hCurrent => id_of_still_current hCurrent)
      rw [hIds, hFilter]
      unfold clean_candidate
      rw [hCount]
      by_cases hCleans : cleans env s.accounts c
      · rw [if_pos hCleans, if_pos rfl, filter_cons_of_pos hCleans, map_cons,
          append_assoc]
        rfl
      · rw [if_neg hCleans, if_neg (by decide), filter_cons_of_neg hCleans]

theorem rows_clean_candidates (accounts : Accounts) :
    (clean_candidates env call accounts cs).accounts.rows =
      accounts.rows.map (cleaned_row env call cs) :=
  (clean_candidates_spec env call hNodup ⟨accounts, []⟩).1

theorem find?_clean_candidates (accounts : Accounts) (k : Nat) :
    (clean_candidates env call accounts cs).accounts.find? k =
      (accounts.find? k).map (cleaned_row env call cs) :=
  find?_of_rows_map (cleaned_row_id env call cs)
    (rows_clean_candidates env call hNodup accounts) k

theorem cleaned_ids_clean_candidates (accounts : Accounts) :
    (clean_candidates env call accounts cs).cleaned_ids = (cs.filter (cleans env accounts)).map
        Candidate.account_id :=
  (clean_candidates_spec env call hNodup ⟨accounts, []⟩).2

end

theorem clean_candidates_of_none
    (hNone : ∀ c ∈ cs, ∀ r ∈ accounts.rows, still_current env c r = false) :
    clean_candidates env call accounts cs = ⟨accounts, []⟩ := by
  unfold clean_candidates
  induction cs with
  | nil => rfl
  | cons c cs ih =>
    have hHead := hNone c mem_cons_self
    have hStep : clean_candidate env call ⟨accounts, []⟩ c = ⟨accounts, []⟩ := by
      unfold clean_candidate
      have hCount : accounts.rows.countP (still_current env c) = 0 := by
        rw [countP_eq_zero]
        intro r hr
        simp [hHead r hr]
      rw [accounts.updateWhere_of_none _ hHead, hCount]
      rfl
    rw [foldl_cons, hStep]
    exact ih fun c' hc' => hNone c' (mem_cons_of_mem _ hc')

end PaymentLinks
