import AutoGpt.PhonePool.Prefixes

/-
  The counts of the summary against the samplers. The summary
  counts available phones without a look at their API URL,
  and rejected phones without a look at their capacity and
  URL; the samplers pass both over.

  Main theorems: `sample_fair`, `samples_agree_iff`
-/

open Grouping (collect_eq firstKeys mem_firstKeys mem_members members sum_collect value?)
open PyText (strip)
open RoundRobin (Fair Ranked picks picks_fair)
open List

----
-- Contents
----

namespace PhonePool

theorem list_phones_nodup (now : Int) (t : PoolContents) :
    ((list fromisoformat now t).1.map fun row => row.phone_e164).Nodup := by
  have hPerm := mergeSort_perm (recoverContents fromisoformat now t).rows
      (fun a b => decide (a.id ≤ b.id))
  exact (hPerm.map _).nodup_iff.mpr (recoverContents fromisoformat now t).keys_nodup

----
-- Samples
----

/- The records of a prefix in the order of their tests. -/
def ranked (env : Env) (records : List StoredPhone) (prefix4 : String) : List StoredPhone :=
  (members (StoredPhone.prefixKey env) records prefix4).mergeSort (fun a b => a.rank ≤ b.rank)

theorem mem_ranked {row : StoredPhone} :
    row ∈ ranked env records prefix4 ↔ row ∈ records ∧ row.prefixKey env = some prefix4 := by
  unfold ranked
  rw [mem_mergeSort, mem_members]

theorem length_ranked (records : List StoredPhone) (prefix4 : String) :
    (ranked env records prefix4).length =
      (members (StoredPhone.prefixKey env) records prefix4).length :=
  length_mergeSort _

theorem grouped_records_eq (records : List StoredPhone) :
    grouped_records env records = (firstKeys (StoredPhone.prefixKey env) records).map
        fun prefix4 => (prefix4, ranked env records prefix4) := by
  unfold grouped_records ranked
  rw [collect_eq, map_map]
  apply map_congr_left
  intro prefix4 _
  rw [Function.comp_apply, Grouping.foldl_snoc, nil_append]

theorem grouped_value (records : List StoredPhone) (prefix4 : String) :
    (value? (grouped_records env records) prefix4).getD [] = ranked env records prefix4 := by
  rw [grouped_records_eq]
  by_cases hMem : prefix4 ∈ firstKeys (StoredPhone.prefixKey env) records
  · rw [Grouping.value?_map hMem]
    rfl
  · rw [Grouping.value?_map_none hMem]
    unfold ranked
    rw [Grouping.members_eq_nil hMem, mergeSort_nil]
    rfl

/- The prefixes of the records in their order. -/
def prefixes (env : Env) (records : List StoredPhone) : List String :=
  ((grouped_records env records).map Prod.fst).mergeSort (fun a b => a ≤ b)

theorem prefixes_perm (records : List StoredPhone) :
    (prefixes env records).Perm (firstKeys (StoredPhone.prefixKey env) records) := by
  have hKeys : (grouped_records env records).map Prod.fst = firstKeys (StoredPhone.prefixKey env)
          records := by
    rw [grouped_records_eq, map_map]
    exact map_id _
  unfold prefixes
  rw [hKeys]
  exact mergeSort_perm _ _

/- The sizes that `summarize` counts for. -/
inductive SampleSize where
| one
| two
deriving DecidableEq

def SampleSize.toNat : SampleSize → Nat
| .one => 1
| .two => 2

theorem sample_eq (records : List StoredPhone) (size : SampleSize) :
    sampleRecordsByPrefix env records size.toNat =
      .ok (picks (prefixes env records) (ranked env records) size.toNat) := by
  have hValue : (fun prefix4 => (value? (grouped_records env records) prefix4).getD []) =
        ranked env records :=
    funext (grouped_value records)
  unfold sampleRecordsByPrefix
  dsimp only
  rw [hValue]
  cases size with
  | one => rfl
  | two => rfl

theorem ranks_trans (a b c : StoredPhone) :
    decide (a.rank ≤ b.rank) → decide (b.rank ≤ c.rank) →
      decide (a.rank ≤ c.rank) := by
  simp only [decide_eq_true_iff]
  exact le_trans

theorem ranks_total (a b : StoredPhone) :
    (decide (a.rank ≤ b.rank) || decide (b.rank ≤ a.rank)) := by
  rw [Bool.or_eq_true, decide_eq_true_iff, decide_eq_true_iff]
  exact le_total _ _

theorem ranked_sound (hNodup : records.Nodup) :
    Ranked (StoredPhone.prefixKey env) (fun a b => a.rank ≤ b.rank) records
      (prefixes env records) (ranked env records) where
  keys_nodup := (prefixes_perm records).nodup_iff.mpr (Grouping.firstKeys_nodup records)
  has_key := fun _ _ hRow => (mem_ranked.mp hRow).2
  mem_items := fun _ _ hRow => (mem_ranked.mp hRow).1
  complete := by
    intro row hRow prefix4 hKey
    refine ⟨?_, mem_ranked.mpr ⟨hRow, hKey⟩⟩
    rw [(prefixes_perm records).mem_iff]
    exact mem_firstKeys.mpr ⟨row, hRow, hKey⟩
  nodup := by
    intro prefix4
    exact (mergeSort_perm _ _).nodup_iff.mpr (hNodup.filter _)
  ordered := by
    intro prefix4
    have hSorted :
        (ranked env records prefix4).Pairwise (fun a b => decide (a.rank ≤ b.rank)) :=
      pairwise_mergeSort ranks_trans ranks_total _
    exact hSorted.imp of_decide_eq_true

/- What a sample of the candidates should be: each phone once,
   and a fair pick among the prefixes. -/
structure Sampled (env : Env) (candidates picked : List StoredPhone) (size : Nat) : Prop where
  phones_nodup : (picked.map fun row => row.phone_e164).Nodup
  fair : Fair (StoredPhone.prefixKey env) (fun a b => a.rank ≤ b.rank) candidates picked size

def limitedSizes (env : Env) (records : List StoredPhone) (size : Nat) :
    Nat :=
  ∑ prefix4 ∈ (firstKeys (StoredPhone.prefixKey env) records).toFinset, min
      (members (StoredPhone.prefixKey env) records prefix4).length size

theorem length_sample (records : List StoredPhone) (size : Nat) :
    (picks (prefixes env records)
        (ranked env records) size).length =
      limitedSizes env records size := by
  unfold limitedSizes
  rw [RoundRobin.length_picks, ← Grouping.sum_firstKeys]
  simp only [length_ranked]
  exact ((prefixes_perm records).map _).sum_eq

theorem picks_sampled (hPhones : (records.map fun row => row.phone_e164).Nodup)
    (size : SampleSize) :
    Sampled env records
      (picks (prefixes env records) (ranked env records) size.toNat)
      size.toNat := by
  have hRanked : Ranked (StoredPhone.prefixKey env) (fun a b => a.rank ≤ b.rank) records
        (prefixes env records) (ranked env records) := ranked_sound (List.Nodup.of_map _ hPhones)
  have hFair : Fair (StoredPhone.prefixKey env)
        (fun a b => a.rank ≤ b.rank) records
        (picks (prefixes env records) (ranked env records) size.toNat)
        size.toNat := by
    cases size with
    | one => exact picks_fair hRanked (fun _ => le_refl _) 0
    | two => exact picks_fair hRanked (fun _ => le_refl _) 1
  refine ⟨?_, hFair⟩
  apply hFair.nodup.map_on
  intro a ha b hb hSame
  exact inj_on_of_nodup_map hPhones (hFair.from_items a ha) (hFair.from_items b hb) hSame

theorem sample_fair (hPhones : (records.map fun row => row.phone_e164).Nodup) (size : SampleSize) :
    ∃ picked, sampleRecordsByPrefix env records size.toNat = .ok picked ∧
        Sampled env records picked size.toNat ∧
        picked.length = limitedSizes env records size.toNat :=
  ⟨_, sample_eq records size, picks_sampled hPhones size, length_sample records size.toNat⟩

----
-- Counts
----

/- The limited counts of the records that pass a test. -/
def limitedCounts (env : Env) (records : List StoredPhone)
    (p : StoredPhone → Bool) (size : Nat) : Nat :=
  ∑ prefix4 ∈ (firstKeys (StoredPhone.prefixKey env) records).toFinset, min
      ((members (StoredPhone.prefixKey env) records prefix4).countP p) size

variable {stats : PrefixStats}
variable {all : List PrefixStats}

theorem limitedSizes_of_perm (hPerm : picked.Perm (records.filter p)) (size : Nat) :
    limitedSizes env picked size = limitedCounts env records p size :=
  Grouping.sum_members_of_perm hPerm (fun count => min count size) (Nat.zero_min size)

theorem candidate_counts_sum (records : List StoredPhone) (size : Nat) :
    ((prefix_sample_candidate_counts env records).map
        fun entry => min entry.2 size).sum =
      limitedSizes env
        (records.filter (is_prefix_sample_candidate_record env))
        size := by
  unfold prefix_sample_candidate_counts limitedSizes
  rw [Grouping.collect_guarded, sum_collect]
  apply Finset.sum_congr rfl
  intro prefix4 _
  rw [Grouping.foldl_count, Nat.zero_add]

def statsOf (env : Env) (fromisoformat : String → Option Int)
    (now : Int) (records : List StoredPhone) (prefix4 : String) : PrefixStats :=
  (members (StoredPhone.prefixKey env) records prefix4).foldl
    (PrefixStats.add env fromisoformat now) { prefix4 := prefix4 }

theorem add_prefix4 (stats : PrefixStats) (rows : List StoredPhone) :
    (rows.foldl (PrefixStats.add env fromisoformat now) stats).prefix4 = stats.prefix4 := by
  induction rows generalizing stats with
  | nil => rfl
  | cons row rows ih =>
    rw [foldl_cons, ih]
    rfl

theorem add_available (stats : PrefixStats) (rows : List StoredPhone) :
    (rows.foldl (PrefixStats.add env fromisoformat now) stats).available_count =
      stats.available_count + rows.countP (fun row => row.available fromisoformat now) := by
  induction rows generalizing stats with
  | nil => rfl
  | cons row rows ih =>
    rw [foldl_cons, ih, countP_cons]
    unfold PrefixStats.add
    dsimp only
    omega

theorem add_rejected (stats : PrefixStats) (rows : List StoredPhone) :
    (rows.foldl (PrefixStats.add env fromisoformat now) stats).rejected_count =
      stats.rejected_count + rows.countP
          (fun row => is_openai_rejected_record env row.toPhoneRow) := by
  induction rows generalizing stats with
  | nil => rfl
  | cons row rows ih =>
    rw [foldl_cons, ih, countP_cons]
    unfold PrefixStats.add
    dsimp only
    omega

theorem add_cannot_send (stats : PrefixStats) (rows : List StoredPhone) :
    (rows.foldl (PrefixStats.add env fromisoformat now) stats).cannot_send_count =
      stats.cannot_send_count + rows.countP (fun row => decide (row.status = .cannot_send)) := by
  induction rows generalizing stats with
  | nil => rfl
  | cons row rows ih =>
    rw [foldl_cons, ih, countP_cons]
    unfold PrefixStats.add
    dsimp only
    omega

theorem rejected_status {row : PhoneRow} (hRejected : is_openai_rejected_record env row) :
    row.status = .cannot_send := by
  unfold is_openai_rejected_record at hRejected
  by_contra hOther
  rw [if_pos hOther] at hRejected
  cases hRejected

theorem rejected_le_cannot_send (records : List StoredPhone) (prefix4 : String) :
    (statsOf env fromisoformat now records prefix4).rejected_count ≤
      (statsOf env fromisoformat now records prefix4).cannot_send_count := by
  unfold statsOf
  rw [add_rejected, add_cannot_send]
  apply Nat.add_le_add_left
  apply countP_mono_left
  intro row _ hRejected
  exact decide_eq_true (rejected_status hRejected)

theorem no_available_of_health (hAvailable : stats.health ≠ .available)
    (hPartly : stats.health ≠ .partly) : stats.available_count = 0 := by
  by_contra hSome
  have hPos : 0 < stats.available_count := Nat.pos_of_ne_zero hSome
  unfold PrefixStats.health at hAvailable hPartly
  dsimp only at hAvailable hPartly
  by_cases hMixed : 0 < stats.available_count ∧
        (0 < stats.cannot_send_count ∨ 0 < stats.rate_limited_count + stats.cooldown_count)
  · rw [if_pos hMixed] at hPartly
    exact hPartly rfl
  · rw [if_neg hMixed, if_pos hPos] at hAvailable
    exact hAvailable rfl

theorem no_cannot_send_of_health (hPartly : stats.health ≠ .partly)
    (hUnavailable : stats.health ≠ .unavailable) : stats.cannot_send_count = 0 := by
  by_contra hSome
  have hPos : 0 < stats.cannot_send_count := Nat.pos_of_ne_zero hSome
  unfold PrefixStats.health at hPartly hUnavailable
  dsimp only at hPartly hUnavailable
  by_cases hAvailable : 0 < stats.available_count
  · rw [if_pos ⟨hAvailable, .inl hPos⟩] at hPartly
    exact hPartly rfl
  · rw [if_neg (fun hMixed => hAvailable hMixed.1), if_neg hAvailable, if_pos hPos] at hUnavailable
    exact hUnavailable rfl

/- A sum over two groups is the sum over all statistics, when the others count for nothing. -/
theorem sum_two_groups (hNe : a ≠ b) (f : PrefixStats → Nat)
    (hZero : ∀ stats ∈ all, stats.health ≠ a → stats.health ≠ b → f stats = 0) :
    ((all.filter (fun stats => stats.health = a)).map f).sum +
        ((all.filter (fun stats => stats.health = b)).map f).sum = (all.map f).sum := by
  induction all with
  | nil => rfl
  | cons stats all ih =>
    have hRest := ih (fun other hOther => hZero other (mem_cons_of_mem _ hOther))
    have hFirst := hZero stats mem_cons_self
    rw [map_cons, sum_cons, ← hRest, filter_cons, filter_cons]
    by_cases ha : stats.health = a
    · have hb : stats.health ≠ b := by
        rw [ha]
        exact hNe
      simp only [ha, hNe, decide_true, decide_false, if_true,
        map_cons, sum_cons, Bool.false_eq_true, if_false]
      omega
    · by_cases hb : stats.health = b
      · simp only [hb, hNe.symm, decide_true, decide_false, if_true, map_cons,
          sum_cons, Bool.false_eq_true, if_false]
        omega
      · have hNothing := hFirst ha hb
        simp only [ha, hb, decide_false, Bool.false_eq_true, if_false]
        omega

theorem sum_health_groups (records : List StoredPhone) (hNe : a ≠ b) (f : PrefixStats → Nat)
    (hZero : ∀ prefix4, (statsOf env fromisoformat now records prefix4).health ≠ a →
        (statsOf env fromisoformat now records prefix4).health ≠ b →
        f (statsOf env fromisoformat now records prefix4) = 0) :
    ((build_prefix_health env fromisoformat now records a ++
        build_prefix_health env fromisoformat now records b).map f).sum =
      ∑ prefix4 ∈ (firstKeys (StoredPhone.prefixKey env) records).toFinset,
        f (statsOf env fromisoformat now records prefix4) := by
  unfold build_prefix_health
  rw [map_append, sum_append, ((mergeSort_perm _ _).map f).sum_eq,
    ((mergeSort_perm _ _).map f).sum_eq, sum_two_groups hNe f]
  · unfold statsByPrefix
    rw [map_map]
    exact sum_collect _ _ records (fun entry => f entry.2)
  · intro stats hStats hOther hOther'
    unfold statsByPrefix at hStats
    rw [collect_eq, map_map] at hStats
    rcases mem_map.mp hStats with ⟨prefix4, -, rfl⟩
    exact hZero prefix4 hOther hOther'

theorem available_sum (records : List StoredPhone) (size : Nat) :
    ((available_prefixes env fromisoformat now records).map
        fun item => min item.available_count size).sum =
      limitedCounts env records (fun row => row.available fromisoformat now) size := by
  unfold available_prefixes limitedCounts
  rw [sum_health_groups records (by decide)]
  · apply Finset.sum_congr rfl
    intro prefix4 _
    unfold statsOf
    rw [add_available, Nat.zero_add]
  · intro prefix4 hAvailable hPartly
    rw [no_available_of_health hAvailable hPartly, Nat.zero_min]

theorem sum_filter_of_zero (hZero : ∀ stats ∈ all, p stats = false → f stats = 0) :
    ((all.filter p).map f).sum = (all.map f).sum := by
  induction all with
  | nil => rfl
  | cons stats all ih =>
    have hRest := ih (fun other hOther => hZero other (mem_cons_of_mem _ hOther))
    rw [map_cons, sum_cons, ← hRest, filter_cons]
    cases hKept : p stats with
    | true => rfl
    | false =>
      rw [hZero stats mem_cons_self hKept, Nat.zero_add]
      rfl

theorem mem_health (hStats : stats ∈ build_prefix_health env fromisoformat now records group) :
    stats.prefix4 ≠ "" := by
  unfold build_prefix_health statsByPrefix at hStats
  rw [mem_mergeSort, mem_filter, collect_eq, map_map] at hStats
  rcases mem_map.mp hStats.1 with ⟨prefix4, hMem, rfl⟩
  rw [Function.comp_apply, add_prefix4]
  rcases mem_firstKeys.mp hMem with ⟨row, -, hKey⟩
  unfold StoredPhone.prefixKey at hKey
  dsimp only at hKey ⊢
  split at hKey
  · cases hKey
  next hText =>
    rw [← Option.some.inj hKey]
    exact hText

theorem rejected_sum (records : List StoredPhone) (size : Nat) :
    ((rejected_prefix_counts env fromisoformat now
        records).map fun count => min count size).sum =
      limitedCounts env records
        (fun row => is_openai_rejected_record env row.toPhoneRow)
        size := by
  unfold rejected_prefix_counts limitedCounts
  rw [map_map, sum_filter_of_zero]
  · rw [sum_health_groups records (by decide)]
    · apply Finset.sum_congr rfl
      intro prefix4 _
      unfold statsOf
      rw [Function.comp_apply, add_rejected, Nat.zero_add]
    · intro prefix4 hPartly hUnavailable
      have hLe : (statsOf env fromisoformat now records prefix4).rejected_count ≤
            (statsOf env fromisoformat now records prefix4).cannot_send_count :=
        rejected_le_cannot_send records prefix4
      rw [no_cannot_send_of_health hPartly hUnavailable] at hLe
      rw [Function.comp_apply, Nat.le_zero.mp hLe, Nat.zero_min]
  · intro stats hStats hDropped
    have hPrefix : stats.prefix4 ≠ "" := by
      rcases mem_append.mp hStats with hOne | hOther
      · exact mem_health hOne
      · exact mem_health hOther
    rw [decide_eq_false_iff_not, not_and] at hDropped
    rw [Function.comp_apply, Nat.eq_zero_of_not_pos (hDropped hPrefix), Nat.zero_min]

----
-- Agreement
----

def Summary.prefix_sample_count (summary : Summary) :
    SampleSize → Nat
| .one => summary.prefix_sample_count_1
| .two => summary.prefix_sample_count_2

def Summary.available_prefix_sample (summary : Summary) :
    SampleSize → Nat
| .one => summary.available_prefix_sample_1
| .two => summary.available_prefix_sample_2

def Summary.rejected_prefix_sample (summary : Summary) :
    SampleSize → Nat
| .one => summary.rejected_prefix_sample_1
| .two => summary.rejected_prefix_sample_2

/- A count is the length of a sound sample. -/
def Agrees (env : Env) (count : Nat) (candidates : List StoredPhone)
    (sampled : Except String (List StoredPhone)) (size : Nat) : Prop :=
  ∃ picked, sampled = .ok picked ∧ count = picked.length ∧ Sampled env candidates picked size

/- The summary and the samplers at one instant. -/
structure SamplesAgree (env : Env) (fromisoformat : String → Option Int)
    (now : Int) (t : PoolContents) (size : SampleSize) :
    Prop where
  testable : Agrees env
      ((summarize env fromisoformat now (list fromisoformat now t).1).prefix_sample_count size)
      (list_prefix_sample_candidates env fromisoformat now t)
      (sampleTestableByPrefix env fromisoformat now size.toNat t) size.toNat
  available : Agrees env ((summarize env fromisoformat now
        (list fromisoformat now t).1).available_prefix_sample size)
      (list_by_number_filter fromisoformat now .available t)
      (sampleAvailableByPrefix env fromisoformat now size.toNat t) size.toNat
  rejected : Agrees env ((summarize env fromisoformat now
        (list fromisoformat now t).1).rejected_prefix_sample size)
      ((list fromisoformat now t).1.filter fun row =>
        is_prefix_sample_candidate_record env row && is_openai_rejected_record env row.toPhoneRow)
      (sampleRejectedByPrefix env fromisoformat now size.toNat t) size.toNat

/- A prefix with an available phone that has no API URL has enough available phones that have one,
   and a prefix with a rejected phone that has no API URL or no free place has enough rejected
   phones that can be sampled. -/
structure Enough (env : Env) (fromisoformat : String → Option Int)
    (now : Int) (records : List StoredPhone) (size : Nat) :
    Prop where
  available : ∀ prefix4, (∃ row ∈ records, row.prefixKey env = some prefix4 ∧
          row.available fromisoformat now ∧ strip row.api_url = "") →
      size ≤ (members (StoredPhone.prefixKey env) records prefix4).countP
          (matches_number_filter fromisoformat now .available)
  rejected : ∀ prefix4, (∃ row ∈ records, row.prefixKey env = some prefix4 ∧
          is_openai_rejected_record env row.toPhoneRow ∧ (row.api_url = "" ∨ row.full)) →
      size ≤ (members (StoredPhone.prefixKey env) records prefix4).countP
          (fun row => is_prefix_sample_candidate_record env row &&
              is_openai_rejected_record env row.toPhoneRow)

variable {records : List StoredPhone}

theorem agrees_iff (hPhones : (records.map fun row => row.phone_e164).Nodup)
    (count : Nat) (size : SampleSize) :
    Agrees env count records (sampleRecordsByPrefix env records size.toNat) size.toNat ↔
      count = limitedSizes env records size.toNat := by
  rcases @sample_fair env _ hPhones size with ⟨sample, hSample, hSampled, hLength⟩
  constructor
  · rintro ⟨picked, hPicked, hCount, -⟩
    rw [hSample] at hPicked
    cases hPicked
    rw [hCount, hLength]
  · intro hCount
    exact ⟨sample, hSample, hCount.trans hLength.symm, hSampled⟩

theorem filtered_phones_nodup (hPhones : (records.map fun row => row.phone_e164).Nodup) :
    ((records.filter p).map fun row => row.phone_e164).Nodup :=
  hPhones.sublist (filter_sublist.map _)

/- An available phone matches the filter when it has an API URL. -/
theorem matches_available (hAvailable : row.available fromisoformat now) :
    matches_number_filter fromisoformat now .available row = false ↔
      strip row.api_url = "" := by
  have hActive : row.status = .active := by
    unfold PhoneRow.available at hAvailable
    by_contra hOther
    rw [if_pos hOther] at hAvailable
    cases hAvailable
  unfold matches_number_filter
  by_cases hUrl : strip row.api_url = ""
  · simp [hUrl]
  · simp [hUrl, hActive, hAvailable]

theorem available_of_matches
    (hMatches : matches_number_filter fromisoformat now .available row) :
    row.available fromisoformat now := by
  unfold matches_number_filter at hMatches
  split at hMatches
  · cases hMatches
  split at hMatches
  · cases hMatches
  · exact hMatches

/- A rejected phone with a prefix is a candidate when it has an API URL and a free place. -/
theorem rejected_candidate (hKey : row.prefixKey env = some prefix4)
    (hRejected : is_openai_rejected_record env row.toPhoneRow) :
    is_prefix_sample_candidate_record env row = false ↔ row.api_url = "" ∨ row.full := by
  have hStatus : row.status = .cannot_send := rejected_status hRejected
  have hPrefix : phone_prefix4 env row.phone_e164 ≠ "" := by
    unfold StoredPhone.prefixKey at hKey
    dsimp only at hKey
    split at hKey
    · cases hKey
    next hText => exact hText
  have hCapacity : 0 < row.toPhoneRow.remaining_capacity ↔ ¬ row.full := by
    unfold PhoneRow.remaining_capacity PhoneRow.full
    omega
  unfold is_prefix_sample_candidate_record
  by_cases hUrl : row.api_url = ""
  · simp [hUrl]
  · simp [hUrl, hStatus, hPrefix, hCapacity]

theorem testable_agrees (now : Int) (t : PoolContents) (size : SampleSize) :
    Agrees env
      ((summarize env fromisoformat now (list fromisoformat now t).1).prefix_sample_count size)
      (list_prefix_sample_candidates env fromisoformat now t)
      (sampleTestableByPrefix env fromisoformat now size.toNat t)
      size.toNat := by
  unfold sampleTestableByPrefix list_prefix_sample_candidates
  rw [agrees_iff (filtered_phones_nodup (list_phones_nodup now t))]
  rw [← candidate_counts_sum]
  cases size with
  | one => rfl
  | two => rfl

theorem available_agrees_iff (now : Int) (t : PoolContents) (size : SampleSize) :
    Agrees env ((summarize env fromisoformat now
          (list fromisoformat now t).1).available_prefix_sample size)
        (list_by_number_filter fromisoformat now .available t)
        (sampleAvailableByPrefix env fromisoformat now size.toNat t) size.toNat ↔
      ∀ prefix4, (∃ row ∈ (list fromisoformat now t).1, row.prefixKey env = some prefix4 ∧
            row.available fromisoformat now ∧ strip row.api_url = "") →
        size.toNat ≤ (members (StoredPhone.prefixKey env)
            (list fromisoformat now t).1 prefix4).countP
            (matches_number_filter fromisoformat now .available) := by
  have hPerm : (list_by_number_filter fromisoformat now .available t).Perm
        ((list fromisoformat now t).1.filter
          (matches_number_filter fromisoformat now .available)) := mergeSort_perm _ _
  have hPhones : ((list_by_number_filter fromisoformat now .available
        t).map fun row => row.phone_e164).Nodup :=
    (hPerm.map _).nodup_iff.mpr (filtered_phones_nodup (list_phones_nodup now t))
  have hCount : (summarize env fromisoformat now
          (list fromisoformat now t).1).available_prefix_sample
          size =
        limitedCounts env (list fromisoformat now t).1
          (fun row => row.available fromisoformat now)
          size.toNat := by
    rw [← available_sum]
    cases size with
    | one => rfl
    | two => rfl
  unfold sampleAvailableByPrefix
  rw [agrees_iff hPhones, hCount, limitedSizes_of_perm hPerm, eq_comm]
  unfold limitedCounts
  rw [Grouping.sum_limited_eq_iff (fun row => available_of_matches)]
  constructor
  · intro hEnough prefix4 hOnly
    rcases hOnly with ⟨row, hRow, hKey, hAvailable, hUrl⟩
    exact hEnough prefix4 ⟨row, mem_members.mpr ⟨hRow, hKey⟩, hAvailable,
          (matches_available hAvailable).mpr hUrl⟩
  · intro hEnough prefix4 hOnly
    rcases hOnly with ⟨row, hRow, hAvailable, hNoMatch⟩
    rcases mem_members.mp hRow with ⟨hMem, hKey⟩
    exact hEnough prefix4 ⟨row, hMem, hKey, hAvailable, (matches_available hAvailable).mp hNoMatch⟩

theorem rejected_agrees_iff (now : Int) (t : PoolContents) (size : SampleSize) :
    Agrees env ((summarize env fromisoformat now
          (list fromisoformat now t).1).rejected_prefix_sample size)
        ((list fromisoformat now t).1.filter fun row =>
          is_prefix_sample_candidate_record env row && is_openai_rejected_record env row.toPhoneRow)
        (sampleRejectedByPrefix env fromisoformat now size.toNat t) size.toNat ↔
      ∀ prefix4, (∃ row ∈ (list fromisoformat now t).1, row.prefixKey env = some prefix4 ∧
            is_openai_rejected_record env row.toPhoneRow ∧ (row.api_url = "" ∨ row.full)) →
        size.toNat ≤ (members (StoredPhone.prefixKey env)
            (list fromisoformat now t).1 prefix4).countP
            (fun row => is_prefix_sample_candidate_record env row &&
                is_openai_rejected_record env row.toPhoneRow) := by
  have hCount : (summarize env fromisoformat now
          (list fromisoformat now t).1).rejected_prefix_sample
          size =
        limitedCounts env (list fromisoformat now t).1
          (fun row => is_openai_rejected_record env row.toPhoneRow)
          size.toNat := by
    rw [← rejected_sum]
    cases size with
    | one => rfl
    | two => rfl
  unfold sampleRejectedByPrefix
  rw [agrees_iff (filtered_phones_nodup (list_phones_nodup now t)),
    hCount, limitedSizes_of_perm (List.Perm.refl _), eq_comm]
  unfold limitedCounts
  rw [Grouping.sum_limited_eq_iff (fun row hBoth => ((Bool.and_eq_true _ _).mp hBoth).2)]
  constructor
  · intro hEnough prefix4 hOnly
    rcases hOnly with ⟨row, hRow, hKey, hRejected, hUnfit⟩
    have hNot := (rejected_candidate hKey hRejected).mpr hUnfit
    refine hEnough prefix4 ⟨row, mem_members.mpr ⟨hRow, hKey⟩, hRejected, ?_⟩
    rw [hNot]
    rfl
  · intro hEnough prefix4 hOnly
    rcases hOnly with ⟨row, hRow, hRejected, hDropped⟩
    rcases mem_members.mp hRow with ⟨hMem, hKey⟩
    rw [hRejected, Bool.and_true] at hDropped
    exact
      hEnough prefix4 ⟨row, hMem, hKey, hRejected, (rejected_candidate hKey hRejected).mp hDropped⟩

/- At one instant the counts of the summary are the lengths of the samples, and the samples are
   sound, when the prefixes have enough phones that can be sampled. -/
theorem samples_agree_iff (env : Env) (fromisoformat : String → Option Int)
    (now : Int) (t : PoolContents) (size : SampleSize) :
    SamplesAgree env fromisoformat now t size ↔
      Enough env fromisoformat now (list fromisoformat now t).1 size.toNat := by
  constructor
  · intro hAgree
    exact ⟨(available_agrees_iff now t size).mp hAgree.available,
        (rejected_agrees_iff now t size).mp hAgree.rejected⟩
  · intro hEnough
    exact ⟨testable_agrees now t size, (available_agrees_iff now t size).mpr hEnough.available,
        (rejected_agrees_iff now t size).mpr hEnough.rejected⟩

/- A rejected phone whose places are taken. -/
def fullRejected : StoredPhone :=
  { imported_row "+14155550100" 1 0 with
    status := .cannot_send, bound_count := 1,
    last_error_code := "openai_rejected", id := 1, api_url := "https://a.example/x" }

def fullRejectedPool : PoolContents where
  rows := [fullRejected]
  keys_nodup := nodup_singleton _

/- It counts for the rejected sample, which leaves it out. -/
theorem full_rejected_counted :
    ¬ (∀ (env : Env) (fromisoformat : String → Option Int)
        (now : Int) (t : PoolContents) (size : SampleSize),
        SamplesAgree env fromisoformat now t size) := by
  intro hAll
  have hEnough := (rejected_agrees_iff 0 fullRejectedPool .one).mp
      (hAll sampleEnv (fun _ => none) 0 fullRejectedPool .one).rejected
  have hList : (list (fun _ => none) 0 fullRejectedPool).1 = [fullRejected] := by decide +kernel
  have hKey : fullRejected.prefixKey sampleEnv = some "1415" := by decide +kernel
  have hRejected : is_openai_rejected_record sampleEnv fullRejected.toPhoneRow := by
    decide +kernel
  have hSize := hEnough "1415"
      ⟨fullRejected, hList ▸ mem_singleton_self _, hKey, hRejected, .inr (by decide)⟩
  have hNone : (members (StoredPhone.prefixKey sampleEnv)
          [fullRejected] "1415").countP
        (fun row => is_prefix_sample_candidate_record sampleEnv row &&
            is_openai_rejected_record sampleEnv row.toPhoneRow) = 0 := by
    decide +kernel
  rw [hList, hNone] at hSize
  exact Nat.not_succ_le_zero 0 hSize

end PhonePool
