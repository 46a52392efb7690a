import Mathlib.Data.Prod.Lex
import Mathlib.Data.String.Basic
import AutoGpt.Library.RoundRobin
import AutoGpt.PhonePool.OperatorDisable

/-
  Prefix health, the summary and the prefix samplers of the
  phone pool
  (`services/chatgpt_core/phone_pool_repository.py`).
-/

open PyText (strip)
open Grouping (collect value?)

----
-- Records
----

namespace PhonePool

/- A row with the columns that sampling reads besides. A record has the values of its row, and
   `places` for the stored `max_accounts`. -/
structure StoredPhone extends PhoneRow where
  id : Int
  api_url : String := ""
deriving DecidableEq

abbrev PoolContents := KeyedTable StoredPhone String (fun row => row.toPhoneRow.phone_e164)

variable (env : Env)
variable (fromisoformat : String → Option Int)

def PhoneRow.expired (now : Int) (row : PhoneRow) : Bool :=
  row.status.isTemporary && row.recoverAt fromisoformat ≤ now

/- `recover_expired_temporary_statuses(now=...)`. -/
def recoverContents (now : Int) (t : PoolContents) : PoolContents :=
  t.updateWhere (fun row => row.toPhoneRow.expired fromisoformat now) (fun row =>
      { row with toPhoneRow := row.toPhoneRow.recovered now }) (fun _ => rfl)

/- `list()`: the records in the order of their ids, and what the sweep at its start leaves. -/
def list (now : Int) (t : PoolContents) :
    List StoredPhone × PoolContents :=
  let swept := recoverContents fromisoformat now t
  (swept.rows.mergeSort (fun a b => a.id ≤ b.id), swept)

/- `_phone_prefix4(value)`. -/
def phone_prefix4 (value : String) : String :=
  let digits := value.toList.filter env.isdigit
  if 4 ≤ digits.length then String.ofList (digits.take 4)
  else ""

/- The prefix, if the loops over records do not skip it. -/
def StoredPhone.prefixKey (row : StoredPhone) : Option String :=
  let prefix4 := phone_prefix4 env row.phone_e164
  if prefix4 = "" then none else some prefix4

/- `PhonePoolRecord.remaining_capacity`. -/
def PhoneRow.remaining_capacity (row : PhoneRow) : Int := max (row.places - row.bound_count) 0

def contains (text marker : String) : Bool := decide (marker.toList <:+: text.toList)

/- `_is_openai_rejected_record(record)`. -/
def is_openai_rejected_record (row : PhoneRow) : Bool :=
  if row.status ≠ .cannot_send then false
  else
    let code := env.lower (strip row.last_error_code)
    let message := env.lower (strip row.last_error_message)
    code == "openai_rejected" ||
      ["detected suspicious behavior from phone numbers", "suspicious behavior from phone numbers",
        "openai 拒绝", "手机号无效", "号码无效", "手机号不支持"].any (contains message)

/- `_is_prefix_sample_candidate_record(record)`. -/
def is_prefix_sample_candidate_record (row : StoredPhone) : Bool :=
  if row.status = .disabled ∨ row.status = .exhausted then false
  else if row.api_url = "" then false
  else if phone_prefix4 env row.phone_e164 = "" then false
  else decide (0 < row.remaining_capacity)

----
-- Prefix Health
----

structure PrefixStats where
  prefix4 : String
  total : Nat := 0
  available_count : Nat := 0
  remaining_capacity : Int := 0
  rejected_count : Nat := 0
  bind_limit_count : Nat := 0
  cannot_send_count : Nat := 0
  rate_limited_count : Nat := 0
  cooldown_count : Nat := 0

/- What a record adds to the statistics of its prefix. -/
def PrefixStats.add (now : Int) (stats : PrefixStats) (row : StoredPhone) :
    PrefixStats :=
  let available := row.available fromisoformat now
  let count := fun (p : Bool) => if p then 1 else 0
  { stats with
    total := stats.total + 1
    available_count := stats.available_count + count available
    remaining_capacity := stats.remaining_capacity + if available then row.remaining_capacity else 0
    rejected_count := stats.rejected_count + count (is_openai_rejected_record env row.toPhoneRow)
    bind_limit_count :=
      stats.bind_limit_count + count (row.status = .exhausted ∨ row.remaining_capacity ≤ 0)
    cannot_send_count := stats.cannot_send_count + count (row.status = .cannot_send)
    rate_limited_count := stats.rate_limited_count + count (row.status = .rate_limited)
    cooldown_count := stats.cooldown_count + count (row.status = .cooldown) }

/- The groups of prefixes; `partly` is `"partial"`. -/
inductive PrefixHealth where
| available
| partly
| unavailable
| exhausted
| temporary
deriving DecidableEq

def PrefixStats.health (stats : PrefixStats) : PrefixHealth :=
  let temporary_count := stats.rate_limited_count + stats.cooldown_count
  if 0 < stats.available_count ∧ (0 < stats.cannot_send_count ∨ 0 < temporary_count) then .partly
  else if 0 < stats.available_count then .available
  else if 0 < stats.cannot_send_count then .unavailable
  else if 0 < stats.total ∧ stats.total ≤ stats.bind_limit_count then .exhausted
  else .temporary

/- `sort_key(item)`. -/
def PrefixStats.sort_key (stats : PrefixStats) :
    Int ×ₗ Int ×ₗ String :=
  let primary : Int :=
    match stats.health with
    | .unavailable => stats.rejected_count
    | .available => stats.remaining_capacity
    | .partly => stats.remaining_capacity
    | .exhausted => stats.bind_limit_count
    | .temporary => stats.total
  toLex (-primary, toLex (-(stats.total : Int), stats.prefix4))

/- `stats_by_prefix`. -/
def statsByPrefix (now : Int) (records : List StoredPhone) :
    List (String × PrefixStats) :=
  collect (StoredPhone.prefixKey env) (fun prefix4 => { prefix4 := prefix4 })
    (PrefixStats.add env fromisoformat now) records

/- `_build_prefix_health(records)`, one group of it. -/
def build_prefix_health (now : Int) (records : List StoredPhone)
    (group : PrefixHealth) : List PrefixStats :=
  (((statsByPrefix env fromisoformat now records).map Prod.snd).filter
      (fun stats => stats.health = group)).mergeSort (fun a b => a.sort_key ≤ b.sort_key)

/- The counts of `summarize`. -/
structure Summary where
  total : Nat
  available : Nat
  available_prefix_count : Nat
  available_prefix_sample_1 : Nat
  available_prefix_sample_2 : Nat
  prefix_sample_prefix_count : Nat
  prefix_sample_phone_count : Nat
  prefix_sample_count_1 : Nat
  prefix_sample_count_2 : Nat
  rejected_phone_count : Nat
  rejected_prefix_sample_1 : Nat
  rejected_prefix_sample_2 : Nat

/- `prefix_sample_candidate_counts`. -/
def prefix_sample_candidate_counts (records : List StoredPhone) : List (String × Nat) :=
  collect
    (fun row =>
      if is_prefix_sample_candidate_record env row then row.prefixKey env
      else none)
    (fun _ => 0) (fun count _ => count + 1) records

/- `available_prefixes`. -/
def available_prefixes (now : Int) (records : List StoredPhone) :
    List PrefixStats :=
  build_prefix_health env fromisoformat now records .available ++
    build_prefix_health env fromisoformat now records .partly

/- The values of `rejected_prefix_counts`, whose keys are the prefixes of different items. -/
def rejected_prefix_counts (now : Int) (records : List StoredPhone) : List Nat :=
  ((build_prefix_health env fromisoformat now records .partly ++
      build_prefix_health env fromisoformat now records .unavailable).filter
    (fun item => item.prefix4 ≠ "" ∧ 0 < item.rejected_count)).map PrefixStats.rejected_count

/- `summarize(records)`. -/
def summarize (now : Int) (records : List StoredPhone) : Summary :=
  let available_prefixes := available_prefixes env fromisoformat now records
  let candidate_counts := prefix_sample_candidate_counts env records
  let rejected_counts := rejected_prefix_counts env fromisoformat now records
  { total := records.length
    available := (available_prefixes.map fun item => item.available_count).sum
    available_prefix_count := available_prefixes.length
    available_prefix_sample_1 := (available_prefixes.map fun item => min item.available_count 1).sum
    available_prefix_sample_2 := (available_prefixes.map fun item => min item.available_count 2).sum
    prefix_sample_prefix_count := candidate_counts.length
    prefix_sample_phone_count := (candidate_counts.map fun entry => entry.2).sum
    prefix_sample_count_1 := (candidate_counts.map fun entry => min entry.2 1).sum
    prefix_sample_count_2 := (candidate_counts.map fun entry => min entry.2 2).sum
    rejected_phone_count := rejected_counts.sum
    rejected_prefix_sample_1 := (rejected_counts.map fun count => min count 1).sum
    rejected_prefix_sample_2 := (rejected_counts.map fun count => min count 2).sum }

----
-- Samplers
----

inductive NumberFilter where
| available
| unavailable
| all
deriving DecidableEq

/- `_matches_number_filter(record, number_filter)`. -/
def matches_number_filter (now : Int) (number_filter : NumberFilter) (row : StoredPhone) : Bool :=
  if strip row.api_url = "" then false
  else if row.status = .disabled ∨ row.status = .exhausted then false
  else
    match number_filter with
    | .unavailable => row.status = .cannot_send
    | .all => row.available fromisoformat now || row.status = .cannot_send
    | .available => row.available fromisoformat now

def PhoneRow.usedFlag (row : PhoneRow) : Nat := if strip row.last_used_at = "" then 0 else 1

/- `list_by_number_filter(number_filter)`. -/
def list_by_number_filter (now : Int) (number_filter : NumberFilter)
    (t : PoolContents) : List StoredPhone :=
  let order := fun (row : StoredPhone) => (toLex (row.usedFlag, toLex (row.last_used_at, row.id)) :
      Nat ×ₗ String ×ₗ Int)
  ((list fromisoformat now t).1.filter
      (matches_number_filter fromisoformat now number_filter)).mergeSort
    (fun a b => order a ≤ order b)

def StoredPhone.rank (row : StoredPhone) :
    Int ×ₗ Nat ×ₗ String ×ₗ Int :=
  toLex (row.success_count + row.fail_count, toLex (row.usedFlag, toLex (row.last_used_at, row.id)))

/- `grouped` with its lists sorted. -/
def grouped_records (records : List StoredPhone) :
    List (String × List StoredPhone) :=
  (collect (StoredPhone.prefixKey env) (fun _ => [])
      (fun group row => group ++ [row]) records).map
    fun entry => (entry.1, entry.2.mergeSort (fun a b => a.rank ≤ b.rank))

/- `_sample_records_by_prefix(records, sample_size=...)`: the loop over `range(size)` takes the
   records of each number in the order of the prefixes. -/
def sampleRecordsByPrefix (records : List StoredPhone) (sample_size : Int) :
    Except String (List StoredPhone) :=
  let size := if sample_size = 0 then 1 else sample_size
  if size ≠ 1 ∧ size ≠ 2 then .error "sample_size must be 1 or 2"
  else
    let grouped := grouped_records env records
    let prefixes := (grouped.map Prod.fst).mergeSort (fun a b => a ≤ b)
    .ok (RoundRobin.picks prefixes (fun prefix4 => (value? grouped prefix4).getD [])
        size.toNat)

/- `list_prefix_sample_candidates()`. -/
def list_prefix_sample_candidates (now : Int) (t : PoolContents) : List StoredPhone :=
  (list fromisoformat now t).1.filter (is_prefix_sample_candidate_record env)

/- `sample_testable_by_prefix(sample_size)`. -/
def sampleTestableByPrefix (now sample_size : Int) (t : PoolContents) :
    Except String (List StoredPhone) :=
  sampleRecordsByPrefix env (list_prefix_sample_candidates env fromisoformat now t) sample_size

/- `sample_available_by_prefix(sample_size)`. -/
def sampleAvailableByPrefix (now sample_size : Int) (t : PoolContents) :
    Except String (List StoredPhone) :=
  sampleRecordsByPrefix env (list_by_number_filter fromisoformat now .available t) sample_size

/- `sample_rejected_by_prefix(sample_size)`. -/
def sampleRejectedByPrefix (now sample_size : Int) (t : PoolContents) :
    Except String (List StoredPhone) :=
  sampleRecordsByPrefix env ((list fromisoformat now t).1.filter fun row =>
      is_prefix_sample_candidate_record env row && is_openai_rejected_record env row.toPhoneRow)
    sample_size

end PhonePool
