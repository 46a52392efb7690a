import AutoGpt.ProxyPool.Breaker
import Mathlib.Data.List.Rotate

/-
  The candidates of the proxy pool (`core/proxy_pool.py`): all
  eligible proxies, or the best of them, and how `get_next`
  hands them out in turn.

  Main theorems: `candidates_best`, `get_next_in_turn`
-/

open List
open PyText (strip)

----
-- Candidates
----

namespace ProxyPool

variable (env : Env) (enabled : Bool) (rows : List ProxyModel) (now : ℚ) (q : Query)

/- A proxy that the loop of `get_candidate_records` keeps. -/
def eligible (p : ProxyModel) : Bool :=
  p.is_active && (strip q.region == "" || p.region == strip q.region) &&
    !cooldown_open enabled p now && matches_country env p q.country_code &&
    matches_target env p q.target && (q.min_score == 0 || decide (q.min_score ≤ p.health_score))

/- An eligible proxy with a URL. -/
def usable (p : ProxyModel) : Bool := strip p.url != "" && eligible env enabled now q p

/- `l` holds the usable proxies, the best first; with a limit, no proxy that is left out is better
   than one of them. -/
structure Best (l : List ProxyModel) : Prop where
  sorted : l.Pairwise fun a b => proxy_sort_key b ≤ proxy_sort_key a
  all : q.limit ≤ 0 → l ~ rows.filter (usable env enabled now q)
  found : ∀ p ∈ l, p ∈ rows ∧ usable env enabled now q p
  limited : 0 < q.limit → (l.length : Int) ≤ q.limit
  left : ∀ p ∈ rows, usable env enabled now q p → p ∉ l →
    ∀ c ∈ l, proxy_sort_key p ≤ proxy_sort_key c

theorem candidates_best : Best env enabled rows now q (candidates env enabled rows now q) := by
  let ranked := (rows.filter (eligible env enabled now q)).mergeSort
    fun a b => decide (proxy_sort_key b ≤ proxy_sort_key a)
  have hSorted : ranked.Pairwise fun a b => proxy_sort_key b ≤ proxy_sort_key a := by
    refine (pairwise_mergeSort (fun a b c hab hbc => ?_) (fun a b => ?_) _).imp of_decide_eq_true
    · exact decide_eq_true ((of_decide_eq_true hbc).trans (of_decide_eq_true hab))
    · rw [Bool.or_eq_true, decide_eq_true_iff, decide_eq_true_iff]
      exact le_total _ _
  have hMem : ∀ p, p ∈ ranked ↔ p ∈ rows ∧ eligible env enabled now q p := fun p =>
    mem_mergeSort.trans mem_filter
  have hEq : candidates env enabled rows now q =
      (if 0 < q.limit then ranked.take q.limit.toNat else ranked).filter fun p =>
        strip p.url != "" := rfl
  have hPicked : (if 0 < q.limit then ranked.take q.limit.toNat else ranked) <+ ranked := by
    split
    · exact take_sublist _ _
    · exact Sublist.refl _
  have hSub : candidates env enabled rows now q <+ ranked := hEq ▸ filter_sublist.trans hPicked
  refine ⟨hSorted.sublist hSub, fun hAll => ?_, fun p hp => ?_, fun hLimit => ?_,
    fun p hp hUsable hOut c hc => ?_⟩
  · rw [hEq, if_neg (not_lt.mpr hAll)]
    refine ((mergeSort_perm _ _).filter _).trans (Perm.of_eq ?_)
    rw [filter_filter]
    rfl
  · have hRow := (hMem p).mp (hSub.subset hp)
    rw [hEq] at hp
    exact ⟨hRow.1, Bool.and_eq_true_iff.mpr ⟨(mem_filter.mp hp).2, hRow.2⟩⟩
  · rw [hEq, if_pos hLimit]
    have hLength := (filter_sublist (p := fun p => strip p.url != "")
      (l := ranked.take q.limit.toNat)).length_le
    rw [length_take] at hLength
    omega
  · rcases Bool.and_eq_true_iff.mp hUsable with ⟨hUrl, hEligible⟩
    have hRanked : p ∈ ranked := (hMem p).mpr ⟨hp, hEligible⟩
    rw [hEq] at hOut hc
    split at hOut
    next hLimit =>
      rw [if_pos hLimit] at hc
      rw [← take_append_drop q.limit.toNat ranked] at hRanked hSorted
      rcases mem_append.mp hRanked with hTaken | hLeft
      · exact absurd (mem_filter.mpr ⟨hTaken, hUrl⟩) hOut
      · exact (pairwise_append.mp hSorted).2.2 c (mem_filter.mp hc).1 p hLeft
    next => exact absurd (mem_filter.mpr ⟨hRanked, hUrl⟩) hOut

----
-- Turns
----

/- `get_next(region=...)`: the next index of the pool, and the URL. -/
def get_next (region : String) (index : Nat) : Nat × Option String :=
  let proxies := get_candidate_records env enabled rows now { region := region }
  match proxies[index % proxies.length]? with
  | none => (index, none)
  | some proxy => (index + 1, if proxy.url = "" then none else some proxy.url)

/- The URLs of calls, each with the stored proxies and its time. -/
def nextUrls (region : String) : Nat → List (List ProxyModel × ℚ) → List (Option String)
| _, [] => []
| index, (rows, now) :: calls =>
  let next := get_next env enabled rows now region index
  next.2 :: nextUrls region next.1 calls

variable {env : Env} {enabled : Bool} {region : String} {l : List Candidate}

theorem url_ne_empty {c : Candidate} (hMem : c ∈ get_candidate_records env enabled rows now q) :
    c.url ≠ "" := by
  rcases mem_map.mp hMem with ⟨p, hp, rfl⟩
  have hText : strip p.url != "" := (mem_filter.mp hp).2
  intro hEmpty
  have hUrl : p.url = "" := hEmpty
  rw [hUrl] at hText
  exact absurd hText (by decide)

theorem nextUrls_eq {calls : List (List ProxyModel × ℚ)} (index : Nat) (hSome : l ≠ [])
    (hSame : ∀ call ∈ calls,
      get_candidate_records env enabled call.1 call.2 { region := region } = l) :
    nextUrls env enabled region index calls =
      (range calls.length).map fun k => l[(k + index) % l.length]?.map Candidate.url := by
  induction calls generalizing index with
  | nil => rfl
  | cons call calls ih =>
    rw [forall_mem_cons] at hSame
    have hIndex : index % l.length < l.length := Nat.mod_lt _ (length_pos_of_ne_nil hSome)
    have hUrls : ∀ c ∈ l, c.url ≠ "" := hSame.1 ▸ fun c => url_ne_empty _ _ _
    have hUrl : l[index % l.length].url ≠ "" := hUrls _ (getElem_mem hIndex)
    have hNext : get_next env enabled call.1 call.2 region index =
        (index + 1, some l[index % l.length].url) := by
      unfold get_next
      rw [hSame.1]
      simp only [getElem?_eq_getElem hIndex, if_neg hUrl]
    unfold nextUrls
    rw [hNext]
    dsimp only
    rw [ih _ hSame.2, length_cons, range_succ_eq_map, map_cons, map_map]
    refine congr_arg₂ _ ?_ (map_congr_left fun k _ => ?_)
    · rw [Nat.zero_add, getElem?_eq_getElem hIndex]
      rfl
    · rw [Function.comp, Nat.succ_add_eq_add_succ]

/- As many calls in a row as there are candidates hand out every one of them once, in their order
   and from where the calls before have stopped. -/
theorem get_next_in_turn {calls : List (List ProxyModel × ℚ)} (index : Nat)
    (hSame : ∀ call ∈ calls,
      get_candidate_records env enabled call.1 call.2 { region := region } = l)
    (hCalls : calls.length = l.length) :
    nextUrls env enabled region index calls = (l.map fun c => some c.url).rotate index := by
  rcases eq_or_ne l [] with hNone | hSome
  · rw [hNone, length_nil, length_eq_zero_iff] at hCalls
    rw [hCalls, hNone]
    rfl
  · rw [nextUrls_eq index hSome hSame, hCalls]
    refine ext_getElem? fun k => ?_
    rcases lt_or_ge k l.length with hk | hk
    · rw [getElem?_rotate (by rwa [length_map]), length_map, getElem?_map, getElem?_map,
        getElem?_range hk, Option.map_some]
      have hIndex : (k + index) % l.length < l.length := Nat.mod_lt _ (length_pos_of_ne_nil hSome)
      rw [getElem?_eq_getElem hIndex]
      rfl
    · rw [getElem?_eq_none (by simpa using hk), getElem?_eq_none (by simpa using hk)]

def twoProxies : List ProxyModel :=
  [{ url := "http://b", health_score := 1 }, { url := "http://a" }]

theorem get_next_in_turn_two :
    nextUrls plainEnv true "" 1 [(twoProxies, 0), (twoProxies, 0)] =
      [some "http://a", some "http://b"] := by
  have hEligible : twoProxies.filter (eligible plainEnv true 0 { region := "" }) = twoProxies := by
    decide +kernel
  have hSorted : twoProxies.Pairwise fun a b =>
      decide (proxy_sort_key b ≤ proxy_sort_key a) := by
    decide +kernel
  have hUrls : (twoProxies.filter fun p => strip p.url != "") = twoProxies := by decide +kernel
  have hCandidates : get_candidate_records plainEnv true twoProxies 0 { region := "" } =
      twoProxies.map ProxyModel.candidate := by
    have hRanked := mergeSort_of_pairwise hSorted
    rw [← hEligible] at hRanked
    unfold get_candidate_records candidates
    exact congrArg _ ((congrArg _ hRanked).trans (hEligible ▸ hUrls))
  have hSame : ∀ call ∈ [(twoProxies, (0 : ℚ)), (twoProxies, 0)],
      get_candidate_records plainEnv true call.1 call.2 { region := "" } =
        twoProxies.map ProxyModel.candidate := by
    simp [hCandidates]
  exact get_next_in_turn 1 hSame rfl

end ProxyPool
