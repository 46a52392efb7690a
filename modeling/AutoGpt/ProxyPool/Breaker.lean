import AutoGpt.Library.Machine
import AutoGpt.Library.PyText
import Mathlib.Data.Prod.Lex
import Mathlib.Data.Rat.Defs
import Mathlib.Algebra.Order.Ring.Rat
import Mathlib.Tactic.Linarith

/-
  The circuit breaker of the proxy pool (`core/proxy_pool.py`):
  how four reports move the cooldown and the homepage circuit of
  a proxy, and which proxies are candidates.

  Main theorems: `report_fail_keeps_iff`, `run_keeps`, `breaker_holds`
-/

open Machine (Steps run)
open PyText (orElse strip)

----
-- Proxies
----

namespace ProxyPool

structure ProxyModel where
  id : Nat := 0
  url : String := ""
  region : String := ""
  desired_country_code : String := ""
  exit_country_code : String := ""
  exit_ip : String := ""
  is_active : Bool := true
  success_count : Nat := 0
  fail_count : Nat := 0
  consecutive_failures : Nat := 0
  cooldown_until : Option ℚ := none
  last_checked : Option ℚ := none
  homepage_success_count : Nat := 0
  homepage_fail_count : Nat := 0
  homepage_consecutive_failures : Nat := 0
  homepage_circuit_open_until : Option ℚ := none
  homepage_last_error : String := ""
  homepage_last_status_code : Int := 0
  homepage_last_checked : Option ℚ := none
  chatgpt_status : String := "unchecked"
  chatgpt_status_code : Int := 0
  chatgpt_last_error : String := ""
  chatgpt_last_checked_at : Option ℚ := none
  health_score : ℚ := 0
  last_latency_ms : Int := 0
  last_probe_json : String := "{}"
deriving DecidableEq

/- `str.lower` and `str.upper`, whether a probe text says that both targets are ok, and
   `calculate_health_score`, which may fail. -/
structure Env where
  lower : String → String
  upper : String → String
  targets_ok : String → Bool
  calculate_health_score : ProxyModel → Option ℚ

variable (env : Env)

/- `_is_future(value, now)`. -/
def is_future (value : Option ℚ) (now : ℚ) : Bool := value.any fun value => decide (now < value)

/- `_cooldown_open(proxy, now)`, where `enabled` is `_is_cooldown_enabled()`. -/
def cooldown_open (enabled : Bool) (p : ProxyModel) (now : ℚ) : Bool :=
  enabled && (is_future p.cooldown_until now || is_future p.homepage_circuit_open_until now)

/- `_success_rate(success, fail)`. -/
def success_rate (success fail : Nat) : ℚ := success / max (success + fail) 1

/- `_proxy_sort_key(proxy)`. -/
def proxy_sort_key (p : ProxyModel) : ℚ ×ₗ ℚ ×ₗ ℚ ×ₗ ℤ :=
  toLex (p.health_score, toLex (success_rate p.homepage_success_count p.homepage_fail_count,
    toLex (success_rate p.success_count p.fail_count, -p.consecutive_failures)))

/- `_matches_target(proxy, target)`. -/
def matches_target (p : ProxyModel) (target : String) : Bool :=
  if env.lower (strip target) ∈ ["chatgpt", "homepage"] then
    let status := env.lower (strip (orElse p.chatgpt_status "unchecked"))
    status == "ok" || env.targets_ok (strip p.last_probe_json) ||
      !(["blocked_403", "rate_limited_429", "timeout", "tls_error", "dns_error", "proxy_error",
        "proxy_auth_failed", "connection_error", "connection_refused", "failed"].contains status)
  else true

/- `_matches_country(proxy, country_code)`. -/
def matches_country (p : ProxyModel) (country_code : String) : Bool :=
  let code (value : String) := env.upper (strip value)
  if code country_code = "" then true
  else if code p.exit_country_code ≠ "" then code p.exit_country_code == code country_code
  else code country_code == code p.region || code country_code == code p.desired_country_code

/- A record of `get_candidate_records`. -/
structure Candidate where
  id : Nat
  url : String
  region : String
  exit_country_code : String
  exit_ip : String
  chatgpt_status : String
  health_score : ℚ
  latency_ms : Int

def ProxyModel.candidate (p : ProxyModel) : Candidate :=
  { id := p.id, url := p.url, region := p.region, exit_country_code := p.exit_country_code,
    exit_ip := p.exit_ip, chatgpt_status := orElse p.chatgpt_status "unchecked",
    health_score := p.health_score, latency_ms := p.last_latency_ms }

structure Query where
  region : String := ""
  country_code : String := ""
  target : String := ""
  limit : Int := 0
  min_score : ℚ := 0

/- The proxies that `get_candidate_records` turns into records. -/
def candidates (enabled : Bool) (rows : List ProxyModel) (now : ℚ) (q : Query) : List ProxyModel :=
  let region := strip q.region
  let proxies := rows.filter fun p => p.is_active && (region == "" || p.region == region) &&
    !cooldown_open enabled p now && matches_country env p q.country_code &&
    matches_target env p q.target && (q.min_score == 0 || decide (q.min_score ≤ p.health_score))
  let sorted := proxies.mergeSort fun a b => decide (proxy_sort_key b ≤ proxy_sort_key a)
  (if 0 < q.limit then sorted.take q.limit.toNat else sorted).filter fun p => strip p.url != ""

/- `get_candidate_records(...)`. -/
def get_candidate_records (enabled : Bool) (rows : List ProxyModel) (now : ℚ) (q : Query) :
    List Candidate :=
  (candidates env enabled rows now q).map ProxyModel.candidate

----
-- Reports
----

inductive Report where
| success
| fail
| homepage_success (status_code : Int)
| homepage_fail (error_message : String) (status_code : Int)

/- The new health score, if it can be calculated. -/
def ProxyModel.scored (p : ProxyModel) : ProxyModel :=
  { p with health_score := (env.calculate_health_score p).getD p.health_score }

/- `report_success(url)` of a known proxy. -/
def report_success (p : ProxyModel) (now : ℚ) : ProxyModel :=
  { p with
    success_count := p.success_count + 1, consecutive_failures := 0, cooldown_until := none,
    last_checked := some now }.scored env

/- `report_fail(url)`. -/
def report_fail (enabled : Bool) (p : ProxyModel) (now : ℚ) : ProxyModel :=
  let counted : ProxyModel :=
    { p with
      fail_count := p.fail_count + 1, consecutive_failures := p.consecutive_failures + 1,
      last_checked := some now }
  (if enabled then
    { counted with
      cooldown_until := some (now + 300),
      homepage_circuit_open_until := some (now + 300) }
  else counted).scored env

/- `report_homepage_success(url, status_code=...)`. -/
def report_homepage_success (enabled : Bool) (p : ProxyModel) (now : ℚ) (status_code : Int) :
    ProxyModel :=
  let code := if status_code = 0 then 200 else status_code
  { p with
    homepage_success_count := p.homepage_success_count + 1,
    homepage_consecutive_failures := 0, homepage_last_error := "",
    homepage_last_status_code := code, homepage_last_checked := some now, chatgpt_status := "ok",
    chatgpt_status_code := code, chatgpt_last_error := "", chatgpt_last_checked_at := some now,
    homepage_circuit_open_until := if enabled then none else p.homepage_circuit_open_until,
    last_checked := some now }.scored env

/- `report_homepage_fail(url, error_message=..., status_code=...)`. -/
def report_homepage_fail (enabled : Bool) (p : ProxyModel) (now : ℚ) (error_message : String)
    (status_code : Int) : ProxyModel :=
  let error := String.ofList (error_message.toList.take 500)
  let consecutive := p.homepage_consecutive_failures + 1
  { p with
    homepage_fail_count := p.homepage_fail_count + 1
    homepage_consecutive_failures := consecutive
    homepage_last_error := error
    homepage_last_status_code := status_code
    homepage_last_checked := some now
    chatgpt_status_code := status_code
    chatgpt_status :=
      if status_code = 403 then "blocked_403"
      else if status_code = 429 then "rate_limited_429"
      else if 400 ≤ status_code then "http_" ++ toString status_code
      else if error_message ≠ "" then "failed"
      else p.chatgpt_status
    chatgpt_last_error := error
    chatgpt_last_checked_at := some now
    last_checked := some now
    homepage_circuit_open_until :=
      if enabled ∧ 3 ≤ consecutive then some (now + 900) else p.homepage_circuit_open_until }.scored
    env

def Report.apply (enabled : Bool) (p : ProxyModel) (now : ℚ) : Report → ProxyModel
| .success => report_success env p now
| .fail => report_fail env enabled p now
| .homepage_success status_code => report_homepage_success env enabled p now status_code
| .homepage_fail error_message status_code =>
    report_homepage_fail env enabled p now error_message status_code

/- A report that says the proxy has failed. -/
def Report.isFailure : Report → Bool
| .fail => true
| .homepage_fail _ _ => true
| _ => false

/- A proxy after its reports, the time of the last one, the homepage failures in a row, and the
   time up to which three of them in a row keep the proxy away. -/
structure World where
  proxy : ProxyModel
  now : ℚ
  streak : Nat := 0
  due : Option ℚ := none

/- A report at a time, with the cooldown enabled. -/
def step (w : World) (call : ℚ × Report) : World × Unit :=
  let proxy := call.2.apply env true w.proxy call.1
  match call.2 with
  | .homepage_success _ => ({ proxy := proxy, now := call.1 }, ())
  | .homepage_fail _ _ =>
    ({ proxy := proxy, now := call.1, streak := w.streak + 1,
       due := if 3 ≤ w.streak + 1 then some (call.1 + 900) else w.due }, ())
  | _ => ({ w with proxy := proxy, now := call.1 }, ())

/- The clock does not go back, and a plain failure comes when the circuit is open for at most the
   five minutes that the report writes. -/
def Meets (w : World) (call : ℚ × Report) : Prop := w.now ≤ call.1 ∧
    (call.2 matches .fail → ∀ ends ∈ w.proxy.homepage_circuit_open_until, ends ≤ call.1 + 300)

end ProxyPool

----
-- Breaker
----

namespace ProxyPool

variable {env : Env} {p : ProxyModel} {w : World} {now : ℚ}

/- The proxy is kept away at the time `t`. -/
def Open (p : ProxyModel) (t : ℚ) : Prop := cooldown_open true p t

theorem open_iff {t : ℚ} : Open p t ↔
    (∃ ends ∈ p.cooldown_until, t < ends) ∨ ∃ ends ∈ p.homepage_circuit_open_until, t < ends := by
  unfold Open cooldown_open is_future
  cases p.cooldown_until <;> cases p.homepage_circuit_open_until <;> simp

/- A plain failure keeps a proxy away for as long as it was exactly if neither deadline is later
   than the one it writes. -/
theorem report_fail_keeps_iff :
    (∀ t, Open p t → Open (report_fail env true p now) t) ↔
      (∀ ends ∈ p.cooldown_until, ends ≤ now + 300) ∧
        ∀ ends ∈ p.homepage_circuit_open_until, ends ≤ now + 300 := by
  have hNew : ∀ t, Open (report_fail env true p now) t ↔ t < now + 300 := by
    intro t
    simp [open_iff, report_fail, ProxyModel.scored]
  simp only [hNew, open_iff]
  constructor
  · intro hKeeps
    refine ⟨fun ends hEnds => ?_, fun ends hEnds => ?_⟩
    · by_contra hLater
      exact lt_irrefl _ (hKeeps _ (.inl ⟨ends, hEnds, not_le.mp hLater⟩))
    · by_contra hLater
      exact lt_irrefl _ (hKeeps _ (.inr ⟨ends, hEnds, not_le.mp hLater⟩))
  · rintro ⟨hCooldown, hCircuit⟩ t (⟨ends, hEnds, hBefore⟩ | ⟨ends, hEnds, hBefore⟩)
    · exact hBefore.trans_le (hCooldown ends hEnds)
    · exact hBefore.trans_le (hCircuit ends hEnds)

structure Sound (w : World) : Prop where
  cooldown : ∀ ends ∈ w.proxy.cooldown_until, ends ≤ w.now + 300
  circuit : ∀ ends ∈ w.proxy.homepage_circuit_open_until, ends ≤ w.now + 900
  streak : w.proxy.homepage_consecutive_failures = w.streak
  due : ∀ time ∈ w.due, ∃ ends ∈ w.proxy.homepage_circuit_open_until, time ≤ ends

theorem sound_step (hSound : Sound w) {call : ℚ × Report} (hMeets : Meets w call) :
    Sound (step env w call).1 := by
  rcases call with ⟨now, report⟩
  rcases hMeets with ⟨hNow, hFail⟩
  dsimp only at hNow hFail
  have hCooldown : ∀ ends ∈ w.proxy.cooldown_until, ends ≤ now + 300 := fun ends hEnds =>
    (hSound.cooldown ends hEnds).trans (by linarith)
  have hCircuit : ∀ ends ∈ w.proxy.homepage_circuit_open_until, ends ≤ now + 900 :=
    fun ends hEnds => (hSound.circuit ends hEnds).trans (by linarith)
  cases report with
  | success => exact ⟨nofun, hCircuit, hSound.streak, hSound.due⟩
  | fail =>
    refine ⟨?_, ?_, hSound.streak, fun time hDue => ?_⟩
    · rintro _ ⟨⟩
      exact le_rfl
    · rintro _ ⟨⟩
      dsimp only [step]
      linarith
    · rcases hSound.due time hDue with ⟨ends, hEnds, hLe⟩
      exact ⟨_, rfl, hLe.trans (hFail rfl ends hEnds)⟩
  | homepage_success status_code => exact ⟨hCooldown, nofun, rfl, nofun⟩
  | homepage_fail error_message status_code =>
    have hStreak := hSound.streak
    by_cases hThree : 3 ≤ w.streak + 1
    · refine ⟨hCooldown, ?_, congrArg (· + 1) hStreak, ?_⟩
      all_goals
        simp [step, Report.apply, report_homepage_fail, ProxyModel.scored, hStreak, hThree]
    · refine ⟨hCooldown, ?_, congrArg (· + 1) hStreak, ?_⟩
      all_goals
        simp only [step, Report.apply, report_homepage_fail, ProxyModel.scored, hStreak, hThree,
          and_false, if_false]
      · exact hCircuit
      · exact hSound.due

theorem sound_run (hSound : Sound w) {calls : List (ℚ × Report)}
    (hCalls : Steps (step env) Meets w calls) : Sound (run (step env) w calls) :=
  Machine.run_induction_of_steps (P := Sound) (fun _ _ hSound hMeets => sound_step hSound hMeets)
    hSound hCalls

/- A failure report leaves the proxy away for as long as it was, three homepage failures in a row
   keep it away for 15 minutes, and no proxy that is kept away is a candidate. -/
structure Holds (env : Env) (w : World) : Prop where
  kept : ∀ call : ℚ × Report, Meets w call → call.2.isFailure → ∀ t,
    Open w.proxy t → Open (step env w call).1.proxy t
  closed : ∀ time ∈ w.due, ∀ t < time, Open w.proxy t
  candidates : ∀ rows t q, ∀ p ∈ candidates env true rows t q, ¬ Open p t

theorem candidates_closed {rows : List ProxyModel} {t : ℚ} {q : Query}
    (hMem : p ∈ candidates env true rows t q) : ¬ Open p t := by
  have hFiltered : p ∈ rows.filter fun p => p.is_active &&
      (strip q.region == "" || p.region == strip q.region) && !cooldown_open true p t &&
      matches_country env p q.country_code && matches_target env p q.target &&
      (q.min_score == 0 || decide (q.min_score ≤ p.health_score)) := by
    have hPicked := (List.mem_filter.mp hMem).1
    split at hPicked
    · exact List.mem_mergeSort.mp (List.mem_of_mem_take hPicked)
    · exact List.mem_mergeSort.mp hPicked
  have hAll := (List.mem_filter.mp hFiltered).2
  simp only [Bool.and_eq_true, Bool.not_eq_true'] at hAll
  unfold Open
  rw [hAll.1.1.1.2]
  decide

theorem breaker_holds (env : Env) (p : ProxyModel) (now : ℚ) (calls : List (ℚ × Report))
    (hCooldown : p.cooldown_until = none) (hCircuit : p.homepage_circuit_open_until = none)
    (hStreak : p.homepage_consecutive_failures = 0) (hCalls : Steps (step env) Meets
      { proxy := p, now := now } calls) :
    Holds env (run (step env) { proxy := p, now := now } calls) := by
  have hStart : Sound { proxy := p, now := now } :=
    ⟨by simp [hCooldown], by simp [hCircuit], hStreak, by simp⟩
  have hSound := sound_run hStart hCalls
  generalize run (step env) _ calls = w at hSound
  refine ⟨?_, fun time hDue t hBefore => ?_, fun rows t q p => candidates_closed⟩
  · rintro ⟨now, report⟩ ⟨hNow, hFail⟩ hFailure t hOpen
    dsimp only at hNow hFail hFailure
    cases report with
    | success => cases hFailure
    | homepage_success status_code => cases hFailure
    | fail =>
      refine report_fail_keeps_iff.mpr ⟨fun ends hEnds => ?_, hFail rfl⟩ t hOpen
      linarith [hSound.cooldown ends hEnds]
    | homepage_fail error_message status_code =>
      rw [open_iff] at hOpen ⊢
      rcases hOpen with hCooldown | ⟨ends, hEnds, hBefore⟩
      · exact .inl hCooldown
      · right
        by_cases hThree : 3 ≤ w.proxy.homepage_consecutive_failures + 1
        · refine ⟨now + 900, ?_, by linarith [hSound.circuit ends hEnds]⟩
          simp [step, Report.apply, report_homepage_fail, ProxyModel.scored, hThree]
        · refine ⟨ends, ?_, hBefore⟩
          simpa [step, Report.apply, report_homepage_fail, ProxyModel.scored, hThree] using hEnds
  · rcases hSound.due time hDue with ⟨ends, hEnds, hLe⟩
    exact open_iff.mpr (.inr ⟨ends, hEnds, hBefore.trans_le hLe⟩)

/- Texts in lower case, and health scores that stay. -/
def plainEnv : Env := ⟨id, id, fun _ => false, fun _ => none⟩

def threeFailures : List (ℚ × Report) :=
  [(0, .homepage_fail "timeout" 0), (1, .homepage_fail "timeout" 0),
    (2, .homepage_fail "timeout" 0)]

def fresh : World := { proxy := { url := "http://a" }, now := 0 }

theorem three_failures_hold : Holds plainEnv (run (step plainEnv) fresh threeFailures) :=
  breaker_holds plainEnv { url := "http://a" } 0 threeFailures rfl rfl rfl
    ⟨⟨by decide, nofun⟩, ⟨by decide, nofun⟩,
      ⟨by decide, nofun⟩, trivial⟩

/- A plain failure after three homepage failures ends their 15 minutes after five. -/
theorem plain_failure_reopens :
    let w := run (step plainEnv) fresh threeFailures
    let next := (step plainEnv w (3, .fail)).1
    next.due = some 902 ∧ cooldown_open true w.proxy 400 ∧
      cooldown_open true next.proxy 400 = false := by
  decide +kernel

end ProxyPool
