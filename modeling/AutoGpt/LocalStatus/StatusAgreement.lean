import AutoGpt.LocalStatus.StatusPolicy
import AutoGpt.Library.Machine

/-
  The account status over runs of probes, captured statuses and
  payment results (`services/chatgpt_account_state.py` and
  `_persist_chatgpt_local_status_probe`): when it agrees with the
  stored capabilities, and what ends a subscription.

  Main theorems: `persist_agrees_iff`, `holds_step`, `status_follows_evidence`
-/

open Machine (Steps run)
open PyText (strip)

----
-- Steps
----

namespace StatusPolicy

open LocalStatus (ProbeEnv)

/- A probe with the tokens of its `_credential_update`, and the `_auth_material_revision_hash` of
   the account that has them. -/
structure Incoming where
  probe : Probe
  access_token : String := ""
  refresh_token : String := ""
  revision_hash : String := ""

/- An account with the revision of its last probe. -/
structure World where
  account : Account
  auth_revision_hash : String := ""

def Account.is (account : Account) (status : String) : Prop := strip account.status = status

section Payments

variable (env : ProbeEnv) (account : Account) (snapshot : Snapshot)

/- `is_payment_succeeded_snapshot(snapshot)` of an object. -/
def is_payment_succeeded_snapshot : Bool :=
  let succeeded := ["done", "succeeded", "success"]
  decide (lower_text env snapshot.phase = "succeeded" ∨
    lower_text env snapshot.status ∈ succeeded ∨ lower_text env snapshot.result_state ∈ succeeded)

/- `is_payment_failed_snapshot(snapshot)`. -/
def is_payment_failed_snapshot : Bool :=
  decide (lower_text env snapshot.phase ∈ ["failed", "cancelled"] ∨
    lower_text env snapshot.status ∈ ["failed", "cancelled", "stopped"])

/- `is_payment_active_snapshot(snapshot)`. -/
def is_payment_active_snapshot : Bool :=
  decide (lower_text env snapshot.phase ∈ ["created", "starting", "waiting_otp",
      "waiting_link_pin", "waiting_payment_pin", "verifying"] ∨
    lower_text env snapshot.status ∈ ["active", "started", "running"])

def Account.set (status : String) : Account × String := ({ account with status := status }, status)

/- An invalid or subscribed account stays so. -/
def Account.setOpen (status : String) : Account × String :=
  let current_status := strip account.status
  if current_status = "invalid" ∨ current_status = "subscribed" then (account, current_status)
  else account.set status

def mark_payment_pending : Account × String := account.setOpen "pending_payment"

def mark_payment_failed : Account × String := account.setOpen "payment_failed"

def mark_payment_succeeded : Account × String := account.set "subscribed"

/- `apply_payment_snapshot_status(account, snapshot)`. -/
def apply_payment_snapshot_status : Account × String :=
  if is_payment_succeeded_snapshot env snapshot then mark_payment_succeeded account
  else if is_payment_failed_snapshot env snapshot then mark_payment_failed account
  else if is_payment_active_snapshot env snapshot then mark_payment_pending account
  else (account, strip account.status)

/- `apply_auth_capture_status(account, captured_status)`. -/
def apply_auth_capture_status (captured_status : String) : Account × String :=
  let current_status := strip account.status
  let next_status := lower_text env captured_status
  if next_status = "" then (account, current_status)
  else if next_status = "invalid" then account.set "invalid"
  else if current_status = "subscribed" ∨ has_payment_success_marker env account then
    account.set "subscribed"
  else if next_status = "subscribed" then mark_payment_succeeded account
  else if current_status = "payment_failed" then (account, "payment_failed")
  else if next_status = "registered" ∧ current_status = "pending_payment" ∧
      has_payment_pending_marker env account then (account, "pending_payment")
  else account.set next_status

end Payments

/- The tokens that a probe has refreshed. -/
def Account.refreshed (account : Account) (incoming : Incoming) : Account :=
  let access_token := strip incoming.access_token
  let refresh_token := strip incoming.refresh_token
  { account with
    token := if access_token ≠ "" then access_token else account.token
    extra :=
      { account.extra with
        access_token := if access_token ≠ "" then access_token else account.extra.access_token
        refresh_token :=
          if refresh_token ≠ "" then refresh_token else account.extra.refresh_token } }

def Account.probed (account : Account) (probe : Probe) : Account :=
  { account with extra := { account.extra with chatgpt_local := some probe } }

inductive RefreshOutcome where
| auth_invalid
| probe_failed
| confirmed
| unknown_plan
| probe_incomplete
deriving DecidableEq

variable (env : ProbeEnv)

/- `_probe_refresh_outcome(probe)`. -/
def probe_refresh_outcome (probe : Probe) : RefreshOutcome :=
  let auth_state := lower_text env probe.auth.state
  if auth_state ∈ ["refresh_token_invalidated", "access_token_invalidated", "unauthorized",
      "account_deactivated", "banned_like"] then .auth_invalid
  else if auth_state = "probe_failed" then .probe_failed
  else if probe.plan env ≠ "unknown" then .confirmed
  else if auth_state ∈ ["refresh_token_valid", "access_token_valid"] then .unknown_plan
  else .probe_incomplete

/- `canonical_probe`: an incomplete read does not replace a confirmed probe of this revision. -/
def World.canonical_probe (w : World) (incoming : Incoming) : Probe :=
  let previous := w.account.extra.chatgpt_local.getD {}
  let revision := strip w.auth_revision_hash
  if probe_refresh_outcome env incoming.probe ∉ [.confirmed, .auth_invalid] ∧
      probe_refresh_outcome env previous = .confirmed ∧
      (revision = "" ∨ revision = incoming.revision_hash) then previous
  else incoming.probe

/- `_persist_chatgpt_local_status_probe`: the account with the capabilities that it stores, unless
   it raises and stores nothing. -/
def persist (w : World) (incoming : Incoming) : Option (World × Capabilities) := do
  let account := w.account.refreshed incoming
  let canonical := w.canonical_probe env incoming
  let capabilities ← classify_chatgpt_capabilities env account (some canonical) none
  match apply_chatgpt_status_policy env (account.probed canonical) (some canonical) none with
  | (none, _) => none
  | (some _, next) =>
    some ({ account := next, auth_revision_hash := incoming.revision_hash }, capabilities)

inductive Op where
| persist (incoming : Incoming)
| capture (captured_status : String)
| pending
| failed
| succeeded
| snapshot (snapshot : Snapshot)
| stores (account : Account) (auth_revision_hash : String)

/- A step, with the capabilities that it stores; between the others, anything but the status may be
   written. -/
def step (w : World) : Op → World × Option Capabilities
| .persist incoming =>
    match persist env w incoming with
    | none => (w, none)
    | some (next, capabilities) => (next, some capabilities)
| .capture captured_status =>
    ({ w with account := (apply_auth_capture_status env w.account captured_status).1 }, none)
| .pending => ({ w with account := (mark_payment_pending w.account).1 }, none)
| .failed => ({ w with account := (mark_payment_failed w.account).1 }, none)
| .succeeded => ({ w with account := (mark_payment_succeeded w.account).1 }, none)
| .snapshot snapshot =>
    ({ w with account := (apply_payment_snapshot_status env w.account snapshot).1 }, none)
| .stores account auth_revision_hash =>
    ({ account := { account with status := w.account.status },
       auth_revision_hash := auth_revision_hash }, none)

----
-- Agreement
----

/- Only the Codex section of the probe refuses the account. -/
def codexOnly (env : ProbeEnv) (probe : Probe) : Bool :=
  decide (classify_auth_probe_state env probe = some "") &&
    !refused (lower_text env probe.auth.state) "" "" &&
    decide (classify_local_probe_state env (some probe) ∉ [none, some ""])

/- No probe is stored whose Codex section alone refuses the account. -/
def Meets (w : World) : Op → Prop
| .persist incoming => codexOnly env (w.canonical_probe env incoming) = false
| _ => True

/- A token that works, a known plan that is not paid, and no payment. -/
def Capabilities.Unpaid (c : Capabilities) : Prop :=
  c.subscription_checked ∧ c.has_paid_subscription = false ∧
    c.has_payment_success_marker = false

/- The evidence that ends a subscription. -/
def Loses (w : World) (op : Op) : Prop :=
  (∃ captured_status, op = .capture captured_status ∧
    lower_text env captured_status = "invalid") ∨
  ∃ c ∈ (step env w op).2, c.auth_level = .invalid ∨ c.Unpaid

/- What a step does to the status: it makes an account invalid just when it stores invalid
   capabilities, and ends a subscription on evidence only. -/
structure Holds (w : World) (op : Op) : Prop where
  agrees : ∀ c ∈ (step env w op).2, ¬ w.account.is "invalid" →
    ((step env w op).1.account.is "invalid" ↔ c.auth_level = .invalid)
  kept : w.account.is "subscribed" → ¬ Loses env w op → (step env w op).1.account.is "subscribed"

variable {env} {w : World} {account : Account} {c : Capabilities}

theorem unpaidStatus_ne_invalid (hNot : current_status ≠ "invalid") :
    unpaidStatus c current_status ≠ "invalid" := by
  unfold unpaidStatus
  split_ifs
  iterate 6 decide
  exact hNot

theorem auth_level_eq_invalid_iff {stop : Bool} :
    auth_level account auth_state stop = .invalid ↔ stop := by
  cases stop with
  | true => exact iff_of_true rfl rfl
  | false =>
    refine iff_of_false ?_ (by decide)
    unfold auth_level
    split_ifs <;> simp_all

/- The status of an account with valid capabilities. -/
theorem status_of_valid (env : ProbeEnv) (status : String)
    (hValid : ¬ (c.auth_level = .invalid ∨ c.upload_gate = .blocked_auth_invalid)) :
    (strip status ≠ "invalid" → strip (status_from_capabilities env status c) ≠ "invalid") ∧
      (strip status = "subscribed" →
        ¬ c.Unpaid → status_from_capabilities env status c = "subscribed") := by
  by_cases hPaid : c.paid env ∨ c.has_payment_success_marker
  · rw [status_of_paid hValid hPaid]
    exact ⟨fun _ => by decide +kernel, fun _ _ => rfl⟩
  · rw [status_of_unpaid hValid hPaid, strip_unpaidStatus]
    refine ⟨unpaidStatus_ne_invalid, fun hSubscribed hNot => ?_⟩
    rw [not_or, Bool.not_eq_true, Bool.not_eq_true] at hPaid
    have hUnpaid : c.has_paid_subscription = false := (Bool.or_eq_false_iff.mp hPaid.1).1
    have hUnchecked : c.subscription_checked ≠ true := fun hIs => hNot ⟨hIs, hUnpaid, hPaid.2⟩
    unfold unpaidStatus
    rw [if_pos hSubscribed, if_neg hUnchecked]

theorem classify_probed {probe : Probe} :
    classify_chatgpt_capabilities env (account.probed probe) (some probe) none =
      classify_chatgpt_capabilities env account (some probe) none := rfl

/- What is stored with a probe, and the status that it leads to. -/
theorem persist_cases (hPersist : persist env w incoming = some (next, c)) :
    ∃ auth_reason reason,
      classify_auth_probe_state env (w.canonical_probe env incoming) = some auth_reason ∧
      classify_local_probe_state env (w.canonical_probe env incoming) = some reason ∧
      c = capabilitiesOf env (w.account.refreshed incoming) (w.canonical_probe env incoming)
        auth_reason "" ∧
      (reason ≠ "" ∧ next.account.status = "invalid" ∨ reason = "" ∧
        next.account.status = (w.account.withStatus
          (status_from_capabilities env w.account.status c)).status) := by
  rcases Option.bind_eq_some_iff.mp hPersist with ⟨stored, hCapabilities, hRest⟩
  generalize w.canonical_probe env incoming = probe at hCapabilities hRest ⊢
  rcases Option.bind_eq_some_iff.mp hCapabilities with ⟨auth_reason, hAuth, hStored⟩
  cases hLocal : classify_local_probe_state env (some probe) with
  | none =>
    dsimp only [apply_chatgpt_status_policy, policy_reason] at hRest
    rw [hLocal] at hRest
    cases hRest
  | some reason =>
    refine ⟨auth_reason, reason, hAuth, rfl, ?_⟩
    by_cases hNone : reason = ""
    · subst hNone
      have hReason : policy_reason env (some probe) none = some "" := by
        unfold policy_reason
        rw [hLocal]
        rfl
      rw [policy_of_clear hReason (classify_probed.trans hCapabilities)] at hRest
      cases hRest
      refine ⟨(Option.some.inj hStored).symm, .inr ⟨rfl, ?_⟩⟩
      dsimp only [Account.withStatus, Account.probed, Account.refreshed]
      split
      · rfl
      · rfl
    · have hReason : policy_reason env (some probe) none = some reason := by
        unfold policy_reason
        rw [hLocal]
        exact if_pos hNone
      dsimp only [apply_chatgpt_status_policy] at hRest
      rw [hReason] at hRest
      dsimp only at hRest
      rw [if_pos hNone] at hRest
      cases hRest
      exact ⟨(Option.some.inj hStored).symm, .inl ⟨hNone, rfl⟩⟩

theorem strip_invalid : strip "invalid" = "invalid" := by
  decide +kernel

/- What the status of an account becomes on capabilities that no reason overrides. -/
theorem withStatus_invalid_iff (env : ProbeEnv) (hNot : ¬ account.is "invalid")
    (hGate : c.upload_gate = .blocked_auth_invalid → c.auth_level = .invalid) :
    (account.withStatus (status_from_capabilities env account.status c)).is "invalid" ↔
      c.auth_level = .invalid := by
  unfold Account.withStatus
  by_cases hInvalid : c.auth_level = .invalid
  · rw [status_of_invalid (.inl hInvalid), if_pos (by decide)]
    exact iff_of_true strip_invalid hInvalid
  · have hNext := (status_of_valid env account.status
      (not_or.mpr ⟨hInvalid, fun hIs => hInvalid (hGate hIs)⟩)).1 hNot
    refine iff_of_false ?_ hInvalid
    split
    · exact hNext
    · exact hNot

theorem gate_capabilitiesOf
    (hIs : c = capabilitiesOf env account probe auth_reason remote_reason)
    (hGate : c.upload_gate = .blocked_auth_invalid) : c.auth_level = .invalid := by
  subst hIs
  by_contra hNot
  have hAllowed := (level_ne_invalid_iff account probe (lower_text env probe.auth.state) _).mpr
    (Bool.eq_false_iff.mpr (mt auth_level_eq_invalid_iff.mpr hNot))
  exact hAllowed.2 hGate

/- A probe makes a status invalid just when it stores invalid capabilities, unless only its Codex
   section refuses the account. -/
theorem persist_agrees_iff (hPersist : persist env w incoming = some (next, c))
    (hNot : ¬ w.account.is "invalid") :
    (next.account.is "invalid" ↔ c.auth_level = .invalid) ↔
      codexOnly env (w.canonical_probe env incoming) = false := by
  rcases persist_cases hPersist with ⟨auth_reason, reason, hAuth, hLocal, hStored, hNext⟩
  generalize w.canonical_probe env incoming = probe at hAuth hLocal hStored ⊢
  have hLevel : c.auth_level = .invalid ↔
      refused (lower_text env probe.auth.state) auth_reason "" := by
    rw [hStored]
    exact auth_level_eq_invalid_iff
  have hGate := gate_capabilitiesOf hStored
  unfold codexOnly
  rw [hLocal, hAuth]
  by_cases hAuthReason : auth_reason = ""
  · subst hAuthReason
    rcases hNext with ⟨hReason, hStatus⟩ | ⟨rfl, hStatus⟩
    · have hIs : next.account.is "invalid" := by
        rw [Account.is, hStatus, strip_invalid]
      simp [hIs, hLevel, hReason]
    · have hAgrees := withStatus_invalid_iff env hNot hGate
      rw [Account.is, ← hStatus] at hAgrees
      exact iff_of_true hAgrees (by simp)
  · have hReason : reason = auth_reason := by
      unfold classify_local_probe_state at hLocal
      dsimp only at hLocal
      rw [hAuth] at hLocal
      dsimp only [Option.bind_eq_bind, Option.bind_some] at hLocal
      rw [if_pos hAuthReason] at hLocal
      exact (Option.some.inj hLocal).symm
    rw [hReason] at hNext
    have hIs : next.account.is "invalid" := by
      rw [Account.is, (hNext.resolve_right fun h => hAuthReason h.1).2, strip_invalid]
    simp [hIs, hLevel, refused, hAuthReason]

theorem set_subscribed : (account.set "subscribed").1.is "subscribed" :=
  show strip "subscribed" = "subscribed" from strip_written (by simp)

/- The payment calls and a captured status that is valid keep a subscription. -/
theorem setOpen_subscribed {status : String} (hIs : account.is "subscribed") :
    (account.setOpen status).1.is "subscribed" := by
  have hStatus : strip account.status = "subscribed" := hIs
  unfold Account.setOpen
  dsimp only
  rw [if_pos (.inr hStatus)]
  exact hIs

theorem snapshot_subscribed {snapshot : Snapshot} (hIs : account.is "subscribed") :
    (apply_payment_snapshot_status env account snapshot).1.is "subscribed" := by
  unfold apply_payment_snapshot_status
  split
  · exact set_subscribed
  split
  · exact setOpen_subscribed hIs
  split
  · exact setOpen_subscribed hIs
  · exact hIs

theorem capture_subscribed (hIs : account.is "subscribed")
    (hValid : lower_text env captured_status ≠ "invalid") :
    (apply_auth_capture_status env account captured_status).1.is "subscribed" := by
  have hStatus : strip account.status = "subscribed" := hIs
  unfold apply_auth_capture_status
  dsimp only
  rw [if_neg hValid, if_pos (Or.inl hStatus)]
  split
  · exact hIs
  · exact set_subscribed

theorem persist_subscribed (hPersist : persist env w incoming = some (next, c))
    (hIs : w.account.is "subscribed")
    (hMeets : Meets env w (.persist incoming)) (hValid : c.auth_level ≠ .invalid)
    (hPaid : ¬ c.Unpaid) : next.account.is "subscribed" := by
  have hNot : ¬ w.account.is "invalid" := by
    rw [Account.is, hIs]
    decide
  have hAgrees := (persist_agrees_iff hPersist hNot).mpr hMeets
  rcases persist_cases hPersist with ⟨_, _, _, _, hStored, ⟨_, hStatus⟩ | ⟨_, hStatus⟩⟩
  · refine absurd (hAgrees.mp ?_) hValid
    rw [Account.is, hStatus, strip_invalid]
  · have hNext := (status_of_valid env w.account.status
      (not_or.mpr ⟨hValid, mt (gate_capabilitiesOf hStored) hValid⟩)).2 hIs hPaid
    rw [Account.is, hStatus, Account.withStatus, hNext]
    exact set_subscribed

theorem holds_step {op : Op} (hMeets : Meets env w op) : Holds env w op := by
  constructor
  · intro c hStored hNot
    cases op with
    | persist incoming =>
      unfold step at hStored ⊢
      dsimp only at hStored ⊢
      cases hPersist : persist env w incoming with
      | none =>
        rw [hPersist] at hStored
        cases hStored
      | some stored =>
        rcases stored with ⟨next, _⟩
        rw [hPersist] at hStored
        cases hStored
        exact (persist_agrees_iff hPersist hNot).mpr hMeets
    | _ => cases hStored
  · intro hIs hKeeps
    cases op with
    | persist incoming =>
      cases hPersist : persist env w incoming with
      | none =>
        unfold step
        dsimp only
        rw [hPersist]
        exact hIs
      | some stored =>
        rcases stored with ⟨next, c⟩
        have hStep : step env w (.persist incoming) = (next, some c) := by
          unfold step
          dsimp only
          rw [hPersist]
        have hNone := fun hEnds => hKeeps (.inr ⟨c, by rw [hStep]; rfl, hEnds⟩)
        rw [hStep]
        exact persist_subscribed hPersist hIs hMeets (fun h => hNone (.inl h))
          (fun h => hNone (.inr h))
    | capture captured_status =>
      exact capture_subscribed hIs fun hInvalid => hKeeps (.inl ⟨_, rfl, hInvalid⟩)
    | pending => exact setOpen_subscribed hIs
    | failed => exact setOpen_subscribed hIs
    | succeeded => exact set_subscribed
    | snapshot snapshot => exact snapshot_subscribed hIs
    | stores account auth_revision_hash => exact hIs

/- In a run that stores no probe whose Codex section alone refuses the account, the status agrees
   with the stored capabilities at every step, and a subscription goes on until evidence ends it. -/
theorem status_follows_evidence (env : ProbeEnv) (w : World) (ops : List Op)
    (hOps : Steps (step env) (Meets env) w ops) :
    Steps (step env) (Holds env) w ops ∧ ∀ before after, ops = before ++ after →
      (run (step env) w before).account.is "subscribed" →
      Steps (step env) (fun w op => ¬ Loses env w op) (run (step env) w before) after →
      (run (step env) w ops).account.is "subscribed" := by
  have hHolds : ∀ w ops, Steps (step env) (Meets env) w ops →
      Steps (step env) (Holds env) w ops := by
    intro w ops hOps
    induction ops generalizing w with
    | nil => trivial
    | cons op ops ih => exact ⟨holds_step hOps.1, ih _ hOps.2⟩
  refine ⟨hHolds w ops hOps, fun before after hSplit hIs hNone => ?_⟩
  subst hSplit
  rw [Machine.run_append]
  have hAfter := hHolds _ _ ((Machine.steps_append _ _ _).mp hOps).2
  clear hOps
  generalize run (step env) w before = w' at hIs hNone hAfter
  induction after generalizing w' with
  | nil => exact hIs
  | cons op after ih => exact ih _ (hAfter.1.kept hIs hNone.1) hNone.2 hAfter.2

def subscribedWorld : World := { account := { status := "subscribed", token := "at" } }

/- A probe that finds a paid plan and a working token. -/
def paidProbe : Probe := { freeProbe with subscription := some { plan := "plus" } }

def renewal : List Op := [.pending, .persist { probe := paidProbe }]

theorem renewal_stays_subscribed :
    (run (step asciiEnv) subscribedWorld renewal).account.is "subscribed" :=
  (status_follows_evidence asciiEnv subscribedWorld renewal
    ⟨trivial, (by decide +kernel : codexOnly asciiEnv paidProbe = false), trivial⟩).2 renewal []
    rfl (by decide +kernel : strip "subscribed" = "subscribed") trivial

/- A Codex section that is refused makes a paid account invalid, whose capabilities are not. -/
theorem codex_failure_invalidates :
    let next := step asciiEnv subscribedWorld
      (.persist { probe := { paidProbe with codex := { http_status := some 401 } } })
    next.1.account.status = "invalid" ∧
      next.2.map Capabilities.auth_level = some .access_token_only := by
  decide +kernel

end StatusPolicy
