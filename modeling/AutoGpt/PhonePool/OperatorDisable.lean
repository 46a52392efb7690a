import AutoGpt.PhonePool.Counting

/-
  A phone that the operator has disabled, under the reports
  of running tasks and the recovery sweeps. A report writes
  the status without a look at the one before, so a disabled
  phone comes back with a success, a probe, a relay failure
  or a temporary status, unless its capacity is used up.

  Main theorems: `shut_apply`, `disabled_stays_unusable`, `released_usable`
-/

open Machine

----
-- Times And Availability
----

namespace PhonePool

/- `_parse_time`, with `datetime.fromisoformat` of a text as
   the time in seconds that it gives, if any. -/
def parse_time (fromisoformat : String → Option Int) (value : String) :
    Option Int :=
  let text := PyText.strip value
  if text = "" then none
  else if text.toList.getLast? = some 'Z' then
    fromisoformat (String.ofList text.toList.dropLast ++ "+00:00")
  else fromisoformat text

/- `max(int(model.max_accounts or 3), 1)`. -/
def PhoneRow.places (row : PhoneRow) : Int := max (row.capacity 3) 1

variable (fromisoformat : String → Option Int)

/- `PhonePoolRecord.available`. -/
def PhoneRow.available (now : Int) (row : PhoneRow) : Bool :=
  if row.status ≠ .active then false
  else if row.places ≤ row.bound_count then false
  else
    match parse_time fromisoformat row.cooldown_until with
    | none => true
    | some cooldown => cooldown ≤ now

/- `_temporary_status_recover_at`. -/
def PhoneRow.recoverAt (row : PhoneRow) : Int :=
  match parse_time fromisoformat row.cooldown_until with
  | some cooldown => cooldown
  | none =>
    (parse_time fromisoformat row.last_used_at).getD row.updated_at + rate_limit_recovery_seconds

def PhoneStatus.isTemporary (status : PhoneStatus) : Bool := status ∈ [.rate_limited, .cooldown]

/- The row that a sweep returns to the pool. -/
def PhoneRow.recovered (now : Int) (row : PhoneRow) :
    PhoneRow :=
  { row with
    status := .active, cooldown_until := "", last_error_code := "",
    last_error_message := "", updated_at := now }

def PhoneRow.swept (now : Int) (row : PhoneRow) : PhoneRow :=
  if row.status.isTemporary && row.recoverAt fromisoformat ≤ now
  then row.recovered now
  else row

theorem recovered_phone (now : Int) (row : PhoneRow) :
    (row.recovered now).phone_e164 = row.phone_e164 := rfl

/- `recover_expired_temporary_statuses(now=...)`. -/
def recover_expired_temporary_statuses (now : Int) (t : PhoneTable) : PhoneTable :=
  t.updateWhere (fun row => row.status.isTemporary && row.recoverAt fromisoformat ≤ now)
    (PhoneRow.recovered now) (recovered_phone now)

----
-- Reports
----

variable (env : Env)

/- What a task reports of the phone that it has used. -/
inductive Report where
| success (email : String)
| signup (email : String)
| failure
    (status error_code error_message : String) (cooldown_seconds : Int)
| probe
| nothing

def Report.apply (now : Int) (row : PhoneRow) :
    Report → PhoneRow
| .success email => row.recordSuccess env email now
| .signup email => row.recordPhoneSignupSuccess env email now
| .failure status error_code error_message
    cooldown_seconds =>
    row.recordFailure env status error_code error_message cooldown_seconds now
| .probe => row.recordProbeSuccess env now
| .nothing => row

def taskReport (task_status reason email : String) : Report :=
  if task_status = "registered_phone_signup" then .signup email
  else if task_status = "bound" then .success email
  else if task_status = "sms_probe_received" then .probe
  else if task_status = "openai_phone_limit" ∨ task_status = "phone_already_used" then
    .failure "exhausted" task_status reason 0
  else if task_status = "openai_rejected" ∨ task_status = "api_no_code" ∨
      task_status = "api_error" then
    .failure "cannot_send" (truncated 64 (PyText.orElse task_status "cannot_send")) reason 0
  else if task_status = "api_forward_error" then .failure "active" task_status reason 0
  else if task_status = "rate_limited" then
    .failure "rate_limited" task_status reason rate_limit_recovery_seconds
  else if task_status = "browser_error" ∨ task_status = "account_auth_error" ∨
      task_status = "unknown" then
    .failure "active" task_status reason 0
  else .nothing

inductive PoolOp where
| record (call : RecordCall)
| record_probe_success (phone : String) (now : Int)
| recover_expired_temporary_statuses (now : Int)

def poolStep (fromisoformat : String → Option Int) (t : PhoneTable) :
    PoolOp → PhoneTable × Unit
| .record call => recordStep env t call
| .record_probe_success phone now => (PhonePool.record_probe_success env phone now t, ())
| .recover_expired_temporary_statuses now =>
    (PhonePool.recover_expired_temporary_statuses fromisoformat now t, ())

/- The phone, the time and the report of a call. -/
def RecordCall.observed : RecordCall → String × Int × Report
| .record_success phone email now => (phone, now, .success email)
| .record_phone_signup_success phone email now => (phone, now, .signup email)
| .record_failure phone status error_code error_message
    cooldown_seconds now =>
    (phone, now, .failure status error_code error_message cooldown_seconds)
| .record_task_status phone task_status reason email now =>
    (phone, now, taskReport task_status reason email)

/- The same of an operation that reports on a phone. -/
def PoolOp.observed : PoolOp → Option (String × Int × Report)
| .record call => some call.observed
| .record_probe_success phone now => some (phone, now, .probe)
| .recover_expired_temporary_statuses _ => none

end PhonePool

----
-- What An Operation Does To A Row
----

namespace PhonePool

variable {row : PhoneRow}

/- The recorder applies the report to the row of its phone. -/
def Applies (env : Env) (t t' : PhoneTable) (observed : String × Int × Report) : Prop :=
  ∀ k, t'.find? k = (t.find? k).map fun row =>
        if k = normalize_phone env observed.1 then observed.2.2.apply env observed.2.1 row
        else row

theorem applies_updateKey {now : Int} (f : PhoneRow → PhoneRow)
    (hKey : ∀ row, (f row).phone_e164 = row.phone_e164)
    (hApply : ∀ row, f row = report.apply env now row) :
    Applies env t (t.updateKey (normalize_phone env phone) f hKey) (phone, now, report) := by
  have hSame : f = fun row => report.apply env now row := funext hApply
  intro k
  by_cases hPhone : k = normalize_phone env phone
  · subst hPhone
    rw [KeyedTable.find?_updateKey_self, hSame]
    simp only [if_true]
  · rw [KeyedTable.find?_updateKey_of_ne t f hKey hPhone]
    simp only [hPhone, if_false, Option.map_id']

theorem success_applies (phone email : String) (now : Int) :
    Applies env t (record_success env phone email now t) (phone, now, .success email) :=
  applies_updateKey _ (recordSuccess_phone env email now) (fun _ => rfl)

theorem signup_applies (phone email : String) (now : Int) :
    Applies env t (record_phone_signup_success env phone email now t) (phone, now, .signup email) :=
  applies_updateKey _ (recordPhoneSignupSuccess_phone env email now) (fun _ => rfl)

theorem failure_applies (phone status error_code error_message : String)
    (cooldown_seconds now : Int) :
    Applies env t (record_failure env phone status error_code error_message cooldown_seconds now t)
      (phone, now, .failure status error_code error_message cooldown_seconds) :=
  applies_updateKey _ (recordFailure_phone env status error_code error_message cooldown_seconds now)
    (fun _ => rfl)

theorem probe_applies (phone : String) (now : Int) :
    Applies env t (record_probe_success env phone now t) (phone, now, .probe) :=
  applies_updateKey _ (recordProbeSuccess_phone env now) (fun _ => rfl)

theorem applies_nothing (phone : String) (now : Int) : Applies env t t (phone, now, .nothing) := by
  intro k
  simp [Report.apply]

theorem task_status_applies (phone task_status reason email : String) (now : Int) :
    Applies env t (record_task_status env phone task_status reason email now t)
      (phone, now, taskReport task_status reason email) := by
  unfold record_task_status taskReport
  split
  · exact signup_applies phone email now
  split
  · exact success_applies phone email now
  split
  · exact probe_applies phone now
  split
  · exact failure_applies phone _ _ _ _ now
  split
  · exact failure_applies phone _ _ _ _ now
  split
  · exact failure_applies phone _ _ _ _ now
  split
  · exact failure_applies phone _ _ _ _ now
  split
  · exact failure_applies phone _ _ _ _ now
  · exact applies_nothing phone now

theorem recordStep_applies (call : RecordCall) :
    Applies env t (recordStep env t call).1 call.observed := by
  cases call with
  | record_success phone email now => exact success_applies phone email now
  | record_phone_signup_success phone email now => exact signup_applies phone email now
  | record_failure phone status error_code error_message
      cooldown_seconds now =>
      exact failure_applies phone _ _ _ _ now
  | record_task_status phone task_status reason email now =>
    exact task_status_applies phone _ _ _ now

theorem sweep_row (now : Int) (k : String) :
    (recover_expired_temporary_statuses fromisoformat now t).find? k =
      (t.find? k).map (PhoneRow.swept fromisoformat now) :=
  KeyedTable.find?_updateWhere t _ _ _ k

/- What an operation does to the row of a phone. -/
def PoolOp.onRow (env : Env) (fromisoformat : String → Option Int)
    (phone_norm : String) (row : PhoneRow) (op : PoolOp) : PhoneRow :=
  match op.observed with
  | some (phone, now, report) =>
    if phone_norm = normalize_phone env phone then report.apply env now row
    else row
  | none =>
    match op with
    | .recover_expired_temporary_statuses now => row.swept fromisoformat now
    | _ => row

theorem poolStep_row (op : PoolOp) (k : String) :
    (poolStep env fromisoformat t op).1.find? k = (t.find? k).map fun row =>
        op.onRow env fromisoformat k row := by
  cases op with
  | record call => exact recordStep_applies call k
  | record_probe_success phone now => exact probe_applies phone now k
  | recover_expired_temporary_statuses now => exact sweep_row now k

----
-- Rows That Stay Shut
----

def PhoneRow.full (row : PhoneRow) : Prop := row.places ≤ row.bound_count

instance (row : PhoneRow) : Decidable row.full := inferInstanceAs (Decidable (_ ≤ _))

/- The statuses that only a report can end. -/
def PhoneStatus.isFinal (status : PhoneStatus) : Bool :=
  status ∈ [.disabled, .cannot_send, .exhausted]

def PhoneRow.Shut (row : PhoneRow) : Prop := row.status.isFinal ∨ row.full

/- The count after a success with this e-mail. -/
def PhoneRow.countAfter (env : Env) (email : String) (row : PhoneRow) : Int :=
  if normalize_email env email = "" ∨
      normalize_email env email ∉ parse_email_list env row.bound_account_emails_json then
    row.bound_count + 1
  else row.bound_count

/- The report does not bring the phone back: a success takes the last place, and any other report
   leaves a final status or finds all places taken. -/
def Report.Spares (env : Env) (row : PhoneRow) :
    Report → Prop
| .success email => row.capacity 3 ≤ row.countAfter env email
| .signup _ => True
| .failure status error_code _ _ => row.full ∨
      match (PhoneStatus.ofName? status).getD .active with
      | .active => PyText.strip error_code ≠ "api_forward_error"
      | .rate_limited => False
      | .cooldown => False
      | _ => True
| .probe => row.full
| .nothing => True

theorem shut_apply {report : Report} {now : Int} (hShut : row.Shut)
    (hSpares : report.Spares env row) : (report.apply env now row).Shut := by
  cases report with
  | success email =>
    left
    change PhoneStatus.isFinal
      (if row.capacity 3 ≤ row.countAfter env email then .exhausted else .active)
    rw [if_pos (show row.capacity 3 ≤ row.countAfter env email from hSpares)]
    rfl
  | signup email => exact .inl rfl
  | failure status error_code error_message
      cooldown_seconds =>
      by_cases hFull : row.full
      · exact .inr hFull
      · have hFinal : row.status.isFinal := hShut.resolve_right hFull
        have hTarget := hSpares.resolve_left hFull
        left
        unfold Report.apply PhoneRow.recordFailure
        dsimp only
        cases hStatus : (PhoneStatus.ofName? status).getD .active with
        | active =>
          rw [hStatus] at hTarget
          simp [hTarget, hFinal]
        | cannot_send => rfl
        | rate_limited =>
          rw [hStatus] at hTarget
          exact hTarget.elim
        | cooldown =>
          rw [hStatus] at hTarget
          exact hTarget.elim
        | exhausted => rfl
        | disabled => rfl
  | probe => exact .inr hSpares
  | nothing => exact hShut

theorem shut_swept {now : Int} (hShut : row.Shut) : (row.swept fromisoformat now).Shut := by
  unfold PhoneRow.swept
  split
  next hTemporary =>
    rw [Bool.and_eq_true] at hTemporary
    right
    rcases hShut with hFinal | hFull
    · cases hStatus : row.status with
      | active =>
        rw [hStatus] at hFinal
        cases hFinal
      | rate_limited =>
        rw [hStatus] at hFinal
        cases hFinal
      | cooldown =>
        rw [hStatus] at hFinal
        cases hFinal
      | cannot_send =>
        rw [hStatus] at hTemporary
        cases hTemporary.1
      | exhausted =>
        rw [hStatus] at hTemporary
        cases hTemporary.1
      | disabled =>
        rw [hStatus] at hTemporary
        cases hTemporary.1
    · exact hFull
  · exact hShut

theorem not_available_of_shut (hShut : row.Shut) (now : Int) :
    row.available fromisoformat now = false := by
  unfold PhoneRow.available
  split
  · rfl
  next hActive =>
    split
    · rfl
    next hPlace =>
      rw [not_not] at hActive
      rcases hShut with hFinal | hFull
      · rw [hActive] at hFinal
        cases hFinal
      · exact absurd hFull hPlace

----
-- Runs
----

/- The operation spares the phone, if it is about it. -/
def SparesPhone (env : Env) (phone_norm : String) (t : PhoneTable) (op : PoolOp) : Prop :=
  ∀ phone now report row, op.observed = some (phone, now, report) →
    normalize_phone env phone = phone_norm → t.find? phone_norm = some row → report.Spares env row

theorem shut_step (hShut : ∀ row, t.find? phone_norm = some row → row.Shut)
    (hSpares : SparesPhone env phone_norm t op) :
    ∀ row, (poolStep env fromisoformat t op).1.find? phone_norm = some row → row.Shut := by
  intro next hNext
  rw [poolStep_row] at hNext
  rcases Option.map_eq_some_iff.mp hNext with ⟨row, hRow, hSame⟩
  have hBefore := hShut row hRow
  rw [← hSame]
  unfold PoolOp.onRow
  cases hObserved : op.observed with
  | none =>
    dsimp only
    split
    · exact shut_swept hBefore
    · exact hBefore
  | some observed =>
    rcases observed with ⟨phone, now, report⟩
    dsimp only
    split
    next hMine => exact shut_apply hBefore (hSpares phone now report row hObserved hMine.symm hRow)
    · exact hBefore

/- A disabled phone stays unusable, at every time and in every state of a run whose reports spare
   it. -/
theorem disabled_stays_unusable (env : Env) (fromisoformat : String → Option Int)
    (phone_norm : String) (t : PhoneTable) (row : PhoneRow) (hRow : t.find? phone_norm = some row)
    (hDisabled : row.status = .disabled) (ops : List PoolOp)
    (hSpares : Machine.Steps (poolStep env fromisoformat) (SparesPhone env phone_norm) t ops)
    (before after : List PoolOp) (hSplit : ops = before ++ after) (row' : PhoneRow)
    (hRow' : (run (poolStep env fromisoformat) t before).find? phone_norm = some row')
    (now : Int) : row'.available fromisoformat now = false := by
  rw [hSplit, steps_append] at hSpares
  have hStart : ∀ row, t.find? phone_norm = some row → row.Shut := by
    intro other hOther
    rw [hRow, Option.some.injEq] at hOther
    subst hOther
    left
    rw [hDisabled]
    rfl
  have hShut := run_induction_of_steps
      (P := fun t : PhoneTable => ∀ row, t.find? phone_norm = some row → row.Shut)
      (fun _ _ hShut hSpares => shut_step hShut hSpares) hStart hSpares.1
  exact not_available_of_shut (hShut row' hRow') now

/- An active row with a free place and no cooldown is usable, and a sweep leaves it so. -/
theorem usable_of_open (hActive : row.status = .active) (hPlace : ¬ row.full)
    (hCooldown : row.cooldown_until = "") :
    (row.swept fromisoformat now).available fromisoformat now := by
  have hSwept : row.swept fromisoformat now = row := by
    unfold PhoneRow.swept
    rw [hActive]
    rfl
  have hNoTime : parse_time fromisoformat row.cooldown_until = none := by
    rw [hCooldown]
    rfl
  rw [hSwept]
  unfold PhoneRow.available
  have hFree : ¬ row.places ≤ row.bound_count := hPlace
  rw [if_neg (not_not.mpr hActive), if_neg hFree, hNoTime]

/- The sweep at its time of recovery returns a row with a temporary status and a free place. -/
theorem usable_of_temporary (hTemporary : row.status.isTemporary) (hPlace : ¬ row.full) :
    ∃ later, (row.swept fromisoformat later).available fromisoformat later := by
  refine ⟨row.recoverAt fromisoformat, ?_⟩
  have hSwept : row.swept fromisoformat (row.recoverAt fromisoformat) =
        row.recovered (row.recoverAt fromisoformat) := by
    unfold PhoneRow.swept
    rw [hTemporary]
    simp
  have hOpen : ((row.recovered (row.recoverAt fromisoformat)).swept
          fromisoformat (row.recoverAt fromisoformat)).available
          fromisoformat (row.recoverAt fromisoformat) =
        true :=
    usable_of_open rfl hPlace rfl
  rw [hSwept]
  exact hOpen

theorem released_failure
    (hFree : ¬ (Report.failure status error_code error_message cooldown_seconds).Spares env row) :
    ∃ later, ((row.recordFailure env status error_code error_message
          cooldown_seconds now).swept fromisoformat
          later).available fromisoformat later := by
  rcases not_or.mp hFree with ⟨hPlace, hTarget⟩
  cases hStatus : (PhoneStatus.ofName? status).getD .active with
  | active =>
    rw [hStatus] at hTarget
    have hForward : PyText.strip error_code = "api_forward_error" := not_not.mp hTarget
    refine ⟨now, usable_of_open ?_ hPlace ?_⟩
    · simp [PhoneRow.recordFailure, hStatus, hForward]
    · simp [PhoneRow.recordFailure, hStatus, hForward]
  | rate_limited =>
    refine usable_of_temporary ?_ hPlace
    simp [PhoneRow.recordFailure, hStatus, PhoneStatus.isTemporary]
  | cooldown =>
    refine usable_of_temporary ?_ hPlace
    simp [PhoneRow.recordFailure, hStatus, PhoneStatus.isTemporary]
  | cannot_send =>
    rw [hStatus] at hTarget
    exact absurd trivial hTarget
  | exhausted =>
    rw [hStatus] at hTarget
    exact absurd trivial hTarget
  | disabled =>
    rw [hStatus] at hTarget
    exact absurd trivial hTarget

/- A report that does not spare a disabled phone brings it back, at once or with the next sweep that
   is late enough. -/
theorem released_usable {report : Report} (hFree : ¬ report.Spares env row) :
    ∃ later, ((report.apply env now row).swept fromisoformat
          later).available fromisoformat later := by
  cases report with
  | success email =>
    have hCount : row.countAfter env email < row.capacity 3 := Int.not_le.mp hFree
    refine ⟨now, usable_of_open ?_ ?_ rfl⟩
    · exact if_neg (Int.not_le.mpr hCount)
    · intro hFull
      have hPlaces : row.places ≤ row.countAfter env email := hFull
      have hCapacity : row.capacity 3 ≤ row.places := Int.le_max_left _ _
      omega
  | signup email => exact absurd trivial hFree
  | failure status error_code error_message
      cooldown_seconds =>
      exact released_failure hFree
  | probe => exact ⟨now, usable_of_open rfl hFree rfl⟩
  | nothing => exact absurd trivial hFree

def disabledRow : PhoneRow := { imported_row "+14155550100" 3 0 with status := .disabled }

def disabledPool : PhoneTable where
  rows := [disabledRow]
  keys_nodup := List.nodup_singleton _

theorem disabledPool_row :
    disabledPool.find? "+14155550100" = some disabledRow := rfl

/- A rejection and a sweep leave it unusable. -/
theorem disabled_stays_unusable_rejected :
    ((disabledRow.recordFailure sampleEnv "cannot_send"
        "openai_rejected" "" 0 1).swept (fun _ => none)
        9000).available (fun _ => none) 9000 = false := by
  refine disabled_stays_unusable sampleEnv (fun _ => none)
      "+14155550100" disabledPool disabledRow disabledPool_row
      rfl
      [.record (.record_failure "+14155550100" "cannot_send" "openai_rejected" "" 0 1),
        .recover_expired_temporary_statuses 9000]
      ⟨?_, ?_, trivial⟩ _ [] (List.append_nil _).symm _ ?_ 9000
  · intro phone now report row hObserved hPhone hRow
    cases hObserved
    exact .inr trivial
  · intro phone now report row hObserved hPhone hRow
    cases hObserved
  · decide +kernel

/- A rate limit brings it back. -/
theorem released_usable_rate_limited :
    ∃ later, (((Report.failure "rate_limited" "" "" 60).apply sampleEnv 1 disabledRow).swept
      (fun _ => none) later).available (fun _ => none) later := by
  refine released_usable ?_
  rintro (hFull | hNever)
  · exact absurd hFull (by decide)
  · exact hNever

/- A probe that succeeds after the operator disabled the phone makes it usable again. -/
theorem probe_after_disable :
    ¬ (∀ (env : Env) (fromisoformat : String → Option Int) (phone_norm : String) (t : PhoneTable)
        (row : PhoneRow) (ops : List PoolOp) (row' : PhoneRow) (now : Int),
        t.find? phone_norm = some row → row.status = .disabled →
          (run (poolStep env fromisoformat) t ops).find? phone_norm = some row' →
          row'.available fromisoformat now = false) := by
  intro hAll
  have hUnusable := hAll sampleEnv (fun _ => none) "+14155550100" disabledPool
      disabledRow [.record_probe_success "+14155550100" 1]
      (disabledRow.recordProbeSuccess sampleEnv 1) 2 disabledPool_row rfl (by decide +kernel)
  have hUsable :
      (disabledRow.recordProbeSuccess sampleEnv 1).available (fun _ => none) 2 := by
    decide +kernel
  rw [hUsable] at hUnusable
  cases hUnusable

end PhonePool
