import AutoGpt.PhonePool.Model

/-
  The bound e-mails of a phone and their counter, over any
  sequence of recorder calls on a freshly imported row.

  Main theorems: `record_row`, `record_sound_iff`
-/

open Machine (Steps run)
open List
open Option
open KeyedTable

----
-- E-Mail Lists
----

namespace PhonePool

variable {env : Env}

/- A normalized address is in the form of its own normalization. -/
def Normalized (env : Env) (email : String) : Prop := email ≠ "" ∧ normalize_email env email = email

structure EmailsSound (env : Env) (emails : List String) : Prop where
  distinct : emails.Nodup
  normalized : ∀ email ∈ emails, Normalized env email

theorem normalize_email_again (value : String) :
    normalize_email env (normalize_email env value) = normalize_email env value :=
  env.lower_again value

theorem EmailsSound.snoc (hSound : EmailsSound env emails)
    (hEmail : Normalized env email) (hNew : email ∉ emails) :
    EmailsSound env (emails ++ [email]) := by
  constructor
  · rw [nodup_append_comm]
    exact nodup_cons.mpr ⟨hNew, hSound.distinct⟩
  · intro other hMem
    rcases mem_append.mp hMem with hOld | hLast
    · exact hSound.normalized other hOld
    · rw [mem_singleton.mp hLast]
      exact hEmail

theorem add_email_sound (hSound : EmailsSound env emails) (value : String) :
    EmailsSound env (add_email env emails value) := by
  unfold add_email
  dsimp only
  split
  · exact hSound
  next hNew =>
    rcases not_or.mp hNew with ⟨hText, hFresh⟩
    exact hSound.snoc ⟨hText, normalize_email_again value⟩ hFresh

theorem foldl_add_email {first rest : List String} (hSound : EmailsSound env (first ++ rest)) :
    rest.foldl (add_email env) first = first ++ rest := by
  induction rest generalizing first with
  | nil => exact (append_nil first).symm
  | cons email rest ih =>
    have hEmail : Normalized env email := hSound.normalized email (by simp)
    have hFresh : email ∉ first := by
      have hParts := nodup_append.mp hSound.distinct
      intro hMem
      exact hParts.2.2 email hMem email mem_cons_self rfl
    have hAdded : add_email env first email = first ++ [email] := by
      unfold add_email
      rw [hEmail.2, if_neg (not_or.mpr ⟨hEmail.1, hFresh⟩)]
    have hNext : first ++ email :: rest = (first ++ [email]) ++ rest := by
      rw [append_assoc]
      rfl
    rw [foldl_cons, hAdded, ih (hNext ▸ hSound), hNext]

theorem parse_of_sound (hSound : EmailsSound env emails) : parse_email_list env emails = emails :=
  @foldl_add_email env [] emails hSound

theorem dump_of_sound (hSound : EmailsSound env emails) : dump_email_list env emails = emails :=
  @foldl_add_email env [] emails hSound

----
-- What A Call Does To A Row
----

/- A success that binds an account to the phone. -/
inductive Success where
| login (email : String)
| signup (email : String)

def Success.email : Success → String
| .login email => email
| .signup email => email

/- The phone that the call was observed on. -/
def RecordCall.phone : RecordCall → String
| .record_success phone _ _ => phone
| .record_phone_signup_success phone _ _ => phone
| .record_failure phone _ _ _ _ _ => phone
| .record_task_status phone _ _ _ _ => phone

def RecordCall.success : RecordCall → Option Success
| .record_success _ email _ => some (.login email)
| .record_phone_signup_success _ email _ => some (.signup email)
| .record_failure _ _ _ _ _ _ => none
| .record_task_status _ task_status _ email _ =>
    if task_status = "registered_phone_signup" then some (.signup email)
    else if task_status = "bound" then some (.login email)
    else none

inductive RowEffect (env : Env) (success : Option Success) (row row' : PhoneRow) : Prop where
| login (email : String) (now : Int)
    (hSuccess : success = some (.login email)) (hRow : row' = row.recordSuccess env email now)
| signup (email : String) (now : Int)
    (hSuccess : success = some (.signup email))
    (hRow : row' = row.recordPhoneSignupSuccess env email now)
| other
    (hSuccess : success = none)
    (hEmails : row'.bound_account_emails_json = row.bound_account_emails_json)
    (hCount : row'.bound_count = row.bound_count) (hMax : row'.max_accounts = row.max_accounts)

/- A call changes the row of its phone and no other. -/
def ChangesRow (env : Env) (phone : String) (success : Option Success) (t t' : PhoneTable) : Prop :=
  ∃ f hKey,
    t' = t.updateKey (normalize_phone env phone) f hKey ∧ ∀ row, RowEffect env success row (f row)

theorem success_changes (phone email : String) (now : Int) (t : PhoneTable) :
    ChangesRow env phone (some (.login email)) t (record_success env phone email now t) :=
  ⟨_, recordSuccess_phone env email now, rfl, fun _ => .login email now rfl rfl⟩

theorem signup_changes (phone email : String) (now : Int) (t : PhoneTable) :
    ChangesRow env phone (some (.signup email)) t
      (record_phone_signup_success env phone email now t) :=
  ⟨_, recordPhoneSignupSuccess_phone env email now, rfl, fun _ => .signup email now rfl rfl⟩

theorem failure_changes (phone status error_code error_message : String)
    (cooldown_seconds now : Int) (t : PhoneTable) :
    ChangesRow env phone none t
      (record_failure env phone status error_code error_message cooldown_seconds now t) :=
  ⟨_, recordFailure_phone env status error_code error_message cooldown_seconds now, rfl,
    fun _ => .other rfl rfl rfl rfl⟩

theorem probe_changes (phone : String) (now : Int) (t : PhoneTable) :
    ChangesRow env phone none t (record_probe_success env phone now t) :=
  ⟨_, recordProbeSuccess_phone env now, rfl, fun _ => .other rfl rfl rfl rfl⟩

theorem nothing_changes (phone : String) (t : PhoneTable) : ChangesRow env phone none t t := by
  refine ⟨id, fun _ => rfl, ?_, fun _ => .other rfl rfl rfl rfl⟩
  apply ext_rows
  unfold updateKey updateWhere
  simp

theorem task_status_changes (phone task_status reason email : String) (now : Int) (t : PhoneTable) :
    ChangesRow env phone
      (RecordCall.success (.record_task_status phone task_status reason email now)) t
      (record_task_status env phone task_status reason email now t) := by
  unfold record_task_status RecordCall.success
  dsimp only
  split
  · exact signup_changes phone email now t
  split
  · exact success_changes phone email now t
  split
  · exact probe_changes phone now t
  split
  · exact failure_changes phone _ _ _ _ now t
  split
  · exact failure_changes phone _ _ _ _ now t
  split
  · exact failure_changes phone _ _ _ _ now t
  split
  · exact failure_changes phone _ _ _ _ now t
  split
  · exact failure_changes phone _ _ _ _ now t
  · exact nothing_changes phone t

theorem recordStep_changes (t : PhoneTable) (call : RecordCall) :
    ChangesRow env call.phone call.success t (recordStep env t call).1 := by
  cases call with
  | record_success phone email now => exact success_changes phone email now t
  | record_phone_signup_success phone email now => exact signup_changes phone email now t
  | record_failure phone status error_code error_message
      cooldown_seconds now =>
      exact failure_changes phone _ _ _ _ now t
  | record_task_status phone task_status reason email now =>
    exact task_status_changes phone _ _ _ now t

theorem record_frame (t : PhoneTable) (call : RecordCall)
    (hOther : k ≠ normalize_phone env call.phone) :
    (recordStep env t call).1.find? k = t.find? k := by
  rcases recordStep_changes t call with ⟨f, hKey, hStep, -⟩
  rw [hStep]
  exact find?_updateKey_of_ne t f hKey hOther

theorem record_row {row : PhoneRow} (call : RecordCall)
    (hRow : t.find? (normalize_phone env call.phone) = some row) :
    ∃ row', (recordStep env t call).1.find? (normalize_phone env call.phone) = some row' ∧
        RowEffect env call.success row row' := by
  rcases recordStep_changes t call with ⟨f, hKey, hStep, hEffect⟩
  refine ⟨f row, ?_, hEffect row⟩
  rw [hStep, find?_updateKey_self, hRow]
  rfl

----
-- Counter And List
----

/- The counter covers the distinct normalized e-mails, and the row allows an account at least. -/
structure Tied (env : Env) (row : PhoneRow) : Prop where
  emails : EmailsSound env row.bound_account_emails_json
  counted : (row.bound_account_emails_json.length : Int) ≤ row.bound_count
  capacity : 1 ≤ row.max_accounts

theorem imported_tied (phone_norm : String) (max_accounts now : Int) :
    Tied env (imported_row phone_norm max_accounts now) := by
  constructor
  · constructor
    · exact nodup_nil
    · intro email hMem
      cases hMem
  · exact Int.le_refl 0
  · exact Int.le_max_right _ _

theorem Tied.capacity_eq (hTied : Tied env row) (default : Int) :
    row.capacity default = row.max_accounts := by
  have hCapacity := hTied.capacity
  unfold PhoneRow.capacity
  rw [if_neg (by omega)]

/- The list of a tied row after the e-mail of a success. -/
def withEmail (env : Env) (emails : List String) (email : String) :
    List String :=
  if normalize_email env email = "" ∨ normalize_email env email ∈ emails then emails
  else emails ++ [normalize_email env email]

theorem withEmail_sound (hSound : EmailsSound env emails) (email : String) :
    EmailsSound env (withEmail env emails email) :=
  add_email_sound hSound email

theorem recordSuccess_emails (hTied : Tied env row) (email : String) (now : Int) :
    (row.recordSuccess env email now).bound_account_emails_json
      = withEmail env row.bound_account_emails_json email := by
  have hAdded := dump_of_sound (withEmail_sound hTied.emails email)
  unfold PhoneRow.recordSuccess withEmail
  unfold withEmail at hAdded
  dsimp only
  rw [parse_of_sound hTied.emails]
  by_cases hText : normalize_email env email = ""
  · rw [if_pos hText, if_pos (.inl hText)]
  · by_cases hMem : normalize_email env email ∈ row.bound_account_emails_json
    · rw [if_neg hText, if_neg (not_not.mpr hMem), if_pos (.inr hMem), dump_of_sound hTied.emails]
    · have hNew := not_or.mpr ⟨hText, hMem⟩
      rw [if_neg hNew] at hAdded
      rw [if_neg hText, if_pos hMem, if_neg hNew, hAdded]

theorem recordSignup_emails (hTied : Tied env row) (email : String) (now : Int) :
    (row.recordPhoneSignupSuccess env email now).bound_account_emails_json =
      withEmail env row.bound_account_emails_json email := by
  have hAdded := dump_of_sound (withEmail_sound hTied.emails email)
  unfold PhoneRow.recordPhoneSignupSuccess withEmail
  unfold withEmail at hAdded
  dsimp only
  rw [parse_of_sound hTied.emails]
  by_cases hText : normalize_email env email = ""
  · rw [if_neg (fun h => h.1 hText), if_pos (.inl hText), dump_of_sound hTied.emails]
  · by_cases hMem : normalize_email env email ∈ row.bound_account_emails_json
    · rw [if_neg (fun h => h.2 hMem), if_pos (.inr hMem), dump_of_sound hTied.emails]
    · have hNew := not_or.mpr ⟨hText, hMem⟩
      rw [if_neg hNew] at hAdded
      rw [if_pos ⟨hText, hMem⟩, if_neg hNew, hAdded]

theorem recordSuccess_count (hTied : Tied env row) (email : String) (now : Int) :
    (row.recordSuccess env email now).bound_count =
      if normalize_email env email = "" ∨
          normalize_email env email ∉ row.bound_account_emails_json then
        row.bound_count + 1
      else row.bound_count := by
  unfold PhoneRow.recordSuccess
  rw [parse_of_sound hTied.emails]

theorem withEmail_length (emails : List String) (email : String) :
    (withEmail env emails email).length ≤
      if normalize_email env email = "" ∨ normalize_email env email ∉ emails then emails.length + 1
      else emails.length := by
  unfold withEmail
  by_cases hText : normalize_email env email = ""
  · rw [if_pos (.inl hText), if_pos (.inl hText)]
    exact Nat.le_succ _
  · by_cases hMem : normalize_email env email ∈ emails
    · rw [if_pos (.inr hMem), if_neg (not_or.mpr ⟨hText, not_not.mpr hMem⟩)]
    · rw [if_neg (not_or.mpr ⟨hText, hMem⟩), if_pos (.inr hMem), length_append]
      exact le_rfl

theorem Tied.effect (hTied : Tied env row)
    (hEffect : RowEffect env success row row') : Tied env row' := by
  have hCounted := hTied.counted
  cases hEffect with
  | login email now hSuccess hRow =>
    subst hRow
    constructor
    · rw [recordSuccess_emails hTied]
      exact withEmail_sound hTied.emails email
    · rw [recordSuccess_emails hTied, recordSuccess_count hTied]
      have hLength := @withEmail_length env row.bound_account_emails_json email
      split at hLength <;> rename_i hNew
      · rw [if_pos hNew]
        omega
      · rw [if_neg hNew]
        omega
    · exact hTied.capacity
  | signup email now hSuccess hRow =>
    subst hRow
    constructor
    · rw [recordSignup_emails hTied]
      exact withEmail_sound hTied.emails email
    · rw [recordSignup_emails hTied]
      have hLength := @withEmail_length env row.bound_account_emails_json email
      have hMore : row.bound_count + 1 ≤ (row.recordPhoneSignupSuccess env email now).bound_count :=
        Int.le_max_left _ _
      split at hLength
      · omega
      · omega
    · exact hTied.capacity
  | other hSuccess hEmails hCount hMax =>
    constructor
    · rw [hEmails]
      exact hTied.emails
    · rw [hEmails, hCount]
      exact hCounted
    · rw [hMax]
      exact hTied.capacity

theorem tied_step (t : PhoneTable) (call : RecordCall)
    (hTied : ∃ row, t.find? phone_norm = some row ∧ Tied env row) :
    ∃ row, (recordStep env t call).1.find? phone_norm = some row ∧ Tied env row := by
  rcases hTied with ⟨row, hRow, hRowTied⟩
  by_cases hSame : phone_norm = normalize_phone env call.phone
  · subst hSame
    rcases record_row call hRow with ⟨row', hRow', hEffect⟩
    exact ⟨row', hRow', hRowTied.effect hEffect⟩
  · exact ⟨row, (record_frame t call hSame).trans hRow, hRowTied⟩

theorem tied_run {t : PhoneTable} {max_accounts now : Int}
    (hFresh : t.find? phone_norm = some (imported_row phone_norm max_accounts now))
    (calls : List RecordCall) :
    ∃ row, (run (recordStep env) t calls).find? phone_norm = some row ∧ Tied env row :=
  Machine.run_induction
    (P := fun t : PhoneTable => ∃ row, t.find? phone_norm = some row ∧ Tied env row)
    (fun t call hTied => tied_step t call hTied) ⟨_, hFresh, imported_tied _ _ _⟩ calls

----
-- Runs
----

/- A call on a table: it leaves the rows of other phones alone; on the row of the phone a success
   for a bound e-mail changes neither counter nor list, and after a success a full row is exhausted.
   -/
structure CallSound (env : Env) (phone_norm : String)
    (t : PhoneTable) (call : RecordCall) : Prop where
  frame : ∀ k, k ≠ normalize_phone env call.phone → (recordStep env t call).1.find? k = t.find? k
  replay : ∀ success row row', call.success = some success →
      normalize_phone env call.phone = phone_norm → t.find? phone_norm = some row →
      (recordStep env t call).1.find? phone_norm = some row' →
      normalize_email env success.email ∈ row.bound_account_emails_json →
      row'.bound_count = row.bound_count ∧
        row'.bound_account_emails_json = row.bound_account_emails_json
  full : ∀ success row', call.success = some success → normalize_phone env call.phone = phone_norm →
      (recordStep env t call).1.find? phone_norm = some row' →
      row'.max_accounts ≤ row'.bound_count → row'.status = .exhausted

/- The row of the phone is there, its e-mails are distinct and
   normalized, and the counter covers them. -/
def RowSound (env : Env) (phone_norm : String) (t : PhoneTable) : Prop :=
  ∃ row, t.find? phone_norm = some row ∧ EmailsSound env row.bound_account_emails_json ∧
    (row.bound_account_emails_json.length : Int) ≤ row.bound_count

/- Every state and every call of a run is sound. -/
def RunSound (env : Env) (phone_norm : String) (t : PhoneTable) (calls : List RecordCall) : Prop :=
  (∀ before after, calls = before ++ after →
    RowSound env phone_norm (run (recordStep env) t before)) ∧
    ∀ before call after, calls = before ++ call :: after →
      CallSound env phone_norm (run (recordStep env) t before) call

/- A phone signup for an e-mail that is bound already. -/
def SignupReplay (env : Env) (phone_norm : String) (t : PhoneTable) (call : RecordCall) : Prop :=
  normalize_phone env call.phone = phone_norm ∧ ∃ email row, call.success = some (.signup email) ∧
      t.find? phone_norm = some row ∧ normalize_email env email ∈ row.bound_account_emails_json

theorem withEmail_of_mem
    (hMem : normalize_email env email ∈ emails) : withEmail env emails email = emails := by
  unfold withEmail
  rw [if_pos (.inr hMem)]

theorem call_sound_iff
    (hRow : t.find? phone_norm = some row) (hTied : Tied env row) (call : RecordCall) :
    CallSound env phone_norm t call ↔ ¬ SignupReplay env phone_norm t call := by
  constructor
  · rintro hSound ⟨hSame, email, row₀, hSignup, hRow₀, hMem⟩
    rw [hRow, some.injEq] at hRow₀
    subst hRow₀
    rw [← hSame] at hRow
    rcases record_row call hRow with ⟨row', hRow', hEffect⟩
    rw [hSame] at hRow hRow'
    have hKept := (hSound.replay _ row row' hSignup hSame hRow hRow' hMem).1
    cases hEffect with
    | login email' now hSuccess hNew =>
      rw [hSuccess] at hSignup
      cases hSignup
    | signup email' now hSuccess hNew =>
      have hMore : row.bound_count + 1 ≤ row'.bound_count := by
        rw [hNew]
        exact Int.le_max_left _ _
      omega
    | other hSuccess =>
      rw [hSuccess] at hSignup
      cases hSignup
  · intro hReplay
    constructor
    · exact fun k hOther => record_frame t call hOther
    · intro success row₀ row' hSuccess hSame hRow₀ hRow' hMem
      rw [hRow, some.injEq] at hRow₀
      subst hRow₀
      rw [← hSame] at hRow hRow'
      rcases record_row call hRow with ⟨row'', hRow'', hEffect⟩
      rw [hRow', some.injEq] at hRow''
      subst hRow''
      cases hEffect with
      | login email now hLogin hNew =>
        rw [hLogin, some.injEq] at hSuccess
        subst hSuccess
        change normalize_email env email ∈ row.bound_account_emails_json at hMem
        have hText : normalize_email env email ≠ "" := (hTied.emails.normalized _ hMem).1
        subst hNew
        constructor
        · rw [recordSuccess_count hTied, if_neg (not_or.mpr ⟨hText, not_not.mpr hMem⟩)]
        · rw [recordSuccess_emails hTied, withEmail_of_mem hMem]
      | signup email now hSignup hNew =>
        rw [hSignup, some.injEq] at hSuccess
        subst hSuccess
        rw [hSame] at hRow
        exact absurd ⟨hSame, email, row, hSignup, hRow, hMem⟩ hReplay
      | other hNone =>
        rw [hNone] at hSuccess
        cases hSuccess
    · intro success row' hSuccess hSame hRow' hFull
      rw [← hSame] at hRow hRow'
      rcases record_row call hRow with ⟨row'', hRow'', hEffect⟩
      rw [hRow', some.injEq] at hRow''
      subst hRow''
      cases hEffect with
      | login email now hLogin hNew =>
        subst hNew
        have hReached : row.capacity 3 ≤ (row.recordSuccess env email now).bound_count := by
          rw [hTied.capacity_eq]
          exact hFull
        exact if_pos hReached
      | signup email now hSignup hNew =>
        rw [hNew]
        rfl
      | other hNone =>
        rw [hNone] at hSuccess
        cases hSuccess

/- A run from a freshly imported row is sound exactly when no phone signup is recorded for an e-mail
   that the row has. -/
theorem record_sound_iff (env : Env) (phone_norm : String) (max_accounts now : Int)
    (t : PhoneTable) (calls : List RecordCall)
    (hFresh : t.find? phone_norm = some (imported_row phone_norm max_accounts now)) :
    RunSound env phone_norm t calls ↔ Steps (recordStep env)
        (fun t call => ¬ SignupReplay env phone_norm t call)
        t calls := by
  rw [Machine.steps_iff_forall_split]
  constructor
  · intro hSound before call after hSplit
    rcases tied_run hFresh before with ⟨row, hRow, hTied⟩
    exact (call_sound_iff hRow hTied call).mp (hSound.2 before call after hSplit)
  · intro hReplay
    constructor
    · intro before after _
      rcases tied_run hFresh before with ⟨row, hRow, hTied⟩
      exact ⟨row, hRow, hTied.emails, hTied.counted⟩
    · intro before call after hSplit
      rcases tied_run hFresh before with ⟨row, hRow, hTied⟩
      exact (call_sound_iff hRow hTied call).mpr (hReplay before call after hSplit)

/- Texts in lower case with ASCII digits. -/
def sampleEnv : Env where
  lower := id
  isdigit := Char.isDigit
  isoformat := fun _ => ""
  lower_again := PyText.strip_strip

def samplePool : PhoneTable where
  rows := [imported_row "+14155550100" 3 0]
  keys_nodup := nodup_singleton _

theorem samplePool_fresh :
    samplePool.find? "+14155550100" = some (imported_row "+14155550100" 3 0) := rfl

/- Two logins with one e-mail. -/
theorem login_replay_sound :
    RunSound sampleEnv "+14155550100" samplePool [.record_success "+1 415 555 0100" "a@x.com" 1,
        .record_success "+1 415 555 0100" "a@x.com" 2] := by
  refine (record_sound_iff sampleEnv "+14155550100" 3 0 samplePool _
      samplePool_fresh).mpr ⟨?_, ?_, trivial⟩
  · rintro ⟨-, email, row, hSignup, -⟩
    cases hSignup
  · rintro ⟨-, email, row, hSignup, -⟩
    cases hSignup

/- The second signup of one e-mail raises the counter. -/
theorem signup_replay_counts :
    ¬ (∀ (env : Env) (phone_norm : String) (max_accounts now : Int) (t : PhoneTable)
        (calls : List RecordCall),
        t.find? phone_norm = some (imported_row phone_norm max_accounts now) →
          RunSound env phone_norm t calls) := by
  intro hAll
  have hSound := hAll sampleEnv "+14155550100" 3 0 samplePool
      [.record_phone_signup_success "+14155550100" "a@x.com" 1,
        .record_phone_signup_success "+14155550100" "a@x.com" 2] samplePool_fresh
  have hCall := hSound.2 [.record_phone_signup_success "+14155550100" "a@x.com" 1]
      (.record_phone_signup_success "+14155550100" "a@x.com" 2) [] rfl
  have hReplay : SignupReplay sampleEnv "+14155550100"
        (run (recordStep sampleEnv) samplePool
          [.record_phone_signup_success "+14155550100" "a@x.com" 1])
        (.record_phone_signup_success "+14155550100" "a@x.com" 2) := by
    refine ⟨by decide +kernel, "a@x.com", _, rfl, rfl, ?_⟩
    decide +kernel
  rcases @tied_run sampleEnv _ _ _ _ samplePool_fresh
      [.record_phone_signup_success "+14155550100" "a@x.com" 1] with ⟨row, hRow, hTied⟩
  exact (call_sound_iff hRow hTied _).mp hCall hReplay

end PhonePool
