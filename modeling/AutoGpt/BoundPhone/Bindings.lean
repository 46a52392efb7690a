import AutoGpt.Library.Machine
import AutoGpt.Library.PySplit

/-
  The phone that is bound to a ChatGPT account: what the two
  writers store of an observed and of a confirmed phone, what
  the reader reports, and what holds of them over runs.

  Main theorems: `normalize_stable`, `step_kept`, `run_remembers`
-/

open List

----
-- Code
----

namespace BoundPhone

open PyText (strip orElse isDecimal)

/- The digits of a text, `re.sub(r"\D", "", text)`. -/
def digits (text : String) : List Char := text.toList.filter isDecimal

def zeros (text : String) : Bool := ['0', '0'].isPrefixOf text.toList

/- JSON values come as `str(value or "")`. -/
def normalize_bound_phone (value : String) : String :=
  let text := strip value
  if text = "" ∨ (digits text).length < 8 then ""
  else if zeros text ∧ 2 < (digits text).length then String.ofList ('+' :: (digits text).drop 2)
  else String.ofList ('+' :: digits text)

def _safe_text (value : String) (max_len : Nat) : String :=
  let text := strip value
  if max_len < text.toList.length then String.ofList (text.toList.take max_len) else text

/- `chatgpt_bound_phone`, empty where it is no mapping. -/
structure Payload where
  phone : String := ""
  phone_number : String := ""
  masked : String := ""
  masked_phone : String := ""
  api_url : String := ""
  source_api_url : String := ""
  source : String := ""
  detected_at : Option String := none
  updated_at : String := ""
  last_seen_reason : String := ""
  verification_status : String := ""
  last_masked_seen : String := ""
  last_masked_seen_at : String := ""

structure HistoryEntry where
  phone : String
  masked : String
  source : String
  detected_at : String
  last_seen_reason : String
  verification_status : String

/- `chatgpt_phone_binding`. -/
structure Binding where
  phone : String := ""
  phone_number : String := ""
  masked : String := ""
  masked_phone : String := ""
  api_url : String := ""
  source_api_url : String := ""
  source : String := ""
  status : String := ""
  bound_at : String := ""
  code_time : String := ""

/- The keys of `extra`; the items of the history that are no mappings are left out. -/
structure Extra where
  bound_phone : Payload := {}
  bound_phone_history : List HistoryEntry := []
  bound_phone_number : String := ""
  bound_phone_masked : String := ""
  phone_binding : Binding := {}

structure Reading where
  phone : String
  masked : String
  api_url : String
  source_api_url : String
  source : String
  detected_at : String := ""
  updated_at : String
  last_seen_reason : String := ""
  verification_status : String
  display : String := orElse phone masked
  is_masked : Bool := decide (masked ≠ "" ∧ phone = "")

def chatgpt_bound_phone_payload (now : String) (extra : Extra) : Option Reading :=
  let payload := extra.bound_phone
  let binding := extra.phone_binding
  let phone := normalize_bound_phone
    (orElse payload.phone (orElse payload.phone_number extra.bound_phone_number))
  let masked := _safe_text
    (orElse payload.masked (orElse payload.masked_phone extra.bound_phone_masked)) 240
  if phone = "" ∧ masked = "" then
    let phone := normalize_bound_phone (orElse binding.phone binding.phone_number)
    let masked := _safe_text (orElse binding.masked binding.masked_phone) 240
    if binding.status = "bound" ∧ (phone ≠ "" ∨ masked ≠ "") then
      some
        { phone := phone, masked := masked, api_url := _safe_text binding.api_url 240,
          source_api_url := _safe_text (orElse binding.source_api_url binding.api_url) 240,
          source := _safe_text (orElse binding.source "phone_binding_test") 240,
          updated_at := _safe_text (orElse binding.bound_at (orElse binding.code_time now)) 240,
          verification_status := "verified" }
    else none
  else
    let api_url := _safe_text binding.api_url 240
    let detected_at := payload.detected_at.getD ""
    some
      { phone := phone
        masked := masked
        api_url := _safe_text (orElse payload.api_url api_url) 240
        source_api_url := _safe_text (orElse payload.source_api_url
          (orElse (_safe_text binding.source_api_url 240) (orElse payload.api_url api_url))) 240
        source := _safe_text payload.source 240
        detected_at := _safe_text detected_at 240
        updated_at := _safe_text (orElse payload.updated_at detected_at) 240
        last_seen_reason := _safe_text payload.last_seen_reason 240
        verification_status := _safe_text (orElse payload.verification_status "required") 240 }

def Payload.full (payload : Payload) : String :=
  normalize_bound_phone (orElse payload.phone payload.phone_number)

def Payload.hint (payload : Payload) : String :=
  _safe_text (orElse payload.masked payload.masked_phone) 240

def _history_entry (payload : Payload) : HistoryEntry where
  phone := payload.full
  masked := payload.hint
  source := _safe_text payload.source 240
  detected_at := _safe_text (orElse (payload.detected_at.getD "") payload.updated_at) 240
  last_seen_reason := _safe_text payload.last_seen_reason 240
  verification_status := _safe_text payload.verification_status 240

/- The arguments of `upsert_chatgpt_bound_phone`. -/
structure Observation where
  phone : String := ""
  masked : String := ""
  source : String := ""
  reason : String := "existing_phone_otp"
  verification_status : String := "required"

/- Those of `record_chatgpt_confirmed_phone_binding`. -/
structure Confirmation where
  phone : String := ""
  api_url : String := ""
  source_api_url : String := ""
  source : String := ""
  bound_at : String := ""

/- A payload that is replaced goes to the history, unless it says nothing. -/
def replaced (current : Payload) (history : List HistoryEntry) : List HistoryEntry :=
  if current.full ≠ "" ∨ current.hint ≠ "" then history ++ [_history_entry current] else history

def observedHistory (phone masked : String) (current : Payload) (history : List HistoryEntry) :
    List HistoryEntry :=
  if phone ≠ "" then
    if current.full ≠ phone ∨ current.full = "" ∧ current.hint ≠ "" ∧ current.hint ≠ masked then
      replaced current history
    else history
  else if current.full = "" ∧ current.hint ≠ "" ∧ current.hint ≠ masked then
    replaced current history
  else history

/- A masked phone is only noted beside a full one. -/
def observedPayload (phone masked now : String) (current : Payload) : Payload :=
  if phone ≠ "" ∨ current.full = "" then
    { current with phone := phone, phone_number := phone, masked := masked, masked_phone := masked }
  else { current with last_masked_seen := masked, last_masked_seen_at := now }

def Extra.observed (call : Observation) (now : String) (extra : Extra) : Extra :=
  let phone := normalize_bound_phone call.phone
  let masked := _safe_text call.masked 240
  let new_payload := observedPayload phone masked now extra.bound_phone
  let number := normalize_bound_phone new_payload.phone
  { extra with
    bound_phone :=
      { new_payload with
        detected_at := some (new_payload.detected_at.getD now),
        source := orElse (_safe_text call.source 240) (_safe_text new_payload.source 240),
        updated_at := now,
        last_seen_reason := orElse (_safe_text call.reason 240) "existing_phone_otp",
        verification_status := orElse (_safe_text call.verification_status 240) "required" }
    bound_phone_history :=
      (observedHistory phone masked extra.bound_phone extra.bound_phone_history).rtake 5
    bound_phone_number := if number ≠ "" then number else extra.bound_phone_number
    bound_phone_masked :=
      if number = "" ∧ extra.bound_phone_number = "" then _safe_text new_payload.masked 240
      else extra.bound_phone_masked }

def Extra.confirmed (call : Confirmation) (now : String) (extra : Extra) : Extra :=
  let phone := normalize_bound_phone call.phone
  let bound_at := orElse (_safe_text call.bound_at 80) now
  let api_url := _safe_text call.api_url 4096
  let source_api_url := orElse (_safe_text call.source_api_url 4096) api_url
  let source := orElse (_safe_text call.source 120) "oauth_add_phone"
  { extra with
    phone_binding :=
      { phone := phone, phone_number := phone, api_url := api_url, source_api_url := source_api_url,
        source := source, status := "bound", bound_at := bound_at }
    bound_phone :=
      { phone := phone, phone_number := phone, api_url := api_url, source_api_url := source_api_url,
        source := source, detected_at := some bound_at, updated_at := bound_at,
        last_seen_reason := "add_phone_otp_validated", verification_status := "verified" }
    bound_phone_history :=
      (if extra.bound_phone.full ≠ "" ∧ extra.bound_phone.full ≠ phone then
        replaced extra.bound_phone extra.bound_phone_history
      else extra.bound_phone_history).rtake 5
    bound_phone_number := phone }

/- Whether the account is found, and the session commits. -/
structure Draw where
  found : Bool := true
  commits : Bool := true
  now : String := ""

inductive Call where
| upsert (call : Observation) (draw : Draw)
| record (call : Confirmation) (draw : Draw)

/- The flag `updated` comes with the new `extra`. -/
def upsert_chatgpt_bound_phone (call : Observation) (draw : Draw) (extra : Extra) : Extra × Bool :=
  if (normalize_bound_phone call.phone = "" ∧ _safe_text call.masked 240 = "") ∨
      ¬ (draw.found ∧ draw.commits) then (extra, false)
  else (extra.observed call draw.now, true)

def record_chatgpt_confirmed_phone_binding (call : Confirmation) (draw : Draw) (extra : Extra) :
    Extra × Bool :=
  if normalize_bound_phone call.phone = "" ∨ ¬ (draw.found ∧ draw.commits) then (extra, false)
  else (extra.confirmed call draw.now, true)

def step (extra : Extra) : Call → Extra × Bool
| .upsert call draw => upsert_chatgpt_bound_phone call draw extra
| .record call draw => record_chatgpt_confirmed_phone_binding call draw extra

----
-- Normalized Phones
----

def Call.text : Call → String
| .upsert call _ => call.phone
| .record call _ => call.phone

/- The normalized phone, empty where it is not accepted. -/
def Call.phone (call : Call) : String := normalize_bound_phone call.text

/- After `00` at least eight digits are left. -/
def Call.Plain (call : Call) : Prop := zeros (strip call.text) →
    (digits (strip call.text)).length < 8 ∨ 10 ≤ (digits (strip call.text)).length

instance (call : Call) : Decidable call.Plain := inferInstanceAs (Decidable (_ → _ ∨ _))

theorem normalize_empty : normalize_bound_phone "" = "" := by decide +kernel

theorem normalize_of_digits (hDigits : ∀ c ∈ ds, isDecimal c) (hLength : 8 ≤ ds.length) :
    normalize_bound_phone (String.ofList ('+' :: ds)) = String.ofList ('+' :: ds) := by
  have hPlain : ∀ c ∈ (String.ofList ('+' :: ds)).toList, PyText.isSpace c = false := by
    intro c hMem
    rw [String.toList_ofList] at hMem
    rcases mem_cons.mp hMem with hPlus | hDigit
    · rw [hPlus]
      decide
    · apply PySplit.not_space_of_isDigit
      unfold PySplit.isDigit
      rw [hDigits c hDigit, Bool.true_or]
  have hFilter : digits (String.ofList ('+' :: ds)) = ds := by
    unfold digits
    rw [String.toList_ofList, filter_cons_of_neg (by decide)]
    exact filter_eq_self.mpr hDigits
  have hZeros : zeros (String.ofList ('+' :: ds)) = false := by
    unfold zeros
    rw [String.toList_ofList]
    rfl
  have hSome : String.ofList ('+' :: ds) ≠ "" := by
    intro hEmpty
    have hNil := congrArg String.toList hEmpty
    rw [String.toList_ofList] at hNil
    cases hNil
  unfold normalize_bound_phone
  dsimp only
  rw [PyText.strip_of_plain hPlain, hFilter, hZeros, if_neg, if_neg]
  · exact fun hBoth => Bool.noConfusion hBoth.1
  · exact not_or.mpr ⟨hSome, by omega⟩

/- The phone of a plain call is normalized for good. -/
theorem normalize_stable {call : Call} (hPlain : call.Plain) :
    normalize_bound_phone call.phone = call.phone := by
  have hAll : ∀ c ∈ digits (strip call.text), isDecimal c := fun c hMem => (mem_filter.mp hMem).2
  unfold Call.phone
  generalize hIs : normalize_bound_phone call.text = phone
  unfold normalize_bound_phone at hIs
  dsimp only at hIs
  split at hIs
  · rw [← hIs]
    exact normalize_empty
  rename_i hAccepted
  rw [not_or] at hAccepted
  split at hIs
  next hZeros =>
    have hLong := hPlain hZeros.1
    rw [← hIs]
    refine normalize_of_digits (fun c hMem => hAll c (mem_of_mem_drop hMem)) ?_
    rw [length_drop]
    omega
  · rw [← hIs]
    exact normalize_of_digits hAll (by omega)

----
-- Steps
----

variable {extra next : Extra}

structure Takes (phone : String) (extra next : Extra) : Prop where
  payload : next.bound_phone.phone = phone
  number : normalize_bound_phone phone = phone → next.bound_phone_number = phone
  same : extra.bound_phone.full = phone →
    next.bound_phone_history = extra.bound_phone_history.rtake 5
  history : extra.bound_phone.full ≠ "" → extra.bound_phone.full ≠ phone →
    next.bound_phone_history =
      (extra.bound_phone_history ++ [_history_entry extra.bound_phone]).rtake 5

structure Stays (extra next : Extra) : Prop where
  full : next.bound_phone.full = extra.bound_phone.full
  payload : extra.bound_phone.full ≠ "" → next.bound_phone.phone = extra.bound_phone.phone
  number : next.bound_phone_number = extra.bound_phone_number ∨
    next.bound_phone_number = normalize_bound_phone next.bound_phone.phone
  history : extra.bound_phone.full ≠ "" →
    next.bound_phone_history = extra.bound_phone_history.rtake 5

attribute [local irreducible] _safe_text normalize_bound_phone

theorem observed_payload (call : Observation) :
    (extra.observed call now).bound_phone.phone =
        (observedPayload (normalize_bound_phone call.phone) (_safe_text call.masked 240) now
          extra.bound_phone).phone ∧ (extra.observed call now).bound_phone.full =
        (observedPayload (normalize_bound_phone call.phone) (_safe_text call.masked 240) now
          extra.bound_phone).full :=
  ⟨rfl, rfl⟩

theorem observed_number (call : Observation) :
    (extra.observed call now).bound_phone_number =
      if normalize_bound_phone (extra.observed call now).bound_phone.phone ≠ "" then
        normalize_bound_phone (extra.observed call now).bound_phone.phone
      else extra.bound_phone_number :=
  rfl

theorem observed_history (call : Observation) :
    (extra.observed call now).bound_phone_history =
      (observedHistory (normalize_bound_phone call.phone) (_safe_text call.masked 240)
        extra.bound_phone extra.bound_phone_history).rtake 5 :=
  rfl

theorem full_of_phone {payload : Payload} (hSame : payload.phone_number = payload.phone) :
    payload.full = normalize_bound_phone payload.phone := by
  unfold Payload.full orElse
  rw [hSame]
  split <;> rfl

theorem replaced_of_full {history : List HistoryEntry}
    (hFull : current.full ≠ "") : replaced current history = history ++ [_history_entry current] :=
  if_pos (.inl hFull)

theorem observed_takes (call : Observation) (hPhone : normalize_bound_phone call.phone = phone)
    (hSome : phone ≠ "") : Takes phone extra (extra.observed call now) := by
  have hPayload : (extra.observed call now).bound_phone.phone = phone := by
    rw [(observed_payload call).1, hPhone, observedPayload, if_pos (.inl hSome)]
  constructor
  · exact hPayload
  · intro hStable
    rw [observed_number, hPayload, hStable, if_pos hSome]
  · intro hSame
    rw [observed_history, hPhone, observedHistory, if_pos hSome, if_neg]
    rintro (hOther | ⟨hNone, _⟩)
    · exact hOther hSame
    · exact hSome (hSame.symm.trans hNone)
  · intro hFull hOther
    rw [observed_history, hPhone, observedHistory, if_pos hSome, if_pos (.inl hOther),
      replaced_of_full hFull]

theorem observed_stays (call : Observation) (hPhone : normalize_bound_phone call.phone = "") :
    Stays extra (extra.observed call now) := by
  have hNone : ¬ ("" : String) ≠ "" := fun h => h rfl
  constructor
  · rw [(observed_payload call).2, hPhone, observedPayload]
    split
    next hEmpty =>
      rw [hEmpty.resolve_left hNone]
      exact normalize_empty
    · rfl
  · intro hFull
    rw [(observed_payload call).1, hPhone, observedPayload, if_neg (not_or.mpr ⟨hNone, hFull⟩)]
  · rw [observed_number]
    split
    · exact .inr rfl
    · exact .inl rfl
  · intro hFull
    rw [observed_history, hPhone, observedHistory, if_neg hNone, if_neg (fun h => hFull h.1)]

theorem confirmed_takes (call : Confirmation) (hPhone : normalize_bound_phone call.phone = phone) :
    Takes phone extra (extra.confirmed call now) := by
  constructor
  · exact hPhone
  · exact fun _ => hPhone
  · intro hSame
    unfold Extra.confirmed
    dsimp only
    rw [hPhone, if_neg (fun hBoth => hBoth.2 hSame)]
  · intro hFull hOther
    unfold Extra.confirmed
    dsimp only
    rw [hPhone, if_pos ⟨hFull, hOther⟩, replaced_of_full hFull]

----
-- Runs
----

/- What the calls have said: the full phone that the payload has, whether a call has accepted it,
   and the full phones that were replaced. -/
structure Seen where
  held : String
  accepted : Bool := false
  replaced : List String := []

def Seen.after (phone : String) (updated : Bool) (seen : Seen) : Seen :=
  if updated ∧ phone ≠ "" then
    { held := phone
      accepted := true
      replaced :=
        if seen.held ≠ "" ∧ seen.held ≠ phone then seen.replaced ++ [seen.held]
        else seen.replaced }
  else seen

def observe (w : Extra × Seen) (call : Call) : (Extra × Seen) × Bool :=
  let next := step w.1 call
  ((next.1, w.2.after call.phone next.2), next.2)

/- The calls on one account, one at a time. -/
def run (extra : Extra) (calls : List Call) : Extra × Seen :=
  Machine.run observe (extra, { held := extra.bound_phone.full }) calls

/- A replaced phone is there until five later ones. -/
structure Remembers (now : String) (w : Extra × Seen) : Prop where
  phone : w.2.accepted →
    (chatgpt_bound_phone_payload now w.1).map Reading.phone = some w.2.held
  number : w.2.accepted → w.1.bound_phone_number = w.2.held
  history : ∀ phone ∈ w.2.replaced.rtake 5, ∃ entry ∈ w.1.bound_phone_history, entry.phone = phone

structure Kept (w : Extra × Seen) : Prop where
  held : w.1.bound_phone.full = w.2.held
  accepted : w.2.accepted → w.2.held ≠ "" ∧ normalize_bound_phone w.2.held = w.2.held ∧
    w.1.bound_phone.phone = w.2.held ∧ w.1.bound_phone_number = w.2.held
  fresh : w.2.held = "" → w.2.replaced = []
  history : w.2.replaced.rtake 5 <:+ w.1.bound_phone_history.map HistoryEntry.phone

variable {history : List HistoryEntry}

theorem suffix_rtake (hSuffix : phones <:+ history.map HistoryEntry.phone)
    (hLength : phones.length ≤ n) : phones <:+ (history.rtake n).map HistoryEntry.phone := by
  rcases hSuffix with ⟨before, hIs⟩
  have hLengths := congrArg List.length hIs
  rw [length_append, length_map] at hLengths
  unfold rtake
  rw [map_drop, ← hIs, drop_append_of_le_length (by omega)]
  exact suffix_append _ _

theorem length_rtake (n : Nat) (phones : List String) : (phones.rtake n).length ≤ n := by
  unfold rtake
  rw [length_drop]
  omega

theorem takes_kept (hKept : Kept w) (hTakes : Takes phone w.1 next) (hSome : phone ≠ "")
    (hStable : normalize_bound_phone phone = phone) (hFull : next.bound_phone.full = phone) :
    Kept (next, w.2.after phone true) := by
  unfold Seen.after
  rw [if_pos ⟨rfl, hSome⟩]
  refine ⟨hFull, fun _ => ⟨hSome, hStable, hTakes.payload, hTakes.number hStable⟩,
    fun hNone => absurd hNone hSome, ?_⟩
  rw [← hKept.held]
  have hBefore := hKept.history
  by_cases hNone : w.1.bound_phone.full = ""
  · rw [if_neg (fun h => h.1 hNone), hKept.fresh (hKept.held.symm.trans hNone), rtake_nil]
    exact nil_suffix
  by_cases hSame : w.1.bound_phone.full = phone
  · rw [if_neg (fun h => h.2 hSame), hTakes.same hSame]
    exact suffix_rtake hBefore (length_rtake 5 _)
  · rw [if_pos ⟨hNone, hSame⟩, hTakes.history hNone hSame, rtake_concat_succ,
      rtake_concat_succ, map_append]
    have hFour : w.2.replaced.rtake 4 <:+ w.2.replaced.rtake 5 := by
      exact drop_suffix_drop_left _ (by omega)
    rcases suffix_rtake (hFour.trans hBefore) (length_rtake 4 _) with ⟨before, hIs⟩
    refine ⟨before, ?_⟩
    rw [← append_assoc, hIs]
    rfl

theorem stays_kept (hKept : Kept w) (hStays : Stays w.1 next) : Kept (next, w.2) := by
  refine ⟨hStays.full.trans hKept.held, ?_, hKept.fresh, ?_⟩
  · intro hAccepted
    rcases hKept.accepted hAccepted with ⟨hSome, hStable, hPayload, hNumber⟩
    have hPhone := (hStays.payload (fun h => hSome (hKept.held.symm.trans h))).trans hPayload
    refine ⟨hSome, hStable, hPhone, ?_⟩
    rcases hStays.number with hSame | hNew
    · exact hSame.trans hNumber
    · rw [hPhone] at hNew
      exact hNew.trans hStable
  · by_cases hNone : w.1.bound_phone.full = ""
    · rw [hKept.fresh (hKept.held.symm.trans hNone), rtake_nil]
      exact nil_suffix
    · rw [hStays.history hNone]
      exact suffix_rtake hKept.history (length_rtake 5 _)

/- A plain call keeps the invariant. -/
theorem step_kept (call : Call) (hKept : Kept w) (hPlain : call.Plain) :
    Kept (observe w call).1 := by
  have hStable := normalize_stable hPlain
  have hIdle : Kept (w.1, w.2.after call.phone false) := by
    unfold Seen.after
    rw [if_neg (fun h => Bool.noConfusion h.1)]
    exact hKept
  unfold observe
  cases call with
  | upsert call draw =>
    dsimp only [step]
    unfold upsert_chatgpt_bound_phone
    split
    · exact hIdle
    · by_cases hNone : normalize_bound_phone call.phone = ""
      · have hStays : Stays w.1 (w.1.observed call draw.now) := observed_stays call hNone
        unfold Seen.after Call.phone Call.text
        rw [hNone, if_neg (fun h => h.2 rfl)]
        exact stays_kept hKept hStays
      · refine takes_kept hKept (observed_takes call rfl hNone) hNone hStable ?_
        rw [(observed_payload call).2, observedPayload, if_pos (.inl hNone), full_of_phone rfl]
        exact hStable
  | record call draw =>
    dsimp only [step]
    unfold record_chatgpt_confirmed_phone_binding
    split
    · exact hIdle
    next hGoes =>
      exact takes_kept hKept (confirmed_takes call rfl) (not_or.mp hGoes).1 hStable
        ((full_of_phone rfl).trans hStable)

theorem remembers_of_kept (now : String) (hKept : Kept w) : Remembers now w := by
  constructor
  · intro hAccepted
    rcases hKept.accepted hAccepted with ⟨hSome, hStable, hPayload, _⟩
    unfold chatgpt_bound_phone_payload
    dsimp only
    rw [hPayload, orElse, if_neg hSome, hStable, if_neg (fun h => hSome h.1)]
    rfl
  · exact fun hAccepted => (hKept.accepted hAccepted).2.2.2
  · intro phone hMem
    exact mem_map.mp (hKept.history.subset hMem)

/- The reader, the flat number and the history keep up with calls whose phones are plain. -/
theorem run_remembers (now : String) (extra : Extra) (calls : List Call)
    (hPlain : Machine.Steps observe (fun _ call => call.Plain)
      (extra, { held := extra.bound_phone.full }) calls) :
    Remembers now (run extra calls) := by
  refine remembers_of_kept now (Machine.run_induction_of_steps
    (fun w call hKept hCall => step_kept call hKept hCall) ⟨rfl, ?_, fun _ => rfl, ?_⟩ hPlain)
  · exact fun hAccepted => Bool.noConfusion hAccepted
  · exact nil_suffix

/- A phone is observed and then confirmed with another one. -/
theorem run_remembers_two :
    Remembers "" (run {} [.upsert { phone := "+1 (613) 465-5704" } {},
      .record { phone := "+14155550100" } {}]) :=
  run_remembers "" {} _ ⟨by decide +kernel, by decide +kernel, trivial⟩

/- A short phone after `00` is normalized to one that is not accepted when it is read. -/
theorem short_phone_not_reported :
    ¬ ∀ (now : String) (extra : Extra) (calls : List Call), Remembers now (run extra calls) := by
  intro hAll
  have hNumber := (hAll "" {} [.upsert { phone := "00123456" } {}]).number (by decide +kernel)
  exact absurd hNumber (by decide +kernel)

end BoundPhone
