import AutoGpt.PhonePool.Lines

/-
  Reading back the lines of `to_phone_items`. The import takes
  the second part of the line and the delivery all that
  follows the first separator, so both give the URL back when
  the line has no date and the URL has no separator.

  Main theorems: `imported_iff`, `delivered_iff`, `line_decodes_iff`
-/

open PyText (isSpace)
open List

----
-- Phones
----

namespace PhoneLines

open PySplit

/- What `normalize_phone` gives for a text with digits. -/
def NormalizedPhone (phone : Text) : Prop := phone ≠ [] ∧ ∃ value, phone = normalize_phone value

theorem normalized_digits {phone : Text} (hPhone : NormalizedPhone phone) :
    ∃ digits, phone = '+' :: digits ∧ digits ≠ [] ∧ ∀ c ∈ digits, isDigit c := by
  rcases hPhone with ⟨hSome, value, rfl⟩
  unfold normalize_phone at hSome ⊢
  dsimp only at hSome ⊢
  by_cases hDigits : value.filter isDigit = []
  · rw [if_pos hDigits] at hSome
    exact absurd rfl hSome
  · rw [if_neg hDigits]
    exact ⟨_, rfl, hDigits, fun c hMem => (mem_filter.mp hMem).2⟩

/- A normalized phone is its own normalization, and has neither white space nor dashes. -/
theorem normalize_normalized {phone : Text} (hPhone : NormalizedPhone phone) :
    normalize_phone phone = phone := by
  rcases normalized_digits hPhone with ⟨digits, rfl, hSome, hDigits⟩
  unfold normalize_phone
  have hFilter : ('+' :: digits).filter isDigit = digits := by
    rw [filter_cons_of_neg (by decide +kernel), filter_eq_self.mpr hDigits]
  rw [hFilter]
  exact if_neg hSome

theorem normalized_plain {phone : Text} (hPhone : NormalizedPhone phone) (hMem : c ∈ phone) :
    isSpace c = false ∧ c ≠ '-' := by
  rcases normalized_digits hPhone with ⟨digits, rfl, -, hDigits⟩
  rcases mem_cons.mp hMem with rfl | hDigit
  · decide
  · refine ⟨not_space_of_isDigit (hDigits c hDigit), ?_⟩
    rintro rfl
    have hDash : isDigit '-' = false := by decide +kernel
    have hIs := hDigits '-' hDigit
    rw [hDash] at hIs
    cases hIs

end PhoneLines

----
-- Lines
----

namespace PhoneLines

open PySplit

/- The line of a phone, with what follows the separator. -/
def lineText (phone rest : Text) : Text := phone ++ (dashes ++ rest)

theorem cut_line (hPhone : NormalizedPhone phone) :
    cut dashes (lineText phone rest) = some (phone, rest) :=
  cut_append fun hDash => (normalized_plain hPhone hDash).2 rfl

theorem dashes_in_line : dashes <:+: lineText phone rest :=
  ⟨phone, rest, by rw [lineText, append_assoc]⟩

theorem line_ne_nil : lineText phone rest ≠ [] := by
  unfold lineText dashes
  simp

theorem plain_of_all {text : Text} (hAll : text.all (fun c => !isSpace c)) :
    ∀ c ∈ text, isSpace c = false := by
  intro c hMem
  have hIs := all_eq_true.mp hAll c hMem
  rw [Bool.not_eq_true'] at hIs
  exact hIs

theorem dashes_plain : ∀ c ∈ dashes, isSpace c = false := plain_of_all (by decide)

theorem line_plain (hPhone : NormalizedPhone phone) (hRest : ∀ c ∈ rest, isSpace c = false)
    (hMem : c ∈ lineText phone rest) : isSpace c = false := by
  rcases mem_append.mp hMem with hMine | hMem
  · exact (normalized_plain hPhone hMine).1
  rcases mem_append.mp hMem with hDash | hTail
  · exact dashes_plain c hDash
  · exact hRest c hTail

/- Stripping a text whose start is plain takes away from its end only. -/
theorem strip_append (hPlain : ∀ c ∈ phone, isSpace c = false) (hSome : phone ≠ []) :
    strip (phone ++ rest) = phone ++ rest.rdropWhile isSpace := by
  have hLeft : (phone ++ rest).dropWhile isSpace = phone ++ rest := by
    cases phone with
    | nil => exact absurd rfl hSome
    | cons c phone =>
      rw [cons_append, dropWhile_cons_of_neg]
      simp [hPlain c mem_cons_self]
  unfold strip
  rw [hLeft]
  unfold rdropWhile
  rw [reverse_append, dropWhile_append]
  split
  next hNone =>
    rw [List.isEmpty_iff] at hNone
    have hRight : phone.reverse.dropWhile isSpace = phone.reverse := by
      cases hLast : phone.reverse with
      | nil => rfl
      | cons c before =>
        rw [dropWhile_cons_of_neg]
        have hMem : c ∈ phone := by
          rw [← mem_reverse, hLast]
          exact mem_cons_self
        simp [hPlain c hMem]
    rw [hRight, hNone, reverse_reverse]
    simp
  · rw [reverse_append, reverse_reverse]

def secondPart (rest : Text) : Text :=
  match cut dashes rest with
  | none => rest
  | some (before, _) => before

theorem splitMax_succ_head (n : Nat) :
    (splitMax dashes (n + 1) rest).headD [] = secondPart rest := by
  unfold splitMax secondPart
  cases cut dashes rest with
  | none => rfl
  | some p => rfl

theorem split_line (hPhone : NormalizedPhone phone) :
    ∃ parts, split dashes (lineText phone rest) = phone :: parts ∧
        parts.headD [] = secondPart rest ∧ parts ≠ [] := by
  have hLong : 2 ≤ (lineText phone rest).length := by
    unfold lineText dashes
    simp
    omega
  rcases Nat.exists_eq_add_of_le hLong with ⟨n, hLength⟩
  unfold split
  rw [hLength, Nat.add_comm 2 n]
  refine ⟨splitMax dashes (n + 1) rest, ?_, ?_, ?_⟩
  · rw [splitMax, cut_line hPhone]
  · exact splitMax_succ_head n
  · unfold splitMax
    cases cut dashes rest with
    | none => exact cons_ne_nil _ _
    | some p => exact cons_ne_nil _ _

theorem secondPart_eq_iff : secondPart url = url ↔ ¬ dashes <:+: url := by
  rw [← cut_eq_none_iff]
  unfold secondPart
  cases hCut : cut dashes url with
  | none => simp
  | some p =>
    have hUrl := eq_of_cut hCut
    simp only [reduceCtorEq, iff_false]
    intro hSame
    have hLength := congrArg List.length hUrl
    rw [length_append, length_append, hSame] at hLength
    unfold dashes at hLength
    simp at hLength
    omega

end PhoneLines

----
-- Import
----

namespace PhoneLines

open PySplit

variable {env : Env}
/- What the import takes from a plain line. -/
theorem parse_line (hPhone : NormalizedPhone phone) (hPlain : ∀ c ∈ rest, isSpace c = false) :
    match valid_api_url env (strip (secondPart rest)) with
    | .error () => parseLine env {} 1 (lineText phone rest) = .error ()
    | .ok false => ∃ parsed,
          parseLine env {} 1 (lineText phone rest) = .ok parsed ∧ parsed.entries_by_phone = []
    | .ok true => ∃ parsed, parseLine env {} 1 (lineText phone rest) = .ok parsed ∧
            parsed.entries_by_phone = [(phone,
                { index := 1, phone := phone, api_url := strip (secondPart rest),
                  line := lineText phone rest })] := by
  have hStrip : strip (lineText phone rest) = lineText phone rest :=
    strip_of_plain fun c hMem => line_plain hPhone hPlain hMem
  have hHead : (lineText phone rest).head? ≠ some '#' := by
    rcases normalized_digits hPhone with ⟨digits, rfl, -⟩
    unfold lineText
    simp
  have hNormal : phone ≠ [] := hPhone.1
  rcases @split_line _ rest hPhone with ⟨parts, hSplit, hSecond, hMore⟩
  have hParts : split_import_phone_api_line (lineText phone rest) =
        (phone, secondPart rest, phone :: parts) := by
    unfold split_import_phone_api_line
    rw [hStrip]
    rw [if_neg line_ne_nil, if_pos dashes_in_line, hSplit]
    unfold firstParts
    rw [headD_cons, tail_cons, hSecond]
  have hLength : ¬ (phone :: parts).length < 2 := by
    have hPos := length_pos_of_ne_nil hMore
    rw [length_cons]
    omega
  have hLine : ¬ (lineText phone rest = [] ∨ (lineText phone rest).head? = some '#') :=
    not_or.mpr ⟨line_ne_nil, hHead⟩
  unfold parseLine
  rw [hStrip, if_neg hLine, hParts]
  dsimp only
  rw [if_neg hLength, normalize_normalized hPhone]
  cases hValid : valid_api_url env (strip (secondPart rest)) with
  | error e => rfl
  | ok valid =>
    cases valid with
    | false =>
      dsimp only
      rw [if_neg hNormal, if_pos rfl]
      exact ⟨_, rfl, rfl⟩
    | true =>
      dsimp only
      rw [if_neg hNormal, if_neg (by decide)]
      exact ⟨_, rfl, rfl⟩

/- The entries of the import of a plain line. -/
theorem import_line (hPhone : NormalizedPhone phone) (hPlain : ∀ c ∈ rest, isSpace c = false) :
    match valid_api_url env (strip (secondPart rest)) with
    | .error () => parse_import_lines env (lineText phone rest) = .error ()
    | .ok valid => ∃ reports, parse_import_lines env (lineText phone rest) = .ok
              (if valid then
                [{ index := 1, phone := phone, api_url := strip (secondPart rest),
                   line := lineText phone rest }]
                else [], reports) := by
  have hLines : splitlines (lineText phone rest) = [lineText phone rest] := by
    apply splitlines_of_plain _ line_ne_nil
    intro c hMem
    have hSpace := line_plain hPhone hPlain hMem
    cases hBreak : isLineBreak c with
    | false => rfl
    | true =>
      rw [isSpace_of_isLineBreak hBreak] at hSpace
      cases hSpace
  have hLine := @parse_line env _ _ hPhone hPlain
  unfold parse_import_lines
  rw [hLines]
  unfold parseLines
  cases hValid : valid_api_url env (strip (secondPart rest)) with
  | error e =>
    rw [hValid] at hLine
    dsimp only at hLine ⊢
    rw [hLine]
  | ok valid =>
    rw [hValid] at hLine
    cases valid with
    | false =>
      rcases hLine with ⟨parsed, hParsed, hEntries⟩
      refine ⟨(parsed.errors, parsed.warnings, parsed.deduped), ?_⟩
      rw [hParsed]
      dsimp only [parseLines]
      rw [hEntries]
      simp
    | true =>
      rcases hLine with ⟨parsed, hParsed, hEntries⟩
      refine ⟨(parsed.errors, parsed.warnings, parsed.deduped), ?_⟩
      rw [hParsed]
      dsimp only [parseLines]
      rw [hEntries]
      simp

/- The import of a line gives a phone and a URL. -/
def Imported (env : Env) (line phone url : Text) : Prop := ∃ entries reports,
    parse_import_lines env line = .ok (entries, reports) ∧
      entries.map (fun entry => (entry.phone, entry.api_url)) = [(phone, url)]

theorem imported_iff (hPhone : NormalizedPhone phone) (hPlain : ∀ c ∈ url, isSpace c = false)
    (hValid : valid_api_url env url = .ok true) :
    Imported env (lineText phone url) phone url ↔ ¬ dashes <:+: url := by
  rw [← secondPart_eq_iff]
  have hImport := @import_line env _ _ hPhone hPlain
  constructor
  · rintro ⟨entries, reports, hParse, hEntries⟩
    cases hSecond : valid_api_url env (strip (secondPart url)) with
    | error e =>
      rw [hSecond] at hImport
      rw [hImport] at hParse
      cases hParse
    | ok valid =>
      rw [hSecond] at hImport
      rcases hImport with ⟨reports', hSame⟩
      rw [hSame, Except.ok.injEq, Prod.mk.injEq] at hParse
      rw [← hParse.1] at hEntries
      cases valid with
      | false => cases hEntries
      | true =>
        have hUrl : strip (secondPart url) = url := by simpa using hEntries
        have hPart : strip (secondPart url) = secondPart url := by
          apply strip_of_plain
          intro c hMem
          apply hPlain c
          unfold secondPart at hMem
          cases hCut : cut dashes url with
          | none =>
            rw [hCut] at hMem
            exact hMem
          | some p =>
            rw [hCut] at hMem
            rw [eq_of_cut hCut, append_assoc]
            exact mem_append_left _ hMem
        exact hPart.symm.trans hUrl
  · intro hSecond
    rw [hSecond, strip_of_plain hPlain, hValid] at hImport
    rcases hImport with ⟨reports, hParse⟩
    exact ⟨_, reports, hParse, rfl⟩

end PhoneLines

----
-- Delivery
----

namespace PhoneLines

open PySplit

/- A binding that holds the phone and the line of an item, and no URL of its own. -/
def Binding.ofLine (binding : Binding) (phone line : Text) : Binding :=
  { binding with phone := phone, raw_line := line, api_url := [], sms_api := [] }

/- The delivery of a line gives a phone and a URL. -/
def Delivered (pool_url : Text → Text) (binding : Binding) (line phone url : Text) : Prop :=
  (account_phone_binding_payload pool_url (some (binding.ofLine phone line))).phone = phone ∧
    (account_phone_binding_payload pool_url (some (binding.ofLine phone line))).api_url = url

theorem delivered_rest (hPhone : NormalizedPhone phone) (binding : Binding) {line rest : Text}
    (hLine : strip line = lineText phone rest) (hSome : strip rest ≠ []) :
    Delivered pool_url binding line phone url ↔ strip rest = url := by
  have hNormal := normalize_normalized hPhone
  have hUrl : binding_api_url pool_url (binding.ofLine phone line) = strip rest := by
    have hSplit : splitMax dashes 1 (lineText phone rest) = [phone, rest] := by
      rw [splitMax, cut_line hPhone]
      rfl
    unfold binding_api_url Binding.ofLine
    dsimp only
    rw [hLine, hSplit, hNormal]
    have hEmpty : strip (orElse [] []) = [] := rfl
    have hFallback :
        ([] : Text) = [] ∧ lineText phone rest ≠ [] ∧ dashes <:+: lineText phone rest :=
      ⟨rfl, line_ne_nil, dashes_in_line⟩
    rw [hEmpty, if_pos hFallback]
    exact if_neg fun hBoth => hSome hBoth.1
  have hPayload : (account_phone_binding_payload pool_url
          (some (binding.ofLine phone line))).phone = phone ∧
        (account_phone_binding_payload pool_url
            (some (binding.ofLine phone line))).api_url =
          strip rest := by
    unfold account_phone_binding_payload
    rw [Option.getD_some]
    have hOwn : normalize_phone (binding.ofLine phone line).phone = phone := hNormal
    dsimp only
    rw [hOwn, if_neg hPhone.1]
    exact ⟨rfl, hUrl⟩
  unfold Delivered
  rw [hPayload.1, hPayload.2]
  simp

/- The line of a phone, a URL and a date, if there is one. -/
def dateLine (phone url date : Text) : Text :=
  if date = [] then lineText phone url
  else lineText phone url ++ (dashes ++ date)

theorem delivered_iff (hPhone : NormalizedPhone phone)
    (hPlain : ∀ c ∈ url, isSpace c = false) (hSome : url ≠ []) (binding : Binding) :
    Delivered pool_url binding (dateLine phone url date) phone url ↔ date = [] := by
  have hDashes := dashes_plain
  unfold dateLine
  by_cases hDate : date = []
  · rw [if_pos hDate]
    have hStrip := strip_of_plain hPlain
    rw [delivered_rest hPhone binding (strip_of_plain fun c hMem => line_plain hPhone hPlain hMem)
        (by rw [hStrip]; exact hSome), hStrip]
    simp [hDate]
  · rw [if_neg hDate]
    let trimmed := date.rdropWhile isSpace
    have hLonger : ∀ c ∈ url ++ dashes, isSpace c = false := by
      intro c hMem
      rcases mem_append.mp hMem with hUrl | hDash
      · exact hPlain c hUrl
      · exact hDashes c hDash
    have hLine : strip (lineText phone url ++ (dashes ++ date)) =
          lineText phone ((url ++ dashes) ++ trimmed) := by
      have hShape :
          lineText phone url ++ (dashes ++ date) = lineText phone (url ++ dashes) ++ date := by
        simp [lineText]
      rw [hShape, strip_append (fun c hMem => line_plain hPhone hLonger hMem) line_ne_nil]
      simp [lineText, trimmed]
    have hRest :
        strip ((url ++ dashes) ++ trimmed) = (url ++ dashes) ++ trimmed.rdropWhile isSpace :=
      strip_append hLonger (by simp [hSome])
    rw [delivered_rest hPhone binding hLine (by rw [hRest]; simp [hSome]), hRest]
    constructor
    · intro hSame
      have hLength := congrArg List.length hSame
      rw [length_append, length_append] at hLength
      unfold dashes at hLength
      simp at hLength
      omega
    · intro hNone
      exact absurd hNone hDate

end PhoneLines

----
-- Items
----

namespace PhoneLines

open PySplit

/- Both readers give back the phone and the URL of an item. -/
structure Decodes (env : Env) (pool_url : Text → Text)
    (binding : Binding) (item : PhoneItem) : Prop where
  imported : Imported env item.raw_line item.phone item.api_url
  delivered : Delivered pool_url binding item.raw_line item.phone item.api_url

theorem item_line (hItem : phoneItem resolve line_no record = .ok item) :
    item.raw_line = dateLine item.phone item.api_url
        item.api_expired_date := by
  unfold phoneItem at hItem
  split at hItem
  · cases hItem
    rfl
  · cases hItem
  · cases hItem
    rfl

theorem itemsFrom_line
    (hItems : itemsFrom resolve line_no records = .ok items) (hItem : item ∈ items) :
    item.raw_line = dateLine item.phone item.api_url
        item.api_expired_date := by
  induction records generalizing line_no items with
  | nil =>
    cases hItems
    cases hItem
  | cons record records ih =>
    unfold itemsFrom at hItems
    split at hItems
    · cases hItems
    next first hFirst =>
      split at hItems
      · cases hItems
      next rest hRest =>
        cases hItems
        rcases mem_cons.mp hItem with rfl | hLater
        · exact item_line hFirst
        · exact ih hRest hLater

theorem valid_ne_nil {url : Text} (hValid : valid_api_url env url = .ok true) : url ≠ [] := by
  rintro rfl
  unfold valid_api_url at hValid
  dsimp only at hValid
  split at hValid
  · cases hValid
  · cases hValid

/- The line of an item with a normalized phone and a valid URL without white space gives both back
   to both readers when it has no date and the URL has no separator. -/
theorem line_decodes_iff (env : Env) (resolve : Nat → Text → Except ResolveError PhoneApiResolution)
    (records : List PhonePoolRecord) (limit_accounts : Int) (expand_capacity : Bool)
    (items : List PhoneItem)
    (hItems : to_phone_items resolve records limit_accounts expand_capacity = .ok items)
    (item : PhoneItem) (hItem : item ∈ items) (hPhone : NormalizedPhone item.phone)
    (hValid : valid_api_url env item.api_url = .ok true)
    (hPlain : ∀ c ∈ item.api_url, isSpace c = false) (pool_url : Text → Text) (binding : Binding) :
    Decodes env pool_url binding item ↔
      item.api_expired_date = [] ∧ ¬ dashes <:+: item.api_url := by
  have hLine := itemsFrom_line hItems hItem
  have hDelivered : Delivered pool_url binding
          (dateLine item.phone item.api_url item.api_expired_date) item.phone item.api_url ↔
        item.api_expired_date = [] := delivered_iff hPhone hPlain (valid_ne_nil hValid) binding
  constructor
  · intro hDecodes
    have hGiven := hDecodes.delivered
    rw [hLine] at hGiven
    have hDate := hDelivered.mp hGiven
    have hImported := hDecodes.imported
    rw [hLine, hDate] at hImported
    exact ⟨hDate, (imported_iff hPhone hPlain hValid).mp hImported⟩
  · rintro ⟨hDate, hNone⟩
    rw [hDate] at hLine
    refine ⟨?_, ?_⟩
    · rw [hLine]
      exact (imported_iff hPhone hPlain hValid).mpr hNone
    · rw [hDate] at hDelivered
      rw [hLine]
      exact hDelivered.mpr rfl

/- Network locations without brackets pass the checks. -/
def plainEnv : Env where
  netloc_ok := fun netloc => !netloc.contains '['

def direct (_ : Nat) (url : Text) :
    Except ResolveError PhoneApiResolution :=
  .ok
    { request_api_url := url, source_api_host := [], forwarded_api_host := [], forwarded := false,
      status := "direct" }

def sampleRecord (date : Text) : PhonePoolRecord where
  id := 1
  phone_e164 := "+1415".toList
  api_url := "http://a/x".toList
  api_expired_date := date
  remaining_capacity := 3

def sampleItem (date : Text) : PhoneItem where
  pool_id := 1
  line_no := 1
  phone := "+1415".toList
  api_url := "http://a/x".toList
  source_api_url := "http://a/x".toList
  source_api_host := []
  forwarded_api_url := []
  forwarded_api_host := []
  api_forwarded := false
  forward_status := "direct"
  api_expired_date := date
  raw_line := dateLine "+1415".toList "http://a/x".toList date

theorem sampleItem_made (date : Text) :
    to_phone_items direct [sampleRecord date] 0 false = .ok [sampleItem date] := rfl

theorem sample_phone : NormalizedPhone "+1415".toList :=
  ⟨by decide, "1415".toList, by decide +kernel⟩

theorem sample_url : valid_api_url plainEnv "http://a/x".toList = .ok true := by decide +kernel

theorem sample_url_plain : ∀ c ∈ "http://a/x".toList, isSpace c = false :=
  plain_of_all (by decide +kernel)

/- The line of a record without a date is read back. -/
theorem line_decodes_iff_direct : Decodes plainEnv (fun _ => []) {} (sampleItem []) :=
  (line_decodes_iff plainEnv direct [sampleRecord []] 0 false [sampleItem []] (sampleItem_made [])
      (sampleItem []) (mem_singleton_self _) sample_phone
      sample_url sample_url_plain (fun _ => []) {}).mpr ⟨rfl, by decide +kernel⟩

/- The delivery takes the date for a part of the URL. -/
theorem dated_line_delivered :
    ¬ (∀ (env : Env) (resolve : Nat → Text → Except ResolveError PhoneApiResolution)
        (records : List PhonePoolRecord) (items : List PhoneItem) (item : PhoneItem)
        (pool_url : Text → Text) (binding : Binding),
        to_phone_items resolve records 0 false = .ok items → item ∈ items →
          NormalizedPhone item.phone → valid_api_url env item.api_url = .ok true →
          (∀ c ∈ item.api_url, isSpace c = false) → Decodes env pool_url binding item) := by
  intro hAll
  have hDecodes := hAll plainEnv direct [sampleRecord "2026-07-01".toList]
      [sampleItem "2026-07-01".toList] (sampleItem "2026-07-01".toList) (fun _ => []) {}
      (sampleItem_made _) (mem_singleton_self _) sample_phone sample_url sample_url_plain
  have hDate : "2026-07-01".toList = [] :=
    (delivered_iff sample_phone sample_url_plain (valid_ne_nil sample_url) {}).mp hDecodes.delivered
  cases hDate

end PhoneLines
