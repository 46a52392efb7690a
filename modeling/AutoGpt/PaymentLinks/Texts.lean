import AutoGpt.PaymentLinks.Import

/-
  Texts and payloads that normalisation leaves as they are:
  what the import writes into a target is what its next
  snapshot reads, and a link it wrote has the time of its
  source row.

  Main theorems: `parsed_of_mem`, `normalized_link_type_of_parsed`, `replaced_withCurrentLink`
-/

open PyText (isSpace strip)
open List

----
-- The Python Functions
----

namespace PaymentLinks

/- What Python documents of the functions in `Env`: lower case of ASCII text, no ASCII capital in
   lower case text, a text whose lower case is ASCII has as many characters, and an ISO text reads
   as the epoch it was made of. -/
structure Env.Lawful (env : Env) : Prop where
  lower_ascii : ∀ s : String, (∀ c ∈ s.toList, c.toNat < 128) →
      env.lower s = String.ofList (s.toList.map Char.toLower)
  lower_not_upper : ∀ s : String, ∀ c ∈ (env.lower s).toList, c.isUpper = false
  lower_length : ∀ s : String, (∀ c ∈ (env.lower s).toList, c.toNat < 128) →
      (env.lower s).toList.length ≤ s.toList.length
  iso_plain : ∀ t, strip (env.iso_epoch t) = env.iso_epoch t ∧ (env.iso_epoch t).toList.length ≤ 128
  iso_reads : ∀ t, env.iso_epoch t ≠ "" →
      env.float_text (env.iso_epoch t) = none ∧ env.iso_time (env.iso_epoch t) = some (t : ℚ)

----
-- Stripped And Truncated Texts
----

@[simp] theorem strip_empty : strip "" = "" := by decide

@[simp] theorem str_text (s : String) : (Value.text s).str = s := by
  unfold Value.str Value.truthy Value.show
  by_cases hs : s = ""
  · simp [hs]
  · simp [hs]

theorem toList_truncate (limit : Nat) (s : String) :
    (truncate limit s).toList = s.toList.take limit := by
  unfold truncate
  rw [String.toList_ofList]

theorem truncate_of_le (hShort : s.toList.length ≤ limit) : truncate limit s = s := by
  unfold truncate
  rw [take_of_length_le hShort, String.ofList_toList]

theorem safe_text_of_strip (hStrip : strip s = s) (hShort : s.toList.length ≤ limit) :
    safe_text limit (.text s) = s := by
  unfold safe_text
  rw [str_text, hStrip, truncate_of_le hShort]

theorem length_safe_text (limit : Nat) (v : Value) : (safe_text limit v).toList.length ≤ limit := by
  unfold safe_text
  rw [toList_truncate]
  exact length_take_le _ _

theorem strip_append (c : Char) (cs : List Char) (hc : isSpace c = false)
    (hStrip : strip s = s) (hGiven : s ≠ "") :
    strip (String.ofList (c :: cs) ++ s) = String.ofList (c :: cs) ++ s := by
  have hList : (String.ofList (c :: cs) ++ s).toList = c :: (cs ++ s.toList) := by
    rw [String.toList_append, String.toList_ofList, cons_append]
  have hStripped : (s.toList.dropWhile isSpace).rdropWhile isSpace = s.toList := by
    have hCopy := congrArg String.toList hStrip
    unfold strip at hCopy
    rwa [String.toList_ofList] at hCopy
  have hne : s.toList ≠ [] := by
    intro hNil
    apply hGiven
    rw [← String.ofList_toList (s := s), hNil]
  have hLast : isSpace (s.toList.getLast hne) = false := by
    have hDrop := rdropWhile_last_not isSpace (s.toList.dropWhile isSpace)
        (by rw [hStripped]; exact hne)
    simp only [hStripped] at hDrop
    simpa using hDrop
  unfold strip
  rw [PyText.strip_of_ends, String.ofList_toList]
  · intro d hd
    rw [hList] at hd
    rwa [← Option.some.inj hd]
  · rw [hList]
    intro hCons
    rwa [getLast_cons (by simp [hne]), getLast_append_of_right_ne_nil _ _ hne]

----
-- Link Types
----

variable {env : Env}

def isTypeChar (c : Char) : Bool := c.isAlphanum || c == '_'

variable {c : Char}

theorem toNat_of_isTypeChar (hc : isTypeChar c) :
    (48 ≤ c.toNat ∧ c.toNat ≤ 57) ∨ (65 ≤ c.toNat ∧ c.toNat ≤ 90) ∨ c.toNat = 95 ∨
      (97 ≤ c.toNat ∧ c.toNat ≤ 122) := by
  unfold isTypeChar Char.isAlphanum Char.isAlpha Char.isUpper Char.isLower Char.isDigit at hc
  simp only [Bool.or_eq_true, Bool.and_eq_true, decide_eq_true_eq, beq_iff_eq] at hc
  unfold Char.toNat
  rcases hc with ((hUpper | hLower) | hDigit) | hLine
  · exact .inr (.inl hUpper)
  · exact .inr (.inr (.inr hLower))
  · exact .inl hDigit
  · subst hLine
    exact .inr (.inr (.inl rfl))

theorem isSpace_of_isTypeChar (hc : isTypeChar c) : isSpace c = false := by
  have hRange := toNat_of_isTypeChar hc
  unfold isSpace
  simp only [mem_cons, not_mem_nil, or_false, decide_eq_false_iff_not]
  omega

structure TypeText (s : String) : Prop where
  given : s ≠ ""
  plain : ∀ c ∈ s.toList, isTypeChar c
  lower : ∀ c ∈ s.toList, c.isUpper = false
  short : s.toList.length ≤ 64

instance (s : String) : Decidable (TypeText s) := decidable_of_iff
    (s ≠ "" ∧ s.toList.all isTypeChar ∧
      s.toList.all (fun c => !c.isUpper) ∧ s.toList.length ≤ 64)
    (by
      simp only [all_eq_true, Bool.not_eq_true']
      exact
        ⟨fun h => ⟨h.1, h.2.1, h.2.2.1, h.2.2.2⟩, fun h => ⟨h.given, h.plain, h.lower, h.short⟩⟩)

theorem toList_underscored (s : String) :
    (underscored s).toList = s.toList.map (fun c => if c = '-' then '_' else c) := by
  unfold underscored
  rw [String.toList_ofList]

theorem toLower_of_not_upper (hc : c.isUpper = false) : c.toLower = c := by
  exact dif_neg (of_decide_eq_false hc)

theorem lower_of_typeText (hEnv : env.Lawful) (hText : TypeText s) : env.lower s = s := by
  rw [hEnv.lower_ascii s]
  · have hSame : s.toList.map Char.toLower = s.toList := by
      conv_rhs => rw [← map_id s.toList]
      apply map_congr_left
      intro c hc
      exact toLower_of_not_upper (hText.lower c hc)
    rw [hSame, String.ofList_toList]
  · intro c hc
    have hRange := toNat_of_isTypeChar (hText.plain c hc)
    omega

theorem underscored_of_typeText (hText : TypeText s) : underscored s = s := by
  have hSame : s.toList.map (fun c => if c = '-' then '_' else c) = s.toList := by
    conv_rhs => rw [← map_id s.toList]
    apply map_congr_left
    intro c hc
    have hNot : c ≠ '-' := by
      intro hBad
      have hRange := toNat_of_isTypeChar (hText.plain c hc)
      have hDash : '-'.toNat = 45 := rfl
      rw [hBad] at hRange
      omega
    rw [if_neg hNot]
    rfl
  unfold underscored
  rw [hSame, String.ofList_toList]

theorem isIdentifier_of_typeText (hText : TypeText s) : isIdentifier s := by
  unfold isIdentifier
  rw [all_eq_true]
  exact hText.plain

theorem normalized_link_type_of_typeText (hEnv : env.Lawful) (hText : TypeText s) :
    normalized_link_type env (.text s) = s := by
  have hStrip : strip s = s := PyText.strip_of_plain fun c hc =>
      isSpace_of_isTypeChar (hText.plain c hc)
  unfold normalized_link_type
  rw [safe_text_of_strip hStrip hText.short, lower_of_typeText hEnv hText,
    underscored_of_typeText hText, if_neg hText.given, if_pos (isIdentifier_of_typeText hText)]

theorem typeText_normalized (hEnv : env.Lawful) (v : Value) :
    TypeText (normalized_link_type env v) := by
  unfold normalized_link_type
  dsimp only
  split
  · decide +kernel
  next hGiven =>
    split
    next hPlain =>
      unfold isIdentifier at hPlain
      rw [all_eq_true] at hPlain
      have hAscii : ∀ c ∈ (env.lower (safe_text 64 v)).toList, c.toNat < 128 := by
        intro c hc
        have hMem :
            (if c = '-' then '_' else c) ∈ (underscored (env.lower (safe_text 64 v))).toList := by
          rw [toList_underscored]
          exact mem_map.mpr ⟨c, hc, rfl⟩
        have hRange := toNat_of_isTypeChar (hPlain _ hMem)
        by_cases hDash : c = '-'
        · have hCode : '-'.toNat = 45 := rfl
          rw [hDash]
          omega
        · rw [if_neg hDash] at hRange
          omega
      constructor
      · exact hGiven
      · exact hPlain
      · intro c hc
        rw [toList_underscored] at hc
        rcases mem_map.mp hc with ⟨d, hd, hEq⟩
        by_cases hDash : d = '-'
        · rw [if_pos hDash] at hEq
          rw [← hEq]
          decide
        · rw [if_neg hDash] at hEq
          rw [← hEq]
          exact hEnv.lower_not_upper _ d hd
      · rw [toList_underscored, length_map]
        exact Nat.le_trans (hEnv.lower_length _ hAscii) (length_safe_text 64 v)
    · decide +kernel

----
-- Parsed Source Links
----

structure SourceLink.Parsed (env : Env) (s : SourceLink) : Prop where
  job_given : s.job_id ≠ ""
  job_short : s.job_id.toList.length ≤ 96
  url_checked : ∃ v, valid_http_url env v = s.url
  url_given : s.url ≠ ""
  completed : 0 < s.completed_at
  dated : env.iso_epoch s.completed_at ≠ ""
  typed : TypeText s.link_type

/- The texts of the link end in no blank where they were cut off. -/
structure SourceLink.Stable (s : SourceLink) : Prop where
  job : strip s.job_id = s.job_id
  url : strip s.url = s.url

theorem typeText_source_link_type (hEnv : env.Lawful) (row : SourceRow) (url : String) :
    TypeText (source_link_type env row url) := by
  unfold source_link_type
  dsimp only
  split
  next hNamed =>
    rcases hNamed with hPix | hUpi
    · rw [hPix]
      decide +kernel
    · rw [hUpi]
      decide +kernel
  · exact typeText_normalized hEnv row.link_type

variable {s : SourceLink}
theorem parsed_source_link (hEnv : env.Lawful) (expiry : Option Int)
    (hJob : safe_text 96 row.job_id ≠ "") (hUrl : valid_http_url env row.long_url ≠ "")
    (hCompleted : 0 < completed ∧ env.iso_epoch completed ≠ "") :
    (source_link env row (valid_http_url env row.long_url) completed expiry).Parsed env := by
  have hShort := length_safe_text 96 row.job_id
  have hType := typeText_source_link_type hEnv row (valid_http_url env row.long_url)
  unfold source_link
  generalize safe_text 96 row.job_id = job at hJob hShort
  constructor
  · exact hJob
  · exact hShort
  · exact ⟨row.long_url, rfl⟩
  · exact hUrl
  · exact hCompleted.1
  · exact hCompleted.2
  · exact hType

theorem parsed_of_row (hEnv : env.Lawful) (hRow : parse_source_row env row = .ok (.ok s)) :
    s.Parsed env := by
  unfold parse_source_row at hRow
  dsimp only at hRow
  cases hInt : int_float env row.completed_at with
  | error e =>
    rw [hInt] at hRow
    cases hRow
  | ok completed =>
    rw [hInt] at hRow
    dsimp only at hRow
    split at hRow
    · cases hRow
    next hJob =>
      split at hRow
      · cases hRow
      · split at hRow
        · cases hRow
        next hUrl =>
          cases hDate : completed.filter (fun t => decide (0 < t ∧ env.iso_epoch t ≠ "")) with
          | none =>
            rw [hDate] at hRow
            cases hRow
          | some t =>
            rw [hDate] at hRow
            have hTime := (Option.filter_eq_some_iff.mp hDate).2
            rw [decide_eq_true_eq] at hTime
            dsimp only at hRow
            split at hRow
            · split at hRow
              · cases hRow
              · cases hRow
                exact parsed_source_link hEnv _ hJob hUrl hTime
            · cases hRow
              exact parsed_source_link hEnv _ hJob hUrl hTime

theorem mem_parse_source_rows (hRows : parse_source_rows env rows = .ok sources)
    (hMem : s ∈ sources) : ∃ row ∈ rows, parse_source_row env row = .ok (.ok s) := by
  unfold parse_source_rows at hRows
  cases hAll : rows.mapM (parse_source_row env) with
  | error e =>
    rw [hAll] at hRows
    cases hRows
  | ok results =>
    rw [hAll] at hRows
    cases hRows
    rcases mem_filterMap.mp hMem with ⟨x, hx, hOk⟩
    have hIs : x = .ok s := by
      cases x with
      | error e => cases hOk
      | ok y =>
        cases hOk
        rfl
    subst hIs
    clear hMem hOk
    induction rows generalizing results with
    | nil =>
      cases hAll
      cases hx
    | cons row rows ih =>
      rw [mapM_cons] at hAll
      cases hOne : parse_source_row env row with
      | error e =>
        rw [hOne] at hAll
        cases hAll
      | ok y =>
        rw [hOne] at hAll
        cases hRest : rows.mapM (parse_source_row env) with
        | error e =>
          rw [hRest] at hAll
          cases hAll
        | ok ys =>
          rw [hRest] at hAll
          cases hAll
          rcases mem_cons.mp hx with hHead | hTail
          · refine ⟨row, mem_cons_self, ?_⟩
            rw [hOne, ← hHead]
          · rcases ih ys hRest hTail with
              ⟨other, hOther, hRow⟩
            exact ⟨other, mem_cons_of_mem _ hOther, hRow⟩

theorem parsed_of_mem (hEnv : env.Lawful) (hRows : parse_source_rows env rows = .ok sources)
    (hMem : s ∈ sources) : s.Parsed env := by
  rcases mem_parse_source_rows hRows hMem with ⟨row, -, hRow⟩
  exact parsed_of_row hEnv hRow

theorem valid_http_url_of_parsed (hParsed : s.Parsed env) (hStable : s.Stable) :
    valid_http_url env (.text s.url) = s.url := by
  rcases hParsed.url_checked with ⟨v, hv⟩
  have hGiven := hParsed.url_given
  have hSafe : safe_text 10000 v = s.url := by
    unfold valid_http_url at hv
    dsimp only at hv
    split at hv
    · exact absurd hv.symm hGiven
    · split at hv
      · exact absurd hv.symm hGiven
      · split at hv
        · exact absurd hv.symm hGiven
        · exact hv
  have hShort := length_safe_text 10000 v
  rw [hSafe] at hShort
  have hText : safe_text 10000 (.text s.url) = safe_text 10000 v := by
    rw [safe_text_of_strip hStable.url hShort, hSafe]
  have hSame : valid_http_url env (.text s.url) = valid_http_url env v := by
    unfold valid_http_url
    rw [hText]
  rw [hSame, hv]

----
-- The Payload Of A Source Link
----

theorem get_foldl_insert (fields : List (String × Value))
    (hKey : key ∉ fields.map Prod.fst) (d : Dict Value) :
    get (fields.foldl (fun d f => d.insert f.1 f.2) d) key = get d key := by
  induction fields generalizing d with
  | nil => rfl
  | cons f fields ih =>
    rw [map_cons, mem_cons, not_or] at hKey
    rw [foldl_cons, ih hKey.2, get_insert_of_ne _ hKey.1]

theorem optional_keys (s : SourceLink) (hKey : key ∈ (optional_fields s).map Prod.fst) :
    key ∈ ["payment_method_type", "cs_id", "link_expires_at",
      "link_expiry_source", "paypal_url"] := by
  unfold optional_fields at hKey
  simp only [map_append, mem_append] at hKey
  rcases hKey with ((hMethod | hCs) | hExpiry) | hPaypal
  · split at hMethod
    · simp_all
    · cases hMethod
  · split at hCs
    · simp_all
    · cases hCs
  · split at hExpiry
    · split at hExpiry
      · split at hExpiry
        · simp only [map_append, map_cons, map_nil, mem_append,
            mem_singleton] at hExpiry
          rcases hExpiry with hLeft | hRight
          · simp [hLeft]
          · simp [hRight]
        · simp only [append_nil, map_cons, map_nil, mem_singleton] at hExpiry
          simp [hExpiry]
      · cases hExpiry
    · cases hExpiry
  · split at hPaypal
    · simp_all
    · cases hPaypal

theorem get_record_payload (s : SourceLink)
    (hKey : key ∉ ["payment_method_type", "cs_id", "link_expires_at", "link_expiry_source",
        "paypal_url"]) :
    get (record_payload env s) key = get (ofFields (record_fields env s)) key := by
  unfold record_payload ofFields
  rw [foldl_append]
  exact get_foldl_insert _ (fun hMem => hKey (optional_keys s hMem)) _

theorem record_payload_fields (s : SourceLink) :
    get (record_payload env s) "url" = .text s.url ∧
      get (record_payload env s) "generated_at" = .text (s.generated_at env) ∧
      get (record_payload env s) "link_status" = .null := by
  rw [get_record_payload s (by decide), get_record_payload s (by decide),
    get_record_payload s (by decide)]
  refine ⟨?_, ?_, ?_⟩
  · have hSplit : ofFields (record_fields env s) = ((record_fields env s).tail).foldl
            (fun d f => d.insert f.1 f.2)
            ((∅ : Dict Value).insert "url" (.text s.url)) :=
      rfl
    rw [hSplit, get_foldl_insert _ (by simp [record_fields]), get_insert_self]
  · have hSplit : ofFields (record_fields env s) =
          [("created_at", .text (s.generated_at env))].foldl (fun d f => d.insert f.1 f.2)
            ((ofFields ((record_fields env s).take 14)).insert
              "generated_at" (.text (s.generated_at env))) :=
      rfl
    rw [hSplit, get_foldl_insert _ (by simp), get_insert_self]
  · unfold ofFields
    rw [get_foldl_insert _ (by simp [record_fields])]
    rfl

theorem current_time_record_payload (hEnv : env.Lawful) (hParsed : s.Parsed env) :
    current_time env (record_payload env s) = some (epochTime s.completed_at) := by
  have hText : s.generated_at env = env.iso_epoch s.completed_at := by
    unfold SourceLink.generated_at
    rw [if_pos hParsed.completed]
  have hDated := hParsed.dated
  have hPlain := hEnv.iso_plain s.completed_at
  have hReads := hEnv.iso_reads s.completed_at hDated
  unfold current_time
  rw [(record_payload_fields s).2.1, hText]
  have hOr : ∀ v : Value, (Value.text (env.iso_epoch s.completed_at)).or v =
          .text (env.iso_epoch s.completed_at) := by
    intro v
    unfold Value.or Value.truthy
    simp [hDated]
  rw [hOr]
  unfold timestamp_for_compare
  dsimp only
  rw [safe_text_of_strip hPlain.1 hPlain.2, if_neg hDated, hReads.1, hReads.2]
  rfl

theorem is_tombstone_record_payload (hEnv : env.Lawful) (s : SourceLink) :
    is_tombstone env (record_payload env s) = false := by
  have hEmpty : env.lower "" = "" := by
    rw [hEnv.lower_ascii "" (by simp)]
    rfl
  have hSafe : safe_text 64 .null = "" := by
    unfold safe_text Value.str Value.truthy
    rw [if_neg (by simp), strip_empty, truncate_of_le (by simp)]
  unfold is_tombstone
  rw [(record_payload_fields s).2.2, hSafe, hEmpty]
  decide

----
-- Replacing Twice
----

/- The link that an import wrote gives way to later rows only. -/
theorem replaced_withCurrentLink (hEnv : env.Lawful) (hParsed : s.Parsed env)
    (hStable : s.Stable) (extra : Dict Entry) (s' : SourceLink) :
    current_cache_should_be_replaced env
        (withCurrentLink env extra s) s' =
      decide (s.completed_at < s'.completed_at) := by
  have hLookup : (withCurrentLink env extra s).lookup
          "chatgpt_last_payment_link" =
        some (.dict (record_payload env s)) := by
    unfold withCurrentLink
    split
    · rw [Finmap.lookup_insert_of_ne _ (by decide), Finmap.lookup_insert]
    · rw [Finmap.lookup_insert]
  unfold current_cache_should_be_replaced
  rw [hLookup]
  dsimp only
  rw [is_tombstone_record_payload hEnv, (record_payload_fields s).1,
    valid_http_url_of_parsed hParsed hStable, current_time_record_payload hEnv hParsed]
  simp [hParsed.url_given, epochTime_lt_iff]

theorem replaced_mono (hLe : s'.completed_at ≤ s.completed_at)
    (hReplaced : current_cache_should_be_replaced env extra s') :
    current_cache_should_be_replaced env extra s := by
  have hTime : ∀ t : Time, t < epochTime s'.completed_at → t < epochTime s.completed_at := by
    intro t hLt
    apply lt_of_lt_of_le hLt
    rw [← not_lt, epochTime_lt_iff]
    omega
  unfold current_cache_should_be_replaced at hReplaced ⊢
  split
  next current hLookup =>
    rw [hLookup] at hReplaced
    dsimp only at hReplaced
    split
    next hCleaned =>
      rw [if_pos hCleaned] at hReplaced
      cases hTomb : tombstone_time env current with
      | none =>
        rw [hTomb] at hReplaced
        cases hReplaced
      | some t =>
        rw [hTomb] at hReplaced
        simp only [decide_eq_true_eq] at hReplaced ⊢
        exact hTime t hReplaced
    next hCleaned =>
      rw [if_neg hCleaned] at hReplaced
      split
      · rfl
      next hUrl =>
        rw [if_neg hUrl] at hReplaced
        cases hCurrent : current_time env current with
        | none =>
          rw [hCurrent] at hReplaced
          cases hReplaced
        | some t =>
          rw [hCurrent] at hReplaced
          simp only [decide_eq_true_eq] at hReplaced ⊢
          exact hTime t hReplaced
  · rfl

end PaymentLinks
