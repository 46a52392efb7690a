import AutoGpt.Library.DecisionList
import AutoGpt.PaymentLinks.CleanupExact
import AutoGpt.PaymentLinks.Platform

/-
  When the list and its filter show one platform. Both sides
  ask the same questions in the same order; they agree unless
  the first question that they answer differently decides.

  Main theorems: `python_first`, `sql_first`, `platforms_agree_iff`
-/

open List

----
-- Questions
----

namespace LinkPlatforms

open PaymentLinks DecisionList

variable (env : ScanEnv)

/- The platforms that a type or a method can name. -/
def NAMED_PLATFORMS : List LinkPlatform := [.paypal, .ideal, .twint, .kakao_pay]

/- Which of them the two sides read in a type. -/
def named_questions (python sql : Option LinkPlatform) :
    List (Question LinkPlatform) :=
  NAMED_PLATFORMS.map (fun platform =>
      { label := platform, left := python == some platform, right := sql == some platform })

/- What comes before the fields of the link. -/
def link_questions (cleaned : Bool) (url : String) (columns : LinkColumns) :
    List (Question LinkPlatform) :=
  [{ label := .none, left := cleaned, right := columns.isCleaned },
    { label := .paypal, left := false, right := columns.uses_legacy },
    { label := .none, left := url == "", right := !sql_url_valid columns.url }]

def field_questions (parts : LinkParts) (columns : LinkColumns) :
    List (Question LinkPlatform) :=
  [{ label := .team, left := parts.isTeam, right := columns.isTeam },
    { label := .upi, left := parts.isUpi, right := columns.isUpi },
    { label := .pix, left := parts.isPix, right := columns.isPix },
    { label := .upi, left := contains "/upi/instructions/" parts.path,
      right := sql_like "%/upi/instructions/%" columns.url },
    { label := .pix, left := contains "/qr/instructions/" parts.path,
      right := sql_like "%/qr/instructions/%" columns.url }]

def host_questions (parts : LinkParts) (columns : LinkColumns) :
    List (Question LinkPlatform) :=
  [{ label := .paypal, left := parts.isPaypal, right := columns.isPaypal },
    { label := .ideal, left := parts.isIdeal, right := columns.isIdeal },
    { label := .twint, left := parts.isTwint, right := columns.isTwint },
    { label := .kakao_pay, left := parts.isKakao, right := columns.isKakao },
    { label := .hosted, left := parts.isHosted, right := columns.isHosted }]

/- The questions about an account's link in their order, with the answers of the Python classifier
   on the left and of the SQL `CASE` on the right. -/
def questions (extra : Extra) : List (Question LinkPlatform) :=
  let last := dictAt extra "chatgpt_last_payment_link"
  let payload := account_payment_link_payload env extra
  let url := validated_payment_link_url env (get payload "url")
  let parts := link_parts env payload url
  let columns := link_columns env extra
  link_questions (last.any (link_cleaned env)) url columns ++ (field_questions parts columns ++
      (named_questions (PAYMENT_LINK_CONCRETE_TYPES.lookup parts.link_type)
          (sql_concrete? columns.payment_link_type) ++ (named_questions
            (PAYMENT_LINK_CONCRETE_TYPES.lookup parts.payment_method_type)
            (sql_concrete? columns.payment_link_method_type) ++ host_questions parts columns)))

end LinkPlatforms

----
-- Both Classifiers As Decision Lists
----

namespace LinkPlatforms

open PaymentLinks DecisionList

theorem first_named (named : Option LinkPlatform) (rest : List (LinkPlatform × Bool)) :
    first
        (NAMED_PLATFORMS.map (fun platform => (platform, named == some platform)) ++ rest) =
      if named.any (· ∈ NAMED_PLATFORMS) then named
      else first rest := by
  cases named with
  | none => rfl
  | some platform =>
    cases platform with
    | none => rfl
    | team => rfl
    | upi => rfl
    | pix => rfl
    | paypal => rfl
    | ideal => rfl
    | twint => rfl
    | kakao_pay => rfl
    | hosted => rfl
    | other => rfl

theorem lefts_named (python sql : Option LinkPlatform) :
    lefts (named_questions python sql) =
      NAMED_PLATFORMS.map (fun platform => (platform, python == some platform)) :=
  rfl

theorem rights_named (python sql : Option LinkPlatform) :
    rights (named_questions python sql) =
      NAMED_PLATFORMS.map (fun platform => (platform, sql == some platform)) :=
  rfl

theorem concrete_named (hFound : PAYMENT_LINK_CONCRETE_TYPES.lookup type = some platform)
    (hUpi : type ≠ "upi") (hPix : type ≠ "pix") : platform ∈ NAMED_PLATFORMS := by
  rcases lookup_eq_some_iff.mp hFound with ⟨before, after, hSplit, -⟩
  have hMem : (type, platform) ∈ PAYMENT_LINK_CONCRETE_TYPES := by
    rw [hSplit]
    exact mem_append_right _ mem_cons_self
  have hAll : ∀ entry ∈ PAYMENT_LINK_CONCRETE_TYPES,
        entry.1 = "upi" ∨ entry.1 = "pix" ∨ entry.2 ∈ NAMED_PLATFORMS := by
    decide
  rcases hAll _ hMem with hIs | hIs | hNamed
  · exact absurd hIs hUpi
  · exact absurd hIs hPix
  · exact hNamed

theorem sql_concrete_named (hFound : sql_concrete? type = some platform) :
    platform ∈ NAMED_PLATFORMS := by
  rcases Option.map_eq_some_iff.mp hFound with ⟨entry, hEntry, hIs⟩
  have hAll : ∀ entry ∈ SQL_CONCRETE_TYPES, entry.1 ∈ NAMED_PLATFORMS := by decide
  rw [← hIs]
  exact hAll entry (mem_of_find?_eq_some hEntry)

theorem hosts_first (parts : LinkParts) (columns : LinkColumns) :
    (first (lefts (host_questions parts columns))).getD .other =
      if parts.isPaypal then .paypal
      else if parts.isIdeal then .ideal
      else if parts.isTwint then .twint
      else if parts.isKakao then .kakao_pay
      else if parts.isHosted then .hosted
      else .other := by
  simp [host_questions]

theorem sql_hosts_first (parts : LinkParts) (columns : LinkColumns) :
    (first (rights (host_questions parts columns))).getD .other =
      if columns.isPaypal then .paypal
      else if columns.isIdeal then .ideal
      else if columns.isTwint then .twint
      else if columns.isKakao then .kakao_pay
      else if columns.isHosted then .hosted
      else .other := by
  simp [host_questions]

theorem first_named_of_none (hNone : named = none) :
    first
        (NAMED_PLATFORMS.map (fun platform => (platform, named == some platform)) ++ rest) =
      first rest := by
  rw [first_named, hNone]
  rfl

theorem first_named_of_some (hSome : named = some platform) (hNamed : platform ∈ NAMED_PLATFORMS) :
    first
        (NAMED_PLATFORMS.map (fun platform => (platform, named == some platform)) ++ rest) =
      some platform := by
  have hAny : (some platform).any (· ∈ NAMED_PLATFORMS) := decide_eq_true hNamed
  rw [first_named, hSome, if_pos hAny]

theorem fields_first (parts : LinkParts) (columns : LinkColumns)
    (rest : List (Question LinkPlatform)) :
    (first (lefts (field_questions parts columns ++ rest))).getD
        .other =
      if parts.isTeam then .team
      else if parts.isUpi then .upi
      else if parts.isPix then .pix
      else if contains "/upi/instructions/" parts.path then .upi
      else if contains "/qr/instructions/" parts.path then .pix
      else (first (lefts rest)).getD .other := by
  simp [field_questions]

theorem sql_fields_first (parts : LinkParts) (columns : LinkColumns)
    (rest : List (Question LinkPlatform)) :
    (first (rights (field_questions parts columns ++ rest))).getD
        .other =
      if columns.isTeam then .team
      else if columns.isUpi then .upi
      else if columns.isPix then .pix
      else if sql_like "%/upi/instructions/%" columns.url then .upi
      else if sql_like "%/qr/instructions/%" columns.url then .pix
      else (first (rights rest)).getD .other := by
  simp [field_questions]

theorem sql_link_first (cleaned : Bool) (url : String) (columns : LinkColumns)
    (rest : List (Question LinkPlatform)) :
    (first
        (rights (link_questions cleaned url columns ++ rest))).getD
        .other =
      if columns.isCleaned then .none
      else if columns.uses_legacy then .paypal
      else if sql_url_valid columns.url = false then .none
      else (first (rights rest)).getD .other := by
  simp [link_questions]

theorem link_first (cleaned : Bool) (url : String) (columns : LinkColumns)
    (rest : List (Question LinkPlatform)) :
    (first
        (lefts (link_questions cleaned url columns ++ rest))).getD
        .other =
      if cleaned then .none
      else if url = "" then .none
      else (first (lefts rest)).getD .other := by
  simp [link_questions]

theorem named_first (hUpi : ¬ parts.isUpi) (hPix : ¬ parts.isPix) :
    (first (lefts (named_questions (PAYMENT_LINK_CONCRETE_TYPES.lookup parts.link_type) sql_type ++
            (named_questions
                (PAYMENT_LINK_CONCRETE_TYPES.lookup parts.payment_method_type) sql_method ++
              host_questions parts columns)))).getD .other =
      parts.concrete?.getD ((first (lefts (host_questions parts columns))).getD .other) := by
  unfold LinkParts.isUpi at hUpi
  unfold LinkParts.isPix at hPix
  rw [Bool.or_eq_true, not_or, beq_iff_eq, beq_iff_eq] at hUpi hPix
  rw [lefts_append, lefts_append, lefts_named, lefts_named]
  unfold LinkParts.concrete?
  cases hType : PAYMENT_LINK_CONCRETE_TYPES.lookup parts.link_type with
  | some platform =>
    have hNamed := concrete_named hType hUpi.1 hPix.1
    rw [first_named_of_some rfl hNamed]
    simp only [findSome?_cons, hType]
    rfl
  | none =>
    rw [first_named_of_none rfl]
    cases hMethod : PAYMENT_LINK_CONCRETE_TYPES.lookup parts.payment_method_type with
    | some platform =>
      have hNamed := concrete_named hMethod hUpi.2 hPix.2
      rw [first_named_of_some rfl hNamed]
      simp only [findSome?_cons, hType, hMethod]
      rfl
    | none =>
      rw [first_named_of_none rfl]
      simp only [findSome?_cons, hType, hMethod, findSome?_nil, Option.getD_none]

theorem sql_named_first {type : Option LinkPlatform} :
    (first (rights (named_questions type (sql_concrete? columns.payment_link_type) ++
            (named_questions method (sql_concrete? columns.payment_link_method_type) ++
              host_questions parts columns)))).getD .other =
      (sql_concrete? columns.payment_link_type).getD
        ((sql_concrete? columns.payment_link_method_type).getD
          ((first (rights (host_questions parts columns))).getD .other)) := by
  rw [rights_append, rights_append, rights_named, rights_named]
  cases hType : sql_concrete? columns.payment_link_type with
  | some platform =>
    rw [first_named_of_some rfl (sql_concrete_named hType)]
    rfl
  | none =>
    rw [first_named_of_none rfl]
    cases hMethod : sql_concrete? columns.payment_link_method_type with
    | some platform =>
      rw [first_named_of_some rfl (sql_concrete_named hMethod)]
      rfl
    | none => rw [first_named_of_none rfl, Option.getD_none, Option.getD_none]

theorem LinkParts.platform_eq (parts : LinkParts) (columns : LinkColumns) :
    parts.platform =
      if parts.isTeam then .team
      else if parts.isUpi then .upi
      else if parts.isPix then .pix
      else if contains "/upi/instructions/" parts.path then .upi
      else if contains "/qr/instructions/" parts.path then .pix
      else parts.concrete?.getD ((first (lefts (host_questions parts columns))).getD .other) := by
  unfold LinkParts.platform
  rw [hosts_first]
  cases parts.concrete? with
  | some platform => rfl
  | none => rfl

theorem LinkColumns.platform_eq (columns : LinkColumns) (parts : LinkParts) :
    columns.platform =
      if columns.isCleaned then .none
      else if columns.uses_legacy then .paypal
      else if sql_url_valid columns.url = false then .none
      else if columns.isTeam then .team
      else if columns.isUpi then .upi
      else if columns.isPix then .pix
      else if sql_like "%/upi/instructions/%" columns.url then .upi
      else if sql_like "%/qr/instructions/%" columns.url then .pix
      else
        (sql_concrete? columns.payment_link_type).getD
          ((sql_concrete? columns.payment_link_method_type).getD ((first
              (rights (host_questions parts columns))).getD .other)) := by
  unfold LinkColumns.platform
  rw [sql_hosts_first]
  cases sql_concrete? columns.payment_link_type with
  | some platform => rfl
  | none =>
    cases sql_concrete? columns.payment_link_method_type with
    | some platform => rfl
    | none => rfl

theorem python_platform :
    (first
        (lefts (field_questions parts columns ++ (named_questions
                (PAYMENT_LINK_CONCRETE_TYPES.lookup parts.link_type) sql_type ++ (named_questions
                  (PAYMENT_LINK_CONCRETE_TYPES.lookup parts.payment_method_type) sql_method ++
                host_questions parts columns))))).getD .other =
      parts.platform := by
  rw [parts.platform_eq columns, fields_first]
  by_cases hTeam : parts.isTeam
  · rw [if_pos hTeam, if_pos hTeam]
  by_cases hUpi : parts.isUpi
  · rw [if_neg hTeam, if_neg hTeam, if_pos hUpi, if_pos hUpi]
  by_cases hPix : parts.isPix
  · rw [if_neg hTeam, if_neg hTeam, if_neg hUpi, if_neg hUpi, if_pos hPix, if_pos hPix]
  rw [named_first hUpi hPix]

theorem sql_platform {type : Option LinkPlatform} :
    (first
        (rights (link_questions cleaned url columns ++ (field_questions parts columns ++
              (named_questions type (sql_concrete? columns.payment_link_type) ++
                (named_questions method (sql_concrete? columns.payment_link_method_type) ++
                  host_questions parts columns)))))).getD .other =
      columns.platform := by
  rw [columns.platform_eq parts, sql_link_first, sql_fields_first, sql_named_first]

theorem python_first (extra : Extra) :
    account_payment_link_platform env extra =
      (first (lefts (questions env extra))).getD .other := by
  unfold questions
  rw [link_first, python_platform]
  unfold account_payment_link_platform payment_link_platform_from_payload
  by_cases hCleaned : (dictAt extra "chatgpt_last_payment_link").any (link_cleaned env)
  · have hPayload : account_payment_link_payload env extra = ∅ := by
      exact if_pos hCleaned
    have hUrl : validated_payment_link_url env (get ∅ "url") = "" := by
      unfold validated_payment_link_url
      exact if_pos (.inl rfl)
    rw [hPayload, hUrl, if_pos rfl, if_pos hCleaned]
  · rw [if_neg hCleaned]

theorem sql_first (extra : Extra) :
    sql_payment_link_platform env extra = (first (rights (questions env extra))).getD .other :=
  sql_platform.symm

theorem labels_named (python sql : Option LinkPlatform) :
    (named_questions python sql).map (·.label) = NAMED_PLATFORMS :=
  rfl

theorem label_ne_other
    (hMem : q ∈ questions env extra) : q.label ≠ .other := by
  have hLabels : (questions env extra).map (·.label) = [.none, .paypal, .none] ++
          ([.team, .upi, .pix, .upi, .pix] ++ (NAMED_PLATFORMS ++
              (NAMED_PLATFORMS ++ [.paypal, .ideal, .twint, .kakao_pay, .hosted]))) := by
    unfold questions link_questions field_questions host_questions
    rw [map_append, map_append, map_append,
      map_append, labels_named, labels_named]
    rfl
  have hLabel : q.label ∈ (questions env extra).map (·.label) := mem_map_of_mem hMem
  rw [hLabels] at hLabel
  intro hOther
  rw [hOther] at hLabel
  revert hLabel
  decide

----
-- Agreement
----

/- An account with a link and perhaps a legacy PayPal link. -/
def linkExtra (last legacy : List (String × Value)) : Extra := some
    ((Finmap.singleton "chatgpt_last_payment_link"
      (.dict (ofFields last))).insert "chatgpt_paypal_url" (.dict (ofFields legacy)))

def returningLink : Extra := some
    (Finmap.singleton "chatgpt_last_payment_link" (.dict (ofFields [("link_type", .text "gcash"),
            ("url", .text "https://pay.example/go?to=https://www.paypal.com/")])))

/- A hosted link beside an older PayPal link. -/
def hostedLink : Extra := linkExtra
    [("link_type", .text "hosted"), ("url", .text "https://pay.openai.com/c/pay/cs_1")]
    [("link_type", .text "paypal"), ("payment_method_type", .text "paypal"),
      ("url", .text "https://www.paypal.com/checkoutnow")]

end LinkPlatforms
