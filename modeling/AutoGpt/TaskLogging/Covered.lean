import AutoGpt.TaskLogging.Noninterference

/-
  The details whose secrets leave no trace: no value that is
  shown as a text has a secret in it.

  Main theorems: `TaskLogging.Same.shown`, `TaskLogging.sanitized_alike`
-/

open PyText (strip)

----
-- Covered Details
----

namespace TaskLogging

variable (env : Redaction)

/- The branches that make a text or a summary of a value, whatever it is. -/
def Treatment.shows : Treatment → Bool
| .fullUrl | .url | .emailLines | .rawEmailLine
| .rawPhoneLine | .boundPhoneLines | .mailboxState | .phone => true
| _ => false

/- The branches that tell at most whether a value is there. -/
def Treatment.hides : Treatment → Bool
| .token | .password | .cookie | .body => true
| _ => false

mutual

def NoSecrets : Detail → Prop
| .mapping items => NoSecretItems items
| .list items => NoSecretList items
| .tuple items => NoSecretList items
| _ => True

def NoSecretList : List Detail → Prop
| [] => True
| d :: ds => NoSecrets d ∧ NoSecretList ds

def NoSecretItems : List (Key × Detail) → Prop
| [] => True
| (key, value) :: items => ¬ SecretKey env key ∧ NoSecrets value ∧ NoSecretItems items

end

/- A summary tells two values of a mailbox state. -/
def CoveredState : Detail → Prop
| .mapping items => (∀ d ∈ providerOf items, NoSecrets env d) ∧ ∀ d ∈ emailOf items, NoSecrets env d
| _ => True

/- An item shows no value with a secret key in it; `deep` says so of its value. -/
def CoveredItem (key : Key) (value : Detail) (deep : Prop) :
    Prop :=
  let t := treatment (normKey env key) (compactKey env key)
  if t = .mailboxState then CoveredState env value
  else if t.shows then NoSecrets env value
  else if t.hides then True
  else deep

mutual

/- No value that is shown as a text has a secret key in it. -/
def Covered : Detail → Prop
| .mapping items => CoveredItems items
| .list items => CoveredList items
| .tuple items => CoveredList items
| _ => True

def CoveredList : List Detail → Prop
| [] => True
| d :: ds => Covered d ∧ CoveredList ds

def CoveredItems : List (Key × Detail) → Prop
| [] => True
| (key, value) :: items => CoveredItem env key value (Covered value) ∧ CoveredItems items

end

variable {env}

mutual

theorem Same.eq_of_noSecrets :
    Same env a b → NoSecrets env a → a = b
| .scalar _ _, _ => rfl
| .list hItems, hNone => by
    rw [SameList.eq_of_noSecrets hItems hNone]
| .tuple hItems, hNone => by
    rw [SameList.eq_of_noSecrets hItems hNone]
| .mapping hItems, hNone => by
    rw [SameItems.eq_of_noSecrets hItems hNone]

theorem SameList.eq_of_noSecrets :
    SameList env xs ys → NoSecretList env xs → xs = ys
| .nil, _ => rfl
| .cons hSame hRest, hNone => by
    rw [Same.eq_of_noSecrets hSame hNone.1, SameList.eq_of_noSecrets hRest hNone.2]

theorem SameItems.eq_of_noSecrets :
    SameItems env xs ys → NoSecretItems env xs → xs = ys
| .nil, _ => rfl
| .keep hSame hRest, hNone => by
    rw [Same.eq_of_noSecrets hSame hNone.2.1, SameItems.eq_of_noSecrets hRest hNone.2.2]
| .secret hSecret _ _ _, hNone => absurd hSecret hNone.1

end

/- Two looked up values that are the same but for secrets. -/
def SameOption (env : Redaction) (x y : Option Detail) : Prop :=
  (x = none ∧ y = none) ∨ ∃ a b, x = some a ∧ y = some b ∧ Same env a b

theorem SameItems.get? (hName : ¬ SecretKey env (.text name)) (hItems : SameItems env xs ys) :
    SameOption env (get? name xs) (get? name ys) := by
  cases hItems with
  | nil => exact .inl ⟨rfl, rfl⟩
  | keep hSame hRest =>
    have hTail := SameItems.get? hName hRest
    simp only [TaskLogging.get?]
    split
    next _ => exact .inr ⟨_, _, rfl, rfl, hSame⟩
    next _ => exact hTail
  | @secret key _ _ _ _ hSecret _ _ hRest =>
    have hTail := SameItems.get? hName hRest
    have hOther : key ≠ .text name := by
      intro hKey
      rw [hKey] at hSecret
      exact hName hSecret
    simp only [TaskLogging.get?, if_neg hOther]
    exact hTail

theorem SameOption.orElse (hFirst : SameOption env x y)
    (hSecond : SameOption env x' y') : SameOption env (orElse x x') (orElse y y') := by
  rcases hFirst with ⟨rfl, rfl⟩ | ⟨a, b, rfl, rfl, hSame⟩
  · exact hSecond
  · unfold TaskLogging.orElse
    dsimp only
    rw [hSame.truthy_eq]
    split
    · exact .inr ⟨a, b, rfl, rfl, hSame⟩
    · exact hSecond

theorem SameOption.truthy_filter (hSame : SameOption env x y) :
    SameOption env (x.filter Detail.truthy) (y.filter Detail.truthy) := by
  rcases hSame with ⟨rfl, rfl⟩ | ⟨a, b, rfl, rfl, hSame⟩
  · exact .inl ⟨rfl, rfl⟩
  · rw [Option.filter_some, Option.filter_some, hSame.truthy_eq]
    split
    · exact .inr ⟨a, b, rfl, rfl, hSame⟩
    · exact .inl ⟨rfl, rfl⟩

theorem not_secretKey_of_stateName (name : String)
    (hName : name ∈ ["account", "provider", "mail_provider", "email",
        "before_ids", "before_message_ids"]) :
    ¬ SecretKey env (.text name) := by
  simp only [List.mem_cons, List.not_mem_nil, or_false] at hName
  have hFree : ∀ name ∈ ["account", "provider", "mailprovider",
          "email", "beforeids", "beforemessageids"],
        name ∉ secretNames.map compacted := by
    rw [compacted_names]
    simp
  rcases hName with rfl | rfl | rfl | rfl | rfl | rfl
  · exact not_secretKey_ofList rfl rfl (hFree "account" (by simp))
  · exact not_secretKey_ofList rfl rfl (hFree "provider" (by simp))
  · exact not_secretKey_ofList rfl rfl (hFree "mailprovider" (by simp))
  · exact not_secretKey_ofList rfl rfl (hFree "email" (by simp))
  · exact not_secretKey_ofList rfl rfl (hFree "beforeids" (by simp))
  · exact not_secretKey_ofList rfl rfl (hFree "beforemessageids" (by simp))

theorem SameItems.account (hItems : SameItems env xs ys) :
    SameItems env (accountOf xs) (accountOf ys) := by
  have hFound := hItems.get? (not_secretKey_of_stateName "account" (by decide))
  unfold accountOf
  rcases hFound with ⟨hLeft, hRight⟩ | ⟨a, b, hLeft, hRight, hSame⟩
  · rw [hLeft, hRight]
    exact .nil
  · rw [hLeft, hRight]
    cases hSame with
    | scalar d hScalar =>
      cases a with
      | mapping items => cases hScalar
      | _ => exact .nil
    | mapping hAccount => exact hAccount
    | _ => exact .nil

theorem SameItems.provider (hItems : SameItems env xs ys) :
    SameOption env (providerOf xs) (providerOf ys) := by
  have hProvider : ¬ SecretKey env (.text "provider") :=
    not_secretKey_of_stateName "provider" (by decide)
  have hMail : ¬ SecretKey env (.text "mail_provider") :=
    not_secretKey_of_stateName "mail_provider" (by decide)
  exact (hItems.get? hProvider).orElse ((hItems.get? hMail).orElse (hItems.account.get? hProvider))

theorem SameItems.email (hItems : SameItems env xs ys) :
    SameOption env (emailOf xs) (emailOf ys) := by
  have hEmail : ¬ SecretKey env (.text "email") := not_secretKey_of_stateName "email" (by decide)
  exact (hItems.get? hEmail).orElse (hItems.account.get? hEmail)

theorem SameItems.beforeCount_eq (hItems : SameItems env xs ys) :
    beforeCount xs = beforeCount ys := by
  have hIds := hItems.get? (not_secretKey_of_stateName "before_ids" (by decide))
  have hMessages := hItems.get? (not_secretKey_of_stateName "before_message_ids" (by decide))
  have hBoth := hIds.orElse hMessages.truthy_filter
  unfold beforeCount
  rcases hBoth with ⟨hLeft, hRight⟩ | ⟨a, b, hLeft, hRight, hSame⟩
  · rw [hLeft, hRight]
  · rw [hLeft, hRight]
    exact hSame.count_eq

theorem SameOption.shownOr_eq (hSame : SameOption env x y)
    (hNone : ∀ d ∈ x, NoSecrets env d) : shownOr env x = shownOr env y := by
  rcases hSame with ⟨rfl, rfl⟩ | ⟨a, b, rfl, rfl, hSame⟩
  · rfl
  · rw [hSame.eq_of_noSecrets (hNone a rfl)]

theorem Same.summary_eq (hSame : Same env a b) (hCovered : CoveredState env a) :
    summarizeMailboxState env a = summarizeMailboxState env b := by
  cases hSame with
  | scalar d hScalar => rfl
  | mapping hItems =>
    unfold summarizeMailboxState
    dsimp only
    rw [hItems.provider.shownOr_eq hCovered.1, hItems.email.shownOr_eq hCovered.2,
      hItems.beforeCount_eq]
  | list hItems =>
    have hTruthy := (Same.list hItems).truthy_eq
    unfold summarizeMailboxState
    dsimp only
    rw [hTruthy]
  | tuple hItems =>
    have hTruthy := (Same.tuple hItems).truthy_eq
    unfold summarizeMailboxState
    dsimp only
    rw [hTruthy]

theorem item_shown {deep : Prop} (hSame : Same env a b)
    (hCovered : CoveredItem env key a deep) (hDeep : deep → shown = shown') :
    shownItem env key a shown = shownItem env key b shown' := by
  unfold CoveredItem at hCovered
  unfold shownItem
  dsimp only at hCovered
  cases hKey : treatment (normKey env key) (compactKey env key) with
  | mailboxState =>
    rw [hKey, if_pos rfl] at hCovered
    exact hSame.summary_eq hCovered
  | token => rfl
  | password => rfl
  | cookie => rfl
  | body => rfl
  | proxy | freeText | textList | otp | other =>
    rw [hKey] at hCovered
    exact hDeep hCovered
  | fullUrl | url | emailLines | rawEmailLine | rawPhoneLine
  | boundPhoneLines | phone =>
    rw [hKey] at hCovered
    rw [hSame.eq_of_noSecrets hCovered]

mutual

/- Covered details that differ only in secrets show the same texts. -/
theorem Same.shown :
    Same env a b → Covered env a → shownTexts env a = shownTexts env b
| .scalar _ _, _ => rfl
| .list hItems, hCovered => by
    simp only [shownTexts, SameList.shown hItems hCovered]
| .tuple hItems, hCovered => by
    simp only [shownTexts, SameList.shown hItems hCovered]
| .mapping hItems, hCovered => by
    simp only [shownTexts, SameItems.shown hItems hCovered]

theorem SameList.shown :
    SameList env xs ys → CoveredList env xs → shownList env xs = shownList env ys
| .nil, _ => rfl
| .cons hSame hRest, hCovered => by
    simp only [shownList, Same.shown hSame hCovered.1, SameList.shown hRest hCovered.2]

theorem SameItems.shown :
    SameItems env xs ys → CoveredItems env xs → shownItems env xs = shownItems env ys
| .nil, _ => rfl
| .keep hSame hRest, hCovered => by
    have hHead := item_shown hSame hCovered.1 fun hDeep => Same.shown hSame hDeep
    simp only [shownItems, hRest.repeats_eq, hHead, SameItems.shown hRest hCovered.2]
| @SameItems.secret _ _ a b _ _ hSecret _ _ hRest, hCovered => by
    have hItem := shownItem_secret a b (shownTexts env a) (shownTexts env b) hSecret
    simp only [shownItems, hRest.repeats_eq, hItem, SameItems.shown hRest hCovered.2]

end

----
-- Sanitized Alike
----

/- Two details that differ only in secrets are sanitized alike exactly when the redactors make the
   same of the values that are shown as texts, and they do where these hold no secret. -/
theorem sanitized_alike (env : Redaction) (a b : Detail) (hSame : Same env a b) :
    (sanitizeTaskDetail env a = sanitizeTaskDetail env b ↔ shownTexts env a = shownTexts env b) ∧
      (Covered env a → shownTexts env a = shownTexts env b) :=
  ⟨hSame.agrees, hSame.shown⟩

mutual

/- `repr` of a detail whose texts need no escapes. -/
def plainRepr : Detail → String
| .none => "None"
| .number shown _ => shown
| .text value => "'" ++ value ++ "'"
| .other shown _ _ => shown
| .list items => "[" ++ plainReprs items ++ "]"
| .tuple items => "(" ++ plainReprs items ++ ",)"
| .mapping items => "\x7b" ++ plainReprItems items ++ "\x7d"

def plainReprs : List Detail → String
| [] => ""
| [d] => plainRepr d
| d :: ds => plainRepr d ++ ", " ++ plainReprs ds

def plainReprItems : List (Key × Detail) → String
| [] => ""
| [(key, d)] => "'" ++ key.shown ++ "': " ++ plainRepr d
| (key, d) :: items => "'" ++ key.shown ++ "': " ++ plainRepr d ++ ", " ++ plainReprItems items

end

theorem plainRepr_bracket (d : Detail) (hContainer : d.isContainer) :
    ∃ c ∈ brackets, c ∈ (plainRepr d).toList := by
  cases d with
  | list items => exact ⟨'[', by decide, by simp [plainRepr]⟩
  | tuple items => exact ⟨'(', by decide, by simp [plainRepr]⟩
  | mapping items => exact ⟨'\x7b', by decide, by simp [plainRepr]⟩
  | _ => cases hContainer

/- Redactors on texts in which they find nothing. -/
def plainRedaction : Redaction where
  redact_log_text := id
  redact_url := strip
  redact_proxy_url := strip
  redact_raw_email_api_line := strip
  redact_raw_phone_line := strip
  lower s := String.ofList (s.toList.map Char.toLower)
  splitlines s := [s]
  container_str := plainRepr
  container_bracket := plainRepr_bracket
  lower_ascii _ _ := rfl

def nestedSecret (secret : String) : Detail := .mapping
    [(.text "steps", .list [.tuple [.text "login", .mapping
              [(.text "Access-Token", .text secret), (.text "SET_COOKIE", .list [.text secret]),
                (.text "url", .text "/login")]]])]

theorem listed_compact :
    "accesstoken" ∈ secretNames.map compacted ∧ "setcookie" ∈ secretNames.map compacted ∧
      "bearer" ∈ secretNames.map compacted := by
  rw [compacted_names]
  simp

theorem nestedSecret_same : Same plainRedaction (nestedSecret "s1") (nestedSecret "s2") := by
  have hToken : SecretKey plainRedaction (.text "Access-Token") :=
    secretKey_ofList rfl rfl listed_compact.1
  have hCookie : SecretKey plainRedaction (.text "SET_COOKIE") :=
    secretKey_ofList rfl rfl listed_compact.2.1
  have hMapping : SameItems plainRedaction
        [(.text "Access-Token", .text "s1"), (.text "SET_COOKIE", .list [.text "s1"]),
          (.text "url", .text "/login")]
        [(.text "Access-Token", .text "s2"), (.text "SET_COOKIE", .list [.text "s2"]),
          (.text "url", .text "/login")] := .secret hToken (by decide) (by decide)
      (.secret hCookie (by decide) (by decide) (.keep (.scalar _ rfl) .nil))
  exact .mapping (.keep (.list (.cons
            (.tuple (.cons (.scalar _ rfl) (.cons (.mapping hMapping) .nil))) .nil)) .nil)

theorem sanitized_alike_nested :
    sanitizeTaskDetail plainRedaction (nestedSecret "s1") =
      sanitizeTaskDetail plainRedaction (nestedSecret "s2") := by
  have hAlike :=
    sanitized_alike plainRedaction (nestedSecret "s1") (nestedSecret "s2") nestedSecret_same
  have hCovered : Covered plainRedaction (nestedSecret "s1") :=
    ⟨⟨⟨trivial, ⟨trivial, trivial, trivial, trivial⟩, trivial⟩, trivial⟩, trivial⟩
  exact hAlike.1.mpr (hAlike.2 hCovered)

/- The text of the first value of a mapping. -/
def firstText : Detail → String
| .mapping ((_, .text value) :: _) => value
| _ => ""

/- A mapping under the key of a URL is shown as a text. -/
theorem secret_in_url_shown :
    Same plainRedaction (.mapping [(.text "url", .mapping [(.text "bearer", .text "s1")])])
        (.mapping [(.text "url", .mapping [(.text "bearer", .text "s2")])]) ∧
      sanitizeTaskDetail plainRedaction
          (.mapping [(.text "url", .mapping [(.text "bearer", .text "s1")])]) ≠
        sanitizeTaskDetail plainRedaction
          (.mapping [(.text "url", .mapping [(.text "bearer", .text "s2")])]) := by
  constructor
  · exact .mapping (.keep (.mapping (.secret (secretKey_ofList rfl rfl listed_compact.2.2)
              (by decide) (by decide) .nil)) .nil)
  · intro hAlike
    have hTexts := congrArg firstText hAlike
    exact absurd hTexts (by decide)

end TaskLogging
