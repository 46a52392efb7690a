import AutoGpt.TaskLogging.Model

/-
  Two details that differ only in secrets, and what of the
  difference the sanitized details keep.

  Main theorems: `TaskLogging.Same.agrees`
-/

open PyText (isAscii isDecimal isSpace strip)
open List
open String

----
-- Secret Keys
----

namespace TaskLogging

/- The names of tokens, passwords and cookies. -/
def secretNames : List String := tokenKeys ++ passwordKeys ++ cookieKeys

/- The key is one of these names, in any letter case and with any separators. -/
def SecretKey (env : Redaction) (key : Key) : Prop := compactKey env key ∈ secretNames.map compacted

instance (env : Redaction) (key : Key) :
    Decidable (SecretKey env key) := by
  unfold SecretKey
  infer_instance

theorem compacted_ofList (cs : List Char) :
    compacted (ofList cs) = ofList
        (cs.filter fun c => ('a' ≤ c && c ≤ 'z') || ('0' ≤ c && c ≤ '9')) := by
  unfold compacted
  rw [toList_ofList]

theorem compacted_names :
    secretNames.map compacted = ["token", "accesstoken", "accesstoken", "refreshtoken",
        "refreshtoken", "idtoken", "idtoken", "sessiontoken",
        "sessiontoken", "bearer", "authorization", "apikey",
        "apikey", "xapikey", "xapikey", "apisecret",
        "apisecret", "secret", "authtoken", "authtoken", "csrftoken", "csrftoken", "clientsecret",
        "clientsecret", "miyaipcrc", "miyaipcrc", "miyaipkeyname", "miyaipkeyname", "password",
        "loginpassword", "loginpassword", "chatgptphonesignuppassword",
        "chatgptphonesignuppassword", "cookie", "cookies",
        "cookieheader", "cookieheader", "setcookie",
        "setcookie", "nextauthsession", "nextauthsession",
        "oaiclientauthsession", "oaiclientauthsession", "loginsession", "loginsession"] := by
  simp only [secretNames, tokenKeys, passwordKeys, cookieKeys, cons_append, nil_append,
    map_cons, map_nil]
  repeat
    refine congrArg₂ List.cons ((compacted_ofList _).trans rfl) ?_
  rfl

theorem compacted_listed {name : String} (hName : name ∈ secretNames.map compacted) :
    name ∈ tokenKeys ∨ name ∈ passwordKeys ∨ name ∈ cookieKeys := by
  have hListed : ∀ name ∈ secretNames.map compacted,
        name ∈ tokenKeys ∨ name ∈ passwordKeys ∨ name ∈ cookieKeys := by
    rw [compacted_names]
    simp [tokenKeys, passwordKeys, cookieKeys]
  exact hListed name hName

theorem treatment_of_secret (hSecret : SecretKey env key) :
    treatment (normKey env key) (compactKey env key) ∈ [Treatment.token, .password, .cookie] := by
  unfold treatment
  rcases compacted_listed hSecret with hToken | hPassword | hCookie
  · rw [if_pos hToken]
    decide
  · rw [if_pos hPassword]
    split
    · decide
    · decide
  · rw [if_pos (Or.inr hCookie)]
    split
    · decide
    · split
      · decide
      · decide

def compactSigns (cs : List Char) : List Char := (cs.map Char.toLower).filter fun c =>
    ('a' ≤ c && c ≤ 'z') || ('0' ≤ c && c ≤ '9')

variable {cs : List Char}

section

variable (hAscii : cs.all (fun c => decide (c.toNat < 128)))
include hAscii

theorem compactKey_ofList :
    compactKey env (.text (ofList cs)) = ofList (compactSigns cs) := by
  have hText : isAscii (ofList cs) := by
    unfold isAscii
    rw [toList_ofList]
    exact hAscii
  unfold compactKey
  rw [show (Key.text (ofList cs)).orEmpty = ofList cs from rfl,
    env.lower_ascii _ hText, toList_ofList, compacted_ofList]
  rfl

theorem secretKey_ofList
    (hCompact : ofList (compactSigns cs) = name) (hName : name ∈ secretNames.map compacted) :
    SecretKey env (.text (ofList cs)) := by
  unfold SecretKey
  rw [compactKey_ofList hAscii, hCompact]
  exact hName

theorem not_secretKey_ofList
    (hCompact : ofList (compactSigns cs) = name) (hName : name ∉ secretNames.map compacted) :
    ¬ SecretKey env (.text (ofList cs)) := by
  unfold SecretKey
  rw [compactKey_ofList hAscii, hCompact]
  exact hName

end

----
-- Details That Differ In Secrets
----

mutual

/- The details are the same but for non-empty values under secret keys. -/
inductive Same (env : Redaction) : Detail → Detail → Prop
| scalar (d : Detail) (hScalar : d.isContainer = false) :
    Same env d d
| list {xs ys : List Detail} (hItems : SameList env xs ys) :
    Same env (.list xs) (.list ys)
| tuple {xs ys : List Detail} (hItems : SameList env xs ys) :
    Same env (.tuple xs) (.tuple ys)
| mapping
    {xs ys : List (Key × Detail)} (hItems : SameItems env xs ys) :
    Same env (.mapping xs) (.mapping ys)

inductive SameList (env : Redaction) :
    List Detail → List Detail → Prop
| nil : SameList env [] []
| cons
    {a b : Detail} {xs ys : List Detail} (hSame : Same env a b) (hRest : SameList env xs ys) :
    SameList env (a :: xs) (b :: ys)

inductive SameItems (env : Redaction) :
    List (Key × Detail) → List (Key × Detail) → Prop
| nil : SameItems env [] []
| keep
    {key : Key} {a b : Detail} {xs ys : List (Key × Detail)}
    (hSame : Same env a b) (hRest : SameItems env xs ys) :
    SameItems env ((key, a) :: xs) ((key, b) :: ys)
| secret
    {key : Key} {a b : Detail} {xs ys : List (Key × Detail)} (hSecret : SecretKey env key)
    (hLeft : a.orEmpty env ≠ "") (hRight : b.orEmpty env ≠ "") (hRest : SameItems env xs ys) :
    SameItems env ((key, a) :: xs) ((key, b) :: ys)

end

variable {env : Redaction}

theorem SameList.length_eq :
    SameList env xs ys → xs.length = ys.length
| .nil => rfl
| .cons _ hRest => by
    rw [length_cons, length_cons, SameList.length_eq hRest]

theorem SameItems.length_eq :
    SameItems env xs ys → xs.length = ys.length
| .nil => rfl
| .keep _ hRest => by
    rw [length_cons, length_cons, SameItems.length_eq hRest]
| .secret _ _ _ hRest => by
    rw [length_cons, length_cons, SameItems.length_eq hRest]

theorem SameItems.repeats_eq (key : Key) :
    SameItems env xs ys → repeats key xs = repeats key ys
| .nil => rfl
| .keep _ hRest => by
    have hTail := SameItems.repeats_eq key hRest
    unfold repeats at hTail ⊢
    rw [any_cons, any_cons, hTail]
| .secret _ _ _ hRest => by
    have hTail := SameItems.repeats_eq key hRest
    unfold repeats at hTail ⊢
    rw [any_cons, any_cons, hTail]

theorem isEmpty_of_length {α β : Type} {xs : List α} {ys : List β}
    (hLength : xs.length = ys.length) : xs.isEmpty = ys.isEmpty := by
  cases xs with
  | nil =>
    cases ys with
    | nil => rfl
    | cons y ys => simp at hLength
  | cons x xs =>
    cases ys with
    | nil => simp at hLength
    | cons y ys => rfl

theorem Same.truthy_eq {a b : Detail} (hSame : Same env a b) : a.truthy = b.truthy := by
  cases hSame with
  | scalar d hScalar => rfl
  | list hItems => simp only [Detail.truthy, isEmpty_of_length hItems.length_eq]
  | tuple hItems => simp only [Detail.truthy, isEmpty_of_length hItems.length_eq]
  | mapping hItems => simp only [Detail.truthy, isEmpty_of_length hItems.length_eq]

theorem Same.count_eq (hSame : Same env a b) : a.count = b.count := by
  cases hSame with
  | scalar d hScalar => rfl
  | list hItems => exact hItems.length_eq
  | tuple hItems => exact hItems.length_eq
  | mapping hItems => exact hItems.length_eq

theorem Same.isContainer_eq (hSame : Same env a b) : a.isContainer = b.isContainer := by
  cases hSame with
  | scalar d hScalar => rfl
  | list hItems => rfl
  | tuple hItems => rfl
  | mapping hItems => rfl

theorem Same.isBlank_eq (hSame : Same env a b) : a.isBlank = b.isBlank := by
  cases hSame with
  | scalar d hScalar => rfl
  | list hItems => rfl
  | tuple hItems => rfl
  | mapping hItems => rfl

theorem Same.eq_of_scalar (hSame : Same env a b) (hScalar : a.isContainer = false) : a = b := by
  cases hSame with
  | scalar d _ => rfl
  | list hItems => cases hScalar
  | tuple hItems => cases hScalar
  | mapping hItems => cases hScalar

theorem str_of_container (hContainer : d.isContainer) : d.str env = env.container_str d := by
  cases d with
  | list items => rfl
  | tuple items => rfl
  | mapping items => rfl
  | _ => cases hContainer

theorem str_container_ne {d : Detail} (hContainer : d.isContainer) : d.str env ≠ "" := by
  rw [str_of_container hContainer]
  rcases env.container_bracket d hContainer with ⟨c, -, hc⟩
  intro hEmpty
  rw [hEmpty] at hc
  cases hc

theorem Same.orEmpty_eq_empty {a b : Detail} (hSame : Same env a b) :
    a.orEmpty env = "" ↔ b.orEmpty env = "" := by
  cases hContainer : a.isContainer with
  | false => rw [hSame.eq_of_scalar hContainer]
  | true =>
    have hOther : b.isContainer := by rw [← hSame.isContainer_eq, hContainer]
    unfold Detail.orEmpty
    rw [hSame.truthy_eq]
    cases b.truthy with
    | false => simp
    | true => simp [str_container_ne hContainer, str_container_ne hOther]

theorem mem_strip (hSign : isSpace c = false) (hMem : c ∈ s.toList) : c ∈ (strip s).toList := by
  have hDrop : ∀ cs : List Char, c ∈ cs → c ∈ cs.dropWhile isSpace := by
    intro cs hc
    rw [← takeWhile_append_dropWhile (p := isSpace) (l := cs)] at hc
    rcases mem_append.mp hc with hTaken | hLeft
    · have hBlank := mem_takeWhile_imp hTaken
      rw [hSign] at hBlank
      cases hBlank
    · exact hLeft
  unfold strip
  rw [toList_ofList, rdropWhile, mem_reverse]
  apply hDrop
  rw [mem_reverse]
  exact hDrop _ hMem

theorem bracket_sign (hBracket : c ∈ brackets) :
    isSpace c = false ∧ isDecimal c = false ∧ isCodeChar c = false := by
  simp only [brackets, mem_cons, not_mem_nil, or_false] at hBracket
  rcases hBracket with rfl | rfl | rfl
  · exact ⟨rfl, rfl, rfl⟩
  · exact ⟨rfl, rfl, rfl⟩
  · exact ⟨rfl, rfl, rfl⟩

theorem looksSensitiveCode_container (hContainer : d.isContainer) :
    looksSensitiveCode env d = false := by
  unfold looksSensitiveCode
  dsimp only
  split
  next _ => rfl
  next hText =>
    have hTruthy : d.orEmpty env = env.container_str d := by
      cases hTrue : d.truthy with
      | true => simp [Detail.orEmpty, hTrue, str_of_container hContainer]
      | false =>
        exfalso
        apply hText
        have hEmpty : d.orEmpty env = "" := by simp [Detail.orEmpty, hTrue]
        rw [hEmpty]
        rfl
    rcases env.container_bracket d hContainer with ⟨c, hBracket, hc⟩
    have hSign := bracket_sign hBracket
    rw [hTruthy]
    have hMem := mem_strip hSign.1 hc
    have hDecimal : (strip (env.container_str d)).toList.all isDecimal = false := by
      rw [all_eq_false]
      exact ⟨c, hMem, by simp [hSign.2.1]⟩
    have hCode : (strip (env.container_str d)).toList.all isCodeChar = false := by
      rw [all_eq_false]
      exact ⟨c, hMem, by simp [hSign.2.2]⟩
    rw [hDecimal, hCode, Bool.and_false, Bool.and_false]
    rfl

end TaskLogging

----
-- Values Shown As Texts
----

namespace TaskLogging

variable (env : Redaction)

/- What an item of a mapping adds to the texts that are shown: what a redactor makes of the whole
   value. `deep` are the texts of its value. -/
def shownItem (key : Key) (value deep : Detail) : Detail :=
  match treatment (normKey env key) (compactKey env key) with
  | .fullUrl | .phone => .text (value.orEmpty env)
  | .url => .text (env.redact_url (value.orEmpty env))
  | .emailLines => redactLines env env.redact_raw_email_api_line (fun d => .text
            ("\n".intercalate ((env.splitlines (d.orEmpty env)).map env.redact_raw_email_api_line)))
        value
  | .rawEmailLine => .text (env.redact_raw_email_api_line (value.orEmpty env))
  | .rawPhoneLine => .text (env.redact_raw_phone_line (value.orEmpty env))
  | .boundPhoneLines => redactLines env env.redact_raw_phone_line
        (fun d => .text (env.redact_raw_phone_line (d.orEmpty env))) value
  | .mailboxState => summarizeMailboxState env value
  | .token | .password | .cookie | .body => .none
  | _ => deep

mutual

/- The texts and summaries of a sanitized detail that are made of whole values, in their places. -/
def shownTexts : Detail → Detail
| .mapping items => .mapping (shownItems items)
| .list items => .list (shownList items)
| .tuple items => .tuple (shownList items)
| _ => .none

def shownList : List Detail → List Detail
| [] => []
| d :: ds => shownTexts d :: shownList ds

def shownItems : List (Key × Detail) → List (Key × Detail)
| [] => []
| (key, value) :: items =>
    if repeats key items then shownItems items
    else (.text key.shown, shownItem env key value (shownTexts value)) :: shownItems items

end

variable {env}

theorem sanitizeMappingItem_secret (deep deep' : Detail)
    (hSecret : SecretKey env key) (hLeft : a.orEmpty env ≠ "") (hRight : b.orEmpty env ≠ "") :
    sanitizeMappingItem env key a deep = sanitizeMappingItem env key b deep' := by
  have hBlank : ∀ d : Detail, d.orEmpty env ≠ "" → d.isBlank = false := by
    intro d hShown
    cases d with
    | none => exact absurd rfl hShown
    | text value =>
      have hValue : value ≠ "" := by
        intro hEmpty
        apply hShown
        rw [hEmpty]
        rfl
      simp [Detail.isBlank, hValue]
    | _ => rfl
  have hTreatment := treatment_of_secret hSecret
  unfold sanitizeMappingItem
  simp only [mem_cons, not_mem_nil, or_false] at hTreatment
  rcases hTreatment with hToken | hPassword | hCookie
  · rw [hToken]
    dsimp only
    rw [if_neg hLeft, if_neg hRight]
  · rw [hPassword]
    dsimp only
    rw [if_neg hLeft, if_neg hRight]
  · rw [hCookie]
    rw [hBlank a hLeft, hBlank b hRight]

theorem shownItem_secret (a b deep deep' : Detail) (hSecret : SecretKey env key) :
    shownItem env key a deep = shownItem env key b deep' := by
  have hTreatment := treatment_of_secret hSecret
  unfold shownItem
  simp only [mem_cons, not_mem_nil, or_false] at hTreatment
  rcases hTreatment with hToken | hPassword | hCookie
  · rw [hToken]
  · rw [hPassword]
  · rw [hCookie]

/- An item whose values are the same but for secrets: its
   sanitized copies agree when its shown texts do. -/
theorem item_agrees (hSame : Same env a b) (hScalar : a.isContainer = false → deep = deep')
    (hScalarShown : a.isContainer = false → shown = shown')
    (hDeep : deep = deep' ↔ shown = shown') :
    sanitizeMappingItem env key a deep = sanitizeMappingItem env key b deep' ↔
      shownItem env key a shown = shownItem env key b shown' := by
  cases hContainer : a.isContainer with
  | false =>
    rw [hSame.eq_of_scalar hContainer, hScalar hContainer, hScalarShown hContainer]
    simp
  | true =>
    have hOther : b.isContainer := by rw [← hSame.isContainer_eq, hContainer]
    unfold shownItem sanitizeMappingItem
    cases treatment (normKey env key) (compactKey env key) with
    | token =>
      have hEmpty := hSame.orEmpty_eq_empty
      simp only [hEmpty]
    | password =>
      have hEmpty := hSame.orEmpty_eq_empty
      simp only [hEmpty]
    | cookie =>
      have hBlank := hSame.isBlank_eq
      simp only [hBlank]
    | body =>
      have hBlank := hSame.isBlank_eq
      simp only [hBlank]
    | proxy =>
      cases hSame with
      | scalar d hNot =>
        rw [hNot] at hContainer
        cases hContainer
      | list hItems => exact hDeep
      | tuple hItems => exact hDeep
      | mapping hItems => exact hDeep
    | freeText =>
      cases hSame with
      | scalar d hNot =>
        rw [hNot] at hContainer
        cases hContainer
      | list hItems => exact hDeep
      | tuple hItems => exact hDeep
      | mapping hItems => exact hDeep
    | otp =>
      rw [looksSensitiveCode_container hContainer, looksSensitiveCode_container hOther]
      exact hDeep
    | textList => exact hDeep
    | other => exact hDeep
    | _ => rfl

theorem sanitize_scalar_eq (hSame : Same env a b) (hScalar : a.isContainer = false) :
    sanitizeTaskDetail env a = sanitizeTaskDetail env b := by
  rw [hSame.eq_of_scalar hScalar]

theorem shown_scalar_eq (hSame : Same env a b) (hScalar : a.isContainer = false) :
    shownTexts env a = shownTexts env b := by
  rw [hSame.eq_of_scalar hScalar]

mutual

/- The sanitized copies of two details that differ only in secrets agree exactly when their shown
   texts do. -/
theorem Same.agrees :
    Same env a b →
      (sanitizeTaskDetail env a = sanitizeTaskDetail env b ↔ shownTexts env a = shownTexts env b)
| .scalar d hScalar => by simp
| .list hItems => by
    have hAgree := SameList.agrees hItems
    simp only [sanitizeTaskDetail, shownTexts, Detail.list.injEq]
    exact hAgree
| .tuple hItems => by
    have hAgree := SameList.agrees hItems
    simp only [sanitizeTaskDetail, shownTexts, Detail.tuple.injEq]
    exact hAgree
| .mapping hItems => by
    have hAgree := SameItems.agrees hItems
    simp only [sanitizeTaskDetail, shownTexts, Detail.mapping.injEq]
    exact hAgree

theorem SameList.agrees :
    SameList env xs ys →
      (sanitizeList env xs = sanitizeList env ys ↔ shownList env xs = shownList env ys)
| .nil => by simp [sanitizeList, shownList]
| .cons hSame hRest => by
    have hHead := Same.agrees hSame
    have hTail := SameList.agrees hRest
    simp only [sanitizeList, shownList, cons.injEq]
    rw [hHead, hTail]

theorem SameItems.agrees :
    SameItems env xs ys →
      (sanitizeItems env xs = sanitizeItems env ys ↔ shownItems env xs = shownItems env ys)
| .nil => by simp [sanitizeItems, shownItems]
| .keep hSame hRest => by
    have hHead := Same.agrees hSame
    have hTail := SameItems.agrees hRest
    simp only [sanitizeItems, shownItems, hRest.repeats_eq]
    split
    next _ => exact hTail
    next _ =>
      simp only [cons.injEq, Prod.mk.injEq, true_and]
      rw [hTail, item_agrees hSame (sanitize_scalar_eq hSame) (shown_scalar_eq hSame) hHead]
| .secret hSecret hLeft hRight hRest => by
    have hTail := SameItems.agrees hRest
    simp only [sanitizeItems, shownItems, hRest.repeats_eq]
    split
    next _ => exact hTail
    next _ =>
      simp only [cons.injEq, Prod.mk.injEq, true_and]
      rw [hTail, sanitizeMappingItem_secret _ _ hSecret hLeft hRight,
        shownItem_secret _ _ _ _ hSecret]
      exact ⟨fun hBoth => ⟨rfl, hBoth.2⟩, fun hBoth => ⟨rfl, hBoth.2⟩⟩

end

end TaskLogging
