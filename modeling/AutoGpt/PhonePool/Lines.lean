import AutoGpt.Library.Grouping
import AutoGpt.Library.PySplit
import AutoGpt.Library.PyUrl

/-
  The line of a phone and its API URL: how
  `to_phone_items` writes it, and how the import
  (`services/chatgpt_core/phone_pool_repository.py`) and the
  delivery of an account
  (`services/delivery_cards/service.py`) read it.
-/

----
-- Phones And URLs
----

namespace PhoneLines

open PySplit

/- The checks of `urlsplit` that raise: whether a network location passes them. -/
structure Env where
  netloc_ok : Text → Bool

variable (env : Env)

/- `normalize_phone(value)` and `_normalize_phone_e164(value)`. -/
def normalize_phone (value : Text) : Text :=
  let digits := value.filter isDigit
  if digits = [] then [] else '+' :: digits

/- `parsed.scheme in {"http", "https"} and parsed.netloc` for
   `parsed = urlparse(url)`, which may raise. -/
def valid_api_url (url : Text) : Except Unit Bool :=
  let parsed := PyUrl.urlsplit url
  if env.netloc_ok parsed.netloc then .ok (decide
        ((parsed.scheme = "http".toList ∨ parsed.scheme = "https".toList) ∧ parsed.netloc ≠ []))
  else .error ()

def dashes : Text := "----".toList

----
-- Writing
----

/- The columns of a record that an item is made of. -/
structure PhonePoolRecord where
  id : Int
  phone_e164 : Text
  api_url : Text
  api_host : Text := []
  api_expired_date : Text := []
  remaining_capacity : Int

/- `PhoneApiResolution`. -/
structure PhoneApiResolution where
  request_api_url : Text
  source_api_host : Text
  forwarded_api_host : Text
  forwarded : Bool
  status : String

/- How `resolve_phone_api_url(url, strict=True)` fails. -/
inductive ResolveError where
| phoneApiForwardError (message : String)
| other (message code : String)

/- An item of `to_phone_items`. -/
structure PhoneItem where
  pool_id : Int
  line_no : Nat
  phone : Text
  api_url : Text
  source_api_url : Text
  source_api_host : Text
  forwarded_api_url : Text
  forwarded_api_host : Text
  api_forwarded : Bool
  forward_status : String
  forward_error : String := ""
  forward_error_code : String := ""
  api_expired_date : Text
  raw_line : Text

/- `a or b`. -/
def orElse (a b : Text) : Text := if a = [] then b else a

/- `raw_line` of a record and its request URL. -/
def raw_line (record : PhonePoolRecord) (request_api_url : Text) :
    Text :=
  let raw_line := record.phone_e164 ++ (dashes ++ request_api_url)
  if record.api_expired_date = [] then raw_line
  else raw_line ++ (dashes ++ record.api_expired_date)

/- The item with the number `line_no`. -/
def phoneItem (resolve : Text → Except ResolveError PhoneApiResolution)
    (line_no : Nat) (record : PhonePoolRecord) : Except String PhoneItem :=
  match resolve record.api_url with
  | .ok resolution =>
    let request_api_url := orElse resolution.request_api_url record.api_url
    .ok
      { pool_id := record.id, line_no := line_no, phone := record.phone_e164,
        api_url := request_api_url, source_api_url := record.api_url,
        source_api_host := orElse resolution.source_api_host record.api_host,
        forwarded_api_url := if resolution.forwarded then request_api_url else [],
        forwarded_api_host := resolution.forwarded_api_host, api_forwarded := resolution.forwarded,
        forward_status := resolution.status, api_expired_date := record.api_expired_date,
        raw_line := raw_line record request_api_url }
  | .error (.phoneApiForwardError message) => .error message
  | .error (.other message code) => .ok
        { pool_id := record.id
          line_no := line_no
          phone := record.phone_e164
          api_url := []
          source_api_url := record.api_url
          source_api_host := record.api_host
          forwarded_api_url := []
          forwarded_api_host := []
          api_forwarded := false
          forward_status := "error"
          forward_error := String.ofList (message.toList.take 240)
          forward_error_code :=
            String.ofList ((PyText.orElse code "api_forward_error").toList.take 64)
          api_expired_date := record.api_expired_date
          raw_line := raw_line record [] }

/- The items of the records that the loops come to, from the
   number `line_no` on; each resolution is its own call. -/
def itemsFrom (resolve : Nat → Text → Except ResolveError PhoneApiResolution) (line_no : Nat) :
    List PhonePoolRecord → Except String (List PhoneItem)
| [] => .ok []
| record :: rest =>
    match phoneItem (resolve line_no) line_no record with
    | .error message => .error message
    | .ok item =>
      match itemsFrom resolve (line_no + 1) rest with
      | .error message => .error message
      | .ok items => .ok (item :: items)

/- `to_phone_items(records, limit_accounts=..., expand_capacity=...)`. -/
def to_phone_items (resolve : Nat → Text → Except ResolveError PhoneApiResolution)
    (records : List PhonePoolRecord) (limit_accounts : Int) (expand_capacity : Bool) :
    Except String (List PhoneItem) :=
  let max_items := (max limit_accounts 0).toNat
  let repeated := records.flatMap fun record =>
    let times := if expand_capacity then record.remaining_capacity else 1
    List.replicate (max times 1).toNat record
  itemsFrom resolve 1
    (if max_items = 0 then repeated
      else repeated.take max_items)

----
-- Import
----

/- The end of a match of `https?://`, with case ignored; the long s folds to an s. -/
def afterScheme (text : Text) : Option Text :=
  match text with
  | h :: t₁ :: t₂ :: p :: rest =>
    if h ∈ ['h', 'H'] ∧ t₁ ∈ ['t', 'T'] ∧ t₂ ∈ ['t', 'T'] ∧ p ∈ ['p', 'P'] then
      match rest with
      | ':' :: '/' :: '/' :: rest => some rest
      | s :: ':' :: '/' :: '/' :: rest => if s ∈ ['s', 'S', 'ſ'] then some rest else none
      | _ => none
    else none
  | _ => none

/- `[^\s'\"<>]`. -/
def isUrlChar (c : Char) : Bool := !PyText.isSpace c && !([39, 34, 60, 62].contains c.toNat)

/- `_PHONE_POOL_API_URL_RE.search(text)`: the text before the match, and the match. -/
def searchApiUrl : Text → Option (Text × Text)
| [] => none
| c :: rest =>
    match afterScheme (c :: rest) with
    | some (d :: after) =>
      if isUrlChar d then some ([], (c :: rest).take ((c :: rest).length - (d :: after).length) ++
              (d :: after).takeWhile isUrlChar)
      else (searchApiUrl rest).map fun p => (c :: p.1, p.2)
    | _ => (searchApiUrl rest).map fun p => (c :: p.1, p.2)

/- `.rstrip("，,；;")`. -/
def rstripMarks (text : Text) : Text := text.rdropWhile fun c =>
    [65292, 44, 65307, 59].contains c.toNat

/- The first two parts of a split, and all of them. -/
def firstParts (parts : List Text) : Text × Text × List Text :=
  (parts.headD [], parts.tail.headD [], parts)

/- `_split_import_phone_api_line(line)`. -/
def split_import_phone_api_line (line : Text) :
    Text × Text × List Text :=
  let text := strip line
  if text = [] then ([], [], [])
  else if dashes <:+: text then firstParts (split dashes text)
  else if ['|'] <:+: text then firstParts (splitMax ['|'] 1 text)
  else if "---".toList <:+: text then
    firstParts (split "---".toList text)
  else
    match searchApiUrl text with
    | none => ([], [], [])
    | some (before, url) => (before, rstripMarks url, [before, rstripMarks url])

/- An entry `(index, phone, api_url, line)`. -/
structure Entry where
  index : Nat
  phone : Text
  api_url : Text
  line : Text

structure Report where
  line : Nat
  raw : Text
  phone : Text := []
  reason : String

structure Parsed where
  entries_by_phone : List (Text × Entry) := []
  errors : List Report := []
  warnings : List Report := []
  deduped : Nat := 0

/- The warning that another line has replaced. -/
def replacedReason (index previous_line : Nat) : String :=
  "手机号重复，已使用第 " ++ toString index ++ " 行覆盖第 " ++ toString previous_line ++ " 行"

def parseLine (parsed : Parsed) (index : Nat) (raw_line : Text) :
    Except Unit Parsed :=
  let line := strip raw_line
  if line = [] ∨ line.head? = some '#' then .ok parsed
  else
    let split := split_import_phone_api_line line
    let parts := split.2.2
    if parts.length < 2 then .ok
        { parsed with
          errors := parsed.errors ++ [{ line := index, raw := line, reason := "缺少手机号/API 分隔符" }] }
    else
      let phone := normalize_phone split.1
      let api_url := strip split.2.1
      match valid_api_url env api_url with
      | .error () => .error ()
      | .ok valid =>
        if phone = [] then .ok
            { parsed with
              errors := parsed.errors ++ [{ line := index, raw := line, reason := "手机号为空或格式无效" }] }
        else if valid = false then .ok
            { parsed with
              errors := parsed.errors ++
                [{ line := index, raw := line, phone := phone, reason := "API URL 无效" }] }
        else
          let extra : List Report :=
            if 2 < parts.length then
              [{ line := index, raw := line, phone := phone, reason := "导入只使用手机号和 API，已忽略多余字段" }]
            else []
          let previous := Grouping.value? parsed.entries_by_phone phone
          let again : List Report :=
            match previous with
            | none => []
            | some entry =>
              [{ line := index, raw := line, phone := phone,
                 reason := replacedReason index entry.index }]
          let entry : Entry := { index := index, phone := phone, api_url := api_url, line := line }
          .ok
            { parsed with
              entries_by_phone :=
                Grouping.upsert phone entry (fun _ => entry) parsed.entries_by_phone
              warnings := parsed.warnings ++ extra ++ again
              deduped := parsed.deduped + again.length }

def parseLines (parsed : Parsed) (index : Nat) :
    List Text → Except Unit Parsed
| [] => .ok parsed
| line :: rest =>
    match parseLine env parsed index line with
    | .error () => .error ()
    | .ok parsed => parseLines parsed (index + 1) rest

/- `_parse_import_lines(raw)`: the entries by their lines, the
   errors, the warnings and the number of replaced lines. -/
def parse_import_lines (raw : Text) :
    Except Unit (List Entry × List Report × List Report × Nat) :=
  match parseLines env {} 1 (splitlines raw) with
  | .error () => .error ()
  | .ok parsed => .ok ((parsed.entries_by_phone.map Prod.snd).mergeSort
            (fun a b => a.index ≤ b.index), parsed.errors, parsed.warnings, parsed.deduped)

----
-- Delivery
----

/- `chatgpt_phone_binding` of an account; a key that is not there is the empty text. -/
structure Binding where
  phone : Text := []
  raw_line : Text := []
  api_url : Text := []
  sms_api : Text := []
  status : Text := []
  status_label : Text := []
  bound_at : Text := []
  updated_at : Text := []
  created_at : Text := []
  api_expired_date : Text := []
  code_time : Text := []
  task_id : Text := []
  source : Text := []

/- The payload; `api_url` is also `sms_api`, and `phone` is also `phone_e164`. -/
structure BindingPayload where
  bound : Bool
  status : Text
  status_label : Text := []
  phone : Text
  api_url : Text
  raw_line : Text := []
  bound_at : Text := []
  api_expired_date : Text := []
  code_time : Text := []
  task_id : Text := []
  source : Text := []
  message : String

/- `api_url` of the payload, with the pool's URL of a phone. -/
def binding_api_url (api_url_from_phone_pool : Text → Text) (binding : Binding) : Text :=
  let phone := normalize_phone binding.phone
  let raw_line := strip binding.raw_line
  let api_url := strip (orElse binding.api_url binding.sms_api)
  let api_url :=
    if api_url = [] ∧ raw_line ≠ [] ∧ dashes <:+: raw_line then
      strip ((splitMax dashes 1 raw_line).tail.headD [])
    else api_url
  if api_url = [] ∧ phone ≠ [] then api_url_from_phone_pool phone
  else api_url

/- `account_phone_binding_payload(account)` of an account with this binding, or with none. -/
def account_phone_binding_payload (api_url_from_phone_pool : Text → Text)
    (binding : Option Binding) : BindingPayload :=
  let binding := binding.getD {}
  let phone := normalize_phone binding.phone
  if phone = [] then
    { bound := false, status := "missing".toList, phone := [], api_url := [],
      message := "该账号没有手机号绑定记录" }
  else
    { bound := true, status := strip (orElse binding.status "bound".toList),
      status_label := strip (orElse binding.status_label "已绑定".toList), phone := phone,
      api_url := binding_api_url api_url_from_phone_pool binding,
      raw_line := strip binding.raw_line,
      bound_at := strip (orElse binding.bound_at (orElse binding.updated_at binding.created_at)),
      api_expired_date := strip binding.api_expired_date, code_time := strip binding.code_time,
      task_id := strip binding.task_id, source := strip binding.source, message := "" }

end PhoneLines
