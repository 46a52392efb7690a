import AutoGpt.Library.Machine
import AutoGpt.Library.PyText

/-
  The mailbox of an HME lease (`HmeReadyMailbox` in
  `core/base_mailbox.py`): which forward mailboxes it scans,
  the baseline of message ids that it takes, and the wait for
  a code that is not in the baseline.
-/

open PyText (orElse strip)

----
-- Mailboxes And Messages
----

namespace HmeMailbox

/- `MailboxAccount` of a forward mailbox. -/
structure Box where
  email : String
  account_id : String

/- A message in a listing. `uid` tells the messages of a mailbox apart and is no part of the
   listing; `stamp` is the received time or the subject. -/
structure Mail where
  uid : Nat
  id : String
  stamp : String
  msg_ts : Option Int
deriving DecidableEq

/- `_message_id(message, index)`. -/
def Mail.message_id (mail : Mail) (index : Nat) : String :=
  if mail.id ≠ "" then mail.id
  else "idx-" ++ toString index ++ "-" ++ mail.stamp

/- An answer to `_list_emails`: all messages that the mailbox
   has, of which the listing is one page. -/
inductive Listing where
| mails (all : List Mail)
| not_found
| failed

/- An answer to `_get_email_detail`. -/
inductive DetailAnswer (Detail : Type) where
| found (detail : Detail)
| not_found
| failed

/- The TempMail server, asked at a time: it may answer differently each time. -/
structure Server (Detail : Type) where
  ensure_mailbox_by_email : Nat → String → Option Box
  list_emails : Nat → String → Listing
  get_email_detail : Nat → String → String → DetailAnswer Detail

/- A configured mailbox with the alias that it waits for: the
   alias match and the extraction of a code from a message. -/
structure Config (Detail : Type) where
  lower : String → String
  icloud_forward_to : String
  icloud_forward_tos : List String
  matches_alias : Detail → Bool
  safe_extract : Mail → Detail → Option String

/- What changes: the forwarding fields of the account's `extra`, the two caches of resolved
   mailboxes, and the time. -/
structure Client where
  forward_mailbox_id : String
  forward_to : String
  nested_forward_to : String
  by_email : String → Option Box
  accounts : List Box
  clock : Nat

def Client.tick (c : Client) : Client := { c with clock := c.clock + 1 }

/- A listed message, with whether its scan namespaced ids. -/
structure Entry where
  mailbox : String
  namespaced : Bool
  raw : String
  mail : Mail
deriving DecidableEq

def Entry.scoped (e : Entry) : String := if e.namespaced then e.mailbox ++ ":" ++ e.raw else e.raw

def Entry.message (e : Entry) : String × Nat := (e.mailbox, e.mail.uid)

/- The page size of `_list_emails`. -/
def page_size : Nat := 100

/- The messages that a scan sees of a mailbox. -/
def listing (mailbox : String) (namespaced : Bool) (all : List Mail) : List Entry :=
  (all.take page_size).zipIdx.map (fun (mail, index) =>
    { mailbox := mailbox, namespaced := namespaced, raw := mail.message_id index, mail := mail })

----
-- Forward Mailboxes
----

variable {Detail : Type}
variable (cfg : Config Detail) (server : Server Detail)

/- `_normalize_email(value)`. -/
def normalize_email (value : String) : String := cfg.lower (strip value)

/- `re.split(r"[,;\s]+", value)`. -/
def split_addresses (value : String) : List String :=
  (value.toList.splitOnP (fun ch => ch = ',' ∨ ch = ';' ∨ PyText.isSpace ch)).map String.ofList

/- One address of a forward route, when it is new. -/
def append_address (found : List String) (item : String) : List String :=
  let normalized := normalize_email cfg item
  if normalized = "" ∨ normalized = "*" ∨ '@' ∉ normalized.toList ∨ normalized ∈ found then found
  else found ++ [normalized]

/- `_forward_to_candidates_from_account(account)`. -/
def forward_to_candidates (c : Client) : List String := (split_addresses c.forward_to ++
    split_addresses c.nested_forward_to).foldl (append_address cfg) []

/- `add_account(candidate)`. -/
def add_account (found : List Box) (b : Box) : List Box :=
  let mailbox_id := strip b.account_id
  if mailbox_id = "" ∨ mailbox_id ∈ found.map (fun b => strip b.account_id) then found
  else found ++ [b]

/- The mailboxes of forward addresses, from the cache or from
   the server; without an answer the call fails. -/
def resolve_targets (c : Client) (found : List Box) :
    List String → Option (List Box) × Client
| [] => (some found, c)
| target :: targets =>
    match c.by_email target with
    | some b => resolve_targets c (add_account found b) targets
    | none =>
      match server.ensure_mailbox_by_email c.clock target with
      | none => (none, c.tick)
      | some b => resolve_targets
            { c.tick with
              by_email := Function.update c.by_email target
                (some b) }
            (add_account found b) targets

/- The mailboxes of the configured addresses. -/
def resolve_configured (c : Client) (found : List Box) :
    List String → Option (List Box) × Client
| [] => (some found, { c with accounts := found })
| target :: targets =>
    match server.ensure_mailbox_by_email c.clock target with
    | none => (none, c.tick)
    | some b => resolve_configured c.tick (found ++ [b]) targets

/- `_resolve_all_forward_mailboxes`. -/
def resolve_all_forward_mailboxes (c : Client) :
    Option (List Box) × Client :=
  if c.accounts ≠ [] then (some c.accounts, c)
  else resolve_configured server c [] cfg.icloud_forward_tos

/- The mailbox that the account is bound to. -/
def bound_mailbox (c : Client) : Box where
  email := ((forward_to_candidates cfg c).head?).getD cfg.icloud_forward_to
  account_id := strip c.forward_mailbox_id

/- `_candidate_forward_mailboxes_for_account(account)`. -/
def candidate_forward_mailboxes (c : Client) :
    Option (List Box) × Client :=
  if strip c.forward_mailbox_id ≠ "" then (some [bound_mailbox cfg c], c)
  else
    match resolve_targets server c [] (forward_to_candidates cfg c) with
    | (none, c) => (none, c)
    | (some [], c) =>
      match resolve_all_forward_mailboxes cfg server c with
      | (none, c) => (none, c)
      | (some all, c) => (some (all.foldl add_account []), c)
    | (some found, c) => (some found, c)

/- `_invalidate_forward_mailbox_cache(account, mailbox_id)`. -/
def invalidate_forward_mailbox_cache (c : Client) (mailbox_id : String) : Client :=
  let stale_id := strip mailbox_id
  if stale_id = "" then c
  else
    { c with
      forward_mailbox_id :=
        if strip c.forward_mailbox_id = stale_id then ""
        else c.forward_mailbox_id
      by_email := fun address =>
        (c.by_email address).filter (fun b => strip b.account_id ≠ stale_id)
      accounts := [] }

/- The route of the account, unless it has the target. -/
def with_target (c : Client) (target : String) : Client :=
  if target ∈ forward_to_candidates cfg c then c
  else { c with forward_to := target }

/- `_refresh_forward_mailbox_binding(account, forward_to=...)`; without a mailbox it raises. -/
def refresh_forward_mailbox_binding (c : Client) (forward_to : String) :
    Option Box × Client :=
  let target := normalize_email cfg forward_to
  if target = "" ∨ ',' ∈ target.toList ∨ ' ' ∈ target.toList then (none, c)
  else
    match server.ensure_mailbox_by_email c.clock target with
    | none => (none, c.tick)
    | some b => (some b, with_target cfg
            { c.tick with
              by_email := Function.update c.by_email target (some b),
              forward_mailbox_id := b.account_id }
            target)

----
-- Baselines
----

/- What was in a mailbox when a scan listed it. -/
structure Content where
  mailbox : String
  namespaced : Bool
  all : List Mail

/- The state of the scan in `get_current_ids`; `failed` is an exception that it raised. -/
structure Scan where
  client : Client
  blocked_ids : List String
  contents : List Content
  stale : List (Box × String)
  failed : Bool

def Scan.entries (s : Scan) : List Entry :=
  s.contents.flatMap (fun x => listing x.mailbox x.namespaced x.all)

def scan_box (namespaced : Bool) (s : Scan) (b : Box) : Scan :=
  let m_id := strip b.account_id
  if s.failed ∨ m_id = "" ∨ m_id ∈ s.blocked_ids then s
  else
    let c := s.client
    match server.list_emails c.clock m_id with
    | .mails all => { s with client := c.tick, contents := s.contents ++ [⟨m_id, namespaced, all⟩] }
    | .not_found =>
      { s with
        client := c.tick, blocked_ids := s.blocked_ids ++ [m_id],
        stale := s.stale ++ [(b, m_id)] }
    | .failed => { s with client := c.tick, failed := true }

/- `scan(candidates)` on the candidates of the account. -/
def scan_candidates (s : Scan) : Scan :=
  match candidate_forward_mailboxes cfg server s.client with
  | (none, c) => { s with client := c, failed := true }
  | (some candidates, c) => candidates.foldl (scan_box server (decide (1 < candidates.length)))
        { s with client := c, stale := [] }

/- A stale mailbox is dropped and its address resolved. -/
def rebind_stale (c : Client) (x : Box × String) : Client :=
  let c := invalidate_forward_mailbox_cache c x.2
  let address := orElse (strip x.1.email) (strip c.forward_to)
  let target := normalize_email cfg address
  if target ≠ "" ∧ '@' ∈ target.toList then (refresh_forward_mailbox_binding cfg server c target).2
  else c

/- `get_current_ids(account)`, as the state after its scans. -/
def get_current_ids (c : Client) : Scan :=
  let s := scan_candidates cfg server ⟨c, [], [], [], false⟩
  if s.failed ∨ s.stale = [] then s
  else
    scan_candidates cfg server
      { s with
        client := s.stale.foldl (rebind_stale cfg server)
          s.client }

----
-- Waits
----

/- The arguments of a wait; `polls` is how often it looks before its time is over. -/
structure WaitParams where
  otp_sent_at : Option Int
  exclude_codes : List String
  polls : Nat

/- The state of a wait. Beside the source's sets it keeps what was listed, the messages whose ids it
   added to `seen`, and those that it skipped because their ids were there. -/
structure Wait where
  client : Client
  seen : List String
  blocked_mailbox_ids : List String
  refresh_attempted_targets : List String
  listed : List Entry
  met : List Entry
  skipped : List Entry

inductive Ended where
| done (retry_requested : Bool)
| hit (code : String) (e : Entry)
| failed

/- `_forward_target(forward_mailbox)`. -/
def forward_target (c : Client) (b : Box) : String :=
  let candidate := orElse (normalize_email cfg b.email) (normalize_email cfg c.forward_to)
  if ',' ∈ candidate.toList ∨ ' ' ∈ candidate.toList ∨ '@' ∉ candidate.toList then ""
  else candidate

/- `_rebind_after_not_found(forward_mailbox, mailbox_id)`. -/
def rebind_after_not_found (w : Wait) (b : Box) (mailbox_id : String) : Wait × Bool :=
  let target := forward_target cfg w.client b
  let w := { w with blocked_mailbox_ids := w.blocked_mailbox_ids ++ [mailbox_id] }
  if target = "" ∨ target ∈ w.refresh_attempted_targets then (w, false)
  else
    let refreshed := refresh_forward_mailbox_binding cfg server
      (invalidate_forward_mailbox_cache w.client mailbox_id) target
    ({ w with
        refresh_attempted_targets := w.refresh_attempted_targets ++ [target],
        client := refreshed.2 },
      match refreshed.1 with
      | some b => strip b.account_id ≠ ""
      | none => false)

/- `_persist_actual_binding(forward_mailbox, mailbox_id)`. -/
def persist_actual_binding (c : Client) (b : Box) (mailbox_id : String) : Client :=
  let target := forward_target cfg c b
  if target = "" then c
  else { with_target cfg c target with forward_mailbox_id := mailbox_id }

/- The id of the message is added to `seen`. -/
def Wait.meet (w : Wait) (e : Entry) : Wait :=
  { w with seen := w.seen ++ [e.scoped], met := w.met ++ [e] }

def Wait.tick (w : Wait) : Wait := { w with client := w.client.tick }

/- The message is older than the request for a code. -/
def too_old (p : WaitParams) (mail : Mail) : Bool :=
  match p.otp_sent_at, mail.msg_ts with
  | some sent, some ts => sent ≠ 0 ∧ ts ≠ 0 ∧ ts < sent
  | _, _ => false

/- A message whose detail was read, and the others after it. -/
def poll_mails (p : WaitParams) (b : Box) :
    List Entry → Wait → Wait × Ended
| [], w => (w, .done false)
| e :: es, w =>
    if e.scoped ∈ w.seen ∨ (e.namespaced = false ∧ e.raw ∈ w.seen) then
      poll_mails p b es { w with skipped := w.skipped ++ [e] }
    else
      match server.get_email_detail w.client.clock e.mailbox e.raw with
      | .not_found =>
        let rebound := rebind_after_not_found cfg server w.tick b e.mailbox
        (rebound.1, .done rebound.2)
      | .failed => (w.tick, .failed)
      | .found detail =>
        let w := w.tick.meet e
        if cfg.matches_alias detail = false ∨ too_old p e.mail then poll_mails p b es w
        else
          match cfg.safe_extract e.mail detail with
          | none => poll_mails p b es w
          | some code =>
            if code = "" ∨ strip code ∈ p.exclude_codes then poll_mails p b es w
            else
              ({ w with
                  client := persist_actual_binding cfg
                    w.client b e.mailbox },
                .hit code e)

def poll_boxes (p : WaitParams) (namespaced : Bool) :
    List Box → Bool → Wait → Wait × Ended
| [], retry_requested, w => (w, .done retry_requested)
| b :: bs, retry_requested, w =>
    let m_id := strip b.account_id
    if m_id = "" ∨ m_id ∈ w.blocked_mailbox_ids then poll_boxes p namespaced bs retry_requested w
    else
      match server.list_emails w.client.clock m_id with
      | .failed => (w.tick, .failed)
      | .not_found =>
        let rebound := rebind_after_not_found cfg server w.tick b m_id
        poll_boxes p namespaced bs (rebound.2 || retry_requested) rebound.1
      | .mails all =>
        let es := listing m_id namespaced all
        match poll_mails cfg server p b es { w.tick with listed := w.listed ++ es } with
        | (w, .done retry) =>
          if (retry || retry_requested) then (w, .done true)
          else poll_boxes p namespaced bs false w
        | ended => ended

/- One pass of `poll_once`. -/
def poll_pass (p : WaitParams) (w : Wait) : Wait × Ended :=
  match candidate_forward_mailboxes cfg server w.client with
  | (none, c) => ({ w with client := c }, .failed)
  | (some candidates, c) => poll_boxes cfg server p
        (decide (1 < candidates.length)) candidates false { w with client := c }

/- `poll_once`: a second pass when a mailbox was rebound. -/
def poll_once (p : WaitParams) (w : Wait) : Wait × Ended :=
  match poll_pass cfg server p w with
  | (w, .done true) => poll_pass cfg server p w
  | ended => ended

/- The polls of `_run_polling_wait`. -/
def poll_until (p : WaitParams) :
    Nat → Wait → Wait × Ended
| 0, w => (w, .done false)
| polls + 1, w =>
    match poll_once cfg server p w with
    | (w, .done _) => poll_until p polls w
    | ended => ended

/- `wait_for_code(account, before_ids=...)`. -/
def wait_for_code (p : WaitParams) (before_ids : List String) (c : Client) : Wait × Ended :=
  poll_until cfg server p p.polls
    { client := c, seen := before_ids, blocked_mailbox_ids := [], refresh_attempted_targets := [],
      listed := [], met := [], skipped := [] }

----
-- Sessions
----

/- A wait with the baseline that it was given: the scans and
   the recorded hits that the baseline is made of. -/
structure WaitReport where
  contents : List Content
  recorded : List Entry
  listed : List Entry
  met : List Entry
  skipped : List Entry
  hit : Option Entry

/- The calls on one account so far: the baseline is what the scans in `contents` and the recorded
   hits make up. -/
structure Session where
  client : Client
  contents : List Content
  recorded : List Entry
  listed : List Entry
  waits : List WaitReport

/- What the scans of the baseline have listed. -/
def baseline_entries (contents : List Content) : List Entry :=
  contents.flatMap (fun x => listing x.mailbox x.namespaced x.all)

/- The ids of `get_current_ids` and the recorded ones. -/
def Session.before_ids (s : Session) : List String :=
  (baseline_entries s.contents ++ s.recorded).map Entry.scoped

/- A call on the account; between calls the account and the caches may become what they like. -/
inductive Call where
| get_current_ids
| wait_for_code (p : WaitParams)
| changed (c : Client)

def Ended.entry : Ended → Option Entry
| .hit _ e => some e
| _ => none

def sessionStep (s : Session) (call : Call) :
    Session × Unit :=
  match call with
  | .changed c => ({ s with client := c }, ())
  | .get_current_ids =>
    let scan := get_current_ids cfg server s.client
    ({ s with
        client := scan.client
        listed := s.listed ++ scan.entries
        contents :=
          if scan.failed then s.contents
          else s.contents ++ scan.contents }, ())
  | .wait_for_code p =>
    let wait := wait_for_code cfg server p s.before_ids s.client
    ({ s with
        client := wait.1.client
        listed := s.listed ++ wait.1.listed
        recorded := s.recorded ++ wait.2.entry.toList
        waits := s.waits ++
          [{ contents := s.contents, recorded := s.recorded, listed := wait.1.listed,
             met := wait.1.met, skipped := wait.1.skipped, hit := wait.2.entry }] }, ())

def newSession (c : Client) : Session where
  client := c
  contents := []
  recorded := []
  listed := []
  waits := []

end HmeMailbox
