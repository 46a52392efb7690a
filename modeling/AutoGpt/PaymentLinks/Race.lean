import AutoGpt.Library.Machine
import AutoGpt.PaymentLinks.Import
import Mathlib.Logic.Function.Basic

/-
  An apply run of the history import beside the running
  application. The run reads a snapshot of every target, and
  later applies its plan to each target in one transaction;
  between any two of its steps the application commits
  transactions of its own.
-/

----
-- Transactions Of The Application
----

namespace PaymentLinks

def LINK_KEY : String := "chatgpt_last_payment_link"

/- The keys of `extra_json` that the import writes. -/
def IMPORT_KEYS : List String := [LINK_KEY, "chatgpt_paypal_url"]

/- A write of the application: a whole row, some keys of a row's `extra_json` (`none` removes a
   key), or a deletion. -/
inductive AccountWrite where
| put (row : Account)
| assign (id : Nat) (entries : List (String × Option Entry))
| remove (id : Nat)

def assignKey (extra : Dict Entry) (e : String × Option Entry) : Dict Entry :=
  match e.2 with
  | some v => extra.insert e.1 v
  | none => extra.erase e.1

def assignKeys (entries : List (String × Option Entry)) (r : Account) : Account :=
  { r with extra := r.extra.map (entries.foldl assignKey) }

theorem assignKeys_id (entries : List (String × Option Entry)) (r : Account) :
    (assignKeys entries r).id = r.id := rfl

def AccountWrite.run (accounts : Accounts) : AccountWrite → Accounts
| .put row => accounts.put row
| .assign id entries => accounts.updateKey id (assignKeys entries) (assignKeys_id entries)
| .remove id => accounts.deleteWhere (fun r => decide (r.id = id))

/- The write commits the current link of the account. -/
def AccountWrite.commitsLink (id : Nat) :
    AccountWrite → Bool
| .put row => row.id = id
| .assign id' entries => id' = id ∧ LINK_KEY ∈ entries.map Prod.fst
| .remove _ => false

----
-- Runs
----

structure Job where
  env : Env
  platform : String
  sources : List SourceLink
  databases : List String
  databases_nodup : databases.Nodup

/- The databases, the snapshots the run has read, and the targets whose transaction is committed.
   `alone` holds the accounts as the application's commits alone leave them, and `fresh_link` the
   accounts whose link it committed after their snapshot. -/
structure World where
  db : String → Target
  snapshots : List Snapshot
  applied : List String
  stopped : Bool
  alone : String → Accounts
  fresh_link : String → Nat → Bool

inductive Op where
| load
| apply (now_iso : String)
| fail
| app (database : String)
    (writes : List AccountWrite) (generations : Generations)

def start (db : String → Target) : World where
  db := db
  snapshots := []
  applied := []
  stopped := false
  alone := fun d => (db d).accounts
  fresh_link := fun _ _ => false

def nextLoad (job : Job) (w : World) : Option String :=
  if w.stopped then none
  else job.databases[w.snapshots.length]?

/- The next target to apply, with its snapshot. -/
def nextApply (job : Job) (w : World) :
    Option (String × Snapshot) :=
  if w.stopped ∨ w.snapshots.length ≠ job.databases.length then none
  else
    match job.databases[w.applied.length]?, w.snapshots[w.applied.length]? with
    | some d, some sn => some (d, sn)
    | _, _ => none

/- The records that are planned for a database. -/
def World.records (job : Job) (w : World) (d : String) :
    List PlannedRecord :=
  plan_records w.snapshots job.sources d

def loadStep (job : Job) (w : World) : World :=
  match nextLoad job w with
  | none => w
  | some d =>
    { w with
      snapshots := w.snapshots ++
        [load_target_snapshot job.env job.platform { w.db d with database := d }]
      fresh_link := Function.update w.fresh_link d (fun _ => false) }

def applyStep (job : Job) (now_iso : String) (w : World) : World :=
  match nextApply job w with
  | none => w
  | some (d, sn) =>
    match apply_target_plan job.env now_iso sn (w.records job d) (w.db d) with
    | none => { w with stopped := true }
    | some t => { w with db := Function.update w.db d t, applied := w.applied ++ [d] }

def appStep (d : String) (writes : List AccountWrite) (generations : Generations)
    (w : World) : World :=
  { w with
    db := Function.update w.db d
      { w.db d with
        accounts := writes.foldl AccountWrite.run (w.db d).accounts,
        generations := generations }
    alone := Function.update w.alone d (writes.foldl AccountWrite.run (w.alone d))
    fresh_link := Function.update w.fresh_link d
      (fun id => w.fresh_link d id || writes.any (AccountWrite.commitsLink id)) }

/- One step of the run or of the application. -/
def raceStep (job : Job) (w : World) : Op → World × Unit
| .load => (loadStep job w, ())
| .apply now_iso => (applyStep job now_iso w, ())
| .fail => ({ w with stopped := true }, ())
| .app d writes generations => (appStep d writes generations w, ())

----
-- What A Run Keeps
----

/- The value of a key of an account's `extra_json`. -/
def entryOf (accounts : Accounts) (id : Nat) (key : String) :
    Option Entry :=
  ((accounts.find? id).bind Account.extra).bind (fun extra => extra.lookup key)

/- A current link or a tombstone, with a time at or after the time of a source row. -/
def AtOrAfter (env : Env) (completed : Int) (e : Option Entry) : Prop :=
  ∃ current t, e = some (.dict current) ∧ epochTime completed ≤ t ∧
        ((is_tombstone env current ∧ tombstone_time env current = some t) ∨
          (is_tombstone env current = false ∧ valid_http_url env (get current "url") ≠ "" ∧
            current_time env current = some t))

/- Every key but those of the import has the value that the application committed last. -/
def KeepsKeys (w : World) : Prop :=
  ∀ d id key, key ∉ IMPORT_KEYS → entryOf (w.db d).accounts id key = entryOf (w.alone d) id key

/- A link that the application committed since the snapshot, with a time at or after that of the
   account's planned source row, is the account's link. -/
def KeepsLinks (job : Job) (w : World) : Prop := ∀ d id s,
    latest_by_account (w.records job d) id = some s →
    w.fresh_link d id →
    AtOrAfter job.env s.completed_at (entryOf (w.alone d) id LINK_KEY) →
      entryOf (w.db d).accounts id LINK_KEY = entryOf (w.alone d) id LINK_KEY

/- Values of `extra_json` that agree on every key but those of the import. -/
def SameApart (e e' : Dict Entry) : Prop := ∀ key, key ∉ IMPORT_KEYS → e.lookup key = e'.lookup key

/- The row of an account whose link the plan replaces: it has the other keys of the snapshot, and no
   link committed since with a time at or after that of the source row. -/
def UndisturbedRow (job : Job) (w : World) (d : String) (a : AccountRow) (s : SourceLink)
    (row : Account) : Prop :=
  Option.Rel SameApart a.extra row.extra ∧ (w.fresh_link d a.account_id →
      ¬ AtOrAfter job.env s.completed_at (entryOf (w.db d).accounts a.account_id LINK_KEY))

/- No account whose current link the applied plan replaces was disturbed between its snapshot and
   the transaction. -/
def Undisturbed (job : Job) (w : World) : Op → Prop
| .apply _ => ∀ d sn id a s row, nextApply job w = some (d, sn) → sn.account id = some a →
      latest_by_account (w.records job d) id = some s →
      current_cache_action job.env a.extra s = .updated →
      (w.db d).accounts.find? id = some row →
      row.platform = "chatgpt" → UndisturbedRow job w d a s row
| _ => True

end PaymentLinks
