import AutoGpt.PaymentLinks.Applied
import AutoGpt.PaymentLinks.Texts

/-
  Two apply runs of the history import with nobody else at
  the targets in between.

  Main theorems: `imports_idempotent`
-/

----
-- Apply Runs
----

namespace PaymentLinks

variable (env : Env)

/- The records that a run plans for a target. -/
def planned (platform : String) (sources : List SourceLink) (targets : List Target)
    (t : Target) : List PlannedRecord :=
  plan_records (targets.map (load_target_snapshot env platform)) sources t.database

/- `synchronize_long_link_success_history(apply=True)` while nobody else writes; `none` is a
   transaction that raised. -/
def synchronize (platform now_iso : String) (sources : List SourceLink)
    (targets : List Target) : Option (List Target) :=
  targets.mapM (fun t => apply_target_plan env now_iso (load_target_snapshot env platform t)
      (planned env platform sources targets t) t)

/- A generation without its identity columns. -/
def clearIdentity (g : Generation) : Generation :=
  { g with account_email := "", account_created_at := "" }

/- The same accounts, and the same generations up to their identity columns. -/
structure Unchanged (t u : Target) : Prop where
  accounts : u.accounts = t.accounts
  generations :
    u.generations.table.rows.map clearIdentity = t.generations.table.rows.map clearIdentity

/- A run on these targets plans only generations that exist and no current link, and it changes
   nothing. -/
structure Settled (platform : String) (sources : List SourceLink)
    (targets : List Target) : Prop where
  existing :
    ∀ t ∈ targets, ∀ r ∈ planned env platform sources targets t, r.generation_action = .existing
  retained : ∀ t ∈ targets, ∀ id a s, (load_target_snapshot env platform t).account id = some a →
      latest_by_account (planned env platform sources targets t) id = some s →
        current_cache_action env a.extra s ≠ .updated
  unchanged : ∀ now_iso, ∃ targets', synchronize env platform now_iso sources targets =
          some targets' ∧ List.Forall₂ Unchanged targets targets'

/- The run on a source table succeeds, a second run finds everything done, and no two generations of
   a target share a request id. -/
def Idempotent (platform now_iso : String) (rows : List SourceRow) (targets : List Target) : Prop :=
  ∀ sources, parse_source_rows env rows = .ok sources → ∃ targets',
        synchronize env platform now_iso sources targets = some targets' ∧
          Settled env platform sources targets' ∧
          ∀ t ∈ targets', (t.generations.table.rows.map Generation.request_id).Nodup

/- What a run must plan to be done after one pass: current links for the platform whose rows it
   updates, texts that were not cut off at a blank, generations found by their remote job in the
   account's own database, no two inserts of one job, agreement of the rows that share a generation,
   and no insert into a table that refuses it. -/
structure Importable (platform : String) (sources : List SourceLink)
    (targets : List Target) : Prop where
  chatgpt : platform = "chatgpt"
  stable : ∀ t ∈ targets, ∀ r ∈ planned env platform sources targets t, r.source.Stable
  found : ∀ t ∈ targets, ∀ r ∈ planned env platform sources targets t,
        ∀ g, r.existing_generation = some g →
          g.remote_job_id = r.source.job_id ∧ g.database = t.database
  agree : ∀ t ∈ targets, ∀ r ∈ planned env platform sources targets t,
        ∀ r' ∈ planned env platform sources targets t, r.source.job_id = r'.source.job_id →
            r.source.url = r'.source.url ∧ r.source.link_type = r'.source.link_type
  inserts_nodup : ∀ t ∈ targets, (((planned env platform sources targets t).filter
        (fun r => decide (r.generation_action = .insert))).map (fun r => r.source.job_id)).Nodup
  insertable : ∀ t ∈ targets, ∀ r ∈ planned env platform sources targets t,
        r.generation_action = .insert → t.schema.insert_defaults

end PaymentLinks
