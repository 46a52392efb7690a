import AutoGpt.AccessTokens.Requests

/-
  What one step of a request can do to the claim rows and to
  the accounts, and which row and account a request in
  progress is about.

  The main theorems are:
    * `AccessTokens.Effect.row_back`
    * `AccessTokens.Effect.row_kept`
    * `AccessTokens.linked_step`
-/

open PyText (strip strip_strip)
open ActiveTable (find?_insert? find?_update?)
open KeyedTable (mem_of_find?)
open Option

----
-- Effects
----

namespace AccessTokens

/- The shared state after a step, with the tests that the step has passed. -/
inductive Effect (env : Env) (draw : Draw) (s : Shared) :
    Job → Shared → Prop where
| quiet (job : Job) : Effect env draw s job s
| expired (request : ClaimRequest) (config : Config) :
    Effect env draw s (.expire request config)
      { s with claims := expireStaleClaims s.clock s.claims }
| inserted
    (r : Round) (account : Account) (ids : List Nat) (claims : Claims)
    (hInsert : s.claims.insert? (reservation r account draw.claim_id) = some claims) :
    Effect env draw s (.insert r account ids) { s with claims := claims }
| probed
    (r : Round) (claim : Claim) (account : Account) (now : Nat)
    (ids : List Nat) (checked : Account) (result : Preflight)
    (hCheck : preflightAccessToken env r.allow_refresh now r.cooldown
        draw.outside account = some (checked, result)) :
    Effect env draw s (.probe r claim account now ids)
      { s with accounts := persistAccount checked account s.accounts }
| recorded
    (r : Round) (claim : Claim) (account : Account) (access_token : Option String) (ids : List Nat)
    (claims : Claims)
    (hUpdate : s.claims.update? claim.claim_id claim.writtenTo (fun _ => rfl) = some claims) :
    Effect env draw s (.record r claim account access_token ids)
      { s with
        claims := claims,
        accounts := persistAccount (account.withClaim claim) account s.accounts }
| released
    (row : Claim) (account : Account) (reason : String) (claims : Claims)
    (hUpdate : s.claims.update? row.claim_id
        (row.releasedFor reason).writtenTo (fun _ => rfl) = some claims) :
    Effect env draw s (.release row account reason)
      { s with
        claims := claims,
        accounts := persistAccount (account.withClaim (row.releasedFor reason)) account s.accounts }
| resulted
    (row : Claim) (account stored : Account) (claim_id : String) (request : ResultRequest)
    (status : ClaimStatus) (claims : Claims) (hUpdate : s.claims.update? row.claim_id
        (row.resulted request status).writtenTo (fun _ => rfl) = some claims)
    (hId : stored.id = account.id)
    (hClaim : stored.extra.claim = some (row.resulted request status)) :
    Effect env draw s (.result row account claim_id request status)
      { s with claims := claims, accounts := persistAccount stored account s.accounts }

theorem visitAccount_fst (r : Round) (account : Account) (rest : Batch) :
    (visitAccount env r account rest s).1 = s := by
  unfold visitAccount
  dsimp only
  repeat' split
  all_goals rfl

theorem insert_effect (r : Round) (account : Account) (ids : List Nat) :
    Effect env draw s (.insert r account ids) (insert draw r account ids s).1 := by
  unfold insert
  dsimp only
  split
  next _ => exact .quiet _
  next claims hInsert => exact .inserted r account ids claims hInsert

theorem probe_effect (r : Round) (claim : Claim) (account : Account) (now : Nat) (ids : List Nat) :
    Effect env draw s (.probe r claim account now ids)
      (probe env draw r claim account now ids s).1 := by
  unfold probe
  split
  next _ => exact .quiet _
  next checked result hCheck => exact .probed r claim account now ids checked result hCheck

theorem record_effect (r : Round) (claim : Claim) (account : Account)
    (access_token : Option String) (ids : List Nat) :
    Effect env draw s (.record r claim account access_token ids)
      (record r claim account access_token ids s).1 := by
  unfold record
  split
  next _ => exact .quiet _
  next claims hUpdate => exact .recorded r claim account access_token ids claims hUpdate

theorem release_effect (row : Claim) (account : Account) (reason : String) :
    Effect env draw s (.release row account reason) (release row account reason s).1 := by
  unfold release commitClaim
  dsimp only
  split
  next _ => exact .quiet _
  next claims hUpdate => exact .released row account reason claims hUpdate

theorem refreshed_fields (probe : Option Probe) (account : Account) :
    (account.refreshed probe).id = account.id ∧
      (account.refreshed probe).extra = account.extra := by
  cases probe with
  | none => exact ⟨rfl, rfl⟩
  | some probe => exact ⟨rfl, rfl⟩

theorem result_effect (row : Claim) (account : Account) (claim_id : String)
    (request : ResultRequest) (status : ClaimStatus) :
    Effect env draw s (.result row account claim_id request status)
      (result draw row account claim_id request status s).1 := by
  unfold result commitClaim
  dsimp only
  split
  next _ => exact .quiet _
  next claims hUpdate =>
    apply Effect.resulted row account _ claim_id request status claims hUpdate
    · split
      · exact (refreshed_fields _ _).1
      · rfl
    · split
      · rw [(refreshed_fields _ _).2]
        rfl
      · rfl

theorem stepJob_effect (job : Job) : Effect env draw s job (stepJob env draw s job).1 := by
  cases job with
  | expire request config => exact .expired request config
  | insert r account ids => exact insert_effect r account ids
  | probe r claim account now ids => exact probe_effect r claim account now ids
  | record r claim account access_token ids => exact record_effect r claim account access_token ids
  | release row account reason => exact release_effect row account reason
  | result row account claim_id request status =>
    exact result_effect row account claim_id request status
  | scan r =>
    simp only [stepJob, scan]
    repeat' split
    all_goals exact .quiet _
  | visit r batch =>
    simp only [stepJob, visit]
    repeat' split
    all_goals
      first
        | exact .quiet _
        | (rw [visitAccount_fst]
           exact .quiet _)
  | reserve r account batch =>
    simp only [stepJob, reserve]
    split <;> exact .quiet _
  | preflight r claim ids =>
    simp only [stepJob, preflight]
    split <;> exact .quiet _
  | reread r claim result ids =>
    simp only [stepJob, reread]
    repeat' split
    all_goals exact .quiet _
  | find claim_id purpose =>
    simp only [stepJob, find]
    split <;> exact .quiet _
  | findAccount row purpose =>
    simp only [stepJob, findAccount]
    repeat' split
    all_goals exact .quiet _
  | finished answer => exact .quiet _

----
-- Rows
----

inductive RowMove (now : Nat) (row : Claim) :
    Job → Claim → Prop where
| same (job : Job) : RowMove now row job row
| expired
    (request : ClaimRequest) (config : Config) (hStale : row.stale now) :
    RowMove now row (.expire request config) row.expired
| recorded
    (r : Round) (claim : Claim) (account : Account) (access_token : Option String) (ids : List Nat)
    (hRow : row.claim_id = claim.claim_id) :
    RowMove now row (.record r claim account access_token ids) (claim.writtenTo row)
| released
    (loaded : Claim) (account : Account) (reason : String) (hRow : row.claim_id = loaded.claim_id) :
    RowMove now row (.release loaded account reason) ((loaded.releasedFor reason).writtenTo row)
| resulted
    (loaded : Claim) (account : Account) (claim_id : String)
    (request : ResultRequest) (status : ClaimStatus) (hRow : row.claim_id = loaded.claim_id) :
    RowMove now row (.result loaded account claim_id request status)
      ((loaded.resulted request status).writtenTo row)

theorem find?_expireStaleClaims (now : Nat) (claims : Claims) (k : String) :
    (expireStaleClaims now claims).find? k = (claims.find? k).map fun row =>
        if row.stale now then row.expired else row :=
  ActiveTable.find?_deactivateWhere (Claim.stale now) Claim.expired (fun _ => rfl) (fun _ => rfl) k

variable {claims claims' : Claims}
theorem row_of_update? (hUpdate : claims.update? claim_id f hKey = some claims')
    (hFound : claims'.find? k = some row') :
    ∃ row, claims.find? k = some row ∧ (row' = row ∨ (row.claim_id = claim_id ∧ row' = f row)) := by
  rw [find?_update? hUpdate] at hFound
  by_cases hSame : k = claim_id
  · rw [if_pos hSame, ← hSame, map_eq_some_iff] at hFound
    rcases hFound with ⟨row, hOld, hIs⟩
    have hKeyRow := (mem_of_find? hOld).2
    exact ⟨row, hOld, .inr ⟨hKeyRow.trans hSame, hIs.symm⟩⟩
  · rw [if_neg hSame] at hFound
    exact ⟨row', hFound, .inl rfl⟩

/- A row after a step is a reservation of this step, or comes
   from an older row of the same claim. -/
theorem Effect.row_back (hEffect : Effect env draw s job s')
    (hFound : s'.claims.find? k = some row') :
    (∃ row, s.claims.find? k = some row ∧ RowMove s.clock row job row') ∨
    ∃ r account ids, job = .insert r account ids ∧ row' = reservation r account draw.claim_id ∧
        s.claims.find? k = none := by
  cases hEffect with
  | quiet _ => exact .inl ⟨row', hFound, .same _⟩
  | expired request config =>
    left
    rw [find?_expireStaleClaims, map_eq_some_iff] at hFound
    rcases hFound with ⟨row, hOld, hIs⟩
    refine ⟨row, hOld, ?_⟩
    split at hIs
    next hStale =>
      rw [← hIs]
      exact .expired request config hStale
    next _ =>
      rw [← hIs]
      exact .same _
  | inserted r account ids claims hInsert =>
    have hFind := find?_insert? hInsert
    rw [hFind.2] at hFound
    split at hFound
    next hSame =>
      right
      refine ⟨r, account, ids, rfl, (some.inj hFound).symm, ?_⟩
      rw [← hSame]
      exact hFind.1
    next _ => exact .inl ⟨row', hFound, .same _⟩
  | probed r claim account now ids checked result hCheck => exact .inl ⟨row', hFound, .same _⟩
  | recorded r claim account access_token ids claims hUpdate =>
    left
    rcases row_of_update? hUpdate hFound with ⟨row, hOld, hSame | ⟨hRow, hIs⟩⟩
    · exact ⟨row, hOld, hSame ▸ .same _⟩
    · refine ⟨row, hOld, ?_⟩
      rw [hIs]
      exact .recorded r claim account access_token ids hRow
  | released loaded account reason claims hUpdate =>
    left
    rcases row_of_update? hUpdate hFound with ⟨row, hOld, hSame | ⟨hRow, hIs⟩⟩
    · exact ⟨row, hOld, hSame ▸ .same _⟩
    · refine ⟨row, hOld, ?_⟩
      rw [hIs]
      exact .released loaded account reason hRow
  | resulted loaded account stored claim_id request status claims
      hUpdate hId hClaim =>
      left
      rcases row_of_update? hUpdate hFound with ⟨row, hOld, hSame | ⟨hRow, hIs⟩⟩
      · exact ⟨row, hOld, hSame ▸ .same _⟩
      · refine ⟨row, hOld, ?_⟩
        rw [hIs]
        exact .resulted loaded account claim_id request status hRow

theorem RowMove.kept {now : Nat} (hMove : RowMove now row job row') :
    row'.claim_id = row.claim_id ∧ row'.account_id = row.account_id := by
  cases hMove with
  | _ => exact ⟨rfl, rfl⟩

theorem exists_of_update?
    (hUpdate : claims.update? claim_id f hKey = some claims') (hFound : claims.find? k = some row) :
    ∃ row', claims'.find? k = some row' := by
  rw [find?_update? hUpdate]
  split
  next hSame =>
    rw [← hSame, hFound]
    exact ⟨f row, rfl⟩
  next _ => exact ⟨row, hFound⟩

theorem Effect.row_exists (hEffect : Effect env draw s job s')
    (hFound : s.claims.find? k = some row) : ∃ row', s'.claims.find? k = some row' := by
  cases hEffect with
  | quiet _ => exact ⟨row, hFound⟩
  | expired request config =>
    rw [find?_expireStaleClaims, hFound]
    exact ⟨_, rfl⟩
  | inserted r account ids claims hInsert =>
    rw [(find?_insert? hInsert).2]
    split
    · exact ⟨_, rfl⟩
    · exact ⟨row, hFound⟩
  | probed r claim account now ids checked result hCheck => exact ⟨row, hFound⟩
  | recorded r claim account access_token ids claims hUpdate =>
    exact exists_of_update? hUpdate hFound
  | released loaded account reason claims hUpdate => exact exists_of_update? hUpdate hFound
  | resulted loaded account stored claim_id request status claims
      hUpdate hId hClaim =>
      exact exists_of_update? hUpdate hFound

theorem Effect.row_kept (hEffect : Effect env draw s job s')
    (hFound : s.claims.find? k = some row) :
    ∃ row', s'.claims.find? k = some row' ∧ RowMove s.clock row job row' := by
  rcases hEffect.row_exists hFound with ⟨row', hFound'⟩
  rcases hEffect.row_back hFound' with ⟨old, hOld, hMove⟩ | ⟨_, _, _, _, _, hNone⟩
  · cases some.inj (hFound.symm.trans hOld)
    exact ⟨row', hFound', hMove⟩
  · rw [hFound] at hNone
    cases hNone

----
-- The Live Check
----

/- A rejection ends a claim without a payment; a token that
   may be sent is not empty and has its fingerprint. -/
def Preflight.Sound (env : Env) : Preflight → Prop
| .rejected status _ _ _ => status ≠ .paid ∧ status.active = false
| .ready access_token _ token_fingerprint _ _ => access_token ≠ "" ∧
      strip access_token = access_token ∧
      token_fingerprint = fingerprintToken env access_token

/- The account keeps its id and the claim in its `extra`. -/
def Kept (account checked : Account) : Prop :=
  checked.id = account.id ∧ checked.extra.claim = account.extra.claim

theorem checkToken_sound (env : Env) (now cooldown : Nat) (account : Account)
    (token_source : String) (probe : Probe) (hToken : access_token ≠ "")
    (hStrip : strip access_token = access_token) :
    Kept account (checkToken env now cooldown account access_token token_source probe).1 ∧
      (checkToken env now cooldown account access_token token_source probe).2.Sound env := by
  unfold checkToken
  dsimp only
  split
  next _ =>
    split
    · exact ⟨⟨rfl, rfl⟩, by decide, rfl⟩
    · exact ⟨⟨rfl, rfl⟩, by decide, rfl⟩
  next _ =>
    split
    next _ =>
      split
      · exact ⟨⟨rfl, rfl⟩, by decide, rfl⟩
      · exact ⟨⟨rfl, rfl⟩, by decide, rfl⟩
    next _ => exact ⟨⟨rfl, rfl⟩, hToken, hStrip, rfl⟩

variable {result : Preflight}

theorem probeToken_sound {probe : Option Probe} (hStrip : strip access_token = access_token)
    (hProbe : probeToken env now cooldown account access_token
        token_source probe = some (checked, result)) :
    Kept account checked ∧ result.Sound env := by
  unfold probeToken at hProbe
  split at hProbe
  next _ =>
    cases some.inj hProbe
    exact ⟨⟨rfl, rfl⟩, by decide, rfl⟩
  next hToken =>
    rcases map_eq_some_iff.mp hProbe with ⟨answer, _, hSame⟩
    have hSound := checkToken_sound env now cooldown account token_source answer hToken hStrip
    rw [hSame] at hSound
    exact hSound

theorem refreshedToken_stripped
    (hTokens : refreshedToken answer = some tokens) : strip tokens.1 = tokens.1 := by
  unfold refreshedToken at hTokens
  split at hTokens
  · split at hTokens
    · cases some.inj hTokens
      exact strip_strip _
    · cases hTokens
  · cases hTokens

theorem preflightAccessToken_sound {outside : Outside}
    (hCheck : preflightAccessToken env allow_refresh now cooldown outside
        account = some (checked, result)) :
    Kept account checked ∧ result.Sound env := by
  have hOwn : strip account.accessToken = account.accessToken := strip_strip _
  unfold preflightAccessToken at hCheck
  dsimp only at hCheck
  split at hCheck
  next _ =>
    split at hCheck
    next _ => cases hCheck
    next _ =>
      split at hCheck
      next access_token refresh_token hTokens =>
        have hSound := probeToken_sound (refreshedToken_stripped hTokens) hCheck
        exact hSound
      next _ =>
        split at hCheck
        · cases some.inj hCheck
          exact ⟨⟨rfl, rfl⟩, by decide, rfl⟩
        · exact probeToken_sound hOwn hCheck
  next _ => exact probeToken_sound hOwn hCheck

----
-- Linked Requests
----

/- The row of a claim exists and has its account. -/
def Owned (s : Shared) (claim : Claim) : Prop :=
  ∃ row, s.claims.find? claim.claim_id = some row ∧ row.account_id = claim.account_id

/- A claim as a live check concludes it. -/
def Claim.Concluded (claim : Claim) : Prop := claim.status ≠ .paid ∧
    (claim.status.active → claim.status = .claimed ∧ claim.lease_expires_at.isSome)

/- The claim and the account of a request fit together. -/
def Job.Linked (env : Env) (s : Shared) : Job → Prop
| .preflight _ claim _ => Owned s claim
| .probe _ claim account _ _ => Owned s claim ∧ account.id = claim.account_id
| .reread _ claim answer _ => Owned s claim ∧ answer.Sound env
| .record _ claim account _ _ => Owned s claim ∧ account.id = claim.account_id ∧ claim.Concluded
| .findAccount row _ => Owned s row
| .release row account _ => Owned s row ∧ account.id = row.account_id
| .result row account _ _ status =>
    Owned s row ∧ account.id = row.account_id ∧ (status = .paid ∨ status = .failed)
| _ => True

theorem Effect.owned (hEffect : Effect env draw s job s') (hOwned : Owned s claim) :
    Owned s' claim := by
  rcases hOwned with ⟨row, hFound, hAccount⟩
  rcases hEffect.row_kept hFound with ⟨row', hFound', hMove⟩
  exact ⟨row', hFound', hMove.kept.2.trans hAccount⟩

theorem Effect.linked (hEffect : Effect env draw s job s') {other : Job}
    (hLinked : other.Linked env s) : other.Linked env s' := by
  cases other with
  | preflight r claim ids => exact hEffect.owned hLinked
  | probe r claim account now ids => exact ⟨hEffect.owned hLinked.1, hLinked.2⟩
  | reread r claim result ids => exact ⟨hEffect.owned hLinked.1, hLinked.2⟩
  | record r claim account access_token ids => exact ⟨hEffect.owned hLinked.1, hLinked.2⟩
  | findAccount row purpose => exact hEffect.owned hLinked
  | release row account reason => exact ⟨hEffect.owned hLinked.1, hLinked.2⟩
  | result row account claim_id request status => exact ⟨hEffect.owned hLinked.1, hLinked.2⟩
  | _ => trivial

theorem visitAccount_linked (r : Round) (account : Account) (rest : Batch) :
    (visitAccount env r account rest s).2.Linked env s' := by
  unfold visitAccount
  dsimp only
  generalize locallySendable env account r.now = sendable
  split
  · exact trivial
  · split <;> exact trivial

theorem insert_linked (r : Round) (account : Account) (ids : List Nat) :
    (insert draw r account ids s).2.Linked env (insert draw r account ids s).1 := by
  unfold insert
  dsimp only
  split
  next _ => trivial
  next claims hInsert =>
    refine ⟨reservation r account draw.claim_id, ?_, rfl⟩
    rw [(find?_insert? hInsert).2, if_pos rfl]

theorem probe_linked (hLinked : (Job.probe r claim account now ids).Linked env s) :
    (probe env draw r claim account now ids s).2.Linked env
      (probe env draw r claim account now ids s).1 := by
  unfold probe
  split
  next _ => trivial
  next checked result hCheck => exact ⟨hLinked.1, (preflightAccessToken_sound hCheck).2⟩

theorem reread_linked (hLinked : (Job.reread r claim result ids).Linked env s) :
    (reread r claim result ids s).2.Linked env s := by
  unfold reread
  split
  next _ => trivial
  next account hAccount =>
    have hId := (mem_of_find? hAccount).2
    cases result with
    | rejected status reason auth_state plan =>
      have hSound := hLinked.2
      refine ⟨hLinked.1, hId, hSound.1, ?_⟩
      intro hActive
      rw [show (claim.rejected status reason auth_state
        plan).status = status from rfl, hSound.2] at hActive
      cases hActive
    | ready access_token token_source token_fingerprint
        auth_state plan =>
        dsimp only
        split
        · refine ⟨hLinked.1, hId, nofun, ?_⟩
          intro hActive
          cases hActive
        · exact ⟨hLinked.1, hId, nofun, fun _ => ⟨rfl, rfl⟩⟩

theorem findAccount_linked (hOwned : Owned s row) :
    (findAccount env row purpose s).2.Linked env s := by
  unfold findAccount
  split
  next _ => trivial
  next account hAccount =>
    have hId := (mem_of_find? hAccount).2
    cases purpose with
    | release reason =>
      dsimp only
      split
      · trivial
      · exact ⟨hOwned, hId⟩
    | result claim_id request =>
      dsimp only
      cases hStatus : resultStatus env request.status with
      | none => trivial
      | some status =>
        have hFinal : status = .paid ∨ status = .failed := by
          unfold resultStatus at hStatus
          dsimp only at hStatus
          split at hStatus
          · exact .inl (some.inj hStatus).symm
          · split at hStatus
            · exact .inr (some.inj hStatus).symm
            · cases hStatus
        cases account.extra.payment with
        | none => exact ⟨hOwned, hId, hFinal⟩
        | some payment =>
          dsimp only
          split
          · trivial
          · exact ⟨hOwned, hId, hFinal⟩

/- The next step of a linked request is linked. -/
theorem linked_step (draw : Draw) (hLinked : job.Linked env s) :
    (stepJob env draw s job).2.Linked env (stepJob env draw s job).1 := by
  cases job with
  | insert r account ids => exact insert_linked r account ids
  | probe r claim account now ids => exact probe_linked hLinked
  | reread r claim result ids =>
    have hFst : (reread r claim result ids s).1 = s := by
      unfold reread
      repeat' split
      all_goals rfl
    simp only [stepJob, hFst]
    exact reread_linked hLinked
  | findAccount row purpose =>
    have hFst : (findAccount env row purpose s).1 = s := by
      unfold findAccount
      repeat' split
      all_goals rfl
    simp only [stepJob, hFst]
    exact findAccount_linked hLinked
  | visit r batch =>
    simp only [stepJob, visit]
    repeat' split
    all_goals first | trivial | exact visitAccount_linked _ _ _
  | preflight r claim ids =>
    simp only [stepJob, preflight]
    split
    next _ => trivial
    next account hAccount => exact ⟨hLinked, (mem_of_find? hAccount).2⟩
  | find claim_id purpose =>
    simp only [stepJob, find]
    split
    next _ => trivial
    next row hFound =>
      have hKey := (mem_of_find? hFound).2
      refine ⟨row, ?_, rfl⟩
      rw [hKey]
      exact hFound
  | record r claim account access_token ids =>
    simp only [stepJob, record]
    split <;> trivial
  | release row account reason =>
    simp only [stepJob, release, commitClaim]
    split <;> trivial
  | result row account claim_id request status =>
    simp only [stepJob, result, commitClaim]
    split <;> trivial
  | scan r =>
    simp only [stepJob, scan]
    repeat' split
    all_goals trivial
  | reserve r account batch =>
    simp only [stepJob, reserve]
    split <;> trivial
  | expire request config => trivial
  | finished answer => trivial

end AccessTokens
