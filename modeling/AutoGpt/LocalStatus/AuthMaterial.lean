import AutoGpt.Library.PyText

/-
  The authentication material of an account, as the probes of
  `local_status_refresh.py` read it: the row, the detached
  account that a probe works on, and the revision by which the
  two are compared.
-/

open PyText (orElse strip)

----
-- Rows And Snapshots
----

namespace LocalStatus

/- What the probes read of `extra_json`; an absent text is empty. -/
structure AuthExtra where
  access_token : String := ""
  accessToken : String := ""
  refresh_token : String := ""
  refreshToken : String := ""
  id_token : String := ""
  client_id : String := ""
  organization_id : String := ""
  workspace_id : String := ""
  chatgpt_workspace_scope : String := ""
  fingerprint_signature : String := ""
deriving DecidableEq

/- `_local_status_account_identity`. -/
structure AccountIdentity where
  id : Nat
  platform : String := "chatgpt"
  email : String
  created_at : String
deriving DecidableEq

/- What the probes read of a row of `accounts`. -/
structure Account where
  identity : AccountIdentity
  token : String := ""
  user_id : String := ""
  extra : AuthExtra := {}
deriving DecidableEq

structure ProbeAccount where
  identity : AccountIdentity
  token : String
  user_id : String
  access_token : String
  refresh_token : String
  id_token : String
  client_id : String
  workspace_id : String
  extra : AuthExtra
deriving DecidableEq

def defaultClientId : String := "app_EMoamEEZ73f0CkXaXp7hrann"

/- `str(a or b or c).strip()`. -/
def firstText (texts : List String) : String := strip (texts.foldr orElse "")

/- `build_chatgpt_local_status_probe_account`. -/
def buildProbeAccount (account : Account) : ProbeAccount where
  identity := account.identity
  token := account.token
  user_id := account.user_id
  access_token := firstText [account.extra.access_token, account.token]
  refresh_token := strip account.extra.refresh_token
  id_token := strip account.extra.id_token
  client_id := firstText [account.extra.client_id, defaultClientId]
  workspace_id := strip account.extra.workspace_id
  extra := account.extra

/- The attributes that `_auth_material_revision` reads of an account besides its extra; a row has no
   attribute for most of them. -/
structure AuthAttributes where
  refresh_token : String := ""
  access_token : String := ""
  token : String := ""
  client_id : String := ""
  id_token : String := ""
  user_id : String := ""
  workspace_id : String := ""

/- `_auth_material_revision`. -/
def authMaterialRevision (attributes : AuthAttributes) (extra : AuthExtra) :
    List String :=
  [firstText [extra.refresh_token, extra.refreshToken, attributes.refresh_token],
    firstText [extra.access_token, extra.accessToken, attributes.access_token],
    strip attributes.token, firstText [extra.client_id, attributes.client_id, defaultClientId],
    firstText [extra.id_token, attributes.id_token], strip attributes.user_id,
    firstText [extra.organization_id], firstText [extra.workspace_id, attributes.workspace_id],
    firstText [extra.chatgpt_workspace_scope], extra.fingerprint_signature]

def Account.revision (account : Account) : List String := authMaterialRevision
    { token := account.token, user_id := account.user_id }
    account.extra

def ProbeAccount.revision (account : ProbeAccount) :
    List String :=
  authMaterialRevision
    { refresh_token := account.refresh_token, access_token := account.access_token,
      token := account.token, client_id := account.client_id, id_token := account.id_token,
      user_id := account.user_id, workspace_id := account.workspace_id }
    account.extra

/- `_credential_update` of a probe. -/
structure CredentialUpdate where
  access_token : String
  refresh_token : String
deriving DecidableEq

/- The part of `_persist_chatgpt_local_status_probe` that stores the update of a probe. -/
def Account.updated (account : Account) (update : CredentialUpdate) : Account :=
  let access := strip update.access_token
  let refresh := strip update.refresh_token
  { account with
    token := if access = "" then account.token else access
    extra :=
      { account.extra with
        access_token :=
          if access = "" then account.extra.access_token
          else access
        refresh_token :=
          if refresh = "" then account.extra.refresh_token
          else refresh } }

def ProbeAccount.refreshToken (account : ProbeAccount) :
    String :=
  firstText [account.extra.refresh_token, account.refresh_token]

/- The access token that a probe falls back to. -/
def ProbeAccount.accessToken (account : ProbeAccount) :
    String :=
  firstText [account.extra.access_token, account.access_token, account.token]

/- The refresh token that an account has stored. -/
def Account.refreshToken (account : Account) : String := strip account.extra.refresh_token

theorem refreshToken_buildProbeAccount (account : Account) :
    (buildProbeAccount account).refreshToken = account.refreshToken := by
  unfold ProbeAccount.refreshToken Account.refreshToken
  unfold buildProbeAccount firstText
  simp only [List.foldr, orElse]
  by_cases hEmpty : account.extra.refresh_token = ""
  · have hStrip : strip "" = "" := by decide
    rw [hEmpty]
    simp only [hStrip, if_true]
  · rw [if_neg hEmpty]

end LocalStatus
