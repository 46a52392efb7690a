import AutoGpt.AdminAuth.Model
import AutoGpt.Library.Machine

/-
  The routes of `api/auth.py` as jobs of small steps. Every
  read or write of the configuration, of the session table or
  of the pending challenges is a step of its own, and the
  steps of all requests interleave. A request may end at any
  point: the throttle, a storage error or the end of its
  process can stop it.
-/

----
-- Jobs
----

namespace AdminAuth

/- `_PendingTotp` under its temporary token. -/
structure Pending where
  temp_token : String
  instance_id : String
  auth_version : Int
  expires_at : Nat
  failure_count : Nat := 0
  checked : Nat
deriving DecidableEq

/- The value that `_replace_auth_config` is given. -/
inductive Change where
| passwordHash (password : String)
| totpSecret (secret : String)

/- The arguments of `_replace_auth_config`. -/
structure Replace where
  change : Change
  reason : String
  setup : Bool := false

/- What a route does after the step-up password check. -/
inductive Goal where
| changePassword (new_password : String)
| enableTotp (secret code : String)
| disableTotp (secret code : String)

/- What a route does after its token was verified. -/
inductive Route where
| api
| issued (claims : Claims)
| logout
| changePassword (current_password new_password : String)
| enableTotp (secret code current_password : String)
| disableTotp (current_password code : String)

/- The response of a request; `escaped` is an exception that is no `HTTPException`. -/
inductive Answer where
| none
| ok
| challenge (temp_token : String)
| token (claims : Claims)
| raised (status_code : Nat) (detail : String)
| escaped (exception : String)

/- What a request does next, with what it has read so far. -/
inductive Job where
| verify (claims : Claims) (route : Route)
| verifyRow (claims : Claims) (now : Nat) (route : Route)
| touch (t : Touch) (route : Route)
| logoutRead (jti : String)
| logoutWrite (jti : String) (now : Nat)
| enableRead (secret code current_password : String)
| disableRead (current_password code : String)
| stepUp (password : String) (goal : Goal)
| stepUpRehash (password : String) (goal : Goal)
| enableCode (secret code : String)
| disableCode (secret code : String)
| replaceVersion (replace : Replace)
| replaceConfig (replace : Replace) (version : Int)
| listSessions (replace : Replace) (epoch : Nat)
| revokeAll (replace : Replace) (epoch : Nat)
    (jtis : List String) (now : Nat)
| setup (password : String) (allowed : Bool)
| login (password : String)
| loginRehash (password : String) (checked : Nat)
| loginTotp (checked : Nat)
| loginChallenge (checked : Nat)
| totp (temp_token code : String)
| totpCheck (temp_token code secret : String)
| issue (checked : Nat)
| persist (claims : Claims) (checked : Nat)
| finished (answer : Answer)

/- A request that raised an `HTTPException`. -/
def raised (status_code : Nat) (detail : String) : Job := .finished (.raised status_code detail)

/- A request that ended with the `TypeError` of a comparison of texts. -/
def typeError : Job := .finished (.escaped "TypeError")

/- `_storage_error`. -/
def storageError : Job := raised 503 "管理员认证存储暂时不可用"

/- `_validate_new_password`: the detail of its error. -/
def newPasswordError (password : String) : Option String :=
  if password.length < minPasswordLength then some ("密码至少需要 " ++ toString minPasswordLength ++ " 位")
  else if 1024 < password.length then some "密码长度超出限制"
  else none

/- The first step of a route whose token was accepted. -/
def Route.job (claims : Claims) : Route → Job
| .api => .finished .ok
| .issued token => .finished (.token token)
| .logout => .logoutRead claims.jti
| .changePassword current_password new_password =>
    match newPasswordError new_password with
    | some detail => raised 400 detail
    | none => .stepUp current_password (.changePassword new_password)
| .enableTotp secret code current_password => .enableRead secret code current_password
| .disableTotp current_password code => .disableRead current_password code

/- The first step after the step-up password was checked. -/
def Goal.job : Goal → Job
| .changePassword new_password => .replaceVersion
      { change := .passwordHash new_password, reason := "password_changed" }
| .enableTotp secret code => .enableCode secret code
| .disableTotp secret code => .disableCode secret code

/- The job holds `_BOOTSTRAP_LOCK`. -/
def Job.holdsBootstrap : Job → Bool
| .replaceVersion replace => replace.setup
| .replaceConfig replace _ => replace.setup
| .listSessions replace _ => replace.setup
| .revokeAll replace _ _ _ => replace.setup
| _ => false

----
-- Worlds
----

structure Task where
  client : Client
  job : Job

/- What has happened so far, which no method reads: the tokens issued, the uses of sessions that
   were accepted and those that have taken effect, the number of credential writes and the last of
   them that has returned, and the password of the last write of one. -/
structure Log where
  issued : List Claims := []
  uses : List (String × Nat) := []
  completed : List (String × Nat) := []
  epoch : Nat := 0
  returned : Nat := 0
  password : Option String := none

/- The stores, the challenges in memory and all requests. -/
structure World where
  clock : Nat := 1
  config : Config
  sessions : Sessions := .empty
  pending : KeyedTable Pending String Pending.temp_token := .empty
  jobs : List Task := []
  log : Log := {}

/- What a step draws from `secrets` and from the hasher. -/
structure Draw where
  token : String := ""
  salt : Nat := 0

/- The configuration after a write of the password hash. -/
def World.setHash (env : Env) (salt : Nat) (password : String) (w : World) : World :=
  { w with config := { w.config with auth_password_hash := env.argon2_hash salt password } }

def World.use (jti : String) (now : Nat) (w : World) : World :=
  { w with log := { w.log with uses := w.log.uses ++ [(jti, now)] } }

/- A use that has taken its whole effect. -/
def World.complete (jti : String) (now : Nat) (w : World) :
    World :=
  { w with log := { w.log with completed := w.log.completed ++ [(jti, now)] } }

----
-- Tokens
----

variable (env : Env)

/- `verify_token` on the claims. -/
def verifyClaims (claims : Claims) (route : Route) (w : World) :
    World × Job :=
  if claimsValid w.config claims w.clock then (w, .verifyRow claims w.clock route)
  else (w, raised 401 "令牌声明无效或已失效")

/- `verify_token` on the stored row. -/
def verifyRow (client : Client) (claims : Claims) (now : Nat)
    (route : Route) (w : World) : World × Job :=
  match w.sessions.find? claims.jti with
  | none => (w, raised 401 "会话已注销或失效")
  | some stored =>
    if rowValid env claims now stored then
      let used := w.use claims.jti now
      match touchOf env claims now client stored with
      | none => (used.complete claims.jti now, route.job claims)
      | some t => (if t.renewal.isSome then used
            else used.complete claims.jti now,
            .touch t route)
    else (w, raised 401 "会话已注销或失效")

/- The conditional update of `verify_token`. -/
def touchRow (t : Touch) (route : Route) (w : World) :
    World × Job :=
  let touched := { w with sessions := touchSessions env t w.sessions }
  (if t.renewal.isSome then touched.complete t.claims.jti t.now
    else touched,
    route.job t.claims)

/- `_revoke_session`, up to its commit. -/
def logoutRead (jti : String) (w : World) : World × Job :=
  match w.sessions.find? jti with
  | none => (w, .finished .ok)
  | some row =>
    if row.instance_id = env.instance_id ∧ row.revoked_at = 0 then (w, .logoutWrite jti w.clock)
    else (w, .finished .ok)

/- The commit of `_revoke_session`. -/
def logoutWrite (jti : String) (now : Nat) (w : World) :
    World × Job :=
  if (w.sessions.find? jti).isSome then ({ w with
       sessions := revokeSessions [jti] now "logout" w.sessions },
      .finished .ok)
  else (w, storageError)

/- `create_token`, up to `_persist_session`. -/
def issueToken (draw : Draw) (checked : Nat) (w : World) :
    World × Job :=
  (w, .persist
      { jti := draw.token, auth_version := authVersion w.config, iat := w.clock,
        exp := w.clock + env.settings.absolute_timeout }
      checked)

def newSession (client : Client) (claims : Claims) (checked : Nat) :
    Session where
  jti := claims.jti
  instance_id := env.instance_id
  auth_version := claims.auth_version
  issued_at := claims.iat
  last_seen_at := claims.iat
  expires_at := min (claims.iat + env.settings.idle_timeout) claims.exp
  absolute_expires_at := claims.exp
  client_ip := client.client_ip
  user_agent := client.user_agent
  checked := checked

/- `_persist_session`; a token id is never drawn twice. -/
def persistToken (client : Client) (claims : Claims) (checked : Nat) (w : World) : World × Job :=
  if isJti claims.jti = false ∨ (w.log.issued.any fun old => old.jti = claims.jti) then
    (w, storageError)
  else
    ({ w with
       sessions := persistSession env (newSession env client claims checked) w.sessions
       log :=
         { w.log with
           issued := w.log.issued ++ [claims],
           uses := w.log.uses ++ [(claims.jti, claims.iat)],
           completed := w.log.completed ++ [(claims.jti, claims.iat)] } },
      .verify claims (.issued claims))

----
-- Credential Changes
----

/- `enable_2fa`, up to the step-up password. -/
def enableRead (secret code current_password : String) (w : World) : World × Job :=
  if totpSecret env w.config ≠ "" then (w, raised 409 "双因素认证已启用，请先验证并停用当前配置")
  else if env.totp_secret_valid secret = false then (w, raised 400 "无效或强度不足的密钥")
  else (w, .stepUp current_password (.enableTotp secret code))

/- `disable_2fa`, up to the step-up password. -/
def disableRead (current_password code : String) (w : World) :
    World × Job :=
  let secret := totpSecret env w.config
  if secret = "" then (w, raised 400 "双因素认证尚未启用")
  else (w, .stepUp current_password (.disableTotp secret code))

/- `_require_step_up_password`, up to the rehash. -/
def stepUp (password : String) (goal : Goal) (w : World) :
    World × Job :=
  let stored := storedHash env w.config
  let verified := verifyPassword env password stored
  if stored = "" ∨ verified.1 = false then (w, raised 400 "当前密码错误")
  else if verified.2 then (w, .stepUpRehash password goal)
  else (w, goal.job)

/- The second factor that is about to be enabled. -/
def enableCode (secret code : String) (w : World) :
    World × Job :=
  match verifyTotp env secret code w.clock with
  | none => (w, typeError)
  | some true => (w, .replaceVersion { change := .totpSecret secret, reason := "totp_enabled" })
  | some false => (w, raised 400 "验证码错误，请重试")

/- `_require_step_up_totp`. -/
def disableCode (secret code : String) (w : World) :
    World × Job :=
  match verifyTotp env secret code w.clock with
  | none => (w, typeError)
  | some true => (w, .replaceVersion { change := .totpSecret "", reason := "totp_disabled" })
  | some false => (w, raised 400 "当前双因素验证码错误")

/- The values that `_replace_auth_config` commits. -/
def replacedConfig (salt : Nat) (change : Change) (version : Int) (config : Config) : Config :=
  match change with
  | .passwordHash password =>
    { config with auth_password_hash := env.argon2_hash salt password, auth_version := version }
  | .totpSecret secret => { config with auth_totp_secret := secret, auth_version := version }

/- The commit of `_replace_auth_config`. -/
def replaceConfig (draw : Draw) (replace : Replace) (version : Int) (w : World) : World × Job :=
  ({ w with
     config := replacedConfig env draw.salt replace.change version w.config
     log :=
       { w.log with
         epoch := w.log.epoch + 1
         password :=
           match replace.change with
           | .passwordHash password => some password
           | .totpSecret _ => w.log.password } },
    .listSessions replace (w.log.epoch + 1))

/- The sessions that `_revoke_all_sessions` reads. -/
def activeJtis (sessions : Sessions) : List String := (sessions.rows.filter fun row =>
      row.instance_id = env.instance_id ∧ row.revoked_at = 0).map
    Session.jti

/- `_revoke_all_sessions`, up to its commit. -/
def listSessions (replace : Replace) (epoch : Nat) (w : World) :
    World × Job :=
  (w, .revokeAll replace epoch (activeJtis env w.sessions) w.clock)

/- The commit of `_revoke_all_sessions`; it fails when a row that was read is gone. -/
def revokeAll (replace : Replace) (epoch : Nat) (jtis : List String)
    (now : Nat) (w : World) : World × Job :=
  if jtis.all fun jti => (w.sessions.find? jti).isSome then ({ w with
       sessions := revokeSessions jtis now replace.reason w.sessions
       log := { w.log with returned := max w.log.returned epoch } },
      if replace.setup then .issue epoch else .finished .ok)
  else (w, storageError)

/- `setup_password`, up to `_replace_auth_config`; it waits
   while another request holds the bootstrap lock. -/
def setup (password : String) (allowed : Bool) (w : World) :
    World × Job :=
  match newPasswordError password with
  | some detail => (w, raised 400 detail)
  | none =>
    if w.jobs.any fun task => task.job.holdsBootstrap then (w, .setup password allowed)
    else if storedHash env w.config ≠ "" then (w, raised 409 "管理员密码已设置，请使用修改密码功能")
    else if allowed = false then (w, raised 403 "首次初始化凭据无效")
    else
      (w, .replaceVersion
          { change := .passwordHash password, reason := "password_setup", setup := true })

----
-- Logins
----

/- `login`, up to the rehash. -/
def login (password : String) (w : World) : World × Job :=
  let stored := storedHash env w.config
  let verified := verifyPassword env password stored
  if stored = "" then (w, raised 403 "no_password_set")
  else if verified.1 = false then (w, raised 401 "密码错误")
  else if verified.2 then (w, .loginRehash password w.log.epoch)
  else (w, .loginTotp w.log.epoch)

/- The second factor decides how the login goes on. -/
def loginTotp (checked : Nat) (w : World) : World × Job :=
  if totpSecret env w.config = "" then (w, .issue checked)
  else (w, .loginChallenge checked)

/- `_clean_pending_totp_unlocked`. -/
def cleanPending (w : World) :
    KeyedTable Pending String Pending.temp_token :=
  w.pending.deleteWhere fun p => decide (p.expires_at ≤ w.clock)

/- A challenge is stored for the password that was checked. -/
def loginChallenge (draw : Draw) (checked : Nat) (w : World) :
    World × Job :=
  ({ w with
     pending := (cleanPending w).put
         { temp_token := draw.token, instance_id := env.instance_id,
           auth_version := authVersion w.config, expires_at := w.clock + 300,
           checked := checked } },
    .finished (.challenge draw.token))

def dropPending (temp_token : String) (w : World) : World :=
  { w with pending := (cleanPending w).deleteWhere fun p => decide (p.temp_token = temp_token) }

def failPending (temp_token : String) (w : World) : World :=
  { w with
    pending := (cleanPending w).updateKey temp_token
        (fun p => { p with failure_count := p.failure_count + 1 }) (fun _ => rfl) }

/- The values of `challenge_state`; a comparison that raises leaves the block without one. -/
inductive ChallengeState where
| invalid
| totp_disabled
| accepted (checked : Nat)
| attempts_exhausted
| invalid_code
| escaped

/- The challenge is one of the current credentials. -/
def Pending.current (w : World) (pending : Pending) : Bool :=
  decide (pending.instance_id = env.instance_id) &&
    decide (pending.auth_version = authVersion w.config)

/- `verify_totp_route`, inside `_pending_2fa_lock`. -/
def checkChallenge (temp_token code secret : String) (w : World) : World × ChallengeState :=
  match (cleanPending w).find? temp_token with
  | none => (dropPending temp_token w, .invalid)
  | some pending =>
    if pending.current env w then
      if secret = "" then (dropPending temp_token w, .totp_disabled)
      else
        match verifyTotp env secret code w.clock with
        | none => ({ w with pending := cleanPending w }, .escaped)
        | some true => (dropPending temp_token w, .accepted pending.checked)
        | some false =>
          if totpChallengeMaxFailures ≤ pending.failure_count + 1 then
            (dropPending temp_token w, .attempts_exhausted)
          else (failPending temp_token w, .invalid_code)
    else (dropPending temp_token w, .invalid)

/- What `verify_totp_route` does after the locked block. -/
def ChallengeState.job : ChallengeState → Job
| .invalid => raised 401 "临时令牌无效或已过期，请重新登录"
| .totp_disabled => raised 400 "2FA 未启用"
| .accepted checked => .issue checked
| .attempts_exhausted => raised 401 "验证码错误次数过多，请重新输入密码"
| .invalid_code => raised 400 "验证码错误"
| .escaped => typeError

def totpCheck (temp_token code secret : String) (w : World) :
    World × Job :=
  let checked := checkChallenge env temp_token code secret w
  (checked.1, checked.2.job)

----
-- Steps
----

def advance (env : Env) (draw : Draw) (client : Client) (w : World) :
    Job → World × Job
| .verify claims route => verifyClaims claims route w
| .verifyRow claims now route => verifyRow env client claims now route w
| .touch t route => touchRow env t route w
| .logoutRead jti => logoutRead env jti w
| .logoutWrite jti now => logoutWrite jti now w
| .enableRead secret code current_password => enableRead env secret code current_password w
| .disableRead current_password code => disableRead env current_password code w
| .stepUp password goal => stepUp env password goal w
| .stepUpRehash password goal => (w.setHash env draw.salt password, goal.job)
| .enableCode secret code => enableCode env secret code w
| .disableCode secret code => disableCode env secret code w
| .replaceVersion replace => (w, .replaceConfig replace (authVersion w.config + 1))
| .replaceConfig replace version => replaceConfig env draw replace version w
| .listSessions replace epoch => listSessions env replace epoch w
| .revokeAll replace epoch jtis now => revokeAll replace epoch jtis now w
| .setup password allowed => setup env password allowed w
| .login password => login env password w
| .loginRehash password checked => (w.setHash env draw.salt password, .loginTotp checked)
| .loginTotp checked => loginTotp env checked w
| .loginChallenge checked => loginChallenge env draw checked w
| .totp temp_token code => (w, .totpCheck temp_token code (totpSecret env w.config))
| .totpCheck temp_token code secret => totpCheck env temp_token code secret w
| .issue checked => issueToken env draw checked w
| .persist claims checked => persistToken env client claims checked w
| .finished answer => (w, .finished answer)

inductive Request where
| api (claims : Claims)
| logout (claims : Claims)
| changePassword (claims : Claims)
    (current_password new_password : String)
| enableTotp (claims : Claims)
    (secret code current_password : String)
| disableTotp (claims : Claims)
    (current_password code : String)
| setup (password : String) (allowed : Bool)
| login (password : String)
| totp (temp_token code : String)

def Request.job : Request → Job
| .api claims => .verify claims .api
| .logout claims => .verify claims .logout
| .changePassword claims current_password new_password =>
    .verify claims (.changePassword current_password new_password)
| .enableTotp claims secret code current_password =>
    .verify claims (.enableTotp secret code current_password)
| .disableTotp claims current_password code => .verify claims (.disableTotp current_password code)
| .setup password allowed => .setup password allowed
| .login password => .login password
| .totp temp_token code => .totp temp_token code

/- A request arrives, makes a step after some seconds, or ends; or the process is started anew. -/
inductive Op where
| arrive (client : Client) (request : Request)
| advance (job : Nat) (seconds : Nat) (draw : Draw)
| drop (job : Nat)
| restart

def World.wait (seconds : Nat) (w : World) : World := { w with clock := w.clock + seconds }

def Job.answer : Job → Answer
| .finished answer => answer
| _ => .none

/- The job of a request makes its next step. -/
def World.run1 (env : Env) (draw : Draw) (i : Nat) (task : Task) (w : World) : World :=
  { (advance env draw task.client w task.job).1 with
    jobs := w.jobs.set i
        { task with job := (advance env draw task.client w task.job).2 } }

def step (env : Env) (w : World) : Op → World × Answer
| .arrive client request => ({ w with
       jobs := w.jobs ++ [{ client := client, job := request.job }] }, .none)
| .advance i seconds draw =>
    match w.jobs[i]? with
    | none => (w.wait seconds, .none)
    | some task => ((w.wait seconds).run1 env draw i task,
          (advance env draw task.client (w.wait seconds) task.job).2.answer)
| .drop i =>
    match w.jobs[i]? with
    | none => (w, .none)
    | some task => ({ w with jobs := w.jobs.set i { task with job := .finished .none } }, .none)
| .restart => ({ w with jobs := [], pending := .empty }, .none)

/- The system that starts with some stored credentials. -/
abbrev run (env : Env) (config : Config) (ops : List Op) :
    World :=
  Machine.run (step env) { config := config } ops

end AdminAuth
