import AutoGpt.LocalStatus.ProbeRun

/-
  The candidate loop of `local_status_proxy.py`: which
  failures justify another proxy line, the attempt budget of
  dynamic lines, and the probe of one candidate after the
  other with its reports to the proxy pool and the candidate
  that the caller keeps.
-/

----
-- Failure Texts
----

namespace ProbeCandidates

/- `str.lower()`, and the search of `_HTTP_STATUS_PATTERN`. -/
structure TextEnv where
  lower : String → String
  http_status_codes : String → List Nat

/- The markers of `is_local_status_rate_limit_error`. -/
def rateLimitMarkers : List String := ["too many requests", "rate limit", "rate-limit",
    "rate_limited", "ratelimit", "请求过于频繁", "请求频率过高",
    "限流"]

/- The markers of `is_local_status_proxy_transport_error`. -/
def transportMarkers : List String := ["curl: (5)", "curl: (6)", "curl: (7)", "curl: (28)",
    "curl: (35)", "curl: (52)", "curl: (55)", "curl: (56)",
    "curl: (97)", "proxy error", "proxyerror",
    "proxy connect", "proxy tunnel",
    "cannot connect to proxy", "failed to connect to proxy",
    "could not resolve proxy", "socks5", "socksconnection(",
    "sockshttpconnectionpool", "network is unreachable",
    "no route to host", "could not connect to server",
    "could not resolve host", "name resolution",
    "connection timed out", "connection timeout",
    "connect timeout", "connect timed out", "read timeout",
    "read timed out", "connection reset",
    "connection aborted", "connection refused",
    "failed to connect", "remote disconnected",
    "server disconnected", "tls handshake", "ssl handshake",
    "address type not supported"]

/- The markers of `is_local_status_proxy_configuration_error`. -/
def configurationMarkers : List String := ["动态节点地址为空", "动态节点地址解析后为空", "必须填写出口国家",
    "代理地址为空", "region-xx", "country=xx",
    "unsupported country", "miyaip crc", "miyaip keyname",
    "miyaip 套餐 pool", "miyaip 网关区域", "miyaip 代理协议",
    "动态代理渠道", "不接受 cliproxy 模板"]

variable (env : TextEnv)

/- `str(error_text or "").strip().lower()`. -/
def TextEnv.normalized (error_text : String) : String := env.lower (PyText.strip error_text)

/- `is_local_status_rate_limit_error`. -/
def isRateLimitError (error_text : String) (status : Int) :
    Bool :=
  status = 429 || (env.http_status_codes (env.normalized error_text)).contains 429 ||
    rateLimitMarkers.any fun marker => LocalStatus.within marker (env.normalized error_text)

/- `is_local_status_proxy_transport_error`. -/
def isTransportError (error_text : String) (status : Int) :
    Bool :=
  let text := env.normalized error_text
  let text_statuses := env.http_status_codes text
  if status = 407 || text_statuses.contains 407 then true
  else if text = "" || isRateLimitError env text status then false
  else if (400 ≤ status && status < 500) || text_statuses.any (fun code => 400 ≤ code && code < 500)
  then false
  else transportMarkers.any fun marker => LocalStatus.within marker text

/- `is_local_status_proxy_configuration_error`. -/
def isConfigurationError (error_text : String) : Bool := configurationMarkers.any fun marker =>
    LocalStatus.within marker (env.normalized error_text)

/- The `auth` of a probe; `http_status` is read as a number, and as zero where it is none. -/
structure Auth where
  state : String := ""
  http_status : Int := 0
  message : String := ""
  error_code : String := ""

/- What a probe returns: `auth`, where it is a dictionary, and everything else. -/
structure Probe where
  auth : Option Auth := none
  rest : String := ""

/- `local_status_probe_proxy_failure`. -/
def probeProxyFailure (probe : Probe) : String :=
  let auth := probe.auth.getD {}
  if env.normalized auth.state ≠ "probe_failed" then ""
  else
    let message := PyText.strip (PyText.orElse auth.message auth.error_code)
    if isTransportError env message auth.http_status then message
    else ""

----
-- Candidates
----

/- A proxy pool and which of its reporters are callable. -/
structure Pool where
  name : String
  report_fail : Bool := true
  report_success : Bool := true

/- `(proxy_url, proxy_pool, source)`; a missing url is empty. -/
structure Candidate where
  proxy_url : String
  proxy_pool : Option Pool := none
  source : String := ""

/- `candidate_key`. -/
def candidateKey (candidate : Candidate) : String := PyText.strip candidate.proxy_url

/- The value of `dynamic_proxy_max_attempts` or five, read as a number; an infinite one raises. -/
inductive Attempts where
| number (attempts : Int)
| invalid
| infinite

/- What the loop reads of the effective parameters. -/
structure Params where
  proxy_mode : String
  proxy_failover : Bool := false
  attempts : Attempts := .number 5

/- What `run_local_status_probe_with_candidates` raises. -/
inductive Error where
| overflow
| resolver (text : String)
| probe (text : String)
| proxy (text : String)
| repeated
| unavailable

/- The texts of the errors that the loop makes itself. -/
def Error.message : Error → String
| .overflow => "cannot convert float infinity to integer"
| .resolver text => text
| .probe text => text
| .proxy text => text
| .repeated => "动态代理返回了本账号已尝试的线路"
| .unavailable => "本地状态探测没有可用代理候选"

/- `_local_status_dynamic_proxy_policy`. -/
def dynamicProxyPolicy (env : TextEnv) (params : Params) :
    Except Error (Bool × Nat) :=
  if env.normalized params.proxy_mode ≠ "dynamic" then .ok (false, 1)
  else if params.proxy_failover = false then .ok (true, 1)
  else
    match params.attempts with
    | .number attempts => .ok (true, (max 1 (min attempts 100)).toNat)
    | .invalid => .ok (true, 5)
    | .infinite => .error .overflow

/- What `probe_fn` does: it returns a dictionary, or raises. -/
inductive Outcome where
| returned (probe : Probe)
| raised (text : String)

/- A call of `report_success` or `report_fail`. -/
structure Report where
  pool : Pool
  success : Bool
  proxy_url : String

inductive Event where
| resolved (single : Bool)
| probed (candidate : Candidate) (outcome : Outcome)
| reported (report : Report)

/- The resolver and the probe, which may depend on everything that was called before. -/
structure Env extends TextEnv where
  resolve : List Event → Bool → Except String (List Candidate)
  probe : List Event → Candidate → Outcome

/- The candidate that the caller keeps, and the calls. -/
structure World where
  candidate : Option Candidate
  log : List Event := []

def World.record (event : Event) (w : World) : World := { w with log := w.log ++ [event] }

end ProbeCandidates

----
-- Loops
----

namespace ProbeCandidates

variable (env : Env)

/- The report that a pool gets for a candidate. -/
def report? (success : Bool) (candidate : Candidate) :
    Option Report :=
  match candidate.proxy_pool with
  | none => none
  | some pool =>
    if candidate.proxy_url = "" then none
    else if (if success then pool.report_success
          else pool.report_fail) then
      some { pool := pool, success := success, proxy_url := candidate.proxy_url }
    else none

/- `report_candidate`; what the reporter raises is ignored. -/
def reportCandidate (success : Bool) (candidate : Candidate) (w : World) :
    World :=
  match report? success candidate with
  | none => w
  | some report => w.record (.reported report)

/- `clear_reusable_candidate`. -/
def clearReusableCandidate (candidate : Candidate) (w : World) : World :=
  match w.candidate with
  | none => w
  | some reusable =>
    if candidateKey reusable = candidateKey candidate then { w with candidate := none }
    else w

inductive Ending where
| result (probe : Probe)
| failed (error : Error)
| raised (error : Error)

/- `run_candidate`. -/
def runCandidate (candidate : Candidate) (w : World) :
    World × Ending :=
  let outcome := env.probe w.log candidate
  let w := w.record (.probed candidate outcome)
  match outcome with
  | .raised text =>
    if isTransportError env.toTextEnv text 0 then (clearReusableCandidate candidate
          (reportCandidate false candidate w), .failed (.probe text))
    else (w, .raised (.probe text))
  | .returned probe =>
    if probeProxyFailure env.toTextEnv probe ≠ "" then (clearReusableCandidate candidate
          (reportCandidate false candidate w),
        .failed (.proxy (probeProxyFailure env.toTextEnv probe)))
    else ({ reportCandidate true candidate w with candidate := some candidate }, .result probe)

/- A new line for one attempt of the dynamic mode. -/
inductive Allocation where
| line (candidate : Candidate)
| skipped (error : Error)
| raised (error : Error)

def allocate (w : World) : World × Allocation :=
  let resolved := w.record (.resolved true)
  match env.resolve w.log true with
  | .error text =>
    if isConfigurationError env.toTextEnv text then (resolved, .raised (.resolver text))
    else (resolved, .skipped (.resolver text))
  | .ok [] => (resolved, .skipped .unavailable)
  | .ok (candidate :: _) => (resolved, .line candidate)

/- The line of one attempt: the kept one first. -/
def nextLine (reusable : Option Candidate) (w : World) :
    World × Allocation :=
  match reusable with
  | some candidate => (w, .line candidate)
  | none => allocate env w

/- The attempts that are left in the dynamic mode. -/
def dynamicLoop :
    Nat → Option Candidate → List String → Option Error → World → World × Except Error Probe
| 0, _, _, last_error, w => (w, .error (last_error.getD .unavailable))
| left + 1, reusable, attempted_keys, _, w =>
    match nextLine env reusable w with
    | (w, .raised error) => (w, .error error)
    | (w, .skipped error) => dynamicLoop left none attempted_keys (some error) w
    | (w, .line candidate) =>
      let key := candidateKey candidate
      if key ≠ "" ∧ key ∈ attempted_keys then
        dynamicLoop left none attempted_keys (some .repeated) w
      else
        let attempted_keys :=
          if key = "" then attempted_keys
          else key :: attempted_keys
        match runCandidate env candidate w with
        | (w, .result probe) => (w, .ok probe)
        | (w, .raised error) => (w, .error error)
        | (w, .failed error) => dynamicLoop left none attempted_keys (some error) w

/- The candidates that are left in the other modes. -/
def staticLoop :
    List Candidate → Option Error → World → World × Except Error Probe
| [], last_error, w => (w, .error (last_error.getD .unavailable))
| candidate :: rest, _, w =>
    match runCandidate env candidate w with
    | (w, .result probe) => (w, .ok probe)
    | (w, .raised error) => (w, .error error)
    | (w, .failed error) => staticLoop rest (some error) w

/- The kept candidate goes before the others. -/
def withReusable (reusable : Option Candidate) (candidates : List Candidate) : List Candidate :=
  match reusable with
  | none => candidates
  | some kept => kept ::
        candidates.filter fun candidate => candidateKey candidate ≠ candidateKey kept

/- `run_local_status_probe_with_candidates`; `saved` is the candidate in the caller's state. -/
def run (params : Params) (saved : Option Candidate) :
    World × Except Error Probe :=
  let w : World := { candidate := saved }
  match dynamicProxyPolicy env.toTextEnv params with
  | .error error => (w, .error error)
  | .ok (true, budget) => dynamicLoop env budget saved [] none w
  | .ok (false, _) =>
    let resolved := w.record (.resolved false)
    match env.resolve w.log false with
    | .error text => (resolved, .error (.resolver text))
    | .ok candidates => staticLoop env (withReusable saved candidates) none resolved

end ProbeCandidates
