import AutoGpt.Library.PyUrl
import AutoGpt.Library.PyText
import AutoGpt.Library.ByteText

/-
  The source URLs of the phone API relay and the URLs it
  publishes for them (`services/phone_api_relay.py`,
  `parse_source_api_url` and `forwarded_api_url`).

  Main theorems: `split_forwarded`
-/

open List

----
-- Origins And Routes
----

namespace PhoneApiRelay

open PyUrl

/- What the URL code takes from elsewhere: case mapping, the digest, the checks of `urlsplit` on a
   network location, and the version of an IP literal. No case mapping makes a delimiter of a URL
   out of another character. -/
structure Env where
  lower : Text → Text
  sha256_hexdigest : List UInt8 → String
  netloc_ok : Text → Bool
  ip_version : Text → Option Nat
  lower_plain : ∀ s d, d ∈ lower s → isDelim d ∨ isUnsafe d → d ∈ s

variable (env : Env)

/- `str.strip()` on a list of characters. -/
def stripText (s : Text) : Text := (s.dropWhile PyText.isSpace).rdropWhile PyText.isSpace

/- `host.lower().rstrip(".")`. -/
def bareHost (host : Text) : Text := (env.lower host).rdropWhile (· == '.')

def defaultPort (scheme : Text) : Nat := if scheme = "https".toList then 443 else 80

/- `_format_authority(hostname, port, scheme)`. -/
def format_authority (hostname : Text) (port : Option Nat) (scheme : Text) : Except String Text :=
  let host := bareHost env (stripText hostname)
  if host = [] then .error "URL host is required"
  else
    let rendered :=
      if env.ip_version (partition '%' host).1 = some 6 then '[' :: host ++ [']']
      else host
    match port with
    | some p =>
      if p ≠ 0 ∧ p ≠ defaultPort scheme then .ok (rendered ++ ':' :: Nat.toDigits 10 p)
      else .ok rendered
    | none => .ok rendered

/- A scheme, a double slash and an authority. -/
def originText (scheme authority : Text) : Text := scheme ++ ':' :: '/' :: '/' :: authority

def isHttp (scheme : Text) : Prop := scheme = "http".toList ∨ scheme = "https".toList

instance (scheme : Text) : Decidable (isHttp scheme) := inferInstanceAs (Decidable (_ ∨ _))

/- `normalize_public_origin(value)`. -/
def normalize_public_origin (value : Text) :
    Except String Text :=
  let text := stripText value
  if text = [] then .ok []
  else
    let parts := urlsplit text
    match env.netloc_ok parts.netloc, port parts.netloc with
    | true, .ok port =>
      let host := hostname env.lower parts.netloc
      if ¬ isHttp parts.scheme ∨ host = [] then .error "relay origin must use http(s)"
      else if hasCredentials parts.netloc then .error "relay origin must not contain credentials"
      else if (parts.path ≠ [] ∧ parts.path ≠ ['/']) ∨ parts.query ≠ [] ∨ parts.fragment ≠ [] then
        .error "relay origin must not contain path, query, or fragment"
      else
        match format_authority env host port parts.scheme with
        | .ok authority => .ok (originText parts.scheme authority)
        | .error e => .error e
    | _, _ => .error "relay origin is invalid"

structure RelayRoute where
  route_hash : String
  raw_suffix : Text
  source_origin : Text
  source_scheme : Text
  source_host : Text
  source_port : Nat
deriving DecidableEq

def RelayRoute.source_url (r : RelayRoute) : Text := r.source_origin ++ r.raw_suffix

/- `parts.path or "/"`. -/
def rawPath (parts : SplitResult) : Text := if parts.path = [] then ['/'] else parts.path

/- `raw_suffix` of a split source URL. -/
def rawSuffix (parts : SplitResult) : Text := pathQuery (rawPath parts) parts.query

/- `port or (443 if scheme == "https" else 80)`. -/
def resolvedPort (scheme : Text) : Option Nat → Nat
| some p => if p = 0 then defaultPort scheme else p
| none => defaultPort scheme

/- `parse_source_api_url(value)`. -/
def parse_source_api_url (value : Text) :
    Except String RelayRoute :=
  let parts := urlsplit (stripText value)
  match env.netloc_ok parts.netloc, port parts.netloc with
  | true, .ok port =>
    let host := hostname env.lower parts.netloc
    if ¬ isHttp parts.scheme ∨ host = [] then .error "source API URL must use http(s)"
    else if hasCredentials parts.netloc then .error "source API URL credentials are not supported"
    else if parts.fragment ≠ [] then .error "source API URL fragment is not supported"
    else
      let resolved := resolvedPort parts.scheme port
      match format_authority env host (some resolved) parts.scheme
      with
      | .ok authority => .ok
            { route_hash := env.sha256_hexdigest (ByteText.utf8 (rawSuffix parts)),
              raw_suffix := rawSuffix parts, source_origin := originText parts.scheme authority,
              source_scheme := parts.scheme, source_host := bareHost env host,
              source_port := resolved }
      | .error e => .error e
  | _, _ => .error "source API URL is invalid"

/- `forwarded_api_url(source_api_url, active_origin)`. -/
def forwarded_api_url (source_api_url active_origin : Text) :
    Except String Text :=
  match parse_source_api_url env source_api_url with
  | .error e => .error e
  | .ok route =>
    match normalize_public_origin env active_origin with
    | .error e => .error e
    | .ok origin =>
      if origin = [] then .error "active relay origin is required"
      else .ok (origin ++ route.raw_suffix)

end PhoneApiRelay

----
-- What Parsing Yields
----

namespace PhoneApiRelay

open PyUrl

variable {env : Env}

theorem plain_lower (hPlain : Plain s) : Plain (env.lower s) := by
  intro d hd
  constructor
  · by_contra hDelim
    rw [Bool.not_eq_false] at hDelim
    have hOld := env.lower_plain s d hd (.inl hDelim)
    rw [(hPlain d hOld).1] at hDelim
    cases hDelim
  · by_contra hUnsafe
    rw [Bool.not_eq_false] at hUnsafe
    have hOld := env.lower_plain s d hd (.inr hUnsafe)
    rw [(hPlain d hOld).2] at hUnsafe
    cases hUnsafe

variable {host scheme value : Text} {route : RelayRoute}

theorem plain_bareHost (hPlain : Plain host) : Plain (bareHost env (stripText host)) := by
  have hStrip : Plain (stripText host) := by
    intro d hd
    have hLeft := ( rdropWhile_prefix _ _).mem hd
    exact hPlain d ((dropWhile_suffix _).mem hLeft)
  intro d hd
  exact plain_lower hStrip d (( rdropWhile_prefix _ _).mem hd)

theorem plain_digits (n : Nat) : Plain (Nat.toDigits 10 n) := by
  intro d hd
  have hDigit := Nat.isDigit_of_mem_toDigits (by decide) (by decide) hd
  constructor
  · by_contra hDelim
    rw [Bool.not_eq_false] at hDelim
    have hCases : (d = '/' ∨ d = '?') ∨ d = '#' := by simpa [isDelim] using hDelim
    revert hDigit
    rcases hCases with (rfl | rfl) | rfl <;> decide
  · by_contra hUnsafe
    rw [Bool.not_eq_false] at hUnsafe
    have hCases : (d = '\t' ∨ d = '\r') ∨ d = '\n' := by simpa [isUnsafe] using hUnsafe
    revert hDigit
    rcases hCases with (rfl | rfl) | rfl <;> decide

theorem plain_hostname (hPlain : Plain netloc) : Plain (hostname env.lower netloc) := by
  have hHost : Plain (hostPort netloc).1 := fun d hd => hPlain d (mem_hostPort hd)
  unfold hostname
  dsimp only
  split
  · intro d hd
    cases hd
  · split
    · intro d hd
      rcases mem_append.mp hd with hName | hZone
      · refine plain_lower ?_ d hName
        intro x hx
        exact hHost x (mem_partition_left hx).1
      · rcases mem_cons.mp hZone with rfl | hRest
        · decide
        · exact hHost d (mem_partition_right hRest)
    · exact plain_lower hHost

theorem plain_authority {port : Option Nat} (hHost : Plain host)
    (hAuthority : format_authority env host port scheme = .ok authority) : Plain authority := by
  unfold format_authority at hAuthority
  dsimp only at hAuthority
  have hBare := @plain_bareHost env _ hHost
  generalize bareHost env (stripText host) = bare at *
  have hRendered : Plain
        (if env.ip_version (partition '%' bare).1 = some 6
          then '[' :: bare ++ [']'] else bare) := by
    split
    · intro d hd
      simp only [cons_append, mem_cons, mem_append, not_mem_nil, or_false] at hd
      rcases hd with rfl | hIn | rfl
      · decide
      · exact hBare d hIn
      · decide
    · exact hBare
  generalize
    (if env.ip_version (partition '%' bare).1 = some 6
      then '[' :: bare ++ [']'] else bare) = rendered at *
  split at hAuthority
  · cases hAuthority
  · split at hAuthority
    · split at hAuthority
      · cases hAuthority
        intro d hd
        rcases mem_append.mp hd with hLeft | hRight
        · exact hRendered d hLeft
        · rcases mem_cons.mp hRight with rfl | hDigits
          · decide
          · exact plain_digits _ d hDigits
      · cases hAuthority
        exact hRendered
    · cases hAuthority
      exact hRendered

theorem parse_source_api_url_ok (hParse : parse_source_api_url env value = .ok route) :
    (urlsplit (stripText value)).netloc ≠ [] ∧
      route.raw_suffix = rawSuffix (urlsplit (stripText value)) ∧
      route.route_hash = env.sha256_hexdigest (ByteText.utf8 route.raw_suffix) := by
  unfold parse_source_api_url at hParse
  dsimp only at hParse
  split at hParse
  · split at hParse
    · cases hParse
    next hServed =>
      split at hParse
      · cases hParse
      · split at hParse
        · cases hParse
        · split at hParse
          · cases hParse
            refine ⟨?_, rfl, rfl⟩
            intro hNil
            apply (not_or.mp hServed).2
            rw [hNil]
            rfl
          · cases hParse
  · cases hParse

/- A normalized origin is empty or names a plain authority
of a scheme that is served. -/
theorem normalize_public_origin_ok {origin : Text}
    (hOrigin : normalize_public_origin env value = .ok origin) (hSome : origin ≠ []) :
    ∃ scheme authority, isHttp scheme ∧ Plain authority ∧ origin = originText scheme authority := by
  unfold normalize_public_origin at hOrigin
  dsimp only at hOrigin
  split at hOrigin
  · cases hOrigin
    exact absurd rfl hSome
  · have hClean := urlsplit_clean (stripText value)
    split at hOrigin
    · split at hOrigin
      · cases hOrigin
      next hServed =>
        split at hOrigin
        · cases hOrigin
        · split at hOrigin
          · cases hOrigin
          · split at hOrigin
            next authority hAuthority =>
              cases hOrigin
              refine ⟨_, authority, not_not.mp (not_or.mp hServed).1,
                  plain_authority (plain_hostname ?_) hAuthority, rfl⟩
              intro d hd
              exact ⟨hClean.netloc_plain d hd, hClean.netloc_safe d hd⟩
            · cases hOrigin
    · cases hOrigin

theorem isScheme_of_isHttp (hHttp : isHttp scheme) : IsScheme scheme := by
  rcases hHttp with rfl | rfl
  · exact ⟨⟨'h', "ttp".toList, by decide, by decide⟩, all_eq_true.mp (by decide), by decide⟩
  · exact ⟨⟨'h', "ttps".toList, by decide, by decide⟩, all_eq_true.mp (by decide), by decide⟩

/- The published URL has the path and the query of the source URL, the empty path standing for the
   root. -/
theorem split_forwarded (hForward : forwarded_api_url env value active = .ok url)
    (hParse : parse_source_api_url env value = .ok route) :
    (urlsplit url).path = rawPath (urlsplit (stripText value)) ∧
      (urlsplit url).query = (urlsplit (stripText value)).query := by
  unfold forwarded_api_url at hForward
  rw [hParse] at hForward
  dsimp only at hForward
  split at hForward
  · cases hForward
  next origin hOrigin =>
    split at hForward
    · cases hForward
    next hSome =>
      cases hForward
      rcases normalize_public_origin_ok hOrigin hSome with ⟨scheme, authority, hHttp, hPlain, rfl⟩
      rcases parse_source_api_url_ok hParse with ⟨hNetloc, hSuffix, _⟩
      have hClean := urlsplit_clean (stripText value)
      generalize urlsplit (stripText value) = parts at *
      have hRoot : ∃ rest, rawPath parts = '/' :: rest := by
        unfold rawPath
        rcases hClean.path_root hNetloc with hNil | ⟨rest, hRest⟩
        · exact ⟨[], by rw [if_pos hNil]⟩
        · exact ⟨rest, by rw [hRest]; rfl⟩
      have hPath : ∀ d ∈ rawPath parts, (d ≠ '?' ∧ d ≠ '#') ∧ isUnsafe d = false := by
        intro d hd
        unfold rawPath at hd
        split at hd
        · rw [mem_singleton.mp hd]
          decide
        · exact ⟨hClean.path_plain d hd, hClean.path_safe d hd⟩
      rcases hRoot with ⟨rest, hRest⟩
      rw [hSuffix, rawSuffix, hRest]
      rw [hRest] at hPath
      have hJoin := urlsplit_join (isScheme_of_isHttp hHttp) hPlain hPath
          (fun d hd => ⟨hClean.query_plain d hd, hClean.query_safe d hd⟩)
      rw [originText, append_assoc]
      simp only [cons_append, hJoin, and_self]

end PhoneApiRelay
