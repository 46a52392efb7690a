import AutoGpt.PhoneApiRelay.Syncs

/-
  A request for a published URL at the relay: how the server
  presents it, which handler gets it, and which route it
  looks up (`services/phone_api_relay.py`,
  `raw_suffix_from_scope` and the routes of the app).

  Main theorems: `forwarded_to_source_iff`
-/

open List

----
-- The Relay's Handlers
----

namespace PhoneApiRelay

open PyUrl

/- The web framework: the path it decodes from the raw path of a request, and which paths a route
   template matches. -/
structure Web where
  path : List UInt8 → Text
  templateMatches : String → Text → Bool

/- The handlers of a `GET` request. -/
inductive Handler where
| health
| get_admin_config
| get_inventory_status
| relay_public
deriving DecidableEq

/- The `GET` routes of the app, in the order of their
registration. -/
def getRoutes : List (String × Handler) := [("/healthz", .health), ("/health", .health),
    ("/admin/v1/config", .get_admin_config),
    ("/admin/v1/inventory/\x7binstance_id\x7d", .get_inventory_status),
    ("/\x7bpublic_path:path\x7d", .relay_public)]

/- The first route that matches gets the request. -/
def dispatch (web : Web) (path : Text) : Option Handler :=
  (getRoutes.find? (fun r => web.templateMatches r.1 path)).map (·.2)

/- How a client sends the characters of a target. -/
inductive Encoding where
| utf8
| percent
deriving DecidableEq

def Encoding.bytes : Encoding → Text → List UInt8
| .utf8 => ByteText.utf8
| .percent => ByteText.quote

/- `raw_suffix_from_scope(scope)`: the suffix and its
digest. -/
def raw_suffix_from_scope (env : Env) (raw_path query_string : List UInt8) : Text × String :=
  let raw_path_bytes := if raw_path = [] then [47] else raw_path
  let suffix_bytes := raw_path_bytes ++ if query_string = [] then [] else 63 :: query_string
  (ByteText.latin1 suffix_bytes, env.sha256_hexdigest suffix_bytes)

/- The route that a `GET` of the URL looks up, when the request reaches `relay_public`. -/
def request (env : Env) (web : Web) (db : Db) (encoding : Encoding)
    (url : Text) : Option RelayRoute :=
  let parts := urlsplit url
  let raw_path := encoding.bytes parts.path
  match dispatch web (web.path raw_path) with
  | some .relay_public =>
    let suffix := raw_suffix_from_scope env raw_path (encoding.bytes parts.query)
    db.lookup suffix.2 suffix.1
  | _ => none

----
-- Suffixes At Both Ends
----

open ByteText

theorem bytes_append (encoding : Encoding) (s t : Text) :
    encoding.bytes (s ++ t) = encoding.bytes s ++ encoding.bytes t := by
  cases encoding with
  | utf8 => exact flatMap_append
  | percent => exact flatMap_append

theorem bytes_eq_nil_iff (encoding : Encoding) (s : Text) : encoding.bytes s = [] ↔ s = [] := by
  have hChar : ∀ c, String.utf8EncodeChar c ≠ [] := by
    intro c
    exact String.utf8EncodeChar_ne_nil
  constructor
  · intro hNil
    cases s with
    | nil => rfl
    | cons c s =>
      exfalso
      cases encoding with
      | utf8 =>
        have hHead := flatMap_eq_nil_iff.mp hNil c mem_cons_self
        exact hChar c hHead
      | percent =>
        have hHead := flatMap_eq_nil_iff.mp hNil c mem_cons_self
        split at hHead
        · exact hChar c hHead
        · cases hBytes : String.utf8EncodeChar c with
          | nil => exact hChar c hBytes
          | cons b bs =>
            rw [hBytes] at hHead
            cases hHead
  · rintro rfl
    cases encoding with
    | utf8 => rfl
    | percent => rfl

/- Read as Latin-1, what was sent is the text itself exactly
when the text is ASCII. -/
theorem latin1_bytes_iff (encoding : Encoding) {s : Text} :
    latin1 (encoding.bytes s) = s ↔ AllAscii s := by
  cases encoding with
  | utf8 => exact latin1_utf8_iff
  | percent => exact latin1_quote_iff

theorem bytes_of_ascii (encoding : Encoding) {s : Text} (hAscii : AllAscii s) :
    encoding.bytes s = utf8 s := by
  cases encoding with
  | utf8 => rfl
  | percent => exact quote_of_ascii hAscii

theorem raw_suffix_of_bytes {env : Env} (encoding : Encoding) {path query : Text}
    (hPath : path ≠ []) :
    raw_suffix_from_scope env (encoding.bytes path) (encoding.bytes query) =
      (latin1 (encoding.bytes (pathQuery path query)),
        env.sha256_hexdigest (encoding.bytes (pathQuery path query))) := by
  have hMark : encoding.bytes ['?'] = [63] := by
    cases encoding with
    | utf8 => decide
    | percent => decide
  have hBytes : (encoding.bytes path ++
        if encoding.bytes query = [] then []
          else 63 :: encoding.bytes query) =
        encoding.bytes (pathQuery path query) := by
    unfold pathQuery
    by_cases hNil : query = []
    · rw [if_pos hNil, if_pos ((bytes_eq_nil_iff encoding query).mpr hNil), append_nil]
    · rw [if_neg hNil, if_neg
          (fun h => hNil ((bytes_eq_nil_iff encoding query).mp h)),
        show '?' :: query = ['?'] ++ query from rfl,
        bytes_append, bytes_append, hMark]
      rfl
  unfold raw_suffix_from_scope
  dsimp only
  rw [if_neg (fun h => hPath ((bytes_eq_nil_iff encoding path).mp h)), hBytes]

----
-- Forwarding To The Source
----

variable {env : Env}

theorem ascii_path_of_pathQuery {path query : Text} (hAscii : AllAscii (pathQuery path query)) :
    AllAscii path := by
  intro c hc
  apply hAscii
  unfold pathQuery
  split
  · exact hc
  · exact mem_append_left _ hc

theorem lookup_some {db : Db} {hash : String} {suffix : Text} {r : RelayRoute}
    (hLookup : db.lookup hash suffix = some r) : r.raw_suffix = suffix := by
  unfold Db.lookup at hLookup
  split at hLookup
  · split at hLookup
    · cases hLookup
    next hSame =>
      cases hLookup
      exact not_not.mp hSame
  · cases hLookup

/- A registered route is looked up by its digest and
suffix. -/
theorem lookup_routed {db : Db} {route : RelayRoute} (hRouted : Routed db route) :
    ∃ r, db.lookup route.route_hash route.raw_suffix = some r ∧ r.raw_suffix = route.raw_suffix ∧
        r.source_origin = route.source_origin := by
  rcases hRouted with ⟨row, hRow, hHash, hSuffix, hOrigin⟩
  have hFind := KeyedTable.find?_of_mem hRow
  rw [RouteRow.key, hHash] at hFind
  refine ⟨row.toRelayRoute, ?_, hSuffix, hOrigin⟩
  unfold Db.lookup
  rw [hFind]
  dsimp only
  rw [if_neg (not_not.mpr hSuffix)]

/- A request for the published URL of a registered source is answered with the source's own route
   exactly when the suffix is ASCII and the framework gives the decoded path to `relay_public`. -/
theorem forwarded_to_source_iff (web : Web) (calls : List Call) (instanceId : Text) (item : Item)
    (route : RelayRoute) (active url : Text) (encoding : Encoding)
    (hItem : item ∈ lastItems (Machine.trace (step env) Db.initial calls) instanceId)
    (hParse : parse_source_api_url env item.source_api_url = .ok route)
    (hForward : forwarded_api_url env item.source_api_url active = .ok url) :
    (∃ r, request env web (after env calls) encoding url = some r ∧
        r.raw_suffix = route.raw_suffix ∧ r.source_origin = route.source_origin) ↔
      AllAscii route.raw_suffix ∧
        dispatch web (web.path (utf8 (urlsplit url).path)) = some .relay_public := by
  rcases split_forwarded hForward hParse with ⟨hPath, hQuery⟩
  rcases parse_source_api_url_ok hParse with ⟨_, hSuffix, hHash⟩
  have hSent : pathQuery (urlsplit url).path (urlsplit url).query = route.raw_suffix := by
    rw [hPath, hQuery, hSuffix]
    rfl
  have hRoot : (urlsplit url).path ≠ [] := by
    rw [hPath, rawPath]
    split
    · exact cons_ne_nil _ _
    · assumption
  have hScope := @raw_suffix_of_bytes env encoding _ (urlsplit url).query hRoot
  rw [hSent] at hScope
  rcases (@owns_after env calls).2 instanceId |>.2
      item hItem with
    ⟨x, hOf, hRouted⟩
  have hSame : x.2 = route := by
    have hBoth := hOf.2
    rw [hParse] at hBoth
    exact (Except.ok.inj hBoth).symm
  rw [hSame] at hRouted
  have hBytes : AllAscii route.raw_suffix →
        encoding.bytes (urlsplit url).path = utf8 (urlsplit url).path := by
    intro hAscii
    rw [← hSent] at hAscii
    exact bytes_of_ascii encoding (ascii_path_of_pathQuery hAscii)
  constructor
  · rintro ⟨r, hRequest, hFound, _⟩
    unfold request at hRequest
    dsimp only at hRequest
    split at hRequest
    next hDispatch =>
      rw [hScope] at hRequest
      have hText := lookup_some hRequest
      rw [hFound] at hText
      have hAscii := (latin1_bytes_iff encoding).mp hText.symm
      rw [hBytes hAscii] at hDispatch
      exact ⟨hAscii, hDispatch⟩
    · cases hRequest
  · rintro ⟨hAscii, hDispatch⟩
    unfold request
    dsimp only
    rw [hScope, hBytes hAscii, hDispatch]
    rw [(latin1_bytes_iff encoding).mpr hAscii, bytes_of_ascii encoding hAscii, ← hHash]
    exact lookup_routed hRouted

/- Texts without upper-case letters, hosts without IP
literals, and a digest that keeps the bytes. -/
def plainEnv : Env where
  lower := id
  sha256_hexdigest bytes := String.ofList (latin1 bytes)
  netloc_ok _ := true
  ip_version _ := none
  lower_plain := fun _ _ hMem _ => hMem

/- The framework on paths without escapes and on the escaped
path of the source below. -/
def plainWeb : Web where
  path bytes :=
    if bytes = quote "/é".toList then "/é".toList
    else latin1 bytes
  templateMatches template path :=
    if template = "/\x7bpublic_path:path\x7d" then path.head? == some '/'
    else if template = "/admin/v1/inventory/\x7binstance_id\x7d" then
      let rest := path.drop 20
      path.take 20 == "/admin/v1/inventory/".toList && rest != [] && !rest.contains '/'
    else path == template.toList

/- An instance with two sources on two hosts. -/
def twoSources : Call where
  instance_id := "i1".toList
  items := [⟨"1".toList, "https://a.example/é".toList⟩,
      ⟨"2".toList, "https://b.example/%C3%A9?x=1".toList⟩,
      ⟨"3".toList, "https://b.example/%C3%A9".toList⟩,
      ⟨"4".toList, "https://a.example/health".toList⟩]
  relay_hosts := ["relay.example".toList]
  refused _ _ := none
  now := ""

def queryRoute : RelayRoute where
  route_hash := "/%C3%A9?x=1"
  raw_suffix := "/%C3%A9?x=1".toList
  source_origin := "https://b.example".toList
  source_scheme := "https".toList
  source_host := "b.example".toList
  source_port := 443

def queryUrl : Text := "https://relay.example/%C3%A9?x=1".toList

/- The forwarding of the second source. -/
theorem forwarded_to_source_iff_query :
    (∃ r, request plainEnv plainWeb (after plainEnv [twoSources]) .utf8 queryUrl = some r ∧
        r.raw_suffix = queryRoute.raw_suffix ∧ r.source_origin = queryRoute.source_origin) ↔
      AllAscii queryRoute.raw_suffix ∧
        dispatch plainWeb (plainWeb.path (utf8 (urlsplit queryUrl).path)) = some .relay_public :=
  forwarded_to_source_iff plainWeb [twoSources] "i1".toList
    ⟨"2".toList, "https://b.example/%C3%A9?x=1".toList⟩
    queryRoute "https://relay.example".toList queryUrl .utf8 (by decide +kernel) (by decide +kernel)
    (by decide +kernel)

/- The published URL of the first source, sent with its non-ASCII character percent-encoded, is
   answered with the third source; sent as UTF-8 it has no route. That of the fourth is answered by
   the relay itself. -/
theorem forwarded_elsewhere :
    forwarded_api_url plainEnv "https://a.example/é".toList "https://relay.example".toList =
        .ok "https://relay.example/é".toList ∧ (request plainEnv plainWeb
          (after plainEnv [twoSources]) .percent "https://relay.example/é".toList).map
          RelayRoute.source_url = some "https://b.example/%C3%A9".toList ∧ request plainEnv plainWeb
          (after plainEnv [twoSources]) .utf8 "https://relay.example/é".toList = none ∧
      dispatch plainWeb (plainWeb.path (utf8 "/health".toList)) = some .health := by
  decide +kernel

end PhoneApiRelay
