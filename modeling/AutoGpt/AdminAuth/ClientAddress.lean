import AutoGpt.Library.PyIpAddress
import AutoGpt.Library.PyText

/-
  `_request_metadata` of `api/auth.py`: the client address of
  a request, read from its TCP peer and, behind a trusted
  proxy, from its forwarding headers.

  Main theorems: `ClientAddress.clientIp_of_untrusted`, `ClientAddress.clientIp_prefix_iff`
-/

open PyText (orElse strip)
open List
open Option

----
-- Requests
----

namespace ClientAddress

open PyIpAddress (Address Network)

/- What `_request_metadata` reads from a request. -/
structure Request where
  client_host : Option String := none
  cf_connecting_ip : Option String := none
  x_forwarded_for : Option String := none
  x_real_ip : Option String := none
  user_agent : Option String := none

/- The texts of the trusted proxies: two environment variables and a configuration key. -/
structure ProxySettings where
  app_trusted_proxy_cidrs : String := ""
  auth_env_trusted_proxy_cidrs : String := ""
  auth_trusted_proxy_cidrs : String := ""

/- `_safe_header`; `isprintable` is the test of a character. -/
def safeHeader (isprintable : Char → Bool) (value : String) (maximum : Nat) : String :=
  let cleaned := String.ofList (value.toList.filter isprintable)
  String.ofList ((strip cleaned).toList.take maximum)

/- `_parse_ip`. -/
def parseIp (value : String) : Option Address :=
  let candidate := strip value
  if candidate = "" then none
  else PyIpAddress.ipAddress candidate

/- The separators of `re.split(r"[\s,;]+", raw)`. -/
def isSeparator (c : Char) : Bool := PyText.isSpace c || c = ',' || c = ';'

/- `_trusted_proxy_networks`. -/
def trustedProxyNetworks (settings : ProxySettings) :
    List Network :=
  let configured := strip
      (orElse settings.app_trusted_proxy_cidrs settings.auth_env_trusted_proxy_cidrs)
  let raw := orElse configured (strip settings.auth_trusted_proxy_cidrs)
  (raw.toList.splitOnP isSeparator).filterMap fun item =>
    if item = [] then none
    else PyIpAddress.ipNetwork (String.ofList item)

/- `_is_trusted_proxy`. -/
def isTrustedProxy (address : Option Address) (networks : List Network) :
    Bool :=
  match address with
  | none => false
  | some address => networks.any fun network => network.contains address

/- `value.split(",")`. -/
def splitHops (value : String) : List String := (value.toList.splitOn ',').map String.ofList

def forwarded (x_forwarded_for : String) : List Address :=
  (splitHops x_forwarded_for).filterMap parseIp

/- The last hop that is no trusted proxy. -/
def selected (networks : List Network) (hops : List Address) :
    Option Address :=
  hops.reverse.find? fun address => !isTrustedProxy (some address) networks

def peerText (request : Request) : String := request.client_host.getD "unknown"

/- `client_ip` when no forwarding header counts. -/
def peerClientIp (isprintable : Char → Bool) (request : Request) : String :=
  match parseIp (peerText request) with
  | some peer_ip => peer_ip.str
  | none => orElse (safeHeader isprintable (peerText request) 128) "unknown"

def forwardedClientIp (networks : List Network) (request : Request) (client_ip : String) : String :=
  match parseIp (request.cf_connecting_ip.getD "") with
  | some cf_ip => cf_ip.str
  | none =>
    match forwarded (request.x_forwarded_for.getD "") with
    | first :: rest => ((selected networks (first :: rest)).getD first).str
    | [] =>
      match parseIp (request.x_real_ip.getD "") with
      | some real_ip => real_ip.str
      | none => client_ip

/- The client address of `_request_metadata`. -/
def clientIp (isprintable : Char → Bool) (networks : List Network) (request : Request) : String :=
  let client_ip := peerClientIp isprintable request
  if isTrustedProxy (parseIp (peerText request)) networks then
    forwardedClientIp networks request client_ip
  else client_ip

/- `_request_metadata`. -/
def requestMetadata (isprintable : Char → Bool) (settings : ProxySettings)
    (request : Option Request) : String × String :=
  match request with
  | none => ("system", "")
  | some request => (clientIp isprintable (trustedProxyNetworks settings) request,
        safeHeader isprintable (request.user_agent.getD "") 512)

----
-- Untrusted Peers
----

/- The TCP peer of the request is a trusted proxy. -/
def Trusted (networks : List Network) (request : Request) :
    Prop :=
  isTrustedProxy (parseIp (peerText request)) networks

instance : Decidable (Trusted networks request) := by
  unfold Trusted
  infer_instance

/- The request with other forwarding headers. -/
def Request.withHeaders (cf_connecting_ip x_forwarded_for x_real_ip : Option String)
    (request : Request) : Request :=
  { request with
    cf_connecting_ip := cf_connecting_ip, x_forwarded_for := x_forwarded_for,
    x_real_ip := x_real_ip }

/- Headers say nothing about the client of an untrusted peer. -/
theorem clientIp_of_untrusted (hPeer : ¬ Trusted networks request)
    (cf_connecting_ip x_forwarded_for x_real_ip : Option String) :
    clientIp isprintable networks
        (request.withHeaders cf_connecting_ip x_forwarded_for x_real_ip) =
      clientIp isprintable networks request := by
  have hSame : peerText
          (request.withHeaders cf_connecting_ip x_forwarded_for x_real_ip) =
        peerText request := rfl
  unfold Trusted at hPeer
  unfold clientIp peerClientIp
  rw [hSame, if_neg hPeer, if_neg hPeer]

----
-- Forged Prefixes
----

/- The request whose `X-Forwarded-For` is the text of the
   client, a comma and the text of the proxies. -/
def Request.forwardedFor (supplied appended : String) (request : Request) :
    Request :=
  { request with x_forwarded_for := some (supplied ++ "," ++ appended) }

/- A hop of the text is an address, and no trusted proxy. -/
def ForeignHop (networks : List Network) (appended : String) :
    Prop :=
  ∃ hop ∈ splitHops appended, ∃ address,
    parseIp hop = some address ∧ isTrustedProxy (some address) networks = false

theorem splitHops_append (supplied appended : String) :
    splitHops (supplied ++ "," ++ appended) = splitHops supplied ++ splitHops appended := by
  have hChars :
      (supplied ++ "," ++ appended).toList = supplied.toList ++ ',' :: appended.toList := by
    simp
  unfold splitHops
  rw [hChars, splitOn_append_cons_self, map_append]

theorem forwarded_append (supplied appended : String) :
    forwarded (supplied ++ "," ++ appended) = forwarded supplied ++ forwarded appended := by
  unfold forwarded
  rw [splitHops_append, filterMap_append]

/- The address of a request behind a trusted proxy, without a `CF-Connecting-IP`. -/
theorem clientIp_forwardedFor (hPeer : Trusted networks request)
    (hDirect : parseIp (request.cf_connecting_ip.getD "") = none)
    (hHead : (forwarded supplied ++ forwarded appended).head? = some address) :
    clientIp isprintable networks (request.forwardedFor supplied appended) =
      ((selected networks (forwarded supplied ++ forwarded appended)).getD address).str := by
  have hPeer' : isTrustedProxy
          (parseIp (peerText (request.forwardedFor supplied appended)))
          networks =
        true :=
    hPeer
  unfold clientIp
  rw [if_pos hPeer']
  have hDirect' : parseIp
          ((request.forwardedFor supplied appended).cf_connecting_ip.getD "") =
        none :=
    hDirect
  unfold forwardedClientIp
  rw [hDirect']
  dsimp only [Request.forwardedFor, getD_some]
  rw [forwarded_append]
  cases hHops : forwarded supplied ++ forwarded appended with
  | nil =>
    rw [hHops] at hHead
    cases hHead
  | cons first rest =>
    rw [hHops] at hHead
    cases hHead
    rfl

/- The last foreign address of the appended text is the one that is selected. -/
theorem selected_append (networks : List Network) (hops appended : List Address) :
    selected networks (hops ++ appended) =
      (selected networks appended).or (selected networks hops) := by
  unfold selected
  rw [reverse_append, find?_append]

theorem foreignHop_iff (appended : String) :
    ForeignHop networks appended ↔
      ∃ address, selected networks (forwarded appended) = some address := by
  unfold ForeignHop selected forwarded
  rw [← isSome_iff_exists, find?_isSome]
  simp only [mem_reverse, mem_filterMap, Bool.not_eq_true']
  constructor
  · rintro ⟨hop, hHop, address, hParsed, hForeign⟩
    exact ⟨address, ⟨hop, hHop, hParsed⟩, hForeign⟩
  · rintro ⟨address, ⟨hop, hHop, hParsed⟩, hForeign⟩
    exact ⟨hop, hHop, address, hParsed, hForeign⟩

/- With a foreign address in the appended text, that text decides. -/
theorem clientIp_of_foreignHop (hPeer : Trusted networks request)
    (hDirect : parseIp (request.cf_connecting_ip.getD "") = none)
    (hSelected : selected networks (forwarded appended) = some address) (supplied : String) :
    clientIp isprintable networks
        (request.forwardedFor supplied appended) =
      address.str := by
  have hSome : selected networks (forwarded supplied ++ forwarded appended) = some address := by
    rw [selected_append, hSelected, some_or]
  cases hHead : (forwarded supplied ++ forwarded appended).head? with
  | none =>
    rw [head?_eq_none_iff] at hHead
    rw [hHead] at hSome
    cases hSome
  | some first => rw [clientIp_forwardedFor hPeer hDirect hHead, hSome, getD_some]

/- Without one, a single address supplied by the client is the client address. -/
theorem clientIp_of_no_foreignHop (isprintable : Char → Bool) (hPeer : Trusted networks request)
    (hDirect : parseIp (request.cf_connecting_ip.getD "") = none)
    (hNone : selected networks (forwarded appended) = none)
    (hSupplied : forwarded supplied = [address]) :
    clientIp isprintable networks
        (request.forwardedFor supplied appended) =
      address.str := by
  have hHead : (forwarded supplied ++ forwarded appended).head? = some address := by
    rw [hSupplied]
    rfl
  rw [clientIp_forwardedFor hPeer hDirect hHead, selected_append, hNone, none_or, hSupplied]
  unfold selected
  cases hForeign : isTrustedProxy (some address) networks with
  | true => simp [hForeign]
  | false => simp [hForeign]

/- Behind a trusted proxy the text of the client has no influence exactly when a hop of the appended
   text is an address and no trusted proxy. -/
theorem clientIp_prefix_iff (hPeer : Trusted networks request)
    (hDirect : parseIp (request.cf_connecting_ip.getD "") = none) (appended : String) :
    (∀ supplied supplied', clientIp isprintable networks
            (request.forwardedFor supplied appended) =
          clientIp isprintable networks (request.forwardedFor supplied' appended)) ↔
      ForeignHop networks appended := by
  rw [foreignHop_iff]
  constructor
  · intro hSame
    cases hSelected : selected networks (forwarded appended) with
    | some address => exact ⟨address, rfl⟩
    | none =>
      have hFirst := clientIp_of_no_foreignHop isprintable hPeer hDirect
          hSelected
          (show forwarded "1.1.1.1" = [.v4 16843009] by
            decide)
      have hSecond := clientIp_of_no_foreignHop isprintable hPeer hDirect
          hSelected
          (show forwarded "2.2.2.2" = [.v4 33686018] by
            decide)
      have hEqual := hSame "1.1.1.1" "2.2.2.2"
      rw [hFirst, hSecond] at hEqual
      exact absurd hEqual (by decide)
  · rintro ⟨address, hSelected⟩ supplied supplied'
    rw [clientIp_of_foreignHop hPeer hDirect hSelected,
      clientIp_of_foreignHop hPeer hDirect hSelected]

----
-- Client Addresses
----

/- The forwarding headers of an untrusted peer have no influence. Behind a trusted proxy, the text
   that the client has sent has none exactly when the text appended by the proxies has a hop that is
   an address outside the trusted networks. -/
theorem client_address_iff (isprintable : Char → Bool) (networks : List Network)
    (request : Request) :
    (¬ Trusted networks request → ∀ cf_connecting_ip x_forwarded_for x_real_ip,
          clientIp isprintable networks
              (request.withHeaders cf_connecting_ip x_forwarded_for x_real_ip) =
            clientIp isprintable networks request) ∧
      (Trusted networks request → parseIp (request.cf_connecting_ip.getD "") = none → ∀ appended,
            (∀ supplied supplied', clientIp isprintable networks
                    (request.forwardedFor supplied appended) =
                  clientIp isprintable networks (request.forwardedFor supplied' appended)) ↔
              ForeignHop networks appended) :=
  ⟨clientIp_of_untrusted, clientIp_prefix_iff⟩

/- A proxy of the local network, and a hop with a port. -/
def localNetworks : List Network := trustedProxyNetworks { app_trusted_proxy_cidrs := "10.0.0.0/8" }

def proxiedRequest : Request where
  client_host := some "10.0.0.1"

/- The proxy has appended the address of the client with its port. That hop is no trusted proxy, and
   the client chooses its own address. -/
theorem hop_with_port_skipped :
    Trusted localNetworks proxiedRequest ∧ (splitHops "203.0.113.9:443" = ["203.0.113.9:443"] ∧
        isTrustedProxy (parseIp "203.0.113.9:443") localNetworks = false) ∧
      clientIp (fun _ => true) localNetworks
          (proxiedRequest.forwardedFor "1.1.1.1" "203.0.113.9:443") = "1.1.1.1" ∧
      clientIp (fun _ => true) localNetworks
          (proxiedRequest.forwardedFor "2.2.2.2" "203.0.113.9:443") = "2.2.2.2" := by
  decide

end ClientAddress
