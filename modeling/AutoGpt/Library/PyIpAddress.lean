import Mathlib
/-
  The `ipaddress` module: the texts of IPv4 and IPv6
  addresses and networks, and which addresses a network
  contains.

  Key definitions: `PyIpAddress.Address`, `PyIpAddress.ipAddress`, `PyIpAddress.Address.str`,
  `PyIpAddress.Network`, `PyIpAddress.ipNetwork`, `PyIpAddress.Network.contains`
-/

----
-- IPv4 Texts
----

namespace PyIpAddress

/- `int(text, 10)` of digits. -/
def decimal (cs : List Char) : Nat := cs.foldl (fun n c => 10 * n + (c.toNat - '0'.toNat)) 0

/- `_parse_octet`. -/
def parseOctet (cs : List Char) : Option Nat :=
  if cs = [] then none
  else if cs.all Char.isDigit = false then none
  else if 3 < cs.length then none
  else if cs ≠ ['0'] ∧ cs.head? = some '0' then none
  else if 255 < decimal cs then none
  else some (decimal cs)

/- `_BaseV4._ip_int_from_string`. -/
def ipv4Int (cs : List Char) : Option Nat :=
  let octets := cs.splitOn '.'
  if octets.length ≠ 4 then none
  else (octets.mapM parseOctet).map fun ns => ns.foldl (fun ip n => 256 * ip + n) 0

/- `IPv4Address`. -/
def ipv4Address (cs : List Char) : Option Nat := if '/' ∈ cs then none else ipv4Int cs

/- `_BaseV4._string_from_ip_int`. -/
def ipv4Str (ip : Nat) : String := ".".intercalate
    ([ip / 256 ^ 3 % 256, ip / 256 ^ 2 % 256, ip / 256 % 256, ip % 256].map
      fun n => String.ofList (Nat.toDigits 10 n))

----
-- IPv6 Texts
----

/- `_HEX_DIGITS`, each with its value. -/
def hexDigit? (c : Char) : Option Nat :=
  if '0' ≤ c ∧ c ≤ '9' then some (c.toNat - '0'.toNat)
  else if 'a' ≤ c ∧ c ≤ 'f' then some (c.toNat - 'a'.toNat + 10)
  else if 'A' ≤ c ∧ c ≤ 'F' then some (c.toNat - 'A'.toNat + 10)
  else none

/- `_parse_hextet`. -/
def parseHextet (cs : List Char) : Option Nat :=
  if cs = [] ∨ 4 < cs.length then none
  else (cs.mapM hexDigit?).map fun ns => ns.foldl (fun n digit => 16 * n + digit) 0

/- The value of a list of hextets. -/
def hextetsInt (ns : List Nat) : Nat := ns.foldl (fun ip n => 65536 * ip + n) 0

/- The parts of an address, with an IPv4 suffix as two hextets. -/
def ipv6Parts (cs : List Char) : Option (List (List Char)) :=
  let parts := cs.splitOn ':'
  let last := parts.getLastD []
  if parts.length < 3 then none
  else if '.' ∈ last then (ipv4Address last).map fun ip =>
      parts.dropLast ++ [Nat.toDigits 16 (ip / 65536), Nat.toDigits 16 (ip % 65536)]
  else some parts

/- The places of empty parts between the first and the last one. -/
def skips (parts : List (List Char)) : List Nat :=
  (List.range (parts.length - 2)).map (· + 1) |>.filter fun i => parts[i]? = some []

/- The hextets around the one `::` of an address. -/
def ipv6Around (parts : List (List Char)) (skip : Nat) (leading trailing : Bool) : Option Nat :=
  let below := parts.length - skip - 1
  let parts_hi := if leading then skip - 1 else skip
  let parts_lo := if trailing then below - 1 else below
  if leading ∧ parts_hi ≠ 0 then none
  else if trailing ∧ parts_lo ≠ 0 then none
  else if 8 ≤ parts_hi + parts_lo then none
  else
    ((parts.take parts_hi).mapM parseHextet).bind fun hi =>
      ((parts.drop (parts.length - parts_lo)).mapM
        parseHextet).map fun lo => hextetsInt hi * 65536 ^ (8 - parts_hi) + hextetsInt lo

/- `_BaseV6._ip_int_from_string`. -/
def ipv6Int (cs : List Char) : Option Nat := (ipv6Parts cs).bind fun parts =>
    let leading := parts.head? = some []
    let trailing := parts.getLast? = some []
    if 9 < parts.length then none
    else
      match skips parts with
      | [] =>
        if parts.length ≠ 8 ∨ leading ∨ trailing then none
        else (parts.mapM parseHextet).map hextetsInt
      | [skip] => ipv6Around parts skip leading trailing
      | _ => none

/- `_split_scope_id`. -/
def splitScopeId (cs : List Char) :
    Option (List Char × Option (List Char)) :=
  match cs.span (· ≠ '%') with
  | (addr, []) => some (addr, none)
  | (addr, _ :: scope_id) =>
    if scope_id = [] ∨ '%' ∈ scope_id then none
    else some (addr, some scope_id)

/- A run of zeros, and the longest one so far. -/
structure ZeroRuns where
  best_start : Nat := 0
  best_len : Nat := 0
  start : Nat := 0
  len : Nat := 0

/- One hextet of the search in `_compress_hextets`. -/
def ZeroRuns.next (runs : ZeroRuns) (hextet : Nat × Nat) :
    ZeroRuns :=
  if hextet.1 = 0 then
    let start := if runs.len = 0 then hextet.2 else runs.start
    let len := runs.len + 1
    if runs.best_len < len then { best_start := start, best_len := len, start := start, len := len }
    else { runs with start := start, len := len }
  else { runs with len := 0 }

/- `_compress_hextets`. -/
def compressHextets (hextets : List Nat) : List String :=
  let shown := hextets.map fun n => String.ofList (Nat.toDigits 16 n)
  let runs := hextets.zipIdx.foldl ZeroRuns.next {}
  let best_end := runs.best_start + runs.best_len
  if runs.best_len ≤ 1 then shown
  else
    (if runs.best_start = 0 then [""] else []) ++ shown.take runs.best_start ++ [""] ++
      shown.drop best_end ++ (if best_end = hextets.length then [""] else [])

/- `_BaseV6._string_from_ip_int`. -/
def ipv6Str (ip : Nat) : String :=
  let hextets := (List.range 8).map fun i => ip / 65536 ^ (7 - i) % 65536
  ":".intercalate (compressHextets hextets)

----
-- Addresses And Networks
----

/- `IPv4Address` and `IPv6Address`. -/
inductive Address where
| v4 (ip : Nat)
| v6 (ip : Nat) (scope_id : Option String)
deriving DecidableEq

/- `IPv6Address`. -/
def ipv6Address (cs : List Char) : Option Address :=
  if '/' ∈ cs then none
  else do
    let (addr, scope_id) ← splitScopeId cs
    let ip ← ipv6Int addr
    return .v6 ip (scope_id.map String.ofList)

/- `ip_address`, without its `ValueError`. -/
def ipAddress (text : String) : Option Address :=
  ((ipv4Address text.toList).map .v4).or (ipv6Address text.toList)

/- `str(address)`. -/
def Address.str : Address → String
| .v4 ip => ipv4Str ip
| .v6 ip none => ipv6Str ip
| .v6 ip (some scope_id) => ipv6Str ip ++ "%" ++ scope_id

/- `IPv4Network` and `IPv6Network`, by their first address and
   the number of bits after their prefix. -/
inductive Network where
| v4 (network_address : Nat) (host_bits : Nat)
| v6 (network_address : Nat) (host_bits : Nat)

/- `_prefix_from_prefix_string`. -/
def prefixFromString (max_prefixlen : Nat) (cs : List Char) :
    Option Nat :=
  if cs = [] ∨ cs.all Char.isDigit = false then none
  else if max_prefixlen < decimal cs then none
  else some (decimal cs)

/- `_count_righthand_zero_bits`. -/
def trailingZeros : Nat → Nat → Nat
| 0, _ => 0
| bits + 1, n => if n % 2 = 1 then 0 else trailingZeros bits (n / 2) + 1

/- `_BaseV4._prefix_from_ip_int`. -/
def prefixFromInt (ip : Nat) : Option Nat :=
  let zeros := trailingZeros 32 ip
  if ip / 2 ^ zeros = 2 ^ (32 - zeros) - 1 then some (32 - zeros)
  else none

/- `_BaseV4._make_netmask`: a prefix length, a netmask or a hostmask. -/
def ipv4Prefix (mask : List Char) : Option Nat := (prefixFromString 32 mask).or
    ((ipv4Int mask).bind fun ip => (prefixFromInt ip).or (prefixFromInt (2 ^ 32 - 1 - ip)))

/- The first address of a network. -/
def masked (ip host_bits : Nat) : Nat := ip / 2 ^ host_bits * 2 ^ host_bits

def ipv4Network (addr : List Char) (mask : Option (List Char)) :
    Option Network := do
  let ip ← ipv4Address addr
  let prefixlen ←
    match mask with
    | none => some 32
    | some mask => ipv4Prefix mask
  return .v4 (masked ip (32 - prefixlen)) (32 - prefixlen)

def ipv6Network (addr : List Char) (mask : Option (List Char)) :
    Option Network := do
  let (addr, _) ← splitScopeId addr
  let ip ← ipv6Int addr
  let prefixlen ←
    match mask with
    | none => some 128
    | some mask => prefixFromString 128 mask
  return .v6 (masked ip (128 - prefixlen)) (128 - prefixlen)

/- `ip_network(text, strict=False)`, without its `ValueError`. -/
def ipNetwork (text : String) : Option Network :=
  match text.toList.splitOn '/' with
  | [addr] => (ipv4Network addr none).or (ipv6Network addr none)
  | [addr, mask] => (ipv4Network addr (some mask)).or (ipv6Network addr (some mask))
  | _ => none

/- `address in network`. -/
def Network.contains : Network → Address → Bool
| .v4 network_address host_bits, .v4 ip => masked ip host_bits = network_address
| .v6 network_address host_bits, .v6 ip _ => masked ip host_bits = network_address
| _, _ => false

end PyIpAddress
