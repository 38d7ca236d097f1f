/-
This file models the functions that the extension module exports: ping and tracert.
-/

import NetworkTools.Construction.Pinger

namespace NetworkTools
open Library

/-- A spawned coroutine leaves its result or its exception in a future. -/
inductive Future (Result : Type) where
  | deferred
  | ready (result : Except String Result)

/-- The context runs the coroutine to its end before anyone looks at the future. -/
def coSpawn {Result : Type} (result : Except String Result) : Future Result := .ready result

/-- The duration cast rounds towards zero. -/
def milliseconds (elapsed : Int) : Int := elapsed.tdiv 1000000

def ofMilliseconds (timeout : Int) : Int := timeout * 1000000

/-- A successful entry of the result list. -/
structure PingSuccess where
  bytes : UInt64
  address : Address
  icmpSeq : UInt16
  ttl : Nat
  time : Int
deriving DecidableEq

/-- The status of an entry is its constructor. -/
inductive PingEntry where
  | error (message : String)
  | success (result : PingSuccess)
deriving DecidableEq

/-- The status depends on the length alone. -/
def pingEntry (ip : IpType) (compose : IcmpCompose ip) : PingEntry :=
  if compose.length = 0 then .error "timeout"
  else .success
    { bytes := UInt64.ofNat compose.length - (ip.headerLength compose.ipHd).toUInt64
      address := ip.sourceAddress compose.ipHd
      icmpSeq := compose.icmpHd.sequenceNumber
      ttl := ip.timeToLive compose.ipHd
      time := milliseconds compose.elapsed }

def pingList (ip : IpType) : Future (List (IcmpCompose ip)) → List PingEntry
  | .deferred => [.error "error occurred, the task was not processed"]
  | .ready (.error what) => [.error what]
  | .ready (.ok composes) => composes.map (pingEntry ip)

def ping (ip : IpType) (network : Network) (dest : String) (count ttl timeout : Int) :
    List PingEntry :=
  pingList ip (coSpawn (asyncPing ip network dest count ttl (ofMilliseconds timeout)))

/-- A number that the binding accepts for an `int`. -/
def FitsInt (value : Int) : Prop := -2147483648 ≤ value ∧ value ≤ 2147483647

instance (value : Int) : Decidable (FitsInt value) := inferInstanceAs (Decidable (_ ∧ _))

/-- The module exports one function for each IP version and raises for other arguments. -/
def extensionPing (network : IpType → Network) (ip : IpType) (dest : String)
    (count ttl timeout : Int) : Except String (List PingEntry) :=
  if FitsInt count ∧ FitsInt ttl ∧ FitsInt timeout then
    .ok (ping ip (network ip) dest count ttl timeout)
  else
    match ip with
    | .useIpv4 => .error "ping(): incompatible function arguments."
    | .useIpv6 => .error "pingv6(): incompatible function arguments."

/-- A hop without an address shows the word timeout instead. -/
inductive HopEntry where
  | error (message : String)
  | success (ttl : Nat) (delay : List Int) (address : Option Address)
deriving DecidableEq

/-- The route gives each pinger of a trace its own network. -/
structure Route where
  reachability : Network
  resolve : String → Except String Address
  hop : Nat → Network

/-- The loop keeps the first specified source address. -/
def hopAddress (ip : IpType) (composes : List (IcmpCompose ip)) : Address :=
  composes.foldl (fun address compose =>
    if address.isUnspecified && !(ip.sourceAddress compose.ipHd).isUnspecified then
      ip.sourceAddress compose.ipHd
    else address) Address.unspecified

def hopDelay (ip : IpType) (composes : List (IcmpCompose ip)) : List Int :=
  composes.map fun compose => if compose.length ≠ 0 then milliseconds compose.elapsed else -1

/-- The index of the last hop with an address decides together with `canPing` when to stop. -/
def tracertLoop (ip : IpType) (route : Route) (dest : String) (timeout : Int)
    (destination : Address) (canPing : Bool) : Nat → Nat → UInt64 → List HopEntry
  | 0, _, _ => []
  | remaining + 1, ttl, validIdx =>
      match coSpawn (asyncPing ip (route.hop ttl) dest 3 ttl (ofMilliseconds timeout)) with
      | .deferred =>
          .error "timeout" ::
            tracertLoop ip route dest timeout destination canPing remaining (ttl + 1) validIdx
      | .ready (.error what) =>
          .error what ::
            tracertLoop ip route dest timeout destination canPing remaining (ttl + 1) validIdx
      | .ready (.ok composes) =>
          let address := hopAddress ip composes
          let validIdx := if address.isUnspecified then validIdx else UInt64.ofNat (ttl - 1)
          let shown := if address.isUnspecified then none else some address
          .success ttl (hopDelay ip composes) shown ::
            if address = destination ∨ UInt64.ofNat ttl - validIdx > 10 ∧ canPing = false then []
            else tracertLoop ip route dest timeout destination canPing remaining (ttl + 1) validIdx

/-- The first pinger only finds out whether the host answers at all. -/
def tracert (ip : IpType) (route : Route) (dest : String) (hopsCount timeout : Int) :
    List HopEntry :=
  match coSpawn (asyncPing ip route.reachability dest 3 64 (ofMilliseconds 1000)) with
  | .deferred => [.error "error occurred, the task was not processed"]
  | .ready (.error what) => [.error what]
  | .ready (.ok composes) =>
      let canPing := composes.any fun compose => compose.length ≠ 0
      match route.resolve dest with
      | .error what => [.error what]
      | .ok destination =>
          tracertLoop ip route dest timeout destination canPing hopsCount.toNat 1 0

end NetworkTools
