/-
This file models the ICMP manager of the Python client: its ping statistics and its traceroute.
-/

import NetworkTools.Construction.IcmpClient
import Mathlib.Algebra.Order.Field.Rat
import Mathlib.Algebra.Order.Group.Abs

namespace NetworkTools

section Formats

/-- A tie rounds to its even neighbour. -/
def roundHalfEven (value : ℚ) : Int :=
  let whole := value.floor
  let rest := value - whole
  if rest < 1 / 2 then whole
  else if 1 / 2 < rest then whole + 1
  else if whole % 2 = 0 then whole
  else whole + 1

def padLeft (width : Nat) (fill : Char) (text : String) : String :=
  String.ofList (text.toList.leftpad width fill)

def padRight (width : Nat) (fill : Char) (text : String) : String :=
  String.ofList (text.toList.rightpad width fill)

/-- The number with this many decimal places. -/
def fixedPoint (places : Nat) (value : ℚ) : String :=
  let scaled := (roundHalfEven (|value| * 10 ^ places)).toNat
  (if value < 0 then "-" else "") ++ toString (scaled / 10 ^ places) ++ "." ++
    padLeft places '0' (toString (scaled % 10 ^ places))

end Formats

inductive PingResult where
  | success
  | timeout
  | unreachable
  | error
deriving DecidableEq

structure TracertHop where
  hopNumber : Int
  ipAddress : String
  hostname : Option String
  responseTimes : List (Option ℚ)
  status : PingResult
deriving DecidableEq

/-- The statistics of one ping. The infinite minimum of an empty list is absent. -/
structure PingResults where
  target : String
  packetsSent : Int
  packetsReceived : Nat := 0
  packetLoss : ℚ := 0
  rttMin : Option ℚ := none
  rttMax : ℚ := 0
  rttAvg : ℚ := 0
  rttTimes : List ℚ := []
  message : String
deriving DecidableEq

/-- A new client serves one request between two readings of the clock. -/
structure Attempt where
  startTime : ℚ
  endTime : ℚ
  result : Except String EchoResult

/-- The request has an address, a hop limit, and a timeout. -/
abbrev EchoCall := String → Int → ℚ → Attempt

/-- What the probes of one hop and the resolver answer while this hop is traced. -/
structure HopWorld where
  probe : Nat → String → Int → ℚ → Except String EchoResult
  getnameinfo : String → Except String String
  getaddrinfo : String → Except String (List String)

structure IcmpManager where
  timeout : ℚ := 5
  maxHops : Int := 30

namespace IcmpManager

section Ping

/-- The statistics are in the making, next to the sum of the times and the message. -/
structure PingState where
  results : PingResults
  totalRtt : ℚ := 0
  message : String
deriving DecidableEq

def recordRtt (results : PingResults) (rtt : ℚ) : PingResults :=
  { results with
    packetsReceived := results.packetsReceived + 1
    rttTimes := results.rttTimes ++ [rtt]
    rttMin :=
      match results.rttMin with
      | none => some rtt
      | some rttMin => if rtt < rttMin then some rtt else some rttMin
    rttMax := if rtt > results.rttMax then rtt else results.rttMax }

/-- The time of an attempt in milliseconds. -/
def attemptRtt (attempt : Attempt) : ℚ := (attempt.endTime - attempt.startTime) * 1000

def pingRound (addr : String) (state : PingState) (attempt : Attempt) : PingState :=
  match attempt.result with
  | .error e => { state with message := state.message ++ s!"Ping error: {e}\n" }
  | .ok reply =>
      if reply.success then
        let rtt := attemptRtt attempt
        let bytes := (reply.responseData.map List.length).getD 0
        let time := fixedPoint 2 rtt
        { results := recordRtt state.results rtt
          totalRtt := state.totalRtt + rtt
          message := state.message ++ s!"Reply from {addr}: bytes={bytes} time={time}ms TTL=64\n" }
      else { state with message := state.message ++ "Request timed out.\n" }

/-- The average and the loss are set only if a packet was received. -/
def finishStatistics (count : Int) (state : PingState) : PingResults :=
  if 0 < state.results.packetsReceived then
    { state.results with
      rttAvg := state.totalRtt / state.results.packetsReceived
      packetLoss := (1 - state.results.packetsReceived / count) * 100 }
  else state.results

/-- An infinite number has its own text. -/
def getPingStatistics (results : PingResults) : String :=
  let lost := results.packetsSent - results.packetsReceived
  let loss := fixedPoint 1 results.packetLoss
  let minimum := (results.rttMin.map (fixedPoint 2)).getD "inf"
  let maximum := fixedPoint 2 results.rttMax
  let average := fixedPoint 2 results.rttAvg
  "\n" ++ s!"Ping statistics for {results.target}:\n" ++
    s!"    Packets: Sent = {results.packetsSent}, " ++
    s!"Received = {results.packetsReceived}, " ++
    s!"Lost = {lost} ({loss}% loss)\n" ++
    (if 0 < results.packetsReceived then
      "Approximate round trip times in milli-seconds:\n" ++
        s!"    Minimum = {minimum}ms, Maximum = {maximum}ms, Average = {average}ms\n"
    else "") ++ "\n"

def pingHeader (addr : String) (count : Int) : String :=
  s!"Pinging {addr} with {count} packets:\n"

/-- The rounds of a ping, each by a client of its own. -/
def pingState (manager : IcmpManager) (client : Nat → EchoCall) (addr : String) (count : Int) :
    PingState :=
  let message := pingHeader addr count
  (List.range count.toNat).foldl
    (fun state i => pingRound addr state (client i addr 64 manager.timeout))
    { results := { target := addr, packetsSent := count, message }, message }

/-- The function returns a pair of the statistics and the whole message. -/
def ping (manager : IcmpManager) (client : Nat → EchoCall) (addr : String) (count : Int) :
    PingResults × String :=
  let state := manager.pingState client addr count
  let results := finishStatistics count state
  (results, state.message ++ getPingStatistics results)

end Ping

section Tracert

/-- An address that is its own name counts as no name. -/
def reverseDnsLookup (world : HopWorld) (ip : String) : Option String :=
  match world.getnameinfo ip with
  | .ok hostname => if hostname ≠ ip then some hostname else none
  | .error _ => none

def resolveHostname (world : HopWorld) (hostname : String) : Option String :=
  match world.getaddrinfo hostname with
  | .ok (address :: _) => some address
  | _ => none

structure HopState where
  responseTimes : List (Option ℚ) := []
  ipAddress : Option String := none
  hostname : Option String := none
  finalStatus : PingResult := .timeout
deriving DecidableEq

/-- The first success names the hop. A success without an address adds an empty time. Nothing here
raises, so no probe ends in an error. -/
def probeRound (world : HopWorld) (state : HopState) (reply : EchoResult) : HopState :=
  if reply.success then
    let state := { state with
      responseTimes := state.responseTimes ++ [some reply.responseTime]
      finalStatus := .success }
    if state.ipAddress = none then
      if reply.srcIp ≠ "" then
        { state with
          ipAddress := some reply.srcIp
          hostname := reverseDnsLookup world reply.srcIp }
      else { state with responseTimes := state.responseTimes ++ [none] }
    else state
  else { state with responseTimes := state.responseTimes ++ [none] }

/-- The probes are awaited outside the handler, so their exceptions leave the function. -/
def probeHop (manager : IcmpManager) (world : HopWorld) (addr : String) (ttl : Int) :
    Except String HopState :=
  (List.range 3).foldlM (fun state i => do
    let reply ← world.probe i addr ttl manager.timeout
    return probeRound world state reply) {}

def tracertHop (manager : IcmpManager) (world : HopWorld) (addr : String) (ttl : Int) :
    Except String TracertHop := do
  let state ← manager.probeHop world addr ttl
  let ipAddress := if state.responseTimes.all (· = none) then some "*" else state.ipAddress
  return {
    hopNumber := ttl
    ipAddress := (ipAddress.filter (· ≠ "")).getD "*"
    hostname := state.hostname
    responseTimes := state.responseTimes
    status := state.finalStatus }

/-- A time of zero shows as no time. -/
def responseTimeText (time : Option ℚ) : String :=
  match time with
  | some time =>
      if time ≠ 0 then padLeft 4 ' ' (fixedPoint 2 time) ++ " ms " else padRight 8 ' ' "*" ++ " "
  | none => padRight 8 ' ' "*" ++ " "

def printTracertHop (hop : TracertHop) : String :=
  let number := padLeft 2 ' ' (toString hop.hopNumber)
  let star := padRight 8 ' ' "*"
  match hop.status with
  | .success =>
      let hostnameDisplay :=
        match hop.hostname.filter (· ≠ "") with
        | some hostname => s!" [{hostname}]"
        | none => ""
      s!"{number} " ++ String.join (hop.responseTimes.map responseTimeText) ++
        s!"{hop.ipAddress}{hostnameDisplay}\n"
  | .timeout => s!"{number} {star} {star} {star} Request timed out.\n"
  | _ => s!"{number} {star} {star} {star} Error occurred.\n"

/-- The hop answers from the address that the name resolves to at this moment. -/
def reachesTarget (world : HopWorld) (addr : String) (hop : TracertHop) : Bool :=
  hop.status = .success && some hop.ipAddress = resolveHostname world addr

/-- The test looks at the last three hops once the list is longer than three. -/
def timedOutInARow (hops : List TracertHop) : Bool :=
  3 < hops.length && (hops.drop (hops.length - 3)).all fun hop => hop.status = .timeout

/-- The loop adds one hop for each hop limit until one of its tests stops it. -/
def tracertLoop (manager : IcmpManager) (world : Nat → HopWorld) (addr : String) :
    Nat → Nat → List TracertHop → String → Except String (List TracertHop × String × Bool)
  | 0, _, hops, message => .ok (hops, message, false)
  | remaining + 1, ttl, hops, message => do
      let hopResult ← manager.tracertHop (world ttl) addr ttl
      let hops := hops ++ [hopResult]
      let message := message ++ printTracertHop hopResult
      if reachesTarget (world ttl) addr hopResult then
        return (hops, message, true)
      if timedOutInARow hops then
        return (hops, message ++ "Trace terminated: multiple consecutive timeouts\n", false)
      manager.tracertLoop world addr remaining (ttl + 1) hops message

def tracert (manager : IcmpManager) (world : Nat → HopWorld) (addr : String)
    (maxHops : Option Int) : Except String (List TracertHop × String) := do
  let maxHops := maxHops.getD manager.maxHops
  let message := s!"Tracing route to {addr} over a maximum of {maxHops} hops:\n"
  let (hops, message, destinationReached) ←
    manager.tracertLoop world addr maxHops.toNat 1 [] message
  let message :=
    if !destinationReached then message ++ "Trace incomplete: maximum hops reached\n" else message
  return (hops, message)

end Tracert

end IcmpManager
end NetworkTools
