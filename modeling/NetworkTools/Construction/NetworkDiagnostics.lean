/-
This file models the network diagnostics of the Python client: batch pings and what reads them.
-/

import NetworkTools.Construction.IcmpManager
import NetworkTools.Library.Dictionary

namespace NetworkTools
open Library

/-- The task of a ping runs to its end, raises an exception, or is cancelled. -/
inductive PingTask where
  | runs (client : Nat → EchoCall)
  | raises (text : String)
  | cancelled

/-- The gathered result of a task. A cancellation is no subclass of the exceptions. -/
inductive Gathered where
  | result (value : PingResults × String)
  | exception (text : String)
  | cancelledError
deriving DecidableEq

/-- The value of an address: what ping returned, a dictionary with the text of an exception, or the
cancellation itself. -/
inductive BatchValue where
  | tuple (value : PingResults × String)
  | error (text : String)
  | cancelledError
deriving DecidableEq

/-- The exceptions of an access to a value of the wrong shape. -/
inductive AccessError where
  | typeError (message : String)
  | attributeError (message : String)
  | keyError (key : String)
deriving DecidableEq

namespace BatchValue

/-- The membership test compares a text with the components of a tuple, where the statistics equal
no text, and with the keys of a dictionary. -/
def contains (key : String) : BatchValue → Except AccessError Bool
  | .tuple (_, message) => .ok (message = key)
  | .error _ => .ok (key = "error")
  | .cancelledError =>
      .error (.typeError "argument of type 'CancelledError' is not iterable")

/-- The number under a key. The only value of the error dictionary is a text. -/
def subscript (key : String) : BatchValue → Except AccessError ℚ
  | .tuple _ => .error (.typeError "tuple indices must be integers or slices, not str")
  | .error _ =>
      if key = "error" then
        .error (.typeError "'>' not supported between instances of 'str' and 'int'")
      else .error (.keyError key)
  | .cancelledError => .error (.typeError "'CancelledError' object is not subscriptable")

/-- The number under a key or its default. Only a dictionary has this method. -/
def get (key : String) (default : ℚ) : BatchValue → Except AccessError ℚ
  | .tuple _ => .error (.attributeError "'tuple' object has no attribute 'get'")
  | .error _ =>
      if key = "error" then
        .error (.typeError "'>' not supported between instances of 'str' and 'int'")
      else .ok default
  | .cancelledError =>
      .error (.attributeError "'CancelledError' object has no attribute 'get'")

end BatchValue

structure NetworkDiagnostics where
  icmpManager : IcmpManager := {}

namespace NetworkDiagnostics

/-- The gathering returns the exceptions of its tasks with their results. -/
def gather (diagnostics : NetworkDiagnostics) (addr : String) (count : Int) : PingTask → Gathered
  | .runs client => .result (diagnostics.icmpManager.ping client addr count)
  | .raises text => .exception text
  | .cancelled => .cancelledError

def batchValue : Gathered → BatchValue
  | .exception text => .error text
  | .result value => .tuple value
  | .cancelledError => .cancelledError

/-- Each address has a task of its own, and the last task of an address fills its place. -/
def batchPing (diagnostics : NetworkDiagnostics) (task : Nat → PingTask)
    (addresses : List String) (count : Int) : Dictionary String BatchValue :=
  let pingResults := addresses.mapIdx fun i addr => diagnostics.gather addr count (task i)
  Dictionary.ofPairs ((addresses.zip pingResults).map fun pair => (pair.1, batchValue pair.2))

/-- The loop keeps the addresses with a positive average. -/
def latencies : List (String × BatchValue) → Except AccessError (List (String × ℚ))
  | [] => .ok []
  | (addr, result) :: rest => do
      if ← result.contains "rtt_avg" then
        let rttAvg ← result.subscript "rtt_avg"
        let others ← latencies rest
        return if rttAvg > 0 then (addr, rttAvg) :: others else others
      else latencies rest

/-- The sort is stable. -/
def networkLatencyMap (diagnostics : NetworkDiagnostics) (task : Nat → PingTask)
    (addresses : List String) : Except AccessError (List (String × ℚ)) := do
  let results := diagnostics.batchPing task addresses 3
  let latencyMap ← latencies results.items
  return latencyMap.mergeSort fun first second => first.2 ≤ second.2

def defaultAddresses : List String := ["8.8.8.8", "1.1.1.1", "208.67.222.222"]

def connectivityLoop : List (String × BatchValue) → Dictionary String Bool →
    Except AccessError (Dictionary String Bool)
  | [], connectivity => .ok connectivity
  | (addr, result) :: rest, connectivity => do
      let packetsReceived ← result.get "packets_received" 0
      connectivityLoop rest (connectivity.set addr (packetsReceived > 0))

def connectivityTest (diagnostics : NetworkDiagnostics) (task : Nat → PingTask)
    (testAddresses : Option (List String)) : Except AccessError (Dictionary String Bool) :=
  let results := diagnostics.batchPing task (testAddresses.getD defaultAddresses) 1
  connectivityLoop results.items .empty

end NetworkDiagnostics
end NetworkTools
