/-
This file states what a call of the client reports about the datagram that it took.
-/

import NetworkTools.Specification.Exchange

namespace NetworkTools.Specification
open Library

/-- The text of an IPv4 address. -/
def dottedQuad (bytes : List UInt8) : String :=
  ".".intercalate (bytes.map fun byte => toString byte.toNat)

/-- A successful call reports the source and the rest of one datagram that has arrived. -/
structure ReportsDatagram (log : List (List UInt8)) (record : CallRecord) (result : EchoResult)
    (position : Nat) (datagram : List UInt8) : Prop where
  sent : record.sent.isSome
  received : record.received = some position
  arrived : log[position]? = some datagram
  reaches : 16 ≤ datagram.length
  srcIp : result.srcIp = dottedQuad ((datagram.take 16).drop 12)
  responseData : result.responseData = some ((datagram.take receiveSize).drop 20)
  notNegative : 0 ≤ result.responseTime

/-- A call reports a datagram, or one fixed failure, or it is cancelled, or it raises before it does
anything. -/
def Reports (log : List (List UInt8)) (record : CallRecord) : Prop :=
  match record.result with
  | .error (.exception text) =>
      text = "" ∧ record.sent = none ∧ record.received = none ∧ record.lost = none
  | .error .cancelled => record.received = none
  | .ok result =>
      result = .failure ∨
        result.success = true ∧
          ∃ position datagram, ReportsDatagram log record result position datagram

/-- The wait of the call ends when a datagram has been taken off its socket. The call has sent its
request, and it reports nothing. -/
structure LosesDatagram (log : List (List UInt8)) (record : CallRecord) (position : Nat) :
    Prop where
  sent : record.sent.isSome
  received : record.received = none
  arrived : position < log.length
  unreported : record.result = .ok .failure ∨ record.result = .error .cancelled

/-- What a call reports and what it loses are datagrams of the log. -/
structure Accounted (log : List (List UInt8)) (record : CallRecord) : Prop where
  reports : Reports log record
  loses : ∀ position, record.lost = some position → LosesDatagram log record position

/-- The datagram that a call has taken off its socket, whether it received it or lost it. -/
def drawnBy (record : CallRecord) : Option Nat :=
  record.received <|> record.lost

/-- The calls that a client has finished between two states. -/
def callsSince (host last : Host) (number : Nat) : List CallRecord :=
  (last.client number).history.drop (host.client number).history.length

/-- The positions of the datagrams that a client has taken off its socket between two states. -/
def drawnSince (host last : Host) (number : Nat) : List Nat :=
  (callsSince host last number).filterMap drawnBy

/-- The positions of the datagrams that a client has received between two states. -/
def takenSince (host last : Host) (number : Nat) : List Nat :=
  (callsSince host last number).filterMap CallRecord.received

/-- No wait of the client ends between two states when a datagram has been taken off its socket. -/
def LosesNothing (host last : Host) (number : Nat) : Prop :=
  ∀ record ∈ callsSince host last number, record.lost = none

/-- From this position of the log on, a client takes so many datagrams off its socket, each once and
in order, and the others still wait for it. What it receives is among them, and it is all of them
unless a wait loses one. -/
structure TakesInOrder (host last : Host) (number opened drawn : Nat) : Prop where
  grows : (host.client number).history <+: (last.client number).history
  inOrder : drawnSince host last number = List.range' opened drawn
  waits : last.sockets.queue number = some (last.sockets.log.drop (opened + drawn))
  among : (takenSince host last number).Sublist (drawnSince host last number)
  complete : LosesNothing host last number →
    takenSince host last number = drawnSince host last number

/-- A client that stays open until then returns this result from its first call. -/
def Returns (host : Host) (events : List HostEvent) (number : Nat) (reply : EchoResult) : Prop :=
  ∃ (k : Nat) (ended : Host) (record : CallRecord), host.run (events.take k) = some ended ∧
    (∀ event ∈ events.take k, event ≠ .exit number) ∧
    (ended.client number).history = (host.client number).history ++ [record] ∧
    record.result = .ok reply

end NetworkTools.Specification
