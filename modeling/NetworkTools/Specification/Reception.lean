/-
This file states what one wait of the pinger makes of the datagrams that it takes.
-/

import NetworkTools.Specification.Answer

namespace NetworkTools
open Library Specification

section Verdicts

/-- The entry that a datagram fills, without its elapsed time. -/
def accepted (ip : IpType) (datagram : Datagram) : IcmpCompose ip :=
  ⟨(readHeaders ip ⟨datagram.bytes, true⟩ datagram.sender).1,
    (readHeaders ip ⟨datagram.bytes, true⟩ datagram.sender).2, datagram.bytes.length, 0⟩

def IcmpCompose.withElapsed {ip : IpType} (compose : IcmpCompose ip) (elapsed : Int) :
    IcmpCompose ip := { compose with elapsed }

def IcmpCompose.withoutElapsed {ip : IpType} (compose : IcmpCompose ip) : IcmpCompose ip :=
  compose.withElapsed 0

/-- The verdict of the receiver depends on the datagram alone. -/
def judge (ip : IpType) (identifier : UInt16) (sequenceNumber : Int) (datagram : Datagram) :
    Verdict (IcmpCompose ip) :=
  if ReadsAsType ip ip.timeExceeded datagram.bytes then .settle (some (accepted ip datagram))
  else if ReadsAsType ip ip.echoReply datagram.bytes then
    if ReadsAsProbe ip identifier sequenceNumber datagram.bytes then
      .settle (some (accepted ip datagram))
    else .skip
  else .settle none

end Verdicts

section Waits

/-- No run accepts this datagram unless it is complete and its length fields agree. -/
def AcceptedOnlyComplete (ip : IpType) (identifier : UInt16) (sequenceNumber : Int)
    (datagram : Datagram) : Prop :=
  ∀ (traffic : Traffic Datagram) (timeout : Int) (left : Nat) (cursor ended : Cursor)
    (compose : IcmpCompose ip) (time : Int),
    pingReceivePack ip identifier traffic sequenceNumber timeout left cursor =
        (some compose, ended) →
      traffic (ended.position - 1) = some ⟨time, datagram⟩ →
        Complete ip datagram.bytes ∧ compose.length ≠ 0 ∧
          (ip.headerLength compose.ipHd).toNat ≤ compose.length

/-- Foreign echo replies that stand next in the queue, each of them within a fresh timeout. -/
structure ForeignReplies (ip : IpType) (identifier : UInt16) (sequenceNumber : Int)
    (traffic : Traffic Datagram) (timeout : Int) (cursor : Cursor)
    (arrivals : List (Arrival Datagram)) : Prop where
  budget : arrivals.length ≤ recursionLimit
  delivered : TimedScan.Delivers traffic cursor.position arrivals
  onTime : TimedScan.OnTime timeout cursor.clock arrivals
  foreign : ∀ arrival ∈ arrivals, ReadsAsType ip ip.echoReply arrival.message.bytes ∧
    ¬ ReadsAsProbe ip identifier sequenceNumber arrival.message.bytes

/-- A complete echo reply to another pinger or to another request. -/
def IsForeignReply (ip : IpType) (identifier : UInt16) (sequence : Int)
    (bytes : List UInt8) : Prop :=
  Complete ip bytes ∧ ReadsAsType ip ip.echoReply bytes ∧
    ¬ ReadsAsProbe ip identifier sequence bytes

/-- A complete time-exceeded message, whatever it quotes. -/
def IsTimeExceeded (ip : IpType) (bytes : List UInt8) : Prop :=
  Complete ip bytes ∧ ReadsAsType ip ip.timeExceeded bytes

instance (ip : IpType) (bytes : List UInt8) : Decidable (IsTimeExceeded ip bytes) :=
  inferInstanceAs (Decidable (_ ∧ _))

/-- The stream holds so many foreign replies, and the datagram behind them is another one. -/
def FirstOther (ip : IpType) (identifier : UInt16) (sequenceNumber : Int)
    (stream : Nat → Arrival Datagram) (start k : Nat) : Prop :=
  (∀ j < k, IsForeignReply ip identifier sequenceNumber (stream (start + j)).message.bytes) ∧
    ¬ IsForeignReply ip identifier sequenceNumber (stream (start + k)).message.bytes

/-- The wait takes the foreign replies and the first other datagram, as far as its budget reaches.
Its result is that other datagram if it is a matching reply or a time-exceeded message. -/
structure ScansExactly (ip : IpType) (identifier : UInt16) (sequenceNumber : Int)
    (stream : Nat → Arrival Datagram) (start : Nat)
    (outcome : Option (IcmpCompose ip) × Cursor) : Prop where
  consumed : ∀ k, FirstOther ip identifier sequenceNumber stream start k →
    outcome.2.position = start + (min k 256 + 1)
  answered : ∀ k ≤ 256, FirstOther ip identifier sequenceNumber stream start k →
    outcome.1.map IcmpCompose.withoutElapsed =
      if IsEchoReply ip identifier sequenceNumber (stream (start + k)).message.bytes ∨
          IsTimeExceeded ip (stream (start + k)).message.bytes then
        some (accepted ip (stream (start + k)).message)
      else none
  exhausted : ∀ k, 256 < k → FirstOther ip identifier sequenceNumber stream start k →
    outcome.1 = none
  unending : (∀ k, IsForeignReply ip identifier sequenceNumber (stream (start + k)).message.bytes) →
    outcome.2.position = start + (256 + 1) ∧ outcome.1 = none

end Waits

end NetworkTools
