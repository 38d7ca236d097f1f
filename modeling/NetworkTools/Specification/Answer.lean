/-
This file states which received bytes answer an echo request.
It reads the wire format directly and uses no accessor of the header classes.
-/

import NetworkTools.Construction.Pinger

namespace NetworkTools.Specification

/-- A byte beyond the end reads as zero. -/
def byteAt (bytes : List UInt8) (index : Nat) : UInt8 := (bytes[index]?).getD 0

/-- A word has its high byte first. -/
def wordAt (bytes : List UInt8) (index : Nat) : Nat :=
  (byteAt bytes index).toNat * 256 + (byteAt bytes (index + 1)).toNat

def ipv4Version (bytes : List UInt8) : Nat := (byteAt bytes 0).toNat / 16

/-- The header length field counts words of four bytes. -/
def ipv4HeaderSize (bytes : List UInt8) : Nat := 4 * ((byteAt bytes 0).toNat % 16)

/-- The bytes hold one whole IPv4 header. -/
def Ipv4Readable (bytes : List UInt8) : Prop :=
  ipv4Version bytes = 4 ∧ 20 ≤ ipv4HeaderSize bytes ∧ ipv4HeaderSize bytes ≤ bytes.length

instance (bytes : List UInt8) : Decidable (Ipv4Readable bytes) :=
  inferInstanceAs (Decidable (_ ∧ _ ∧ _))

/-- A raw IPv6 socket delivers the ICMP message without its IP header. -/
def icmpPart : IpType → List UInt8 → List UInt8
  | .useIpv4, bytes => if Ipv4Readable bytes then bytes.drop (ipv4HeaderSize bytes) else []
  | .useIpv6, bytes => bytes

/-- A complete datagram holds its IP header, if any, and a whole ICMP header. -/
def Complete : IpType → List UInt8 → Prop
  | .useIpv4, bytes =>
      ipv4Version bytes = 4 ∧ 5 ≤ (byteAt bytes 0).toNat % 16 ∧
        4 * ((byteAt bytes 0).toNat % 16) + 8 ≤ bytes.length
  | .useIpv6, bytes => 8 ≤ bytes.length

instance : (ip : IpType) → (bytes : List UInt8) → Decidable (Complete ip bytes)
  | .useIpv4, _ => inferInstanceAs (Decidable (_ ∧ _ ∧ _))
  | .useIpv6, _ => inferInstanceAs (Decidable (_ ≤ _))

theorem complete_iff (ip : IpType) (bytes : List UInt8) :
    Complete ip bytes ↔ 8 ≤ (icmpPart ip bytes).length := by
  cases ip with
  | useIpv4 =>
      by_cases readable : Ipv4Readable bytes
      · have ⟨version, low, high⟩ := readable
        simp only [Complete, icmpPart, if_pos readable, List.length_drop]
        simp only [ipv4HeaderSize] at low high ⊢
        apply Iff.intro
        · omega
        · intro enough
          exact ⟨version, by omega, by omega⟩
      · simp only [Complete, icmpPart, if_neg readable, List.length_nil]
        simp only [Ipv4Readable, ipv4HeaderSize] at readable
        apply Iff.intro
        · intro complete
          rcases complete with ⟨version, low, high⟩
          exact absurd ⟨version, by omega, by omega⟩ readable
        · intro impossible
          omega
  | useIpv6 => rfl

/-- The octets of an address as the wire carries them. -/
def octets : Address → List UInt8
  | .v4 address => address.bytes.toList
  | .v6 address => address.bytes.toList

/-- An error message quotes the packet that caused it behind its own header. -/
def quotedPacket (ip : IpType) (bytes : List UInt8) : List UInt8 := (icmpPart ip bytes).drop 8

/-- The quoted packet carries its IP header in both versions. -/
def quotedMessage : IpType → List UInt8 → List UInt8
  | .useIpv4, packet => icmpPart .useIpv4 packet
  | .useIpv6, packet => packet.drop 40

def quotedProtocol : IpType → List UInt8 → Prop
  | .useIpv4, packet => byteAt packet 9 = 1
  | .useIpv6, packet => ipv4Version packet = 6 ∧ byteAt packet 6 = 58

instance : (ip : IpType) → (packet : List UInt8) → Decidable (quotedProtocol ip packet)
  | .useIpv4, _ => inferInstanceAs (Decidable (_ = _))
  | .useIpv6, _ => inferInstanceAs (Decidable (_ ∧ _))

def quotedDestination : IpType → List UInt8 → List UInt8
  | .useIpv4, packet => (packet.drop 16).take 4
  | .useIpv6, packet => (packet.drop 24).take 16

/-- The message quotes the echo request with this identity to this destination. -/
def Quotes (ip : IpType) (identifier : UInt16) (destination : Address) (sequence : Int)
    (bytes : List UInt8) : Prop :=
  quotedProtocol ip (quotedPacket ip bytes) ∧
    quotedDestination ip (quotedPacket ip bytes) = octets destination ∧
    8 ≤ (quotedMessage ip (quotedPacket ip bytes)).length ∧
    byteAt (quotedMessage ip (quotedPacket ip bytes)) 0 = ip.echoRequest ∧
    wordAt (quotedMessage ip (quotedPacket ip bytes)) 4 = identifier.toNat ∧
    (wordAt (quotedMessage ip (quotedPacket ip bytes)) 6 : Int) = sequence

instance (ip : IpType) (identifier : UInt16) (destination : Address) (sequence : Int)
    (bytes : List UInt8) : Decidable (Quotes ip identifier destination sequence bytes) :=
  inferInstanceAs (Decidable (_ ∧ _ ∧ _ ∧ _ ∧ _ ∧ _))

/-- The quoted message repeats the type, the identifier, and the sequence number of this request.
The checksum may be one that the kernel has written. -/
def RepeatsRequest (ip : IpType) (request bytes : List UInt8) : Prop :=
  byteAt (quotedMessage ip (quotedPacket ip bytes)) 0 = byteAt request 0 ∧
    wordAt (quotedMessage ip (quotedPacket ip bytes)) 4 = wordAt request 4 ∧
    wordAt (quotedMessage ip (quotedPacket ip bytes)) 6 = wordAt request 6

/-- These message types quote the packet that they complain about. -/
def errorTypes : IpType → List UInt8
  | .useIpv4 => [IcmpHeader.Ipv4.destinationUnreachable, .sourceQuench, .redirect,
      .timeExceeded, .parameterProblem].map IcmpHeader.Ipv4.toUnderlying
  | .useIpv6 => [IcmpHeader.Ipv6.destinationUnreachable, .packetTooBig, .timeExceeded,
      .parameterProblem].map IcmpHeader.Ipv6.toUnderlying

/-- The zero-filled ICMP part starts with this type. -/
def ReadsAsType (ip : IpType) (type : UInt8) (bytes : List UInt8) : Prop :=
  byteAt (icmpPart ip bytes) 0 = type

instance (ip : IpType) (type : UInt8) (bytes : List UInt8) :
    Decidable (ReadsAsType ip type bytes) := inferInstanceAs (Decidable (_ = _))

/-- The zero-filled ICMP part carries this identity. -/
def ReadsAsProbe (ip : IpType) (identifier : UInt16) (sequence : Int)
    (bytes : List UInt8) : Prop :=
  wordAt (icmpPart ip bytes) 4 = identifier.toNat ∧
    (wordAt (icmpPart ip bytes) 6 : Int) = sequence

instance (ip : IpType) (identifier : UInt16) (sequence : Int) (bytes : List UInt8) :
    Decidable (ReadsAsProbe ip identifier sequence bytes) :=
  inferInstanceAs (Decidable (_ ∧ _))

/-- The zero-filled ICMP part passes for an answer to the receiver. -/
def ReadsAsAnswer (ip : IpType) (identifier : UInt16) (sequence : Int)
    (bytes : List UInt8) : Prop :=
  ReadsAsType ip ip.timeExceeded bytes ∨
    ReadsAsType ip ip.echoReply bytes ∧ ReadsAsProbe ip identifier sequence bytes

instance (ip : IpType) (identifier : UInt16) (sequence : Int) (bytes : List UInt8) :
    Decidable (ReadsAsAnswer ip identifier sequence bytes) :=
  inferInstanceAs (Decidable (_ ∨ _ ∧ _))

/-- The bytes that are there, filled up with zeros, pass for an answer. -/
def TruncatedAnswer (ip : IpType) (identifier : UInt16) (sequence : Int)
    (bytes : List UInt8) : Prop :=
  ¬ Complete ip bytes ∧ ReadsAsAnswer ip identifier sequence bytes

instance (ip : IpType) (identifier : UInt16) (sequence : Int) (bytes : List UInt8) :
    Decidable (TruncatedAnswer ip identifier sequence bytes) :=
  inferInstanceAs (Decidable (_ ∧ _))

/-- A whole echo reply repeats the identifier and the sequence number of its request. -/
def IsEchoReply (ip : IpType) (identifier : UInt16) (sequence : Int)
    (bytes : List UInt8) : Prop :=
  Complete ip bytes ∧ ReadsAsType ip ip.echoReply bytes ∧
    ReadsAsProbe ip identifier sequence bytes

instance (ip : IpType) (identifier : UInt16) (sequence : Int) (bytes : List UInt8) :
    Decidable (IsEchoReply ip identifier sequence bytes) :=
  inferInstanceAs (Decidable (_ ∧ _ ∧ _))

/-- An answer is the echo reply or an error message that quotes the request. -/
def Answers (ip : IpType) (identifier : UInt16) (destination : Address) (sequence : Int)
    (bytes : List UInt8) : Prop :=
  IsEchoReply ip identifier sequence bytes ∨
    Complete ip bytes ∧ byteAt (icmpPart ip bytes) 0 ∈ errorTypes ip ∧
      Quotes ip identifier destination sequence bytes

instance (ip : IpType) (identifier : UInt16) (destination : Address) (sequence : Int)
    (bytes : List UInt8) : Decidable (Answers ip identifier destination sequence bytes) :=
  inferInstanceAs (Decidable (_ ∨ _ ∧ _ ∧ _))

end NetworkTools.Specification
