/-
This file models the ICMP package of the Python client: its codec and its checksum.
-/

import NetworkTools.Library.Struct

namespace NetworkTools
open Library

/-- The message types that the Python client knows. -/
inductive IcmpType where
  | echoReply
  | destinationUnreachable
  | sourceQuench
  | redirectMessage
  | echoRequest
  | routerAdvertisement
  | routerSolicitation
  | timeExceeded
  | parameterProblem
  | timestampRequest
  | timestampReply
deriving DecidableEq

def IcmpType.value : IcmpType → Nat
  | echoReply => 0
  | destinationUnreachable => 3
  | sourceQuench => 4
  | redirectMessage => 5
  | echoRequest => 8
  | routerAdvertisement => 9
  | routerSolicitation => 10
  | timeExceeded => 11
  | parameterProblem => 12
  | timestampRequest => 13
  | timestampReply => 14

/-- The conversion raises for a number that is no member value. -/
def IcmpType.ofValue : Nat → Option IcmpType
  | 0 => some echoReply
  | 3 => some destinationUnreachable
  | 4 => some sourceQuench
  | 5 => some redirectMessage
  | 8 => some echoRequest
  | 9 => some routerAdvertisement
  | 10 => some routerSolicitation
  | 11 => some timeExceeded
  | 12 => some parameterProblem
  | 13 => some timestampRequest
  | 14 => some timestampReply
  | _ => none

theorem IcmpType.ofValue_value (type : IcmpType) : ofValue type.value = some type := by
  cases type <;> rfl

/-- The conversion finds the member with this value. -/
theorem IcmpType.ofValue_eq_some_iff (value : Nat) (type : IcmpType) :
    ofValue value = some type ↔ type.value = value := by
  apply Iff.intro
  · intro found
    unfold ofValue at found
    split at found <;> first | (obtain rfl := Option.some.inj found; rfl) | simp at found
  · intro same
    rw [← same, ofValue_value]

/-- The numeric fields are unbounded integers until they are packed. -/
structure IcmpPackage.Header where
  type : IcmpType
  code : Int
  checksum : Int
  identifier : Int := 0
  sequence : Int := 0
deriving DecidableEq

structure IcmpPackage where
  header : IcmpPackage.Header
  data : List UInt8 := []
deriving DecidableEq

/-- The exceptions of the parser. -/
inductive IcmpPackage.ParseError where
  | valueError (message : String)
  | structError (error : UnpackError)
deriving DecidableEq

namespace IcmpPackage

/-- A type that is not listed has no valid codes. -/
def validTypeCodeCombinations : IcmpType → List Int
  | .echoReply => [0]
  | .destinationUnreachable => [0, 1, 2, 3]
  | .sourceQuench => [0]
  | .redirectMessage => [0, 1, 2, 3]
  | .echoRequest => [0]
  | .timeExceeded => [0, 1]
  | _ => []

/-- An absent argument stands for the stored checksum. -/
def buildHeaderBytes (package : IcmpPackage) (checksum : Option Int) :
    Except StructError (List UInt8) :=
  pack [(.ubyte, package.header.type.value), (.ubyte, package.header.code),
    (.ushort, checksum.getD package.header.checksum), (.ushort, package.header.identifier),
    (.ushort, package.header.sequence)]

/-- The loop adds one word for each even offset. The data has an even length here. -/
def sumWords (checksum : Nat) : List UInt8 → Nat
  | first :: second :: rest => sumWords (checksum + ((first.toNat <<< 8) + second.toNat)) rest
  | _ => checksum

def computeChecksum (data : List UInt8) : Int :=
  let data := if data.length % 2 ≠ 0 then data ++ [0] else data
  let checksum := sumWords 0 data
  let checksum := (checksum >>> 16) + (checksum &&& 0xFFFF)
  let checksum := checksum + (checksum >>> 16)
  -- The mask of an unbounded integer is its remainder.
  (~~~(checksum : Int)) % 0x10000

def calculateChecksum (package : IcmpPackage) : Except StructError Int := do
  let headerBytes ← package.buildHeaderBytes (some 0)
  return computeChecksum (headerBytes ++ package.data)

def setChecksum (package : IcmpPackage) (checksum : Int) : IcmpPackage :=
  { package with header := { package.header with checksum } }

/-- Absent data stands for the packed time and thirty-two padding bytes. -/
def echoData (timestamp : Vector UInt8 8) (data : Option (List UInt8)) : List UInt8 :=
  data.getD (timestamp.toList ++ List.replicate 32 120)

/-- All requests without an explicit identifier share one identifier. -/
def createEchoRequest (timestamp : Vector UInt8 8) (identifier : Option Int) (sequence : Int)
    (data : Option (List UInt8)) : Except StructError IcmpPackage := do
  let package : IcmpPackage :=
    ⟨⟨.echoRequest, 0, 0, identifier.getD 12345, sequence⟩, echoData timestamp data⟩
  let checksum ← package.calculateChecksum
  return package.setChecksum checksum

def toBytes (package : IcmpPackage) : Except StructError (List UInt8) := do
  let headerBytes ← package.buildHeaderBytes none
  return headerBytes ++ package.data

def fromBytes (data : List UInt8) : Except ParseError IcmpPackage :=
  if data.length < 8 then .error (.valueError "ICMP packet too short")
  else
    match unpack [.ubyte, .ubyte, .ushort, .ushort, .ushort] (data.take 8) with
    | .error error => .error (.structError error)
    | .ok [typeVal, code, checksum, identifier, sequence] =>
        match IcmpType.ofValue typeVal with
        | none => .error (.valueError s!"{typeVal} is not a valid ICMPType")
        | some icmpType =>
            .ok ⟨⟨icmpType, code, checksum, identifier, sequence⟩, data.drop 8⟩
    | .ok _ => .error (.valueError "not enough values to unpack")

/-- The type and the code decide first. -/
def validate (package : IcmpPackage) : Except StructError Bool :=
  if package.header.code ∉ validTypeCodeCombinations package.header.type then .ok false
  else do
    let checksum ← package.calculateChecksum
    return package.header.checksum == checksum

end IcmpPackage
end NetworkTools
