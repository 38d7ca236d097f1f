/-
This file states the documented options of the ping command and what a list of them asks for.
-/

import NetworkTools.Construction.Commands

namespace NetworkTools.Specification

/-- One option of the command with its value, or the bare count. -/
inductive OptionGroup where
  | forceIpv4
  | forceIpv6
  | ttl (value : Int)
  | timeout (value : Int)
  | count (value : Nat)
deriving DecidableEq

inductive OptionKind where
  | forceIpv4
  | forceIpv6
  | ttl
  | timeout
  | count
deriving DecidableEq

namespace OptionGroup

def kind : OptionGroup → OptionKind
  | forceIpv4 => .forceIpv4
  | forceIpv6 => .forceIpv6
  | ttl _ => .ttl
  | timeout _ => .timeout
  | count _ => .count

/-- The tokens of a group, with its number in decimal. -/
def render : OptionGroup → List String
  | forceIpv4 => ["-4"]
  | forceIpv6 => ["-6"]
  | ttl value => ["-i", toString value]
  | timeout value => ["-w", toString value]
  | count value => [toString value]

def ttl? : OptionGroup → Option Int
  | ttl value => some value
  | _ => none

def timeout? : OptionGroup → Option Int
  | timeout value => some value
  | _ => none

def count? : OptionGroup → Option Int
  | count value => some value
  | _ => none

/-- The number that a group writes. -/
def number? : OptionGroup → Option Int
  | ttl value => some value
  | timeout value => some value
  | count value => some value
  | _ => none

end OptionGroup

/-- The conversion reads each number of the groups back. -/
def Inverts (int : String → Except String Int) (groups : List OptionGroup) : Prop :=
  ∀ group ∈ groups, ∀ value, group.number? = some value → int (toString value) = .ok value

/-- The value of the last group that has one. -/
def lastValue (value : OptionGroup → Option Int) (absent : Int) (groups : List OptionGroup) :
    Int :=
  (groups.filterMap value).getLast?.getD absent

/-- The last group of a kind decides its number, and a mark needs one group. -/
def requestedOptions (groups : List OptionGroup) : PingOptions where
  count := lastValue OptionGroup.count? 4 groups
  ttl := lastValue OptionGroup.ttl? 64 groups
  timeout := lastValue OptionGroup.timeout? 1000 groups
  forceIpv4 := decide (OptionGroup.forceIpv4 ∈ groups)
  forceIpv6 := decide (OptionGroup.forceIpv6 ∈ groups)

/-- The tokens of a command: its host and then its options. -/
def commandTokens (host : String) (groups : List OptionGroup) : List String :=
  host :: groups.flatMap OptionGroup.render

/-- Only groups of different kinds change places. -/
def SameByKind (first second : List OptionGroup) : Prop :=
  ∀ kind, first.filter (fun group => group.kind = kind) =
    second.filter fun group => group.kind = kind

end NetworkTools.Specification
