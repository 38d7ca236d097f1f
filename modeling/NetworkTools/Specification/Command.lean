/-
This file states what a command handler owes its user: a final message and a report of each address
family that the command selects.
-/

import NetworkTools.Construction.Commands
import NetworkTools.Specification.Message

namespace NetworkTools.Specification
open Library

/-- The handler raises the end of the matcher behind a final message. -/
def EndsThroughFinish (handler : Handler Unit) : Prop :=
  handler.EndsWith .finished fun action => ∃ message, action = .finish message

/-- Each argument that is read as the value of an option is a number. -/
def ValuesParse (int : String → Except String Int) : List String → Prop
  | argument :: value :: rest =>
      if argument = "-i" ∨ argument = "-w" then
        (∃ number, int value = .ok number) ∧ ValuesParse int rest
      else ValuesParse int (value :: rest)
  | _ => True

section Whois

/-- A field that is absent counts as this value. -/
def field (object : JsonObject) (key : String) (absent : Json) : Json :=
  (object.lookup key).getD absent

/-- The join accepts a text, an object, and a list of texts. -/
def Joinable : Json → Prop
  | .str _ => True
  | .obj _ => True
  | .arr items => ∀ item ∈ items, ∃ text, item = .str text
  | _ => False

/-- The shape of a result that the report can show. -/
def WhoisShape (result : JsonObject) : Prop :=
  ∃ data info, field result "data" (.obj []) = .obj data ∧
    field data "info" (.obj []) = .obj info ∧
    ∀ key ∈ ["domain_status", "name_server"],
      (field info key .null).truthy = true → Joinable (field info key .null)

end Whois

section Families

/-- The resolver has at least one record of this type. -/
def hasRecord (environment : Environment) (host recordType : String) : Bool :=
  match environment.query host recordType with
  | .ok answers => !answers.isEmpty
  | .error _ => false

/-- A command selects a family by one of two options that exclude each other, by the version of a
literal address, or by the records of a name. -/
def selects (environment : Environment) (host : String) (options : PingOptions)
    (ip : IpType) : Bool :=
  if options.forceIpv4 && options.forceIpv6 then false
  else if options.forceIpv4 then ip = .useIpv4
  else if options.forceIpv6 then ip = .useIpv6
  else
    match environment.ipVersion host, ip with
    | some version, ip => ip = version
    | none, .useIpv4 => hasRecord environment host "A"
    | none, .useIpv6 => hasRecord environment host "AAAA"

/-- Both families are selected. -/
def paired (environment : Environment) (host : String) (options : PingOptions) : Bool :=
  selects environment host options .useIpv4 && selects environment host options .useIpv6

def outcome (environment : Environment) (host : String) (options : PingOptions) (ip : IpType) :
    Except String (List PingEntry) :=
  environment.ping ip host options.count options.ttl options.timeout

/-- A family that is tested beside the other one has its name in its messages. -/
def familyHeading : Bool → IpType → String
  | true, .useIpv4 => "IPv4 测试结果:\n"
  | true, .useIpv6 => "IPv6 测试结果:\n"
  | false, _ => ""

def familyFailure : Bool → IpType → String
  | true, .useIpv4 => "执行 IPv4 ping 命令时出错: "
  | true, .useIpv6 => "执行 IPv6 ping 命令时出错: "
  | false, _ => "执行 ping 命令时出错: "

/-- The message with the result of a family or with its own error. -/
def familyMessage (paired : Bool) (ip : IpType) : Except String (List PingEntry) → BotMessage
  | .ok result => .report (familyHeading paired ip) (formatPingResult result)
  | .error e => .text (familyFailure paired ip ++ e ++
      ", 这可能是由于目标主机不可达或域名解析失败导致的。")

/-- A message concerns a family if it starts like a message of this family. -/
def concerns (paired : Bool) (ip : IpType) : BotMessage → Bool
  | .report heading _ => heading = familyHeading paired ip
  | .text text => (familyFailure paired ip).toList.isPrefixOf text.toList

def unrecognised : BotMessage := .text "未能正确识别到地址类型，请重试。"

/-- The only message of a command that selects no family. -/
def rejection (host : String) (options : PingOptions) : BotMessage :=
  if options.forceIpv4 && options.forceIpv6 then .text "不能同时指定 -4 和 -6 选项。"
  else .text s!"无法解析域名 {host} 的 A 或 AAAA 记录。"

/-- The messages of a handler, in the order in which they are sent. -/
def messages (actions : List BotAction) : List BotMessage :=
  actions.filterMap fun
    | .send message => some message
    | .finish message => some message
    | .probe _ => none

/-- Behind the start message each selected family has exactly one message, with its own outcome. No
other family is probed, and only a command without a family is not recognised. -/
structure ReportsFamilies (environment : Environment) (host : String) (options : PingOptions)
    (actions : List BotAction) : Prop where
  reported : ∀ ip, selects environment host options ip = true →
    (messages actions).tail.filter (concerns (paired environment host options) ip) =
      [familyMessage (paired environment host options) ip (outcome environment host options ip)]
  probed : ∀ ip, .probe ip ∈ actions → selects environment host options ip = true
  recognised : unrecognised ∈ (messages actions).tail →
    ∀ ip, selects environment host options ip = false

end Families

section Conversions

def digitsValue (digits : List Char) : Option Nat :=
  if digits ≠ [] ∧ digits.all Char.isDigit then
    some (digits.foldl (fun value digit => 10 * value + (digit.toNat - '0'.toNat)) 0)
  else none

/-- The conversion of a text of decimal digits with an optional sign. -/
def decimalInt (text : String) : Except String Int :=
  let value : Option Int :=
    match text.toList with
    | '-' :: digits => (digitsValue digits).map fun value => -(value : Int)
    | digits => (digitsValue digits).map Int.ofNat
  match value with
  | some value => .ok value
  | none => .error ("invalid literal for int() with base 10: '" ++ text ++ "'")

/-- The bot resolves each name to one record of each type, no host answers its pings, and the
service has no data of the domain. -/
def quietEnvironment : Environment where
  int := decimalInt
  ipVersion _ := none
  query _ recordType := .ok [if recordType = "A" then "203.0.113.9" else "2001:db8::9"]
  ping := extensionPing fun _ => deliveringNetwork 7 []
  get _ _ := .ok ⟨.ok (), .ok [("status", .int 0)]⟩
  format _ := ""

end Conversions

end NetworkTools.Specification
