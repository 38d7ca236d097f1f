/-
This file models the WHOIS query and the text that the plugin makes of its result.
-/

import Mathlib.Algebra.Order.Field.Rat

namespace NetworkTools

/-- A decoded JSON value. The keys of an object are distinct. -/
inductive Json where
  | null
  | bool (value : Bool)
  | int (value : Int)
  | float (value : ℚ)
  | str (value : String)
  | arr (items : List Json)
  | obj (fields : List (String × Json))

abbrev JsonObject := List (String × Json)

namespace Json

def typeName : Json → String
  | null => "NoneType"
  | bool _ => "bool"
  | int _ => "int"
  | float _ => "float"
  | str _ => "str"
  | arr _ => "list"
  | obj _ => "dict"

def truthy : Json → Bool
  | null => false
  | bool value => value
  | int value => value ≠ 0
  | float value => value ≠ 0
  | str value => value ≠ ""
  | arr items => !items.isEmpty
  | obj fields => !fields.isEmpty

/-- The number one equals a true Boolean as well. -/
def equalsOne : Json → Bool
  | bool value => value
  | int value => value = 1
  | float value => value = 1
  | _ => false

/-- Only an object has the method `get`. -/
def get (value : Json) (key : String) (default : Json) : Except String Json :=
  match value with
  | obj fields => .ok ((fields.lookup key).getD default)
  | other => .error ("'" ++ other.typeName ++ "' object has no attribute 'get'")

/-- An iteration gives the characters of a text and the keys of an object. -/
def elements : Json → Except String (List Json)
  | str value => .ok (value.toList.map fun character => str (String.singleton character))
  | arr items => .ok items
  | obj fields => .ok (fields.map fun field => str field.1)
  | _ => .error "can only join an iterable"

def joinItem (index : Nat) : Json → Except String String
  | str value => .ok value
  | other => .error ("sequence item " ++ toString index ++ ": expected str instance, " ++
      other.typeName ++ " found")

def joinItems (index : Nat) : List Json → Except String (List String)
  | [] => .ok []
  | item :: items => do
      let text ← joinItem index item
      let texts ← joinItems (index + 1) items
      return text :: texts

def join (separator : String) (value : Json) : Except String String := do
  let items ← value.elements
  let texts ← joinItems 0 items
  return separator.intercalate texts

end Json

/-- The text of a field that is missing or empty. -/
def whoisPrivate : String := "无数据，可能是启用了隐私防护"

def whoisList (info : Json) (key : String) : Except String String := do
  let value ← info.get key .null
  if value.truthy then
    let items ← info.get key (.arr [])
    items.join ", "
  else return "N/A"

/-- The parameter `format` gives the text of a value in a formatted string. -/
def formatWhoisResult (format : Json → String) (result : JsonObject) : Except String String := do
  let data ← (Json.obj result).get "data" (.obj [])
  let info ← data.get "info" (.obj [])
  let domain ← data.get "domain" .null
  let registrarName ← info.get "registrar_name" .null
  let registrantName ← info.get "registrant_name" .null
  let registrantEmail ← info.get "registrant_email" .null
  let creationTime ← info.get "creation_time" .null
  let expirationTime ← info.get "expiration_time" .null
  let domainStatus ← whoisList info "domain_status"
  let nameServer ← whoisList info "name_server"
  let whoisServer ← info.get "whois_server" .null
  return "\n".intercalate
    ["域名: " ++ format domain,
      "注册商: " ++ format registrarName,
      "注册人: " ++ if registrantName.truthy then format registrantName else whoisPrivate,
      "注册人邮箱: " ++ if registrantEmail.truthy then format registrantEmail else whoisPrivate,
      "创建时间: " ++ format creationTime,
      "到期时间: " ++ format expirationTime,
      "状态: " ++ domainStatus,
      "名称服务器: " ++ nameServer,
      "Whois 服务器: " ++ format whoisServer]

/-- The response of the service. Its status and its body can raise. -/
structure Response where
  raiseForStatus : Except String Unit
  json : Except String JsonObject

/-- The parameter `get` is the request of the client with its headers. -/
def whoisQuery (get : String → List (String × String) → Except String Response)
    (domain : String) (raw : Bool) : Except String JsonObject := do
  let headers := [("content-type", "application/json")]
  let rawSign : Nat := if raw then 1 else 0
  let response ← get s!"https://api.whoiscx.com/whois/?domain={domain}&raw={rawSign}" headers
  response.raiseForStatus
  response.json

end NetworkTools
