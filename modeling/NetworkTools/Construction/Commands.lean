/-
This file models the command handlers of the plugin: ping and whois.
-/

import NetworkTools.Construction.Format
import NetworkTools.Construction.Whois
import NetworkTools.Library.Procedure

namespace NetworkTools
open Library

/-- A chat message consists of texts and other things, such as pictures. -/
inductive Segment where
  | text (text : String)
  | other
deriving DecidableEq

abbrev Message := List Segment

def extractPlainText (message : Message) : String :=
  String.join (message.map fun
    | .text text => text
    | .other => "")

/-- The characters at which a text is split without a separator. -/
def isSpace (character : Char) : Bool :=
  let code := character.toNat
  (9 ≤ code && code ≤ 13) || (28 ≤ code && code ≤ 32) || code = 0x85 || code = 0xA0 ||
    code = 0x1680 || (0x2000 ≤ code && code ≤ 0x200A) || code = 0x2028 || code = 0x2029 ||
    code = 0x202F || code = 0x205F || code = 0x3000

def split (text : String) : List String :=
  ((text.toList.splitOnP isSpace).filter fun characters => !characters.isEmpty).map String.ofList

/-- The exceptions that a handler can meet. The last one stands for all other types. -/
inductive PyException where
  | finished
  | valueError (text : String)
  | error (text : String)
deriving DecidableEq

/-- A bot message is a text, or a heading with the report of a ping. -/
inductive BotMessage where
  | text (text : String)
  | report (heading : String) (report : PingReport)
deriving DecidableEq

/-- The extension probes an address family. -/
inductive BotAction where
  | send (message : BotMessage)
  | finish (message : BotMessage)
  | probe (ip : IpType)
deriving DecidableEq

abbrev Handler := Procedure BotAction PyException

def send (message : BotMessage) : Handler Unit := .perform (.send message)

/-- The final message ends the handler by an exception. -/
def finish (message : BotMessage) : Handler Unit := do
  .perform (.finish message)
  .raise .finished

/-- The end of the handler is raised again, and any other exception is handled. -/
def tryExcept (body : Handler Unit) (handler : String → Handler Unit)
    (otherwise : Handler Unit) : Handler Unit :=
  body.tryElse (fun
    | .finished => .raise .finished
    | .valueError text => handler text
    | .error text => handler text) otherwise

/-- What the handlers call: the conversions of Python, the resolver, the extension module, and the
client of the WHOIS service. -/
structure Environment where
  int : String → Except String Int
  ipVersion : String → Option IpType
  query : String → String → Except String (List String)
  ping : IpType → String → Int → Int → Int → Except String (List PingEntry)
  get : String → List (String × String) → Except String Response
  format : Json → String

/-- The options start with their defaults. A mark is set once its name is bound. -/
structure PingOptions where
  count : Int := 4
  ttl : Int := 64
  timeout : Int := 1000
  forceIpv4 : Bool := false
  forceIpv6 : Bool := false
deriving DecidableEq

def withCount (int : String → Except String Int) (argument : String)
    (options : PingOptions) : PingOptions :=
  match int argument with
  | .ok count => { options with count }
  | .error _ => options

/-- The loop reads the value of an option from the next argument. The last argument has none. -/
def argumentLoop (int : String → Except String Int) :
    List String → PingOptions → Except PyException PingOptions
  | [], options => .ok options
  | [argument], options =>
      if argument = "-4" then .ok { options with forceIpv4 := true }
      else if argument = "-6" then .ok { options with forceIpv6 := true }
      else .ok (withCount int argument options)
  | argument :: value :: rest, options =>
      if argument = "-4" then argumentLoop int (value :: rest) { options with forceIpv4 := true }
      else if argument = "-6" then
        argumentLoop int (value :: rest) { options with forceIpv6 := true }
      else if argument = "-i" then
        match int value with
        | .ok ttl => argumentLoop int rest { options with ttl }
        | .error text => .error (.valueError text)
      else if argument = "-w" then
        match int value with
        | .ok timeout => argumentLoop int rest { options with timeout }
        | .error text => .error (.valueError text)
      else argumentLoop int (value :: rest) (withCount int argument options)

/-- A query without answers ends the function without a return. -/
def resolveDomain (environment : Environment) (domain recordType : String) :
    Option (List String) :=
  match environment.query domain recordType with
  | .error _ => some []
  | .ok [] => none
  | .ok answers => some answers

def hasRecords (records : Option (List String)) : Bool := !(records.getD []).isEmpty

/-- The text of a list of records. -/
def recordsText (records : Option (List String)) : String :=
  match records with
  | none => "None"
  | some records => "[" ++ ", ".intercalate (records.map fun record => "'" ++ record ++ "'") ++ "]"

/-- The address families to test and the parts of the start message. -/
structure Selection where
  useIpv4 : Bool
  useIpv6 : Bool
  startMsg : List String
deriving DecidableEq

/-- The options select a family first, then the address, then the records of the name. -/
def selectFamilies (environment : Environment) (host : String) (options : PingOptions)
    (startMsg : List String) : Handler Selection :=
  if options.forceIpv4 && options.forceIpv6 then do
    finish (.text "不能同时指定 -4 和 -6 选项。")
    return ⟨false, false, startMsg⟩
  else if options.forceIpv4 then
    return ⟨true, false, startMsg ++ ["，用户强制使用 IPv4 进行测试。"]⟩
  else if options.forceIpv6 then
    return ⟨false, true, startMsg ++ ["，用户强制使用 IPv6 进行测试。"]⟩
  else
    match environment.ipVersion host with
    | some .useIpv4 => return ⟨true, false, startMsg ++ ["，目标为 IPv4 地址。"]⟩
    | some .useIpv6 => return ⟨false, true, startMsg ++ ["，目标为 IPv6 地址。"]⟩
    | none => do
        let startMsg := startMsg ++ ["，目标为域名，解析结果："]
        let aRecords := resolveDomain environment host "A"
        let aaaaRecords := resolveDomain environment host "AAAA"
        let startMsg := if hasRecords aRecords then
          startMsg ++ ["\nA记录：" ++ recordsText aRecords ++ " "] else startMsg
        let startMsg := if hasRecords aaaaRecords then
          startMsg ++ ["\nAAAA记录：" ++ recordsText aaaaRecords ++ " "] else startMsg
        if !hasRecords aRecords && !hasRecords aaaaRecords then
          finish (.text s!"无法解析域名 {host} 的 A 或 AAAA 记录。")
        return ⟨hasRecords aRecords, hasRecords aaaaRecords, startMsg⟩

/-- The extension returns a result list or raises. -/
def performPing (environment : Environment) (ip : IpType) (host : String)
    (options : PingOptions) : Handler PingReport := do
  .perform (.probe ip)
  let result ← .ofExcept ((environment.ping ip host options.count options.ttl
    options.timeout).mapError .error)
  return formatPingResult result

/-- The last branch follows a body that did not finish. -/
def testFamilies (environment : Environment) (host : String) (options : PingOptions)
    (useIpv4 useIpv6 : Bool) : Handler Unit :=
  tryExcept
    (if useIpv4 && useIpv6 then do
      send (.text "发现这是一个双栈地址，同时进行 IPv4 和 IPv6 测试。")
      tryExcept
        (do
          let report ← performPing environment .useIpv4 host options
          send (.report "IPv4 测试结果:\n" report))
        (fun e => send (.text s!"执行 IPv4 ping 命令时出错: {e}, 这可能是由于目标主机不可达或域名解析失败导致的。"))
        (pure ())
      tryExcept
        (do
          let report ← performPing environment .useIpv6 host options
          finish (.report "IPv6 测试结果:\n" report))
        (fun e => send (.text s!"执行 IPv6 ping 命令时出错: {e}, 这可能是由于目标主机不可达或域名解析失败导致的。"))
        (pure ())
    else if useIpv4 then do
      let report ← performPing environment .useIpv4 host options
      finish (.report "" report)
    else if useIpv6 then do
      let report ← performPing environment .useIpv6 host options
      finish (.report "" report)
    else pure ())
    (fun e => finish (.text s!"执行 ping 命令时出错: {e}, 这可能是由于目标主机不可达或域名解析失败导致的。"))
    (finish (.text "未能正确识别到地址类型，请重试。"))

def handlePing (environment : Environment) (args : Message) : Handler Unit :=
  if args ≠ [] then
    match split (extractPlainText args) with
    | host :: arguments => do
        let startMsg := ["开始准备发起PING："]
        let options ← .ofExcept (argumentLoop environment.int arguments {})
        let count := options.count
        let ttl := options.ttl
        let timeout := options.timeout
        let startMsg := startMsg ++ [s!"主机名：{host}，次数：{count}, TTL：{ttl}, 超时：{timeout}毫秒"]
        let selection ← selectFamilies environment host options startMsg
        send (.text (String.join selection.startMsg))
        testFamilies environment host options selection.useIpv4 selection.useIpv6
    | [] => pure ()
  else finish (.text "用法: ping <host> [-4|-6] [-i ttl] [-w timeout] [count]\n示例: ping example.com -4 -i 64 -w 1000 4")

/-- Each option sends its warning again. -/
def whoisArguments : List String → Bool → Handler Bool
  | [], raw => return raw
  | argument :: rest, raw =>
      if argument = "--raw" then do
        send (.text "注意：启用 --raw 选项后，返回的结果可能非常冗长，可能会导致消息发送失败。")
        whoisArguments rest true
      else whoisArguments rest raw

/-- The raw data of the result follow a heading. -/
def sendRawData (environment : Environment) (result : JsonObject) : Handler Unit := do
  let data ← .ofExcept (((Json.obj result).get "data" (.obj [])).mapError .error)
  let raw ← .ofExcept ((data.get "raw" (.str "无原始数据")).mapError .error)
  let shown := environment.format raw
  send (.text s!"Whois 查询结果（原始数据）:\n{shown}")

/-- A result of another status than one gets no final message. -/
def finishWhois (domain formattedResult : String) (result : JsonObject) : Handler Unit := do
  let status ← .ofExcept (((Json.obj result).get "status" .null).mapError .error)
  if status.equalsOne then
    let data ← .ofExcept (((Json.obj result).get "data" (.obj [])).mapError .error)
    let isAvailable ← .ofExcept ((data.get "is_available" .null).mapError .error)
    if isAvailable.equalsOne then finish (.text s!"域名 {domain} 可能未被注册。")
    else finish (.text s!"Whois 查询结果:\n{formattedResult}")

def showWhois (environment : Environment) (domain : String) (raw : Bool) : Handler Unit := do
  send (.text s!"正在查询域名 {domain} 的 WHOIS 信息，请稍候...")
  let result ← .ofExcept ((whoisQuery environment.get domain raw).mapError .error)
  let formattedResult ← .ofExcept ((formatWhoisResult environment.format result).mapError .error)
  if raw then sendRawData environment result
  finishWhois domain formattedResult result

def handleWhois (environment : Environment) (args : Message) : Handler Unit :=
  if args ≠ [] then
    match split (extractPlainText args) with
    | domain :: arguments => do
        let raw ← whoisArguments arguments false
        tryExcept (showWhois environment domain raw)
          (fun e => finish (.text s!"执行 whois 命令时出错: {e}, 这可能是由于查询失败导致的。"))
          (pure ())
    | [] => pure ()
  else finish (.text "用法: whois <domain>\n示例: whois example.com")

end NetworkTools
