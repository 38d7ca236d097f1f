/-
This file specifies what a typed command makes the bot do, from its first message to its last.
-/

import NetworkTools.Library.Words
import NetworkTools.Specification.Command
import NetworkTools.Specification.Options

namespace NetworkTools.Specification
open Library

/-- The texts of the message lay out these tokens with any white space. -/
def Types (args : Message) (tokens : List String) : Prop :=
  Lays isSpace (extractPlainText args).toList (tokens.map String.toList)

section Ping

/-- The start message repeats the host and the numbers of the command. -/
def announcement (host : String) (options : PingOptions) : String :=
  let count := options.count
  let ttl := options.ttl
  let timeout := options.timeout
  "开始准备发起PING：" ++ s!"主机名：{host}，次数：{count}, TTL：{ttl}, 超时：{timeout}毫秒"

/-- A family that is tested alone ends the command with its message. -/
def soleTest (environment : Environment) (host : String) (options : PingOptions) (ip : IpType) :
    List BotAction :=
  [.probe ip, .finish (familyMessage false ip (outcome environment host options ip))]

/-- The second of two families ends the command, but its failure lets a denial follow. -/
def pairedTests (environment : Environment) (host : String) (options : PingOptions) :
    List BotAction :=
  [.send (.text "发现这是一个双栈地址，同时进行 IPv4 和 IPv6 测试。"), .probe .useIpv4,
    .send (familyMessage true .useIpv4 (outcome environment host options .useIpv4)),
    .probe .useIpv6] ++
    match outcome environment host options .useIpv6 with
    | .ok result => [.finish (familyMessage true .useIpv6 (.ok result))]
    | .error e => [.send (familyMessage true .useIpv6 (.error e)), .finish unrecognised]

/-- A command without a family is rejected, and any other command announces its tests. -/
inductive PingTranscript (environment : Environment) (host : String) (options : PingOptions) :
    List BotAction → Prop where
  | rejected (none : ∀ ip, selects environment host options ip = false) :
      PingTranscript environment host options [.finish (rejection host options)]
  | sole (ip : IpType) (note : String)
      (alone : ∀ other, selects environment host options other = decide (ip = other)) :
      PingTranscript environment host options
        (.send (.text (announcement host options ++ note)) :: soleTest environment host options ip)
  | paired (note : String) (both : ∀ ip, selects environment host options ip = true) :
      PingTranscript environment host options
        (.send (.text (announcement host options ++ note)) :: pairedTests environment host options)

end Ping

section Whois

def rawWarning : BotMessage :=
  .text "注意：启用 --raw 选项后，返回的结果可能非常冗长，可能会导致消息发送失败。"

def queryNotice (domain : String) : BotMessage :=
  .text s!"正在查询域名 {domain} 的 WHOIS 信息，请稍候..."

def whoisFailure (e : String) : BotMessage :=
  .text s!"执行 whois 命令时出错: {e}, 这可能是由于查询失败导致的。"

def rawData (environment : Environment) (data : JsonObject) : BotMessage :=
  let shown := environment.format (field data "raw" (.str "无原始数据"))
  .text s!"Whois 查询结果（原始数据）:\n{shown}"

/-- Only a result with status one has a final message. -/
def whoisVerdict (domain report : String) (result data : JsonObject) : Option BotMessage :=
  if (field result "status" .null).equalsOne then
    if (field data "is_available" .null).equalsOne then some (.text s!"域名 {domain} 可能未被注册。")
    else some (.text s!"Whois 查询结果:\n{report}")
  else none

/-- What follows the notice: a failure of the query or of its report, or the result. -/
inductive WhoisTranscript (environment : Environment) (domain : String) (raw : Bool) :
    List BotAction → Except PyException Unit → Prop where
  | unanswered (e : String) (fails : whoisQuery environment.get domain raw = .error e) :
      WhoisTranscript environment domain raw [.finish (whoisFailure e)] (.error .finished)
  | unshown (result : JsonObject) (e : String)
      (answers : whoisQuery environment.get domain raw = .ok result)
      (fails : formatWhoisResult environment.format result = .error e) :
      WhoisTranscript environment domain raw [.finish (whoisFailure e)] (.error .finished)
  | shown (result data : JsonObject) (report : String)
      (answers : whoisQuery environment.get domain raw = .ok result)
      (shows : formatWhoisResult environment.format result = .ok report)
      (isData : field result "data" (.obj []) = .obj data) :
      WhoisTranscript environment domain raw
        ((if raw then [.send (rawData environment data)] else []) ++
          ((whoisVerdict domain report result data).map BotAction.finish).toList)
        (if (whoisVerdict domain report result data).isSome then .error .finished else .ok ())

end Whois

end NetworkTools.Specification
