/-
This file proves the whole transcript of each typed command.
-/

import NetworkTools.Proof.Command.Ending
import NetworkTools.Proof.Command.Options
import NetworkTools.Specification.Transcript

namespace NetworkTools
open Library Specification

/-- The split gives the tokens that a message lays out. -/
theorem split_of_types {args : Message} {tokens : List String} (types : Types args tokens) :
    split (extractPlainText args) = tokens := by
  have found := splitWords_eq_iff.mpr types
  have listed : split (extractPlainText args) =
      (splitWords isSpace (extractPlainText args).toList).map String.ofList := rfl
  rw [listed, found, List.map_map]
  have same : String.ofList ∘ String.toList = id := by
    funext token
    exact String.ofList_toList
  rw [same, List.map_id]

section Ping

variable {environment : Environment} {args : Message} {host : String} {options : PingOptions}

/-- The selection only adds to the start message. -/
theorem selectFamilies_startMsg {startMsg : List String} {selection : Selection}
    (selected : (selectFamilies environment host options startMsg).result = .ok selection) :
    ∃ more, selection.startMsg = startMsg ++ more := by
  unfold selectFamilies at selected
  split at selected
  · cases selected
  split at selected
  · obtain rfl := Except.ok.inj selected
    exact ⟨_, rfl⟩
  split at selected
  · obtain rfl := Except.ok.inj selected
    exact ⟨_, rfl⟩
  split at selected
  · obtain rfl := Except.ok.inj selected
    exact ⟨_, rfl⟩
  · obtain rfl := Except.ok.inj selected
    exact ⟨_, rfl⟩
  · simp only [hasRecords_resolveDomain] at selected
    generalize hasRecord environment host "A" = isIpv4 at selected
    generalize hasRecord environment host "AAAA" = isIpv6 at selected
    match isIpv4, isIpv6 with
    | false, false => cases selected
    | false, true =>
        obtain rfl := Except.ok.inj selected
        exact ⟨[_, _], List.append_assoc _ _ _⟩
    | true, false =>
        obtain rfl := Except.ok.inj selected
        exact ⟨[_, _], List.append_assoc _ _ _⟩
    | true, true =>
        obtain rfl := Except.ok.inj selected
        exact ⟨_, (List.append_assoc _ _ _).trans (List.append_assoc _ _ _)⟩

/-- A parsed command announces its options and tests the selected families. -/
theorem handlePing_transcript {arguments : List String}
    (tokens : split (extractPlainText args) = host :: arguments)
    (parsed : argumentLoop environment.int arguments {} = .ok options) :
    PingTranscript environment host options (handlePing environment args).actions ∧
      (handlePing environment args).result = .error .finished := by
  let start : List String := ["开始准备发起PING：",
    s!"主机名：{host}，次数：{options.count}, TTL：{options.ttl}, 超时：{options.timeout}毫秒"]
  have run : handlePing environment args =
      (selectFamilies environment host options start >>= fun selection =>
        send (.text (String.join selection.startMsg)) >>= fun _ =>
          testFamilies environment host options selection.useIpv4 selection.useIpv6) := by
    rw [handlePing, if_pos (ne_nil_of_tokens tokens), tokens]
    simp only [parsed]
    rfl
  rw [run]
  obtain ⟨notes, selected, some⟩ | ⟨finished, none⟩ :=
    @selectFamilies_cases environment host options start
  · have announced := @selectFamilies_startMsg environment host options start
    rw [selected] at announced
    obtain ⟨more, isNotes⟩ := announced rfl
    have starts : String.join notes = announcement host options ++ String.join more := by
      have joined : String.join start = announcement host options := by
        rw [String.join_cons, String.join_cons, String.join_nil, String.append_empty]
        rfl
      simp only at isNotes
      rw [isNotes, String.join_append, joined]
    rw [selected, Procedure.pure_bind, send, Procedure.perform_bind, starts]
    cases isIpv4 : selects environment host options .useIpv4 <;>
      cases isIpv6 : selects environment host options .useIpv6
    · simp [isIpv4, isIpv6] at some
    · have test : testFamilies environment host options false true =
          ⟨soleTest environment host options .useIpv6, .error .finished⟩ :=
        testFamilies_sole .useIpv6
      rw [test]
      exact ⟨.sole .useIpv6 _ fun other => by cases other <;> simp [isIpv4, isIpv6], rfl⟩
    · have test : testFamilies environment host options true false =
          ⟨soleTest environment host options .useIpv4, .error .finished⟩ :=
        testFamilies_sole .useIpv4
      rw [test]
      exact ⟨.sole .useIpv4 _ fun other => by cases other <;> simp [isIpv4, isIpv6], rfl⟩
    · have tests : testFamilies environment host options true true =
          ⟨pairedTests environment host options, .error .finished⟩ := by
        rw [testFamilies_paired, pairedTests]
        cases outcome environment host options .useIpv6 <;> rfl
      rw [tests]
      exact ⟨.paired _ fun ip => by cases ip <;> assumption, rfl⟩
  · rw [finished, Procedure.bind_of_error rfl]
    exact ⟨.rejected none, rfl⟩

end Ping

/-- A typed command runs through the transcript of the options that it documents, whatever its white
space is, and ends the matcher. -/
theorem handlePing_typed {environment : Environment} {args : Message} {host : String}
    {groups : List OptionGroup}
    (inverts : Inverts environment.int groups)
    (types : Types args (commandTokens host groups)) :
    PingTranscript environment host (requestedOptions groups)
        (handlePing environment args).actions ∧
      (handlePing environment args).result = .error .finished := by
  apply handlePing_transcript (split_of_types types)
  rw [argumentLoop_groups inverts, foldl_applyGroup]

/-- A command over two lines with a picture in the middle. -/
def scatteredCommand : Message :=
  [.text "  example.com\t-i 9 -w", .other, .text " 10\n", .text "3 -i -4 "]

theorem handlePing_typed_scattered :
    PingTranscript quietEnvironment "example.com"
        (requestedOptions [.ttl 9, .timeout 10, .count 3, .ttl (-4)])
        (handlePing quietEnvironment scatteredCommand).actions ∧
      (handlePing quietEnvironment scatteredCommand).result = .error .finished :=
  handlePing_typed (fun _ _ value _ => decimalInt_toString value)
    (splitWords_eq_iff.mp (by decide +kernel))

section Whois

variable {environment : Environment} {domain : String} {raw : Bool}

/-- Each raw option repeats the warning. -/
theorem whoisArguments_actions (arguments : List String) (raw : Bool) :
    (whoisArguments arguments raw).actions =
      List.replicate (arguments.count "--raw") (.send rawWarning) := by
  induction arguments generalizing raw with
  | nil => rfl
  | cons argument rest ih =>
      rw [whoisArguments]
      split
      · next isRaw =>
          rw [isRaw, List.count_cons_self, List.replicate_succ, ← ih true, Procedure.bind_of_ok rfl]
          rfl
      · next other => rw [List.count_cons_of_ne other, ih raw]

/-- A result that can be shown is sent raw on request, and then its status decides. -/
theorem showWhois_eq {result data : JsonObject} {report : String}
    (answers : whoisQuery environment.get domain raw = .ok result)
    (shows : formatWhoisResult environment.format result = .ok report)
    (isData : field result "data" (.obj []) = .obj data) :
    showWhois environment domain raw =
      ⟨.send (queryNotice domain) ::
          ((if raw then [.send (rawData environment data)] else []) ++
            ((whoisVerdict domain report result data).map BotAction.finish).toList),
        if (whoisVerdict domain report result data).isSome then .error .finished else .ok ()⟩ := by
  have verdict : finishWhois domain report result =
      ⟨((whoisVerdict domain report result data).map BotAction.finish).toList,
        if (whoisVerdict domain report result data).isSome then .error .finished
        else .ok ()⟩ := by
    rw [finishWhois_eq report isData, whoisVerdict]
    split
    · split <;> rfl
    · rfl
  have sent : sendRawData environment result =
      ⟨[.send (rawData environment data)], .ok ()⟩ := by
    simp only [sendRawData, get_obj, isData]
    rfl
  simp only [showWhois, answers, Except.mapError, Procedure.ofExcept_ok_bind, shows, sent, verdict]
  cases raw <;> rfl

/-- The handler passes an exception on to its user. -/
theorem tryWhois_transcript :
    ∃ actions result, WhoisTranscript environment domain raw actions result ∧
      tryExcept (showWhois environment domain raw)
          (fun e => finish (.text s!"执行 whois 命令时出错: {e}, 这可能是由于查询失败导致的。"))
          (pure ()) =
        ⟨.send (queryNotice domain) :: actions, result⟩ := by
  cases answers : whoisQuery environment.get domain raw with
  | error e =>
      have raised : showWhois environment domain raw =
          ⟨[.send (queryNotice domain)], .error (.error e)⟩ := by
        simp only [showWhois, answers]
        rfl
      refine ⟨_, _, .unanswered e answers, ?_⟩
      rw [raised, tryExcept_error _ _ _ rfl]
      rfl
  | ok result =>
      cases shows : formatWhoisResult environment.format result with
      | error e =>
          have raised : showWhois environment domain raw =
              ⟨[.send (queryNotice domain)], .error (.error e)⟩ := by
            simp only [showWhois, answers, Except.mapError, Procedure.ofExcept_ok_bind, shows]
            rfl
          refine ⟨_, _, .unshown result e answers shows, ?_⟩
          rw [raised, tryExcept_error _ _ _ rfl]
          rfl
      | ok report =>
          obtain ⟨data, _, isData, _⟩ :=
            (formatWhoisResult_succeeds_iff environment.format result).mp ⟨report, shows⟩
          refine ⟨_, _, .shown result data report answers shows isData, ?_⟩
          rw [showWhois_eq answers shows isData]
          cases verdict : whoisVerdict domain report result data with
          | some message => exact tryExcept_finished _ _ _ rfl
          | none =>
              rw [tryExcept_ok _ _ _ rfl]
              exact congrArg (Procedure.mk · (.ok ())) (List.append_nil _)

end Whois

/-- A typed command warns once for each raw option, announces its query, and then runs through the
transcript of what the service answers. -/
theorem handleWhois_typed {environment : Environment} {args : Message} {domain : String}
    {arguments : List String} (types : Types args (domain :: arguments)) :
    ∃ actions result,
      WhoisTranscript environment domain ("--raw" ∈ arguments) actions result ∧
        handleWhois environment args =
          ⟨List.replicate (arguments.count "--raw") (.send rawWarning) ++
            .send (queryNotice domain) :: actions, result⟩ := by
  have tokens := split_of_types types
  have read := whoisArguments_result arguments false
  rw [Bool.false_or] at read
  obtain ⟨actions, result, transcript, run⟩ :=
    @tryWhois_transcript environment domain ("--raw" ∈ arguments)
  refine ⟨actions, result, transcript, ?_⟩
  rw [handleWhois, if_pos (ne_nil_of_tokens tokens), tokens]
  simp only
  rw [Procedure.bind_of_ok read, run, whoisArguments_actions]

/-- The raw option stands twice behind the domain. -/
theorem handleWhois_typed_raw :
    ∃ actions result,
      WhoisTranscript quietEnvironment "example.com" ("--raw" ∈ ["--raw", "-x", "--raw"]) actions
          result ∧
        handleWhois quietEnvironment [.text " example.com --raw -x", .other, .text "\n--raw"] =
          ⟨List.replicate (["--raw", "-x", "--raw"].count "--raw") (.send rawWarning) ++
            .send (queryNotice "example.com") :: actions, result⟩ :=
  handleWhois_typed (splitWords_eq_iff.mp (by decide +kernel))

end NetworkTools
