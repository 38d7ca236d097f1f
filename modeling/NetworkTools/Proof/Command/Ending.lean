/-
This file proves which commands end with a final message.
-/

import NetworkTools.Specification.Command

namespace NetworkTools
open Library Specification

section Endings

theorem finish_ends (message : BotMessage) : EndsThroughFinish (finish message) :=
  ⟨rfl, _, rfl, message, rfl⟩

/-- A handler that returns has sent no final message. -/
theorem not_ends_of_returned {handler : Handler Unit} (returned : handler.result = .ok ()) :
    ¬ EndsThroughFinish handler :=
  Procedure.not_endsWith_of_result returned (by simp)

/-- A handled exception leaves the ending to the handler. -/
theorem tryExcept_error (body : Handler Unit) (handler : String → Handler Unit)
    (otherwise : Handler Unit) {text : String} (raised : body.result = .error (.error text)) :
    tryExcept body handler otherwise =
      ⟨body.actions ++ (handler text).actions, (handler text).result⟩ := by
  rw [tryExcept, Procedure.tryElse, raised]

theorem tryExcept_finished (body : Handler Unit) (handler : String → Handler Unit)
    (otherwise : Handler Unit) (finished : body.result = .error .finished) :
    tryExcept body handler otherwise = ⟨body.actions, .error .finished⟩ := by
  rw [tryExcept, Procedure.tryElse, finished]
  simp only [Procedure.raise, List.append_nil]

theorem tryExcept_ok (body : Handler Unit) (handler : String → Handler Unit)
    (otherwise : Handler Unit) (returned : body.result = .ok ()) :
    tryExcept body handler otherwise =
      ⟨body.actions ++ otherwise.actions, otherwise.result⟩ := by
  rw [tryExcept, Procedure.tryElse, returned]

end Endings

section Tests

variable {environment : Environment} {host : String} {options : PingOptions}

theorem performPing_eq (ip : IpType) :
    performPing environment ip host options =
      match outcome environment host options ip with
      | .ok result => ⟨[.probe ip], .ok (formatPingResult result)⟩
      | .error text => ⟨[.probe ip], .error (.error text)⟩ := by
  unfold performPing outcome
  cases environment.ping ip host options.count options.ttl options.timeout <;> rfl

/-- A family that is tested alone has one message, and this message is the last one. -/
theorem testFamilies_sole (ip : IpType) :
    testFamilies environment host options (ip = .useIpv4) (ip = .useIpv6) =
      ⟨[.probe ip, .finish (familyMessage false ip (outcome environment host options ip))],
        .error .finished⟩ := by
  have branch : testFamilies environment host options (ip = .useIpv4) (ip = .useIpv6) =
      tryExcept (performPing environment ip host options >>= fun report =>
          finish (.report "" report))
        (fun e => finish (.text
          s!"执行 ping 命令时出错: {e}, 这可能是由于目标主机不可达或域名解析失败导致的。"))
        (finish (.text "未能正确识别到地址类型，请重试。")) := by
    cases ip <;> rfl
  rw [branch, performPing_eq]
  cases outcome environment host options ip with
  | ok result => rw [tryExcept_finished _ _ _ rfl]; rfl
  | error text => rw [tryExcept_error _ _ _ rfl]; rfl

/-- A second test that fails lets the last branch follow. -/
theorem testFamilies_paired :
    testFamilies environment host options true true =
      match outcome environment host options .useIpv6 with
      | .ok result =>
          ⟨[.send (.text "发现这是一个双栈地址，同时进行 IPv4 和 IPv6 测试。"), .probe .useIpv4,
              .send (familyMessage true .useIpv4 (outcome environment host options .useIpv4)),
              .probe .useIpv6, .finish (familyMessage true .useIpv6 (.ok result))],
            .error .finished⟩
      | .error text =>
          ⟨[.send (.text "发现这是一个双栈地址，同时进行 IPv4 和 IPv6 测试。"), .probe .useIpv4,
              .send (familyMessage true .useIpv4 (outcome environment host options .useIpv4)),
              .probe .useIpv6, .send (familyMessage true .useIpv6 (.error text)),
              .finish unrecognised],
            .error .finished⟩ := by
  rw [testFamilies, if_pos rfl, performPing_eq, performPing_eq]
  cases outcome environment host options .useIpv4 <;>
    cases outcome environment host options .useIpv6 <;> rfl

theorem testFamilies_sole_ends (ip : IpType) :
    EndsThroughFinish (testFamilies environment host options (ip = .useIpv4) (ip = .useIpv6)) := by
  rw [testFamilies_sole]
  exact ⟨rfl, _, rfl, _, rfl⟩

/-- The test always ends with a final message. -/
theorem testFamilies_ends (useIpv4 useIpv6 : Bool) :
    EndsThroughFinish (testFamilies environment host options useIpv4 useIpv6) := by
  match useIpv4, useIpv6 with
  | true, true =>
      rw [testFamilies_paired]
      cases outcome environment host options .useIpv6 with
      | ok result => exact ⟨rfl, _, rfl, _, rfl⟩
      | error text => exact ⟨rfl, _, rfl, _, rfl⟩
  | true, false => exact testFamilies_sole_ends .useIpv4
  | false, true => exact testFamilies_sole_ends .useIpv6
  | false, false => exact ⟨rfl, _, rfl, _, rfl⟩

end Tests

section Selections

variable {environment : Environment} {host : String} {options : PingOptions}

theorem hasRecords_resolveDomain (recordType : String) :
    hasRecords (resolveDomain environment host recordType) =
      hasRecord environment host recordType := by
  unfold resolveDomain hasRecord
  cases environment.query host recordType with
  | error text => rfl
  | ok answers => cases answers <;> rfl

/-- The selection is the specified one, and a command that selects no family is rejected. -/
theorem selectFamilies_cases (startMsg : List String) :
    (∃ notes, selectFamilies environment host options startMsg =
        pure ⟨selects environment host options .useIpv4,
          selects environment host options .useIpv6, notes⟩ ∧
      (selects environment host options .useIpv4 ||
        selects environment host options .useIpv6) = true) ∨
    selectFamilies environment host options startMsg =
        ⟨[.finish (rejection host options)], .error .finished⟩ ∧
      ∀ ip, selects environment host options ip = false := by
  obtain ⟨count, ttl, timeout, forceIpv4, forceIpv6⟩ := options
  match forceIpv4, forceIpv6 with
  | true, true => exact .inr ⟨rfl, fun ip => rfl⟩
  | true, false => exact .inl ⟨_, rfl, rfl⟩
  | false, true => exact .inl ⟨_, rfl, rfl⟩
  | false, false =>
      unfold selectFamilies selects
      simp only [Bool.and_false, Bool.false_eq_true, if_false]
      cases environment.ipVersion host with
      | some version =>
          cases version with
          | useIpv4 => exact .inl ⟨_, rfl, rfl⟩
          | useIpv6 => exact .inl ⟨_, rfl, rfl⟩
      | none =>
          simp only [hasRecords_resolveDomain]
          cases hasRecord environment host "A" <;> cases hasRecord environment host "AAAA"
          · refine .inr ⟨rfl, fun ip => ?_⟩
            cases ip <;> rfl
          · exact .inl ⟨_, rfl, rfl⟩
          · exact .inl ⟨_, rfl, rfl⟩
          · exact .inl ⟨_, rfl, rfl⟩

end Selections

section Ping

variable {environment : Environment} {args : Message} {host : String} {arguments : List String}

/-- The argument loop succeeds exactly when the values of all options are numbers. -/
theorem argumentLoop_succeeds_iff (int : String → Except String Int) (arguments : List String)
    (options : PingOptions) :
    (∃ parsed, argumentLoop int arguments options = .ok parsed) ↔ ValuesParse int arguments := by
  fun_induction argumentLoop int arguments options <;> simp_all [ValuesParse]

theorem argumentLoop_error {int : String → Except String Int} {options : PingOptions}
    {exn : PyException} (raised : argumentLoop int arguments options = .error exn) :
    exn ≠ .finished := by
  fun_induction argumentLoop int arguments options <;> simp_all
  all_goals
    rw [← raised]
    simp

theorem ne_nil_of_tokens (tokens : split (extractPlainText args) = host :: arguments) :
    args ≠ [] := by
  rintro rfl
  have none : split (extractPlainText []) = [] := by decide
  rw [none] at tokens
  simp at tokens

/-- A command with a host parses its arguments, selects the families, and tests them. -/
theorem handlePing_of_parsed {options : PingOptions}
    (tokens : split (extractPlainText args) = host :: arguments)
    (parsed : argumentLoop environment.int arguments {} = .ok options) :
    ∃ startMsg, handlePing environment args =
      (selectFamilies environment host options startMsg >>= fun selection =>
        send (.text (String.join selection.startMsg)) >>= fun _ =>
          testFamilies environment host options selection.useIpv4 selection.useIpv6) := by
  rw [handlePing, if_pos (ne_nil_of_tokens tokens), tokens]
  simp only [parsed]
  exact ⟨_, rfl⟩

theorem handlePing_of_unparsed {exn : PyException}
    (tokens : split (extractPlainText args) = host :: arguments)
    (unparsed : argumentLoop environment.int arguments {} = .error exn) :
    handlePing environment args = ⟨[], .error exn⟩ := by
  rw [handlePing, if_pos (ne_nil_of_tokens tokens), tokens]
  simp only [unparsed]
  rfl

theorem handlePing_of_silent (present : args ≠ [])
    (tokens : split (extractPlainText args) = []) : handlePing environment args = pure () := by
  rw [handlePing, if_pos present, tokens]

/-- The ping command ends with a final message exactly when it is empty, or it has a host and all
its option values are numbers. -/
theorem handlePing_ends_iff (environment : Environment) (args : Message) :
    EndsThroughFinish (handlePing environment args) ↔
      args = [] ∨ ∃ host arguments, split (extractPlainText args) = host :: arguments ∧
        ValuesParse environment.int arguments := by
  by_cases present : args = []
  · subst present
    exact ⟨fun _ => .inl rfl, fun _ => finish_ends _⟩
  simp only [present, false_or]
  cases tokens : split (extractPlainText args) with
  | nil =>
      rw [handlePing_of_silent present tokens]
      exact iff_of_false (not_ends_of_returned rfl) (by simp)
  | cons host arguments =>
      simp only [List.cons.injEq, ← argumentLoop_succeeds_iff environment.int _ {}]
      cases parsed : argumentLoop environment.int arguments {} with
      | error exn =>
          rw [handlePing_of_unparsed tokens parsed]
          apply iff_of_false
          · apply Procedure.not_endsWith_of_result rfl
            exact fun same => argumentLoop_error parsed (Except.error.inj same)
          · intro impossible
            obtain ⟨_, _, ⟨rfl, rfl⟩, _, succeeds⟩ := impossible
            rw [parsed] at succeeds
            simp at succeeds
      | ok options =>
          obtain ⟨startMsg, run⟩ := handlePing_of_parsed tokens parsed
          refine ⟨fun _ => ⟨_, _, ⟨rfl, rfl⟩, options, parsed⟩, fun _ => ?_⟩
          rw [run]
          obtain ⟨notes, selected, _⟩ | ⟨finished, _⟩ :=
            @selectFamilies_cases environment host options startMsg
          · rw [selected, Procedure.pure_bind]
            exact .of_bind rfl (testFamilies_ends _ _)
          · rw [finished]
            exact ⟨rfl, _, rfl, _, rfl⟩

end Ping

section Whois

/-- The join succeeds exactly on what can be joined. -/
theorem joinItems_succeeds_iff (index : Nat) (items : List Json) :
    (∃ texts, Json.joinItems index items = .ok texts) ↔
      ∀ item ∈ items, ∃ text, item = .str text := by
  induction items generalizing index with
  | nil => simp [Json.joinItems]
  | cons item items ih =>
      rw [Json.joinItems, List.forall_mem_cons, ← ih (index + 1)]
      cases item with
      | str text =>
          cases Json.joinItems (index + 1) items <;> simp [Json.joinItem, bind, Except.bind, pure,
            Except.pure]
      | _ => simp [Json.joinItem, bind, Except.bind]

theorem join_succeeds_iff (separator : String) (value : Json) :
    (∃ text, value.join separator = .ok text) ↔ Joinable value := by
  have joins (items : List Json) (elements : value.elements = .ok items) :
      (∃ text, value.join separator = .ok text) ↔ ∀ item ∈ items, ∃ text, item = .str text := by
    rw [← joinItems_succeeds_iff 0, Json.join, elements]
    change (∃ text, (Json.joinItems 0 items >>= fun texts =>
      pure (separator.intercalate texts)) = Except.ok text) ↔ _
    cases Json.joinItems 0 items <;> simp [bind, Except.bind, pure, Except.pure]
  cases value with
  | str text =>
      rw [joins _ rfl]
      simp [Joinable]
  | arr items => exact joins items rfl
  | obj fields =>
      rw [joins _ rfl]
      simp only [Joinable, List.forall_mem_map, iff_true]
      exact fun field _ => ⟨field.1, rfl⟩
  | _ => simp [Json.join, Json.elements, Joinable, bind, Except.bind]

theorem get_obj (fields : JsonObject) (key : String) (default : Json) :
    (Json.obj fields).get key default = pure (field fields key default) := rfl

/-- A list is shown if it is empty or can be joined. -/
theorem whoisList_succeeds_iff (info : JsonObject) (key : String) :
    (∃ text, whoisList (.obj info) key = .ok text) ↔
      ((field info key .null).truthy = true → Joinable (field info key .null)) := by
  have shown : whoisList (.obj info) key =
      if (field info key .null).truthy = true then (field info key (.arr [])).join ", "
      else .ok "N/A" := rfl
  rw [shown]
  split
  · next truthy =>
      -- A value that is not empty is present, so the default does not matter.
      have present : field info key (.arr []) = field info key .null := by
        unfold field at truthy ⊢
        cases found : info.lookup key with
        | none => simp [found, Json.truthy] at truthy
        | some value => rfl
      rw [present, join_succeeds_iff]
      simp only [truthy, true_imp_iff]
  · next falsy => simp [falsy]

/-- Behind its two objects the report depends on the two lists alone. -/
theorem formatWhoisResult_of_objects (format : Json → String) {result data info : JsonObject}
    (isData : field result "data" (.obj []) = .obj data)
    (isInfo : field data "info" (.obj []) = .obj info) :
    ∃ report : String → String → String, formatWhoisResult format result =
      (whoisList (.obj info) "domain_status" >>= fun domainStatus =>
        whoisList (.obj info) "name_server" >>= fun nameServer =>
          pure (report domainStatus nameServer)) := by
  simp only [formatWhoisResult, get_obj, pure_bind, isData, isInfo]
  exact ⟨_, rfl⟩

theorem get_error {value : Json} (other : ∀ fields, value ≠ .obj fields) (key : String)
    (default : Json) : ∃ e, value.get key default = .error e := by
  cases value with
  | obj fields => exact absurd rfl (other fields)
  | _ => exact ⟨_, rfl⟩

theorem error_bind {α β : Type} (e : String) (next : α → Except String β) :
    (Except.error e >>= next) = .error e := rfl

/-- A result can be shown exactly when it has the shape of a WHOIS result. -/
theorem formatWhoisResult_succeeds_iff (format : Json → String) (result : JsonObject) :
    (∃ text, formatWhoisResult format result = .ok text) ↔ WhoisShape result := by
  by_cases isData : ∃ data, field result "data" (.obj []) = .obj data
  · obtain ⟨data, isData⟩ := isData
    by_cases isInfo : ∃ info, field data "info" (.obj []) = .obj info
    · obtain ⟨info, isInfo⟩ := isInfo
      obtain ⟨report, isReport⟩ := formatWhoisResult_of_objects format isData isInfo
      have shape : WhoisShape result ↔
          (∃ text, whoisList (.obj info) "domain_status" = .ok text) ∧
            ∃ text, whoisList (.obj info) "name_server" = .ok text := by
        simp only [whoisList_succeeds_iff]
        apply Iff.intro
        · rintro ⟨_, _, sameData, sameInfo, lists⟩
          obtain rfl := Json.obj.inj (isData.symm.trans sameData)
          obtain rfl := Json.obj.inj (isInfo.symm.trans sameInfo)
          exact ⟨lists _ List.mem_cons_self, lists _ (List.mem_cons_of_mem _ List.mem_cons_self)⟩
        · rintro ⟨status, server⟩
          refine ⟨data, info, isData, isInfo, ?_⟩
          rw [List.forall_mem_cons, List.forall_mem_singleton]
          exact ⟨status, server⟩
      rw [shape, isReport]
      cases whoisList (.obj info) "domain_status" <;> cases whoisList (.obj info) "name_server" <;>
        simp [bind, Except.bind, pure, Except.pure]
    · obtain ⟨e, missing⟩ := get_error (fun fields same => isInfo ⟨fields, same⟩)
        "registrar_name" .null
      apply iff_of_false
      · simp [formatWhoisResult, get_obj, isData, missing, error_bind]
      · intro shape
        obtain ⟨_, info, same, present, _⟩ := shape
        obtain rfl := Json.obj.inj (isData.symm.trans same)
        exact isInfo ⟨info, present⟩
  · obtain ⟨e, missing⟩ := get_error (fun fields same => isData ⟨fields, same⟩) "info" (.obj [])
    apply iff_of_false
    · simp [formatWhoisResult, get_obj, missing, error_bind]
    · intro shape
      obtain ⟨data, _, present, _⟩ := shape
      exact isData ⟨data, present⟩

variable {environment : Environment} {args : Message} {domain : String} {arguments : List String}

/-- The raw option may stand anywhere behind the domain. -/
theorem whoisArguments_result (arguments : List String) (raw : Bool) :
    (whoisArguments arguments raw).result = .ok (raw || "--raw" ∈ arguments) := by
  induction arguments generalizing raw with
  | nil => simp [whoisArguments, pure]
  | cons argument rest ih =>
      rw [whoisArguments]
      split
      · next isRaw =>
          rw [Procedure.bind_of_ok rfl]
          simp only
          rw [ih, isRaw]
          simp
      · next other =>
          rw [ih]
          simp [Ne.symm other]

/-- A result with the right shape is finished exactly when its status is one. -/
theorem finishWhois_eq {result data : JsonObject} (formattedResult : String)
    (isData : field result "data" (.obj []) = .obj data) :
    finishWhois domain formattedResult result =
      if (field result "status" .null).equalsOne then
        if (field data "is_available" .null).equalsOne then
          finish (.text s!"域名 {domain} 可能未被注册。")
        else finish (.text s!"Whois 查询结果:\n{formattedResult}")
      else pure () := by
  simp only [finishWhois, get_obj, isData]
  rfl

theorem sendRawData_result {result data : JsonObject}
    (isData : field result "data" (.obj []) = .obj data) :
    (sendRawData environment result).result = .ok () := by
  simp only [sendRawData, get_obj, isData]
  rfl

variable {raw : Bool}

theorem showWhois_of_unanswered {e : String}
    (unanswered : whoisQuery environment.get domain raw = .error e) :
    (showWhois environment domain raw).result = .error (.error e) := by
  simp only [showWhois, unanswered]
  rfl

theorem showWhois_of_unshown {result : JsonObject} {e : String}
    (answered : whoisQuery environment.get domain raw = .ok result)
    (unshown : formatWhoisResult environment.format result = .error e) :
    (showWhois environment domain raw).result = .error (.error e) := by
  simp only [showWhois, answered, Except.mapError, Procedure.ofExcept_ok_bind, unshown]
  rfl

/-- A result that can be shown leaves the ending to its status. -/
theorem showWhois_of_shown {result data : JsonObject} {formattedResult : String}
    (answered : whoisQuery environment.get domain raw = .ok result)
    (shown : formatWhoisResult environment.format result = .ok formattedResult)
    (isData : field result "data" (.obj []) = .obj data) :
    ∃ actions, showWhois environment domain raw =
      ⟨actions ++ (finishWhois domain formattedResult result).actions,
        (finishWhois domain formattedResult result).result⟩ := by
  simp only [showWhois, answered, Except.mapError, Procedure.ofExcept_ok_bind, shown]
  cases raw with
  | false => exact ⟨_, rfl⟩
  | true =>
      simp only [if_pos]
      rw [Procedure.bind_of_ok (sendRawData_result isData), send, Procedure.perform_bind]
      exact ⟨_ :: _, rfl⟩

/-- The query ends with a final message unless a shown result has another status than one. -/
theorem tryWhois_cases (raw : Bool) (otherwise : String → Handler Unit)
    (ends : ∀ e, EndsThroughFinish (otherwise e)) :
    EndsThroughFinish (tryExcept (showWhois environment domain raw) otherwise (pure ())) ∧
        (∀ result, whoisQuery environment.get domain raw = .ok result → WhoisShape result →
          (field result "status" .null).equalsOne = true) ∨
      (tryExcept (showWhois environment domain raw) otherwise (pure ())).result = .ok () ∧
        ∃ result, whoisQuery environment.get domain raw = .ok result ∧ WhoisShape result ∧
          (field result "status" .null).equalsOne = false := by
  cases answered : whoisQuery environment.get domain raw with
  | error e =>
      left
      rw [tryExcept_error _ _ _ (showWhois_of_unanswered answered)]
      exact ⟨(ends e).behind, by simp⟩
  | ok result =>
      simp only [Except.ok.injEq, forall_eq', exists_eq_left']
      have shape := formatWhoisResult_succeeds_iff environment.format result
      cases shown : formatWhoisResult environment.format result with
      | error e =>
          left
          rw [tryExcept_error _ _ _ (showWhois_of_unshown answered shown)]
          refine ⟨(ends e).behind, fun isShape => ?_⟩
          obtain ⟨text, succeeds⟩ := shape.mpr isShape
          rw [shown] at succeeds
          simp at succeeds
      | ok formattedResult =>
          have isShape := shape.mp ⟨formattedResult, shown⟩
          have ⟨data, info, isData, _⟩ := isShape
          obtain ⟨actions, run⟩ := showWhois_of_shown answered shown isData
          rw [finishWhois_eq formattedResult isData] at run
          cases one : (field result "status" .null).equalsOne with
          | true =>
              rw [one, if_pos rfl] at run
              left
              have finished : EndsThroughFinish (showWhois environment domain raw) := by
                rw [run]
                split <;> exact (finish_ends _).behind
              rw [tryExcept_finished _ _ _ finished.1]
              exact ⟨⟨rfl, finished.2⟩, fun _ => rfl⟩
          | false =>
              rw [one, if_neg (by decide)] at run
              right
              rw [tryExcept_ok _ _ _ (by rw [run]; rfl)]
              exact ⟨rfl, isShape, rfl⟩

/-- The whois command ends with a final message exactly when it is empty, or it has a domain and
the query fails, or its result has another shape or the status one. -/
theorem handleWhois_ends_iff (environment : Environment) (args : Message) :
    EndsThroughFinish (handleWhois environment args) ↔
      args = [] ∨ ∃ domain arguments, split (extractPlainText args) = domain :: arguments ∧
        ∀ result, whoisQuery environment.get domain (decide ("--raw" ∈ arguments)) = .ok result →
          WhoisShape result → (field result "status" .null).equalsOne = true := by
  by_cases present : args = []
  · subst present
    exact ⟨fun _ => .inl rfl, fun _ => finish_ends _⟩
  simp only [present, false_or]
  rw [handleWhois, if_pos present]
  cases tokens : split (extractPlainText args) with
  | nil => exact iff_of_false (not_ends_of_returned rfl) (by simp)
  | cons domain arguments =>
      have read := whoisArguments_result arguments false
      rw [Bool.false_or] at read
      simp only [List.cons.injEq]
      obtain ⟨ends, holds⟩ | ⟨returned, result, answered, isShape, other⟩ :=
        @tryWhois_cases environment domain (decide ("--raw" ∈ arguments)) _ fun e => finish_ends
          (.text s!"执行 whois 命令时出错: {e}, 这可能是由于查询失败导致的。")
      · exact iff_of_true (.of_bind read ends) ⟨domain, arguments, ⟨rfl, rfl⟩, holds⟩
      · apply iff_of_false
        · rw [Procedure.bind_of_ok read]
          exact not_ends_of_returned returned
        · intro final
          obtain ⟨_, _, ⟨rfl, rfl⟩, holds⟩ := final
          rw [holds result answered isShape] at other
          simp at other

end Whois

/-- Each command ends with a final message exactly when its input takes no path without one. -/
theorem commands_end_iff (environment : Environment) (args : Message) :
    (EndsThroughFinish (handlePing environment args) ↔
      args = [] ∨ ∃ host arguments, split (extractPlainText args) = host :: arguments ∧
        ValuesParse environment.int arguments) ∧
    (EndsThroughFinish (handleWhois environment args) ↔
      args = [] ∨ ∃ domain arguments, split (extractPlainText args) = domain :: arguments ∧
        ∀ result, whoisQuery environment.get domain (decide ("--raw" ∈ arguments)) = .ok result →
          WhoisShape result → (field result "status" .null).equalsOne = true) :=
  ⟨handlePing_ends_iff environment args, handleWhois_ends_iff environment args⟩

/-- A picture and a result without data end in silence, and a bad option value escapes. -/
theorem commands_end_silently :
    ¬ EndsThroughFinish (handlePing quietEnvironment [.other]) ∧
      ¬ EndsThroughFinish (handlePing quietEnvironment [.text "example.com -i abc"]) ∧
      ¬ EndsThroughFinish (handleWhois quietEnvironment [.text "example.com"]) := by
  have picture : (handlePing quietEnvironment [.other]).result = .ok () := by rfl
  have escape : (handlePing quietEnvironment [.text "example.com -i abc"]).result =
      .error (.valueError "invalid literal for int() with base 10: 'abc'") := by rfl
  have noData : (handleWhois quietEnvironment [.text "example.com"]).result = .ok () := by rfl
  exact ⟨not_ends_of_returned picture, Procedure.not_endsWith_of_result escape (by simp),
    not_ends_of_returned noData⟩

end NetworkTools
