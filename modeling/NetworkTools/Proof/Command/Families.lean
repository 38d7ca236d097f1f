/-
This file proves what the ping command reports of each address family.
-/

import NetworkTools.Proof.Command.Ending

namespace NetworkTools
open Library Specification

section Messages

theorem concerns_own (paired : Bool) (ip : IpType) (result : Except String (List PingEntry)) :
    concerns paired ip (familyMessage paired ip result) = true := by
  cases result with
  | ok entries => exact decide_eq_true rfl
  | error e =>
      simp only [familyMessage, concerns, String.toList_append, List.append_assoc,
        List.isPrefixOf_iff_prefix]
      exact List.prefix_append _ _

/-- The failures of both families start with texts of one length. -/
theorem familyFailure_apart {ip other : IpType} (apart : ip ≠ other) :
    (familyFailure true ip).toList.length = (familyFailure true other).toList.length ∧
      (familyFailure true ip).toList ≠ (familyFailure true other).toList := by
  cases ip <;> cases other
  · exact absurd rfl apart
  · exact ⟨by decide +kernel, by decide +kernel⟩
  · exact ⟨by decide +kernel, by decide +kernel⟩
  · exact absurd rfl apart

/-- A message of one family does not start like a message of the other. -/
theorem concerns_other {ip other : IpType} (apart : ip ≠ other)
    (result : Except String (List PingEntry)) :
    concerns true ip (familyMessage true other result) = false := by
  cases result with
  | ok entries =>
      cases ip <;> cases other
      · exact absurd rfl apart
      · exact decide_eq_false (show ¬ familyHeading true .useIpv6 =
          familyHeading true .useIpv4 by decide +kernel)
      · exact decide_eq_false (show ¬ familyHeading true .useIpv4 =
          familyHeading true .useIpv6 by decide +kernel)
      · exact absurd rfl apart
  | error e =>
      obtain ⟨sameLength, different⟩ := familyFailure_apart apart
      simp only [familyMessage, concerns, String.toList_append, List.append_assoc]
      rw [← Bool.not_eq_true, List.isPrefixOf_iff_prefix]
      intro starts
      exact different ((List.prefix_of_prefix_length_le starts (List.prefix_append _ _)
        (Nat.le_of_eq sameLength)).eq_of_length sameLength)

end Messages

section Families

variable {environment : Environment} {host : String} {options : PingOptions}

theorem concerns_notice (ip : IpType) :
    concerns true ip (.text "发现这是一个双栈地址，同时进行 IPv4 和 IPv6 测试。") = false := by
  cases ip <;> decide +kernel

theorem concerns_unrecognised (paired : Bool) (ip : IpType) :
    concerns paired ip unrecognised = false := by
  cases paired <;> cases ip <;> decide +kernel

theorem familyMessage_ne_unrecognised (paired : Bool) (ip : IpType)
    (result : Except String (List PingEntry)) : unrecognised ≠ familyMessage paired ip result := by
  intro same
  have own := concerns_own paired ip result
  rw [← same, concerns_unrecognised] at own
  exact absurd own (by decide)

/-- A family that is tested alone has its one message. -/
theorem reportsFamilies_sole (start : BotMessage) (ip : IpType)
    (selected : ∀ other, selects environment host options other = decide (ip = other)) :
    ReportsFamilies environment host options (.send start :: (testFamilies environment host options
      (ip = .useIpv4) (ip = .useIpv6)).actions) := by
  have alone : paired environment host options = false := by
    rw [paired, selected, selected]
    cases ip <;> rfl
  rw [testFamilies_sole]
  refine ⟨fun other isSelected => ?_, fun other probed => ?_, fun claimed => ?_⟩
  · rw [selected, decide_eq_true_eq] at isSelected
    subst isSelected
    rw [alone]
    exact List.filter_cons_of_pos (concerns_own _ _ _)
  · simp only [List.mem_cons, reduceCtorEq, false_or, BotAction.probe.injEq, List.not_mem_nil,
      or_false] at probed
    rw [selected, probed]
    exact decide_eq_true rfl
  · exact absurd (List.mem_singleton.mp claimed) (familyMessage_ne_unrecognised _ _ _)

/-- Two families have one message each unless the last test fails. -/
theorem reportsFamilies_paired_iff (start : BotMessage)
    (selected : ∀ ip, selects environment host options ip = true) :
    ReportsFamilies environment host options
        (.send start :: (testFamilies environment host options true true).actions) ↔
      ∃ result, outcome environment host options .useIpv6 = .ok result := by
  have both : paired environment host options = true := by
    rw [paired, selected, selected]
    rfl
  rw [testFamilies_paired]
  cases last : outcome environment host options .useIpv6 with
  | error e =>
      apply iff_of_false
      · intro reports
        have none := reports.recognised (by simp [messages]) .useIpv4
        rw [selected] at none
        exact absurd none (by decide)
      · simp
  | ok result =>
      refine iff_of_true ⟨fun ip _ => ?_, fun ip _ => selected ip, fun claimed => ?_⟩ ⟨_, rfl⟩
      · rw [both]
        change List.filter _ [_, familyMessage true .useIpv4 _, familyMessage true .useIpv6 _] = _
        rw [List.filter_cons_of_neg (by rw [concerns_notice]; decide)]
        cases ip with
        | useIpv4 =>
            rw [List.filter_cons_of_pos (concerns_own _ _ _), List.filter_cons_of_neg (by
              rw [concerns_other (by decide)]; decide), List.filter_nil]
        | useIpv6 =>
            rw [List.filter_cons_of_neg (by rw [concerns_other (by decide)]; decide), last,
              List.filter_cons_of_pos (concerns_own _ _ _), List.filter_nil]
      · change unrecognised ∈ [_, familyMessage true .useIpv4 _, familyMessage true .useIpv6 _]
          at claimed
        simp only [List.mem_cons, familyMessage_ne_unrecognised, List.not_mem_nil, or_false]
          at claimed
        exact absurd claimed (by decide +kernel)

end Families

/-- A parsed ping command reports each selected family once and nothing false exactly when it does
not select both families with a failing test of the second one. -/
theorem handlePing_reports_iff (environment : Environment) (args : Message) (host : String)
    (arguments : List String) (options : PingOptions)
    (tokens : split (extractPlainText args) = host :: arguments)
    (parsed : argumentLoop environment.int arguments {} = .ok options) :
    ReportsFamilies environment host options (handlePing environment args).actions ↔
      ¬ (selects environment host options .useIpv4 = true ∧
        selects environment host options .useIpv6 = true ∧
        ∃ e, environment.ping .useIpv6 host options.count options.ttl options.timeout =
          .error e) := by
  obtain ⟨startMsg, run⟩ := handlePing_of_parsed tokens parsed
  obtain ⟨notes, selected, some⟩ | ⟨finished, none⟩ :=
    @selectFamilies_cases environment host options startMsg
  · rw [run, selected, Procedure.pure_bind, send, Procedure.perform_bind]
    cases isIpv4 : selects environment host options .useIpv4 <;>
      cases isIpv6 : selects environment host options .useIpv6
    · simp [isIpv4, isIpv6] at some
    · refine iff_of_true (reportsFamilies_sole _ .useIpv6 fun other => ?_) (by simp)
      cases other <;> simp [isIpv4, isIpv6]
    · refine iff_of_true (reportsFamilies_sole _ .useIpv4 fun other => ?_) (by simp)
      cases other <;> simp [isIpv4, isIpv6]
    · rw [reportsFamilies_paired_iff _ fun ip => by cases ip <;> assumption]
      simp only [true_and]
      change (∃ result, environment.ping _ _ _ _ _ = _) ↔ _
      cases environment.ping .useIpv6 host options.count options.ttl options.timeout <;> simp
  · rw [run, finished, Procedure.bind_of_error rfl]
    refine iff_of_true ⟨fun ip isSelected => ?_, fun ip probed => ?_, fun claimed => ?_⟩ ?_
    · rw [none] at isSelected
      exact absurd isSelected (by decide)
    · simp at probed
    · simp [messages] at claimed
    · simp [none]

/-- A name with both records gets one report of each family. -/
theorem handlePing_reports_quiet :
    ReportsFamilies quietEnvironment "example.com" { count := 3 }
      (handlePing quietEnvironment [.text "example.com 3"]).actions :=
  (handlePing_reports_iff quietEnvironment [.text "example.com 3"] "example.com" ["3"] _
    (by decide +kernel) (by rfl)).mpr fun fails => by
      obtain ⟨_, _, e, raised⟩ := fails
      exact absurd raised (by simp [quietEnvironment, extensionPing, FitsInt])

/-- A count beyond the range of an integer fails in both families, and the handler then denies that
it recognised them. -/
theorem handlePing_denies :
    unrecognised ∈ (messages (handlePing quietEnvironment
        [.text "example.com 3000000000"]).actions).tail ∧
      ¬ ReportsFamilies quietEnvironment "example.com" { count := 3000000000 }
        (handlePing quietEnvironment [.text "example.com 3000000000"]).actions := by
  have denied : unrecognised ∈ (messages (handlePing quietEnvironment
      [.text "example.com 3000000000"]).actions).tail := by
    decide +kernel
  refine ⟨denied, fun reports => ?_⟩
  have none := reports.recognised denied .useIpv4
  exact absurd none (by decide +kernel)

end NetworkTools
