/-
This file proves that a typed ping command reports the exchanges on its network.
-/

import NetworkTools.Proof.Command.Transcript
import NetworkTools.Proof.Run.Report
import NetworkTools.Proof.Run.Transcript

namespace NetworkTools
open Library Specification

section Entries

variable {ip : IpType} {network : Network} {destination : Address} {dest : String}
  {count ttl timeout : Int}

theorem ping_of_transcribes {rounds : List (Round ip)} {run : PingRun ip}
    (isRun : pingRun ip network dest count ttl (ofMilliseconds timeout) = run)
    (transcribes : Transcribes network destination (ofMilliseconds timeout) count.toNat 0
      ⟨0, network.ready⟩ run rounds) :
    ping ip network dest count ttl timeout =
      entriesOf network destination (ofMilliseconds timeout) rounds run.failure := by
  cases failure : run.failure with
  | some what => exact ping_of_failed (isRun ▸ failure)
  | none =>
      have returned : asyncPing ip network dest count ttl (ofMilliseconds timeout) =
          .ok (run.probes.map Probe.compose) := by
        simp only [asyncPing, isRun, failure]
      rw [ping_of_returned returned, transcribes.probes, entriesOf, List.map_map]
      rfl

end Entries

section Commands

variable {environment : Environment} {args : Message} {host : String} {options : PingOptions}
  {ip : IpType}

/-- A command for one family tests this family and nothing else. -/
theorem handlePing_sole {arguments : List String}
    (tokens : split (extractPlainText args) = host :: arguments)
    (parsed : argumentLoop environment.int arguments {} = .ok options)
    (alone : ∀ other, selects environment host options other = decide (ip = other)) :
    ∃ note, handlePing environment args =
      ⟨.send (.text (announcement host options ++ note)) :: soleTest environment host options ip,
        .error .finished⟩ := by
  obtain ⟨transcript, ended⟩ := handlePing_transcript tokens parsed
  cases handled : handlePing environment args with
  | mk actions result =>
      rw [handled] at transcript ended
      obtain rfl : result = .error .finished := ended
      cases transcript with
      | rejected none =>
          have isSelected := alone ip
          rw [none ip, decide_eq_true rfl] at isSelected
          cases isSelected
      | sole other note alsoAlone =>
          have isSelected := alone other
          rw [alsoAlone other, decide_eq_true rfl] at isSelected
          obtain rfl := of_decide_eq_true isSelected.symm
          exact ⟨note, rfl⟩
      | paired note both =>
          have first := of_decide_eq_true ((alone .useIpv4).symm.trans (both .useIpv4))
          have second := of_decide_eq_true ((alone .useIpv6).symm.trans (both .useIpv6))
          cases first.symm.trans second

/-- The last message of a typed command for one family reports the only rounds that its network
plays, or the failure behind them. -/
theorem handlePing_played {groups : List OptionGroup} {networks : IpType → Network}
    {destination : Address}
    (inverts : Inverts environment.int groups)
    (extension : environment.ping = extensionPing networks)
    (types : Types args (commandTokens host groups))
    (alone : ∀ other,
      selects environment host (requestedOptions groups) other = decide (ip = other))
    (fits : FitsInt (requestedOptions groups).count ∧ FitsInt (requestedOptions groups).ttl ∧
      FitsInt (requestedOptions groups).timeout)
    (positive : 0 < (requestedOptions groups).count) (hops : 0 < (requestedOptions groups).ttl)
    (opened : (networks ip).openSocket = .ok ())
    (resolved : (networks ip).resolve host = .ok destination)
    (configured : (networks ip).setHops (requestedOptions groups).ttl = .ok ()) :
    ∃ note, ∃! rounds : List (Round ip), ∃ failure,
      Plays (networks ip) (ofMilliseconds (requestedOptions groups).timeout) 0
          ⟨0, (networks ip).ready⟩ rounds ∧
        EndsBehind (networks ip) (requestedOptions groups).count.toNat 0 rounds.length failure ∧
        handlePing environment args =
          ⟨[.send (.text (announcement host (requestedOptions groups) ++ note)), .probe ip,
              .finish (.report "" (formatPingResult (entriesOf (networks ip) destination
                (ofMilliseconds (requestedOptions groups).timeout) rounds failure)))],
            .error .finished⟩ := by
  have parsed : argumentLoop environment.int (groups.flatMap OptionGroup.render) {} =
      .ok (requestedOptions groups) := by
    rw [argumentLoop_groups inverts, foldl_applyGroup]
  obtain ⟨note, handled⟩ := handlePing_sole (split_of_types types) parsed alone
  generalize requestedOptions groups = options at *
  have loops := @pingRun_eq_pingLoop ip (networks ip) host options.count options.ttl
    (ofMilliseconds options.timeout) destination positive hops opened resolved configured
  obtain ⟨rounds, transcribes⟩ := exists_transcribes ip (networks ip) destination
    (ofMilliseconds options.timeout) options.count.toNat 0 ⟨0, (networks ip).ready⟩
  have result : outcome environment host options ip =
      .ok (ping ip (networks ip) host options.count options.ttl options.timeout) := by
    rw [outcome, extension]
    exact if_pos fits
  have heading : familyHeading false ip = "" := by cases ip <;> rfl
  rw [soleTest, result, familyMessage, heading, ping_of_transcribes loops transcribes] at handled
  refine ⟨note, rounds, ⟨_, transcribes.played, transcribes.ending, handled⟩, ?_⟩
  rintro others ⟨failure, played, ending, _⟩
  have also : Transcribes (networks ip) destination (ofMilliseconds options.timeout)
      options.count.toNat 0 ⟨0, (networks ip).ready⟩
      ⟨probesOf (networks ip) destination (ofMilliseconds options.timeout) 0
        ⟨0, (networks ip).ready⟩ others, failure⟩ others := ⟨played, rfl, ending⟩
  rw [pingLoop_of_transcribes also] at transcribes
  exact transcribes_unique also transcribes

/-- The bot tests a host that answers the first request. -/
def answeringEnvironment : Environment :=
  { quietEnvironment with ping := extensionPing fun _ => answeredNetwork }

/-- A command that forces one family reports both of its rounds. -/
theorem handlePing_played_answered :
    ∃ note, ∃! rounds : List (Round .useIpv4), ∃ failure,
      Plays answeredNetwork (ofMilliseconds (requestedOptions [.forceIpv4, .count 2]).timeout) 0
          ⟨0, answeredNetwork.ready⟩ rounds ∧
        EndsBehind answeredNetwork (requestedOptions [.forceIpv4, .count 2]).count.toNat 0
          rounds.length failure ∧
        handlePing answeringEnvironment [.text "host -4 2"] =
          ⟨[.send (.text (announcement "host" (requestedOptions [.forceIpv4, .count 2]) ++ note)),
              .probe .useIpv4,
              .finish (.report "" (formatPingResult (entriesOf answeredNetwork (.v4 hostAddress)
                (ofMilliseconds (requestedOptions [.forceIpv4, .count 2]).timeout) rounds
                failure)))],
            .error .finished⟩ := by
  have types : Types [.text "host -4 2"] (commandTokens "host" [.forceIpv4, .count 2]) :=
    splitWords_eq_iff.mp (by decide +kernel)
  have positive : 0 < (requestedOptions [.forceIpv4, .count 2]).count := by decide
  have hops : 0 < (requestedOptions [.forceIpv4, .count 2]).ttl := by decide
  have fits : FitsInt (requestedOptions [.forceIpv4, .count 2]).count ∧
      FitsInt (requestedOptions [.forceIpv4, .count 2]).ttl ∧
        FitsInt (requestedOptions [.forceIpv4, .count 2]).timeout := by
    decide
  have alone (other : IpType) : selects answeringEnvironment "host"
      (requestedOptions [.forceIpv4, .count 2]) other = decide (IpType.useIpv4 = other) := by
    cases other <;> rfl
  exact @handlePing_played answeringEnvironment [.text "host -4 2"] "host" .useIpv4
    [.forceIpv4, .count 2] (fun _ => answeredNetwork) (.v4 hostAddress)
    (fun _ _ value _ => decimalInt_toString value) rfl types alone fits positive hops rfl rfl rfl

end Commands

end NetworkTools
