/-
This file proves that clients which are opened together take the same datagrams.
-/

import NetworkTools.Proof.Client.Delivery

namespace NetworkTools
open Library Specification

variable {host last : Host} {events : List HostEvent} {pending : List (List UInt8)} {number : Nat}

/-- An open client takes the datagrams from its opening on. -/
theorem drawnSince_eq_range (isOpen : host.sockets.queue number = some pending)
    (stays : ∀ event ∈ events, event ≠ .exit number) (ran : host.run events = some last) :
    ∃ drawn, drawnSince host last number =
      List.range' (host.sockets.position pending) drawn := by
  obtain ⟨drawn, session⟩ := (session_of_open isOpen).run stays ran
  obtain ⟨later, history, positions⟩ := session.history
  exact ⟨drawn, by rw [drawnSince, callsSince, history, List.drop_left, positions]⟩

/-- Clients that are opened together take the same datagrams off their sockets, each as far as it
gets. They also receive the same ones if no wait loses a datagram. -/
theorem clients_in_lockstep {first second : Nat}
    (firstOpen : host.sockets.queue first = some pending)
    (secondOpen : host.sockets.queue second = some pending)
    (stays : ∀ event ∈ events, event ≠ .exit first ∧ event ≠ .exit second)
    (ran : host.run events = some last) :
    (drawnSince host last first <+: drawnSince host last second ∨
      drawnSince host last second <+: drawnSince host last first) ∧
      (LosesNothing host last first → LosesNothing host last second →
        takenSince host last first <+: takenSince host last second ∨
          takenSince host last second <+: takenSince host last first) := by
  have isPrefix {few many : Nat} (fewer : few ≤ many) :
      List.range' (host.sockets.position pending) few <+:
        List.range' (host.sockets.position pending) many := by
    obtain ⟨rest, rfl⟩ := Nat.exists_eq_add_of_le fewer
    exact ⟨_, List.range'_append_1⟩
  obtain ⟨few, isFirst⟩ :=
    drawnSince_eq_range firstOpen (fun event present => (stays event present).1) ran
  obtain ⟨many, isSecond⟩ :=
    drawnSince_eq_range secondOpen (fun event present => (stays event present).2) ran
  have inStep : drawnSince host last first <+: drawnSince host last second ∨
      drawnSince host last second <+: drawnSince host last first := by
    rw [isFirst, isSecond]
    exact (Nat.le_total few many).imp isPrefix isPrefix
  refine ⟨inStep, fun firstLossless secondLossless => ?_⟩
  rw [takenSince, takenSince, received_eq_drawn firstLossless, received_eq_drawn secondLossless]
  exact inStep

/-- The clients of the two calls are opened before the reply comes, and both take it. -/
theorem clients_in_lockstep_shared :
    ∃ opened last, Host.start.run (sharedEvents.take 2) = some opened ∧
      opened.run (sharedEvents.drop 2) = some last ∧
      (drawnSince opened last 0 <+: drawnSince opened last 1 ∨
        drawnSince opened last 1 <+: drawnSince opened last 0) ∧
      (LosesNothing opened last 0 → LosesNothing opened last 1 →
        takenSince opened last 0 <+: takenSince opened last 1 ∨
          takenSince opened last 1 <+: takenSince opened last 0) := by
  have enters : (Host.start.run (sharedEvents.take 2)).map (fun opened =>
      (opened.sockets.queue 0, opened.sockets.queue 1)) = some (some [], some []) := by
    decide +kernel
  have runs : ((Host.start.run (sharedEvents.take 2)).bind fun opened =>
      opened.run (sharedEvents.drop 2)).isSome = true := by
    decide +kernel
  obtain ⟨opened, entered, isOpen⟩ := Option.map_eq_some_iff.mp enters
  obtain ⟨firstOpen, secondOpen⟩ := Prod.mk.inj isOpen
  rw [entered, Option.bind_some] at runs
  obtain ⟨last, ran⟩ := Option.isSome_iff_exists.mp runs
  exact ⟨opened, last, entered, ran,
    clients_in_lockstep firstOpen secondOpen (by simp [sharedEvents]) ran⟩

end NetworkTools
