/-
This file proves that the clients of a host run side by side without a trace of each other.
-/

import NetworkTools.Library.Observer
import NetworkTools.Proof.Client.Attribution
import NetworkTools.Specification.Views

namespace NetworkTools
open Library Specification

section Views

variable {host twin next : Host} {event : HostEvent} {number : Nat}

theorem viewOf_setClient (host : Host) (number : Nat) (sockets : Broadcast (List UInt8))
    (client : IcmpClient) :
    (Host.setClient { host with sockets := sockets } number client).viewOf number =
      ⟨host.clock, sockets.log, sockets.queue number, client⟩ := by
  simp only [Host.viewOf, Host.setClient, Function.update_self]

theorem viewOf_setClient_of_ne {other : Nat} (apart : number ≠ other)
    (sockets : Broadcast (List UInt8)) (client : IcmpClient) :
    (Host.setClient { host with sockets := sockets } other client).viewOf number =
      ⟨host.clock, sockets.log, sockets.queue number, host.client number⟩ := by
  simp only [Host.viewOf, Host.setClient, Function.update_of_ne apart]

theorem EndsWait.client?_eq {deadline : Option ℚ} {done : Bool}
    {result : Except CallError EchoResult}
    (ends : EndsWait host number deadline done event result) : event.client? = some number := by
  cases ends with
  | expired => rfl
  | cancelled => rfl

/-- A wait ends the same way at each host with this clock. -/
theorem EndsWait.of_clock {deadline : Option ℚ} {done : Bool}
    {result : Except CallError EchoResult} (ends : EndsWait host number deadline done event result)
    (same : host.clock = twin.clock) : EndsWait twin number deadline done event result := by
  cases ends with
  | expired isDeadline passed => exact .expired isDeadline (same ▸ passed)
  | cancelled => exact .cancelled

theorem eq_of_concerns {other : Nat} (visible : event.concerns number = true)
    (isClient : event.client? = some other) : other = number := by
  rw [HostEvent.concerns, isClient] at visible
  simpa using visible

/-- A client does not see what another one does. -/
theorem viewOf_of_hidden (hidden : event.concerns number = false)
    (stepped : host.step event = some next) : next.viewOf number = host.viewOf number := by
  have apart {other : Nat} (isClient : event.client? = some other) : number ≠ other := by
    rintro rfl
    rw [HostEvent.concerns, isClient] at hidden
    simp at hidden
  cases step_eq_some_iff.mp stepped with
  | entered =>
      rw [viewOf_setClient_of_ne (apart rfl)]
      simp only [Broadcast.subscribe, Function.update_of_ne (apart rfl), Host.viewOf]
  | exited =>
      simp only [Host.viewOf, Broadcast.unsubscribe, Function.update_of_ne (apart rfl)]
  | raised => exact viewOf_setClient_of_ne (apart rfl) host.sockets _
  | called => exact viewOf_setClient_of_ne (apart rfl) host.sockets _
  | resolved => exact viewOf_setClient_of_ne (apart rfl) host.sockets _
  | unresolved => exact viewOf_setClient_of_ne (apart rfl) host.sockets _
  | sent => exact viewOf_setClient_of_ne (apart rfl) host.sockets _
  | unsent => exact viewOf_setClient_of_ne (apart rfl) host.sockets _
  | received =>
      rw [viewOf_setClient_of_ne (apart rfl)]
      simp only [Broadcast.drop, Function.update_of_ne (apart rfl), Host.viewOf]
  | failed => exact viewOf_setClient_of_ne (apart rfl) host.sockets _
  | unanswered _ ends => exact viewOf_setClient_of_ne (apart ends.client?_eq) host.sockets _
  | lost _ _ ends =>
      rw [viewOf_setClient_of_ne (apart ends.client?_eq)]
      simp only [Broadcast.drop, Function.update_of_ne (apart ends.client?_eq), Host.viewOf]
  | unresolvedCancelled => exact viewOf_setClient_of_ne (apart rfl) host.sockets _
  | sendCancelled => exact viewOf_setClient_of_ne (apart rfl) host.sockets _
  | arrived => cases hidden
  | passed => cases hidden

/-- An event that a client sees does the same at each host that looks the same to it. -/
theorem viewOf_of_visible (visible : event.concerns number = true)
    (same : host.viewOf number = twin.viewOf number) (stepped : host.step event = some next) :
    ∃ after, twin.step event = some after ∧ after.viewOf number = next.viewOf number := by
  obtain ⟨clock, log, queue, client⟩ := ClientView.mk.inj same
  have own {other : Nat} : event.client? = some other → other = number := eq_of_concerns visible
  have kept (changed : IcmpClient) : (twin.setClient number changed).viewOf number =
      (host.setClient number changed).viewOf number := by
    refine (viewOf_setClient twin number twin.sockets changed).trans ?_
    rw [← clock, ← log, ← queue]
    exact (viewOf_setClient host number host.sockets changed).symm
  cases step_eq_some_iff.mp stepped with
  | entered closed =>
      obtain rfl := own rfl
      refine ⟨_, step_eq_some_iff.mpr (.entered (queue ▸ closed)), ?_⟩
      rw [viewOf_setClient, viewOf_setClient, clock, client]
      simp only [Broadcast.subscribe, Function.update_self, log]
  | exited idle =>
      obtain rfl := own rfl
      refine ⟨_, step_eq_some_iff.mpr (.exited (client ▸ idle)), ?_⟩
      simp only [Host.viewOf, Broadcast.unsubscribe, Function.update_self, clock, log, client]
  | raised idle closed =>
      obtain rfl := own rfl
      refine ⟨_, step_eq_some_iff.mpr (.raised (client ▸ idle) (client ▸ closed) _ _ _), ?_⟩
      rw [← client]
      exact kept _
  | called idle isOpen =>
      obtain rfl := own rfl
      refine ⟨_, step_eq_some_iff.mpr (.called (client ▸ idle) (client ▸ isOpen) _ _ _), ?_⟩
      rw [← client]
      exact kept _
  | resolved resolving isPending destIp others timestamp =>
      obtain rfl := own rfl
      refine ⟨_, step_eq_some_iff.mpr (.resolved (client ▸ resolving) (queue ▸ isPending)
        destIp others timestamp), ?_⟩
      rw [← client, ← clock]
      exact kept _
  | unresolved resolving refused timestamp =>
      obtain rfl := own rfl
      refine ⟨_, step_eq_some_iff.mpr (.unresolved (client ▸ resolving) (queue ▸ refused)
        timestamp), ?_⟩
      rw [← client]
      exact kept _
  | sent sending =>
      obtain rfl := own rfl
      refine ⟨_, step_eq_some_iff.mpr (.sent (client ▸ sending)), ?_⟩
      rw [← client, ← clock]
      exact kept _
  | unsent sending e =>
      obtain rfl := own rfl
      refine ⟨_, step_eq_some_iff.mpr (.unsent (client ▸ sending) e), ?_⟩
      rw [← client]
      exact kept _
  | received waiting isPending =>
      obtain rfl := own rfl
      refine ⟨_, step_eq_some_iff.mpr (.received (client ▸ waiting) (queue ▸ isPending)), ?_⟩
      rw [viewOf_setClient, viewOf_setClient, clock, client]
      simp only [Broadcast.drop, Broadcast.position, Function.update_self, log, queue]
  | failed waiting =>
      obtain rfl := own rfl
      refine ⟨_, step_eq_some_iff.mpr (.failed (client ▸ waiting)), ?_⟩
      rw [← client]
      exact kept _
  | unanswered waiting ends =>
      obtain rfl := own ends.client?_eq
      refine ⟨_, step_eq_some_iff.mpr (.unanswered (client ▸ waiting) (ends.of_clock clock)), ?_⟩
      rw [← client]
      exact kept _
  | lost waiting isPending ends =>
      obtain rfl := own ends.client?_eq
      refine ⟨_, step_eq_some_iff.mpr (.lost (client ▸ waiting) (queue ▸ isPending)
        (ends.of_clock clock)), ?_⟩
      rw [viewOf_setClient, viewOf_setClient, clock, client]
      simp only [Broadcast.drop, Broadcast.position, Function.update_self, log, queue]
  | unresolvedCancelled resolving done =>
      obtain rfl := own rfl
      refine ⟨_, step_eq_some_iff.mpr (.unresolvedCancelled (client ▸ resolving) done), ?_⟩
      rw [← client]
      exact kept _
  | sendCancelled sending done =>
      obtain rfl := own rfl
      refine ⟨_, step_eq_some_iff.mpr (.sendCancelled (client ▸ sending) done), ?_⟩
      rw [← client]
      exact kept _
  | arrived datagram =>
      refine ⟨_, step_eq_some_iff.mpr (.arrived datagram), ?_⟩
      simp only [Host.viewOf, Broadcast.publish, clock, log, queue, client]
  | passed nonneg =>
      refine ⟨_, step_eq_some_iff.mpr (.passed nonneg), ?_⟩
      simp only [Host.viewOf, clock, log, queue, client]

/-- Each client observes the host through its own view. -/
def clientObserver (number : Nat) : Observer Host.step ClientView where
  view := Host.viewOf number
  sees := HostEvent.concerns number
  hidden := viewOf_of_hidden
  visible := viewOf_of_visible

theorem run_eq_runSteps (host : Host) (events : List HostEvent) :
    host.run events = runSteps Host.step host events := by
  induction events generalizing host with
  | nil => rfl
  | cons event events ih =>
      rw [Host.run, runSteps]
      simp only [ih]

/-- The views of all clients make up the host. -/
theorem host_eq_of_views (same : ∀ number, host.viewOf number = twin.viewOf number) :
    host = twin := by
  have log : host.sockets.log = twin.sockets.log := congrArg ClientView.log (same 0)
  have queue : host.sockets.queue = twin.sockets.queue :=
    funext fun number => congrArg ClientView.queue (same number)
  have client : host.client = twin.client :=
    funext fun number => congrArg ClientView.client (same number)
  have clock : host.clock = twin.clock := congrArg ClientView.clock (same 0)
  have sockets : host.sockets = twin.sockets := by
    obtain ⟨_, ⟨_, _, _⟩, _⟩ := host
    obtain ⟨_, ⟨_, _, _⟩, _⟩ := twin
    subst log queue
    rfl
  obtain ⟨_, _, _⟩ := host
  obtain ⟨_, _, _⟩ := twin
  subst clock sockets client
  rfl

theorem attended (event : HostEvent) : ∃ number, event.concerns number = true := by
  cases isClient : event.client? with
  | none => exact ⟨0, by rw [HostEvent.concerns, isClient]; rfl⟩
  | some number => exact ⟨number, by rw [HostEvent.concerns, isClient]; simp⟩

end Views

/-- The second client does nothing before the request of the first one is out. -/
def serialEvents : List HostEvent :=
  [.enter 0, .call 0 "host" 64 (some 5),
    .resolved 0 (.ok [hostAddress]) (.ok ()) (Vector.replicate 8 0), .sent 0 (.ok ()), .enter 1,
    .call 1 "router" 64 (some 5),
    .resolved 1 (.ok [routerAddress]) (.ok ()) (Vector.replicate 8 0), .sent 1 (.ok ()),
    .arrive (firstReply hostAddress), .received 1, .received 0]

end NetworkTools
