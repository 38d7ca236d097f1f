/-
This file proves that a hop of the manager shows the first datagram that its clients meet.
-/

import NetworkTools.Proof.Client.Usage
import NetworkTools.Specification.Route

namespace NetworkTools
open Library Specification IcmpManager

section Replies

variable {manager : IcmpManager} {world : HopWorld} {addr source : String} {ttl : Int}

/-- What the rounds make of their replies. The first success names the hop. -/
structure Summarizes (world : HopWorld) (replies : List EchoResult) (state : HopState) : Prop where
  responseTimes : state.responseTimes = replies.map fun reply =>
    if reply.success then some reply.responseTime else none
  ipAddress : state.ipAddress = (replies.find? EchoResult.success).map EchoResult.srcIp
  hostname : state.hostname =
    (replies.find? EchoResult.success).bind fun reply => reverseDnsLookup world reply.srcIp
  finalStatus : state.finalStatus =
    if (replies.find? EchoResult.success).isSome then .success else .timeout

theorem Summarizes.round {replies : List EchoResult} {state : HopState}
    (summarizes : Summarizes world replies state) {reply : EchoResult}
    (named : reply.success = true → reply.srcIp ≠ "") :
    Summarizes world (replies ++ [reply]) (probeRound world state reply) := by
  obtain ⟨responseTimes, ipAddress, hostname, finalStatus⟩ := summarizes
  cases success : reply.success with
  | false =>
      simp only [probeRound, success, Bool.false_eq_true, if_false]
      constructor <;>
        simp [success, responseTimes, ipAddress, hostname, finalStatus]
  | true =>
      have isNamed := named success
      cases before : replies.find? EchoResult.success with
      | some first =>
          rw [before] at ipAddress hostname
          simp only [probeRound, success, if_true, ipAddress, Option.map_some, reduceCtorEq,
            if_false]
          constructor <;> simp [success, before, responseTimes, hostname]
      | none =>
          rw [before] at ipAddress
          simp only [probeRound, success, if_true, ipAddress, Option.map_none, isNamed, ne_eq,
            not_false_eq_true]
          constructor <;> simp [success, before, responseTimes]

theorem summarizes_foldl (replies : List EchoResult)
    (named : ∀ reply ∈ replies, reply.success = true → reply.srcIp ≠ "") :
    Summarizes world replies (replies.foldl (probeRound world) {}) := by
  induction replies using List.reverseRecOn with
  | nil => exact ⟨rfl, rfl, rfl, rfl⟩
  | append_singleton replies reply ih =>
      rw [List.foldl_append, List.foldl_cons, List.foldl_nil]
      apply (ih fun earlier present => named earlier (List.mem_append_left _ present)).round
      exact named reply (List.mem_append_right _ List.mem_cons_self)

/-- The source that the first success shows. -/
def firstSource (replies : List EchoResult) : String :=
  ((replies.find? EchoResult.success).map EchoResult.srcIp).getD "*"

theorem tracertHop_of_named {replies : Nat → EchoResult}
    (probes : ∀ i < 3, world.probe i addr ttl manager.timeout = .ok (replies i))
    (named : ∀ i < 3, (replies i).success = true → (replies i).srcIp ≠ "") :
    manager.tracertHop world addr ttl =
      .ok (hopOfReplies world (firstSource ((List.range 3).map replies)) ttl
        ((List.range 3).map replies)) := by
  have probed : manager.probeHop world addr ttl =
      .ok (((List.range 3).map replies).foldl (probeRound world) {}) := by
    simp only [probeHop, List.range_succ, List.range_zero, List.nil_append, List.cons_append,
      List.foldlM_cons, List.foldlM_nil, probes 0 (by decide), probes 1 (by decide),
      probes 2 (by decide)]
    rfl
  have isNamed : ∀ reply ∈ (List.range 3).map replies, reply.success = true →
      reply.srcIp ≠ "" := by
    intro reply present
    obtain ⟨i, inside, rfl⟩ := List.mem_map.mp present
    exact named i (List.mem_range.mp inside)
  have summary := @summarizes_foldl world _ isNamed
  rw [tracertHop, probed]
  revert summary isNamed
  generalize (List.range 3).map replies = listed
  generalize listed.foldl (probeRound world) {} = state
  rintro isNamed ⟨responseTimes, ipAddress, hostname, finalStatus⟩
  have anySuccess : listed.any EchoResult.success =
      (listed.find? EchoResult.success).isSome := by
    rw [Bool.eq_iff_iff, List.find?_isSome, List.any_eq_true]
  have silent : state.responseTimes.all (fun time => decide (time = none)) =
      !listed.any EchoResult.success := by
    rw [responseTimes, List.all_map, List.not_any_eq_all_not]
    apply congrArg listed.all
    funext reply
    cases success : reply.success <;> simp [success]
  change Except.ok _ = Except.ok _
  rw [silent, ipAddress, hostname, finalStatus, responseTimes, hopOfReplies, firstSource,
    anySuccess]
  cases first : listed.find? EchoResult.success with
  | some reply =>
      have nonempty := isNamed reply (List.mem_of_find?_eq_some first) (List.find?_some first)
      simp [Option.filter, nonempty]
  | none => simp [Option.filter]

/-- The source does not matter to a hop without a success. -/
theorem hopOfReplies_congr {other : String} (replies : List EchoResult)
    (same : ∀ reply ∈ replies, reply.success = true → source = other) :
    hopOfReplies world source ttl replies = hopOfReplies world other ttl replies := by
  cases answered : replies.any EchoResult.success with
  | true =>
      obtain ⟨reply, present, success⟩ := List.any_eq_true.mp answered
      rw [same reply present success]
  | false => simp only [hopOfReplies, answered, Bool.false_eq_true, if_false]

theorem tracertHop_of_replies {replies : Nat → EchoResult} (named : source ≠ "")
    (probes : ∀ i < 3, world.probe i addr ttl manager.timeout = .ok (replies i))
    (names : ∀ i < 3, (replies i).success = true → (replies i).srcIp = source) :
    manager.tracertHop world addr ttl =
      .ok (hopOfReplies world source ttl ((List.range 3).map replies)) := by
  have isNamed (i : Nat) (inside : i < 3) (success : (replies i).success = true) :
      (replies i).srcIp ≠ "" := by
    rw [names i inside success]
    exact named
  rw [tracertHop_of_named probes isNamed]
  apply congrArg Except.ok
  apply hopOfReplies_congr
  intro reply present success
  cases first : ((List.range 3).map replies).find? EchoResult.success with
  | none => exact absurd success (List.find?_eq_none.mp first reply present)
  | some answer =>
      obtain ⟨i, inside, rfl⟩ := List.mem_map.mp (List.mem_of_find?_eq_some first)
      rw [firstSource, first, Option.map_some, Option.getD_some]
      exact names i (List.mem_range.mp inside) (List.find?_some first)

end Replies

section Runs

variable {earlier events : List HostEvent} {host last : Host} {pending : List (List UInt8)}

theorem dottedQuad_ne_empty (first second : UInt8) (rest : List UInt8) :
    dottedQuad (first :: second :: rest) ≠ "" := by
  intro empty
  have length := congrArg String.length empty
  rw [dottedQuad, List.map_cons, List.map_cons, String.intercalate_cons_cons] at length
  simp at length

/-- A datagram that reaches beyond its source address has a source. -/
theorem sourceAt_ne_empty {position : Nat} {datagram : List UInt8}
    (arrived : last.sockets.log[position]? = some datagram) (reaches : 16 ≤ datagram.length) :
    sourceAt last position ≠ "" := by
  have four : ((datagram.take 16).drop 12).length = 4 := by
    rw [List.length_drop, List.length_take]
    omega
  rw [sourceAt, arrived, Option.getD_some]
  match isSlice : (datagram.take 16).drop 12 with
  | first :: second :: rest => exact dottedQuad_ne_empty first second rest
  | [] => rw [isSlice] at four; simp at four
  | [_] => rw [isSlice] at four; simp at four

/-- A reply shows the source of the datagram that it reports. -/
theorem srcIp_of_reportsArrival {position : Nat} {reply : EchoResult}
    (reports : ReportsArrival last.sockets.log position reply) :
    reply.srcIp = sourceAt last position ∧ sourceAt last position ≠ "" := by
  obtain ⟨record, datagram, reportsDatagram⟩ := reports
  have arrived := reportsDatagram.arrived
  refine ⟨?_, sourceAt_ne_empty arrived reportsDatagram.reaches⟩
  rw [sourceAt, arrived]
  exact reportsDatagram.srcIp

/-- The manager opens three clients for a hop and awaits one call of each. If they are opened
before the next datagram comes, then the hop shows the source of that datagram or nothing. -/
theorem tracertHop_refines {manager : IcmpManager} {world : HopWorld} {addr : String} {ttl : Int}
    {clients : Nat → Nat} {replies : Nat → EchoResult}
    (reached : Host.start.run earlier = some host)
    (opened : ∀ i < 3, host.sockets.queue (clients i) = some pending)
    (returns : ∀ i < 3, Returns host events (clients i) (replies i))
    (ran : host.run events = some last)
    (probes : ∀ i < 3, world.probe i addr ttl manager.timeout = .ok (replies i)) :
    manager.tracertHop world addr ttl =
      .ok (hopOfReplies world (sourceAt last (host.sockets.position pending)) ttl
        ((List.range 3).map replies)) := by
  have reports (i : Nat) (inside : i < 3) (success : (replies i).success = true) :=
    srcIp_of_reportsArrival
      (reportsArrival_of_returns reached (opened i inside) (returns i inside) ran success)
  by_cases answered : ∃ i < 3, (replies i).success = true
  · obtain ⟨i, inside, success⟩ := answered
    exact tracertHop_of_replies (reports i inside success).2 probes fun j within alsoSuccess =>
      (reports j within alsoSuccess).1
  · rw [tracertHop_of_named probes fun i inside success => absurd ⟨i, inside, success⟩ answered]
    apply congrArg Except.ok
    apply hopOfReplies_congr
    intro reply present success
    obtain ⟨i, inside, rfl⟩ := List.mem_map.mp present
    exact absurd ⟨i, List.mem_range.mp inside, success⟩ answered

end Runs

/-- The three clients of a hop enter their contexts. -/
def hopEnters : List HostEvent := [.enter 0, .enter 1, .enter 2]

/-- Each of them sends its request, and all of them take the only reply. -/
def hopEvents : List HostEvent :=
  [.call 0 "host" 1 (some 5), .call 1 "host" 1 (some 5), .call 2 "host" 1 (some 5),
    .resolved 0 (.ok [hostAddress]) (.ok ()) (Vector.replicate 8 0),
    .resolved 1 (.ok [hostAddress]) (.ok ()) (Vector.replicate 8 0),
    .resolved 2 (.ok [hostAddress]) (.ok ()) (Vector.replicate 8 0),
    .sent 0 (.ok ()), .sent 1 (.ok ()), .sent 2 (.ok ()), .arrive (firstReply hostAddress),
    .received 0, .received 1, .received 2]

def hopReply : EchoResult := echoResponse (firstReply hostAddress) 0 0

/-- Each probe of the hop brings this reply, and no name is known. -/
def hopWorld : HopWorld where
  probe _ _ _ _ := .ok hopReply
  getnameinfo _ := .error ""
  getaddrinfo _ := .error ""

theorem returns_of_results {host : Host} {events : List HostEvent} {number : Nat}
    {reply : EchoResult} (fresh : (host.client number).history = [])
    (stays : ∀ event ∈ events, event ≠ .exit number)
    (results : (host.run events).map (fun ended =>
      (ended.client number).history.map fun record => record.result.toOption) =
        some [some reply]) : Returns host events number reply := by
  obtain ⟨ended, ran, history⟩ := Option.map_eq_some_iff.mp results
  obtain ⟨record, isHistory, result⟩ := List.map_eq_singleton_iff.mp history
  refine ⟨events.length, ended, record, ?_, ?_, by rw [isHistory, fresh]; rfl, ?_⟩
  · rw [List.take_length]
    exact ran
  · rw [List.take_length]
    exact stays
  · cases returned : record.result with
    | error e =>
        rw [returned] at result
        cases result
    | ok value =>
        rw [returned] at result
        rw [Option.some.inj result]

/-- The hop of these clients shows the host that replies. -/
theorem tracertHop_refines_host :
    ∃ opened last, Host.start.run hopEnters = some opened ∧ opened.run hopEvents = some last ∧
      IcmpManager.tracertHop {} hopWorld "host" 1 =
        .ok (hopOfReplies hopWorld (sourceAt last (opened.sockets.position [])) 1
          ((List.range 3).map fun _ => hopReply)) := by
  have enters : (Host.start.run hopEnters).map (fun opened => (List.range 3).map fun number =>
      (opened.sockets.queue number, (opened.client number).history.length)) =
        some (List.replicate 3 (some [], 0)) := by
    decide +kernel
  have results : ((Host.start.run hopEnters).bind fun opened => (opened.run hopEvents).map
      fun ended => (List.range 3).map fun number =>
        (ended.client number).history.map fun record => record.result.toOption) =
          some (List.replicate 3 [some hopReply]) := by
    decide +kernel
  obtain ⟨opened, entered, isOpen⟩ := Option.map_eq_some_iff.mp enters
  rw [entered, Option.bind_some] at results
  obtain ⟨last, ran, replied⟩ := Option.map_eq_some_iff.mp results
  have each {Value : Type} {f : Nat → Value} {value : Value}
      (all : (List.range 3).map f = List.replicate 3 value) (i : Nat) (inside : i < 3) :
      f i = value := by
    have listed : f i ∈ List.replicate 3 value :=
      all ▸ List.mem_map_of_mem (List.mem_range.mpr inside)
    exact List.eq_of_mem_replicate listed
  refine ⟨opened, last, entered, ran, ?_⟩
  refine @tracertHop_refines hopEnters hopEvents opened last [] {} hopWorld "host" 1 id
    (fun _ => hopReply) entered ?_ ?_ ran fun _ _ => rfl
  · intro i inside
    exact (Prod.mk.inj (each isOpen i inside)).1
  · intro i inside
    apply returns_of_results (List.length_eq_zero_iff.mp (Prod.mk.inj (each isOpen i inside)).2)
    · simp [hopEvents]
    · rw [ran, Option.map_some]
      exact congrArg some (each replied i inside)

end NetworkTools
