/-
This file proves how many calls a client can serve before its sequence number no longer fits.
-/

import NetworkTools.Proof.Client.Attribution
import NetworkTools.Proof.Package.Checksum
import NetworkTools.Specification.Sequence

namespace NetworkTools
open Library Specification

section Requests

variable (timestamp : Vector UInt8 8) {sequence : Nat}

/-- The other fields of a request always fit. -/
theorem uncheckedRequest_inRange_iff :
    (IcmpPackage.uncheckedRequest timestamp none sequence none).InRange ↔ sequence ≤ 65535 := by
  apply Iff.intro
  · intro inRange
    have bound : (sequence : Int) ≤ 65535 := inRange.sequence.2
    omega
  · intro fits
    constructor
    case code => simp [IcmpPackage.uncheckedRequest]
    case checksum => simp [IcmpPackage.uncheckedRequest]
    case identifier => simp [IcmpPackage.uncheckedRequest]
    case sequence =>
      simp only [IcmpPackage.uncheckedRequest]
      omega

theorem createEchoRequest_of_fits (fits : sequence ≤ 65535) :
    ∃ package packetData,
      IcmpPackage.createEchoRequest timestamp none sequence none = .ok package ∧
        package.toBytes = .ok packetData := by
  have created := IcmpPackage.createEchoRequest_eq_ok_iff.mpr
    ⟨(uncheckedRequest_inRange_iff timestamp).mpr fits, rfl⟩
  obtain ⟨packetData, encoded⟩ :=
    IcmpPackage.toBytes_of_inRange (IcmpPackage.created_fields created).1
  exact ⟨_, packetData, created, encoded⟩

theorem createEchoRequest_of_exceeds (exceeds : ¬ sequence ≤ 65535) :
    ∃ error, IcmpPackage.createEchoRequest timestamp none sequence none = .error error := by
  cases created : IcmpPackage.createEchoRequest timestamp none sequence none with
  | error error => exact ⟨error, rfl⟩
  | ok package =>
      have inRange := (IcmpPackage.createEchoRequest_eq_ok_iff.mp created).1
      exact absurd ((uncheckedRequest_inRange_iff timestamp).mp inRange) exceeds

theorem built_le {request : EchoRequest} (built : Built sequence request) : sequence ≤ 65535 := by
  obtain ⟨timestamp, package, created, _⟩ := built
  have inRange := (IcmpPackage.createEchoRequest_eq_ok_iff.mp created).1
  exact (uncheckedRequest_inRange_iff timestamp).mp inRange

end Requests

/-- The request of a call that has moved the counter. -/
def Phase.request? : Phase → Option EchoRequest
  | .sending request _ _ => some request
  | .waiting request _ _ => some request
  | _ => none

/-- The counter is the number of the records, and one more during a call that has its request. -/
structure Counting (client : IcmpClient) : Prop where
  hasSocket : client.hasSocket = true
  records : ∀ (k : Nat) record, client.history[k]? = some record →
    (Served (k + 1) record ↔ k + 1 ≤ 65535)
  idle : client.phase.request? = none → client.sequence = client.history.length
  busy : ∀ request, client.phase.request? = some request →
    client.sequence = client.history.length + 1 ∧ Built (client.history.length + 1) request

section Preparation

variable {client : IcmpClient} {timestamp : Vector UInt8 8}

theorem prepare_of_error {error : StructError}
    (failed : IcmpPackage.createEchoRequest timestamp none (client.sequence + 1) none =
      .error error) (destIp : AddressV4) (timeout : Option ℚ) (clock : ℚ) :
    client.prepare destIp timestamp timeout clock =
      { client with sequence := client.sequence + 1 }.finish none none none (.ok .failure) := by
  unfold IcmpClient.prepare
  simp only [failed]

theorem prepare_of_ok {package : IcmpPackage} {packetData : List UInt8}
    (created : IcmpPackage.createEchoRequest timestamp none (client.sequence + 1) none =
      .ok package) (encoded : package.toBytes = .ok packetData) (destIp : AddressV4)
    (timeout : Option ℚ) (clock : ℚ) :
    client.prepare destIp timestamp timeout clock =
      { client with
        sequence := client.sequence + 1
        phase := .sending ⟨destIp, packetData⟩ timeout clock } := by
  unfold IcmpClient.prepare
  simp only [created, encoded]

end Preparation

section Clients

variable {client : IcmpClient} (counting : Counting client)

include counting

/-- A step of a call between two awaits keeps the request. -/
theorem Counting.setPhase {phase : Phase} (same : phase.request? = client.phase.request?) :
    Counting { client with phase := phase } where
  hasSocket := counting.hasSocket
  records := counting.records
  idle none := counting.idle (same ▸ none)
  busy request some := counting.busy request (same ▸ some)

/-- The record of the current call has the next number. -/
theorem Counting.finish {sent : Option EchoRequest} {received lost : Option Nat}
    {result : Except CallError EchoResult} {sequence : Int}
    (moved : sequence = client.history.length + 1)
    (served : Served (client.history.length + 1) ⟨sent, received, lost, result⟩ ↔
      client.history.length + 1 ≤ 65535) :
    Counting ({ client with sequence := sequence }.finish sent received lost result) where
  hasSocket := counting.hasSocket
  records := by
    intro k record present
    simp only [IcmpClient.finish] at present
    rw [List.getElem?_append] at present
    split at present
    · exact counting.records k record present
    · next outside =>
        rw [List.getElem?_singleton] at present
        split at present
        · next last =>
            obtain rfl := Option.some.inj present
            obtain rfl : k = client.history.length := by omega
            exact served
        · cases present
  idle _ := by
    simp only [IcmpClient.finish, List.length_append, List.length_singleton]
    rw [moved]
    rfl
  busy request impossible := by cases impossible

/-- The preparation succeeds exactly while the counter fits. -/
theorem Counting.prepare {host : String} {ttl : Int} {timeout : Option ℚ}
    (resolving : client.phase = .resolving host ttl timeout) (destIp : AddressV4)
    (timestamp : Vector UInt8 8) (clock : ℚ) :
    Counting (client.prepare destIp timestamp timeout clock) := by
  have counted : client.sequence = client.history.length := by
    apply counting.idle
    rw [resolving]
    rfl
  have moved : client.sequence + 1 = (client.history.length + 1 : Nat) := by
    rw [counted]
    rfl
  by_cases fits : client.history.length + 1 ≤ 65535
  · obtain ⟨package, packetData, created, encoded⟩ := createEchoRequest_of_fits timestamp fits
    rw [← moved] at created
    rw [prepare_of_ok created encoded]
    exact
      { hasSocket := counting.hasSocket
        records := counting.records
        idle := by
          intro impossible
          cases impossible
        busy := by
          intro request isRequest
          obtain rfl := Option.some.inj isRequest
          rw [moved] at created
          exact ⟨moved, timestamp, package, created, encoded⟩ }
  · obtain ⟨error, failed⟩ := createEchoRequest_of_exceeds timestamp fits
    rw [← moved] at failed
    rw [prepare_of_error failed]
    apply counting.finish moved
    apply iff_of_false _ fits
    intro served
    obtain ⟨request, isSent, _⟩ := served.sent
    cases isSent

/-- A call that has sent its request is served. -/
theorem Counting.finish_sent {request : EchoRequest} {received lost : Option Nat}
    {result : Except CallError EchoResult} (sent : client.phase.request? = some request)
    (timedOut : ¬ Succeeded ⟨some request, received, lost, result⟩ → received = none) :
    Counting (client.finish (some request) received lost result) := by
  obtain ⟨moved, built⟩ := counting.busy request sent
  have served : Served (client.history.length + 1) ⟨some request, received, lost, result⟩ :=
    ⟨⟨request, rfl, built⟩, timedOut⟩
  exact @Counting.finish client counting (some request) received lost result client.sequence moved
    (iff_of_true served (built_le built))

end Clients

section Hosts

/-- The socket of the client is open and holds datagrams with a whole IP header. -/
def Delivers (sockets : Broadcast (List UInt8)) (number : Nat) : Prop :=
  ∃ pending, sockets.queue number = some pending ∧ ∀ datagram ∈ pending, 20 ≤ datagram.length

/-- The client counts its calls, and its socket stays open. -/
structure Serving (host : Host) (number : Nat) : Prop where
  counting : Counting (host.client number)
  delivers : Delivers host.sockets number

variable {host next : Host} {event : HostEvent} {number : Nat} {events : List HostEvent}

theorem serving_of_fresh (fresh : FreshlyOpened host number) : Serving host number where
  counting := by
    rw [fresh.client]
    exact ⟨rfl, by simp, fun _ => rfl, fun request impossible => by cases impossible⟩
  delivers := ⟨[], fresh.isOpen, by simp⟩

theorem Delivers.of_queue {sockets changed : Broadcast (List UInt8)}
    (delivers : Delivers sockets number) (same : changed.queue number = sockets.queue number) :
    Delivers changed number := by
  obtain ⟨pending, isPending, whole⟩ := delivers
  exact ⟨pending, same.trans isPending, whole⟩

theorem Delivers.publish {sockets : Broadcast (List UInt8)} (delivers : Delivers sockets number)
    {datagram : List UInt8} (whole : 20 ≤ datagram.length) :
    Delivers (sockets.publish datagram) number := by
  obtain ⟨pending, isPending, others⟩ := delivers
  refine ⟨pending ++ [datagram], by simp only [Broadcast.publish, isPending, Option.map_some], ?_⟩
  intro other present
  rcases List.mem_append.mp present with old | new
  · exact others other old
  · rw [List.mem_singleton.mp new]
    exact whole

theorem Delivers.drop {sockets : Broadcast (List UInt8)} (delivers : Delivers sockets number)
    (taker : Nat) : Delivers (sockets.drop taker) number := by
  by_cases same : number = taker
  · obtain ⟨pending, isPending, whole⟩ := delivers
    subst same
    refine ⟨pending.tail, ?_, fun datagram present => whole datagram (List.mem_of_mem_tail present)⟩
    simp only [Broadcast.drop, Function.update_self, isPending, Option.map_some]
  · exact delivers.of_queue (by simp only [Broadcast.drop, Function.update_of_ne same])

/-- A change of one client concerns this client only. -/
theorem Serving.setClient (serving : Serving host number) {sockets : Broadcast (List UInt8)}
    (delivers : Delivers sockets number) {other : Nat} {client : IcmpClient}
    (counting : other = number → Counting client) :
    Serving (Host.setClient { host with sockets := sockets } other client) number where
  counting := by
    by_cases same : number = other
    · rw [same, setClient_self]
      exact counting same.symm
    · rw [setClient_other _ same]
      exact serving.counting
  delivers := delivers

/-- A step without a disturbance keeps the count. -/
theorem Serving.step (serving : Serving host number) (smooth : Smooth number event)
    (stepped : host.step event = some next) : Serving next number := by
  have delivers := serving.delivers
  obtain ⟨pending, isPending, whole⟩ := serving.delivers
  cases step_eq_some_iff.mp stepped with
  | @entered other closed =>
      have apart : number ≠ other := by
        rintro rfl
        rw [isPending] at closed
        cases closed
      refine serving.setClient (delivers.of_queue ?_) fun same => absurd same.symm apart
      simp only [Broadcast.subscribe, Function.update_of_ne apart]
  | @exited other =>
      have apart : number ≠ other := Ne.symm smooth
      refine ⟨serving.counting, delivers.of_queue ?_⟩
      simp only [Broadcast.unsubscribe, Function.update_of_ne apart]
  | raised _ closed =>
      refine serving.setClient delivers fun same => ?_
      rw [same, serving.counting.hasSocket] at closed
      cases closed
  | called idle =>
      refine serving.setClient delivers fun same => ?_
      subst same
      exact serving.counting.setPhase (by rw [idle]; rfl)
  | resolved resolving _ destIp _ timestamp =>
      refine serving.setClient delivers fun same => ?_
      subst same
      exact serving.counting.prepare resolving destIp timestamp host.clock
  | unresolved _ refused =>
      refine serving.setClient delivers fun same => ?_
      obtain ⟨⟨destIp, others, rfl⟩, rfl⟩ := smooth same
      rw [same] at refused
      exact absurd isPending (refused destIp others pending rfl rfl)
  | sent sending =>
      refine serving.setClient delivers fun same => ?_
      subst same
      exact serving.counting.setPhase (by rw [sending]; rfl)
  | unsent =>
      refine serving.setClient delivers fun same => ?_
      cases smooth same
  | @received other request _ _ datagram rest waiting isQueue =>
      refine serving.setClient (delivers.drop other) fun same => ?_
      subst same
      apply serving.counting.finish_sent (by rw [waiting]; rfl)
      intro unsuccessful
      rw [isPending, Option.some.injEq] at isQueue
      have enough := whole datagram (by rw [isQueue]; exact List.mem_cons_self)
      exact absurd ⟨_, rfl, (echoResponse_success_iff _ _ _).mpr (by omega)⟩ unsuccessful
  | failed => exact serving.setClient delivers fun same => absurd same smooth
  | unanswered waiting =>
      refine serving.setClient delivers fun same => ?_
      subst same
      exact serving.counting.finish_sent (by rw [waiting]; rfl) fun _ => rfl
  | @lost other _ _ _ _ _ _ _ waiting =>
      refine serving.setClient (delivers.drop other) fun same => ?_
      subst same
      exact serving.counting.finish_sent (by rw [waiting]; rfl) fun _ => rfl
  | unresolvedCancelled => exact serving.setClient delivers fun same => absurd same smooth
  | sendCancelled => exact serving.setClient delivers fun same => absurd same smooth
  | arrived => exact ⟨serving.counting, delivers.publish smooth⟩
  | passed => exact ⟨serving.counting, delivers⟩

theorem Serving.run (serving : Serving host number)
    (smooth : ∀ event ∈ events, Smooth number event) (ran : host.run events = some next) :
    Serving next number := by
  induction events generalizing host with
  | nil =>
      obtain rfl := Option.some.inj ran
      exact serving
  | cons event events ih =>
      obtain ⟨between, stepped, rest⟩ := Option.bind_eq_some_iff.mp ran
      exact ih (serving.step (smooth event List.mem_cons_self) stepped)
        (fun later present => smooth later (List.mem_cons_of_mem _ present)) rest

end Hosts

section Exhaustion

/-- A host with one open client. -/
def openHost : Host :=
  Host.setClient { Host.start with sockets := Host.start.sockets.subscribe 0 } 0
    { hasSocket := true }

theorem openHost_fresh : FreshlyOpened openHost 0 where
  isOpen := rfl
  client := rfl

/-- The call of the client waits for an answer that does not come. -/
def timedOutCall : List HostEvent :=
  [.call 0 "host" 64 (some 0),
    .resolved 0 (.ok [hostAddress]) (.ok ()) (Vector.replicate 8 0), .sent 0 (.ok ()),
    .expired 0 false]

theorem timedOutCall_smooth : ∀ event ∈ timedOutCall, Smooth 0 event := by
  simp [timedOutCall, Smooth]

section Runs

variable {host next : Host} {event : HostEvent} {events : List HostEvent}

theorem run_cons (stepped : host.step event = some next) :
    host.run (event :: events) = next.run events := by
  rw [Host.run, stepped, Option.bind_some]

theorem run_append (host : Host) (first second : List HostEvent) :
    host.run (first ++ second) = (host.run first).bind fun next => next.run second := by
  induction first generalizing host with
  | nil => rfl
  | cons event first ih =>
      rw [List.cons_append, Host.run, Host.run, Option.bind_assoc]
      simp only [ih]

/-- The event changes this client and nothing else. -/
def Becomes (host : Host) (event : HostEvent) (number : Nat) (client : IcmpClient) : Prop :=
  ∃ next, host.step event = some next ∧ next.clock = host.clock ∧ next.sockets = host.sockets ∧
    next.client number = client

theorem becomes_of_stepsTo {number : Nat} {client : IcmpClient}
    (outcome : StepsTo host event (host.setClient number client)) :
    Becomes host event number client :=
  ⟨_, step_eq_some_iff.mpr outcome, rfl, rfl, setClient_self host number client⟩

end Runs

variable {host : Host}

/-- The call and the answer of the resolver prepare the request. -/
theorem run_prepare (serving : Serving host 0) (idle : (host.client 0).phase = .idle) :
    ∃ (next : Host) (resolving : IcmpClient), host.run (timedOutCall.take 2) = some next ∧
      resolving.sequence = (host.client 0).history.length ∧
      resolving.history = (host.client 0).history ∧
      next.client 0 = resolving.prepare hostAddress (Vector.replicate 8 0) (some 0) next.clock := by
  obtain ⟨pending, isPending, _⟩ := serving.delivers
  obtain ⟨called, calls, clock, sockets, client⟩ :=
    becomes_of_stepsTo (.called idle serving.counting.hasSocket "host" 64 (some 0))
  obtain ⟨next, resolves, laterClock, _, prepared⟩ :=
    becomes_of_stepsTo (.resolved (congrArg IcmpClient.phase client)
      (by rw [sockets, isPending]) hostAddress [] (Vector.replicate 8 0))
  refine ⟨next, called.client 0, (run_cons calls).trans (run_cons resolves), ?_, ?_, ?_⟩
  · rw [client]
    exact serving.counting.idle (by rw [idle]; rfl)
  · rw [client]
  · rw [prepared, laterClock]

/-- Each call up to the limit adds one record. -/
theorem run_timedOutCall (serving : Serving host 0) (idle : (host.client 0).phase = .idle)
    (fits : (host.client 0).history.length + 1 ≤ 65535) :
    ∃ next, host.run timedOutCall = some next ∧ (next.client 0).phase = .idle ∧
      (next.client 0).history.length = (host.client 0).history.length + 1 := by
  obtain ⟨prepared, resolving, ran, counted, kept, client⟩ := run_prepare serving idle
  obtain ⟨package, packetData, created, encoded⟩ :=
    createEchoRequest_of_fits (Vector.replicate 8 0) fits
  rw [Nat.cast_add, ← counted] at created
  rw [prepare_of_ok created encoded] at client
  obtain ⟨waiting, sends, clock, _, waits⟩ :=
    becomes_of_stepsTo (.sent (congrArg IcmpClient.phase client))
  obtain ⟨next, expires, _, _, finished⟩ :=
    becomes_of_stepsTo (.unanswered (congrArg IcmpClient.phase waits)
      (.expired rfl (by rw [clock]; exact le_of_eq (add_zero _))))
  refine ⟨next, ?_, ?_, ?_⟩
  · rw [← List.take_append_drop 2 timedOutCall, run_append, ran]
    exact (run_cons sends).trans (run_cons expires)
  · rw [finished]
    rfl
  · rw [finished, IcmpClient.finish, List.length_append, waits, client, ← kept]
    rfl

/-- The next call builds no request and looks like another timeout. -/
theorem run_exhaustedCall (serving : Serving host 0) (idle : (host.client 0).phase = .idle)
    (exceeds : ¬ (host.client 0).history.length + 1 ≤ 65535) :
    ∃ next, host.run (timedOutCall.take 2) = some next ∧
      (next.client 0).history = (host.client 0).history ++ [⟨none, none, none, .ok .failure⟩] := by
  obtain ⟨prepared, resolving, ran, counted, kept, client⟩ := run_prepare serving idle
  obtain ⟨error, failed⟩ := createEchoRequest_of_exceeds (Vector.replicate 8 0) exceeds
  rw [Nat.cast_add, ← counted] at failed
  rw [prepare_of_error failed] at client
  exact ⟨prepared, ran, by rw [client, ← kept]; rfl⟩

/-- Any number of calls up to the limit can time out in turn. -/
theorem exists_timedOutCalls (count : Nat) (fits : count ≤ 65535) :
    ∃ events next, (∀ event ∈ events, Smooth 0 event) ∧ openHost.run events = some next ∧
      (next.client 0).phase = .idle ∧ (next.client 0).history.length = count := by
  induction count with
  | zero => exact ⟨[], openHost, by simp, rfl, rfl, rfl⟩
  | succ count ih =>
      obtain ⟨events, host, smooth, ran, idle, counted⟩ := ih (by omega)
      obtain ⟨next, called, idle, more⟩ :=
        run_timedOutCall ((serving_of_fresh openHost_fresh).run smooth ran) idle (by omega)
      refine ⟨events ++ timedOutCall, next, ?_, ?_, idle, by omega⟩
      · intro event present
        exact (List.mem_append.mp present).elim (smooth event) (timedOutCall_smooth event)
      · rw [run_append, ran]
        exact called

end Exhaustion

/-- In a run without a disturbance the first 65535 calls of a client are served, and no other. -/
theorem sendEchoRequest_served_iff {opened host : Host} {number : Nat} {events : List HostEvent}
    (fresh : FreshlyOpened opened number) (smooth : ∀ event ∈ events, Smooth number event)
    (ran : opened.run events = some host) {n : Nat} (positive : 1 ≤ n) {record : CallRecord}
    (isNth : (host.client number).history[n - 1]? = some record) :
    Served n record ↔ n ≤ 65535 := by
  obtain ⟨k, rfl⟩ := Nat.exists_eq_add_of_le' positive
  exact ((serving_of_fresh fresh).run smooth ran).counting.records k record isNth

/-- One call without an answer is served. -/
theorem sendEchoRequest_served_first :
    ∃ host record, openHost.run timedOutCall = some host ∧
      (host.client 0).history[1 - 1]? = some record ∧ Served 1 record := by
  have runs : (openHost.run timedOutCall).isSome = true := by decide +kernel
  obtain ⟨host, ran⟩ := Option.isSome_iff_exists.mp runs
  have counted : (openHost.run timedOutCall).map (fun host => (host.client 0).history.length) =
      some 1 := by
    decide +kernel
  rw [ran] at counted
  have inside : 1 - 1 < (host.client 0).history.length :=
    Nat.lt_of_lt_of_eq Nat.one_pos (Option.some.inj counted).symm
  refine ⟨host, _, ran, List.getElem?_eq_getElem inside, ?_⟩
  exact (sendEchoRequest_served_iff openHost_fresh timedOutCall_smooth ran (Nat.le_refl 1)
    (List.getElem?_eq_getElem inside)).mpr (by decide)

/-- After 65535 calls the client reports a failure without a request. -/
theorem sendEchoRequest_unserved :
    ∃ events host record, (∀ event ∈ events, Smooth 0 event) ∧
      openHost.run events = some host ∧ (host.client 0).history[65536 - 1]? = some record ∧
      record.sent = none ∧ record.result = .ok .failure ∧ ¬ Served 65536 record := by
  obtain ⟨events, host, smooth, ran, idle, counted⟩ := exists_timedOutCalls 65535 (Nat.le_refl _)
  obtain ⟨next, called, appended⟩ :=
    run_exhaustedCall ((serving_of_fresh openHost_fresh).run smooth ran) idle (by omega)
  refine ⟨events ++ timedOutCall.take 2, next, ⟨none, none, none, .ok .failure⟩, ?_, ?_, ?_, rfl,
    rfl, ?_⟩
  · intro event present
    exact (List.mem_append.mp present).elim (smooth event) fun first =>
      timedOutCall_smooth event (List.mem_of_mem_take first)
  · rw [run_append, ran]
    exact called
  · rw [appended, List.getElem?_append_right (by omega), counted]
    rfl
  · rintro ⟨⟨request, isSent, _⟩, _⟩
    cases isSent

end NetworkTools
