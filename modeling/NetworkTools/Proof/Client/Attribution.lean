/-
This file proves which calls of concurrent clients count an answer of their own.
-/

import NetworkTools.Proof.Client.Steps
import NetworkTools.Specification.Exchange

namespace NetworkTools
open Library Specification

variable {host next : Host} {event : HostEvent}

/-- A response has an address exactly when the datagram reaches to the end of the address. -/
theorem echoResponse_success_iff (datagram : List UInt8) (startTime endTime : ℚ) :
    (echoResponse datagram startTime endTime).success = true ↔ 16 ≤ datagram.length := by
  have length : ((((datagram.take receiveSize).take 20).take 16).drop 12).length = 4 ↔
      16 ≤ datagram.length := by
    simp only [List.length_drop, List.length_take, receiveSize]
    omega
  rw [← length, echoResponse, inetNtoa]
  split
  · next failed =>
      split at failed
      · simp at failed
      · next short => simpa [EchoResult.failure] using short
  · next returned =>
      split at returned
      · next enough => simp [enough]
      · simp at returned

/-- The record of a call that took a datagram. -/
def receivedRecord (host : Host) (request : EchoRequest) (startTime : ℚ) (datagram : List UInt8)
    (rest : List (List UInt8)) : CallRecord :=
  ⟨some request, some (host.sockets.position (datagram :: rest)), none,
    .ok (echoResponse datagram startTime host.clock)⟩

/-- The clients of the next state have the same records, but for one more record of one client. -/
def Appends (host next : Host) (number : Nat) (record : CallRecord) : Prop :=
  (next.client number).history = (host.client number).history ++ [record] ∧
    ∀ other, other ≠ number → (next.client other).history = (host.client other).history

section Steps

theorem setClient_self (host : Host) (number : Nat) (client : IcmpClient) :
    (host.setClient number client).client number = client := by
  simp only [Host.setClient, Function.update_self]

theorem setClient_other (host : Host) {number other : Nat} (apart : other ≠ number)
    (client : IcmpClient) : (host.setClient number client).client other = host.client other := by
  simp only [Host.setClient, Function.update_of_ne apart]

/-- A step that keeps the records of its client keeps all records. -/
theorem setClient_history (host : Host) (number : Nat) {client : IcmpClient}
    (same : client.history = (host.client number).history) (other : Nat) :
    ((host.setClient number client).client other).history = (host.client other).history := by
  by_cases apart : other = number
  · rw [apart, setClient_self, same]
  · rw [setClient_other host apart]

theorem setClient_appends (host : Host) (number : Nat) (client : IcmpClient) (record : CallRecord)
    (appended : client.history = (host.client number).history ++ [record]) :
    Appends host (host.setClient number client) number record := by
  refine ⟨?_, fun other apart => ?_⟩
  · rw [setClient_self, appended]
  · rw [setClient_other host apart]

theorem succeeded_iff (record : CallRecord) :
    Succeeded record ↔ record.result.toOption.map EchoResult.success = some true := by
  unfold Succeeded
  cases record.result with
  | error e => simp [Except.toOption]
  | ok result => simp [Except.toOption]

theorem failure_not_succeeded (sent : Option EchoRequest) (received lost : Option Nat) :
    ¬ Succeeded ⟨sent, received, lost, .ok .failure⟩ := by
  simp [succeeded_iff, Except.toOption, EchoResult.failure]

theorem raised_not_succeeded (sent : Option EchoRequest) (received lost : Option Nat)
    (e : CallError) : ¬ Succeeded ⟨sent, received, lost, .error e⟩ := by
  simp [succeeded_iff, Except.toOption]

/-- A wait that ends without an answer is no success. -/
theorem EndsWait.not_succeeded {number : Nat} {deadline : Option ℚ} {done : Bool}
    {result : Except CallError EchoResult} (ends : EndsWait host number deadline done event result)
    (sent : Option EchoRequest) (received lost : Option Nat) :
    ¬ Succeeded ⟨sent, received, lost, result⟩ := by
  cases ends with
  | expired => exact failure_not_succeeded sent received lost
  | cancelled => exact raised_not_succeeded sent received lost .cancelled

theorem EndsWait.ne_received {number : Nat} {deadline : Option ℚ} {done : Bool}
    {result : Except CallError EchoResult} (ends : EndsWait host number deadline done event result)
    (other : Nat) : event ≠ .received other := by
  cases ends with
  | expired => exact HostEvent.noConfusion
  | cancelled => exact HostEvent.noConfusion

/-- The preparation sends nothing yet. It either fails or leaves the records alone. -/
theorem prepare_history (client : IcmpClient) (destIp : AddressV4) (timestamp : Vector UInt8 8)
    (timeout : Option ℚ) (clock : ℚ) :
    (client.prepare destIp timestamp timeout clock).history = client.history ∨
      (client.prepare destIp timestamp timeout clock).history =
        client.history ++ [⟨none, none, none, .ok .failure⟩] := by
  unfold IcmpClient.prepare
  simp only
  split
  · exact .inr rfl
  · split
    · exact .inr rfl
    · exact .inl rfl

/-- A step that is no receive adds at most one record, and this record has no datagram. -/
def Quiet (host next : Host) : Prop :=
  (∀ other, (next.client other).history = (host.client other).history) ∨
    ∃ number record, Appends host next number record ∧ record.received = none ∧ ¬ Succeeded record

theorem quiet_of_finish (host : Host) (number : Nat) (sockets : Broadcast (List UInt8))
    (sent : Option EchoRequest) (lost : Option Nat) {result : Except CallError EchoResult}
    (unsuccessful : ¬ Succeeded ⟨sent, none, lost, result⟩) :
    Quiet host (Host.setClient { host with sockets := sockets } number
      ((host.client number).finish sent none lost result)) :=
  .inr ⟨number, _, setClient_appends _ number _ _ rfl, rfl, unsuccessful⟩

/-- Only a receive finishes a call with a datagram. -/
theorem step_cases (stepped : host.step event = some next) :
    host.sockets.log <+: next.sockets.log ∧
      (((∀ number, event ≠ .received number) ∧ Quiet host next) ∨
        ∃ number request deadline startTime datagram rest, event = .received number ∧
          (host.client number).phase = .waiting request deadline startTime ∧
          host.sockets.queue number = some (datagram :: rest) ∧
          Appends host next number (receivedRecord host request startTime datagram rest)) := by
  cases step_eq_some_iff.mp stepped with
  | @entered number =>
      exact ⟨List.prefix_rfl, .inl ⟨by simp, .inl (setClient_history _ number rfl)⟩⟩
  | exited =>
      exact ⟨List.prefix_rfl, .inl ⟨by simp, .inl fun _ => rfl⟩⟩
  | @raised number =>
      exact ⟨List.prefix_rfl, .inl ⟨by simp,
        quiet_of_finish host number _ none none (raised_not_succeeded _ _ _ _)⟩⟩
  | @called number =>
      exact ⟨List.prefix_rfl, .inl ⟨by simp, .inl (setClient_history host number rfl)⟩⟩
  | @resolved number _ _ timeout _ _ _ destIp _ timestamp =>
      refine ⟨List.prefix_rfl, .inl ⟨by simp, ?_⟩⟩
      rcases prepare_history (host.client number) destIp timestamp timeout host.clock with
        kept | appended
      · exact .inl (setClient_history host number kept)
      · exact .inr ⟨number, _, setClient_appends host number _ _ appended, rfl,
          failure_not_succeeded _ _ _⟩
  | @unresolved number =>
      exact ⟨List.prefix_rfl, .inl ⟨by simp,
        quiet_of_finish host number _ none none (failure_not_succeeded _ _ _)⟩⟩
  | @sent number =>
      exact ⟨List.prefix_rfl, .inl ⟨by simp, .inl (setClient_history host number rfl)⟩⟩
  | @unsent number =>
      exact ⟨List.prefix_rfl, .inl ⟨by simp,
        quiet_of_finish host number _ none none (failure_not_succeeded _ _ _)⟩⟩
  | @received number request deadline startTime datagram rest waiting isPending =>
      exact ⟨List.prefix_rfl, .inr ⟨number, request, deadline, startTime, datagram, rest, rfl,
        waiting, isPending, setClient_appends _ number _ _ rfl⟩⟩
  | @failed number request =>
      exact ⟨List.prefix_rfl, .inl ⟨by simp,
        quiet_of_finish host number _ (some request) none (failure_not_succeeded _ _ _)⟩⟩
  | @unanswered number request _ _ _ _ _ ends =>
      exact ⟨List.prefix_rfl, .inl ⟨ends.ne_received,
        quiet_of_finish host number _ (some request) none (ends.not_succeeded _ _ _)⟩⟩
  | @lost number request _ _ _ _ _ _ _ _ ends =>
      exact ⟨List.prefix_rfl, .inl ⟨ends.ne_received,
        quiet_of_finish host number _ (some request) _ (ends.not_succeeded _ _ _)⟩⟩
  | @unresolvedCancelled number =>
      exact ⟨List.prefix_rfl, .inl ⟨by simp,
        quiet_of_finish host number _ none none (raised_not_succeeded _ _ _ _)⟩⟩
  | @sendCancelled number =>
      exact ⟨List.prefix_rfl, .inl ⟨by simp,
        quiet_of_finish host number _ _ none (raised_not_succeeded _ _ _ _)⟩⟩
  | arrived =>
      exact ⟨List.prefix_append _ _, .inl ⟨by simp, .inl fun _ => rfl⟩⟩
  | passed =>
      exact ⟨List.prefix_rfl, .inl ⟨by simp, .inl fun _ => rfl⟩⟩

end Steps

section Records

variable {cause : Nat → Option CallId} {number : Nat} {record : CallRecord}

/-- The records of the next state are the old ones and the new one. -/
theorem Appends.getElem?_iff (appends : Appends host next number record) (other k : Nat)
    (present : CallRecord) :
    (next.client other).history[k]? = some present ↔
      (host.client other).history[k]? = some present ∨
        other = number ∧ k = (host.client number).history.length ∧ present = record := by
  by_cases same : other = number
  · subst same
    rw [appends.1, List.getElem?_append]
    split
    · next inside => simp [Nat.ne_of_lt inside]
    · next outside =>
        have beyond : (host.client other).history[k]? = none :=
          List.getElem?_eq_none (Nat.le_of_not_lt outside)
        rw [beyond, List.getElem?_singleton]
        simp only [reduceCtorEq, false_or, true_and]
        split
        · next last =>
            have isLast : k = (host.client other).history.length := by omega
            simp [isLast, eq_comm]
        · next later =>
            have notLast : k ≠ (host.client other).history.length := by omega
            simp [notLast]
  · rw [appends.2 other same]
    simp [same]

/-- Each taken datagram has its place in the log. -/
def Logged (host : Host) : Prop :=
  ∀ client (k : Nat) record position, (host.client client).history[k]? = some record →
    record.received = some position → position < host.sockets.log.length

theorem logged_start : Logged Host.start := by
  intro client k record position present
  simp [Host.start] at present

/-- A step keeps the places of the taken datagrams, and a receive adds the next one of its queue. -/
theorem logged_step (logged : Logged host) (stepped : host.step event = some next) :
    Logged next := by
  obtain ⟨longer, ⟨_, kept | ⟨number, record, appends, empty, _⟩⟩ |
    ⟨number, request, _, startTime, datagram, rest, _, _, pending, appends⟩⟩ := step_cases stepped
  · intro client k record position present taken
    rw [kept] at present
    exact Nat.lt_of_lt_of_le (logged client k record position present taken) longer.length_le
  · intro client k other position present taken
    rcases (appends.getElem?_iff client k other).mp present with old | ⟨_, _, rfl⟩
    · exact Nat.lt_of_lt_of_le (logged client k other position old taken) longer.length_le
    · rw [empty] at taken
      simp at taken
  · intro client k other position present taken
    rcases (appends.getElem?_iff client k other).mp present with old | ⟨_, _, rfl⟩
    · exact Nat.lt_of_lt_of_le (logged client k other position old taken) longer.length_le
    · obtain rfl := Option.some.inj taken
      have here := host.sockets.log_position pending
      exact Nat.lt_of_lt_of_le (List.getElem?_eq_some_iff.mp here).1 longer.length_le

/-- A longer log does not change what an old record counts. -/
theorem countsOwnAnswer_iff (longer : host.sockets.log <+: next.sockets.log) (id : CallId)
    (inside : ∀ position, record.received = some position →
      position < host.sockets.log.length) :
    CountsOwnAnswer cause next id record ↔ CountsOwnAnswer cause host id record := by
  unfold CountsOwnAnswer
  apply exists_congr
  intro request
  apply exists_congr
  intro position
  apply exists_congr
  intro datagram
  apply and_congr_right
  intro _
  apply and_congr_right
  intro taken
  rw [List.prefix_iff_getElem?.mp longer position (inside position taken),
    List.getElem?_eq_getElem (inside position taken)]

/-- A new record adds its own answer to what the clients count. -/
theorem countsOwnAnswers_of_appends (logged : Logged host)
    (longer : host.sockets.log <+: next.sockets.log) (appends : Appends host next number record) :
    CountsOwnAnswers cause next ↔ CountsOwnAnswers cause host ∧
      (Succeeded record → CountsOwnAnswer cause next
        ⟨number, (host.client number).history.length⟩ record) := by
  apply Iff.intro
  · intro counts
    apply And.intro
    · intro client k other present succeeded
      exact (countsOwnAnswer_iff longer _ (fun position =>
        logged client k other position present)).mp (counts client k other
          ((appends.getElem?_iff client k other).mpr (.inl present)) succeeded)
    · exact counts number _ record ((appends.getElem?_iff number _ record).mpr
        (.inr ⟨rfl, rfl, rfl⟩))
  · rintro ⟨old, new⟩ client k other present succeeded
    rcases (appends.getElem?_iff client k other).mp present with before | ⟨rfl, rfl, rfl⟩
    · exact (countsOwnAnswer_iff longer _ (fun position =>
        logged client k other position before)).mpr (old client k other before succeeded)
    · exact new succeeded

theorem takesOwnAnswer_of_other (other : ∀ number, event ≠ .received number) :
    TakesOwnAnswer cause host event := by
  cases event with
  | received number => exact absurd rfl (other number)
  | _ => trivial

/-- A receive takes an own answer exactly when its record counts one. -/
theorem takesOwnAnswer_iff {request : EchoRequest} {deadline : Option ℚ} {startTime : ℚ}
    {datagram : List UInt8} {rest : List (List UInt8)}
    (longer : host.sockets.log <+: next.sockets.log)
    (isWaiting : (host.client number).phase = .waiting request deadline startTime)
    (pending : host.sockets.queue number = some (datagram :: rest)) (id : CallId)
    (isCall : id = ⟨number, (host.client number).history.length⟩) :
    TakesOwnAnswer cause host (.received number) ↔
      (Succeeded (receivedRecord host request startTime datagram rest) →
        CountsOwnAnswer cause next id (receivedRecord host request startTime datagram rest)) := by
  have here := host.sockets.log_position pending
  have there : next.sockets.log[host.sockets.position (datagram :: rest)]? = some datagram := by
    rw [List.prefix_iff_getElem?.mp longer _ (List.getElem?_eq_some_iff.mp here).1,
      ← List.getElem?_eq_getElem, here]
  have succeeds : Succeeded (receivedRecord host request startTime datagram rest) ↔
      16 ≤ datagram.length := by
    rw [← echoResponse_success_iff datagram startTime host.clock, succeeded_iff]
    exact Option.some_inj
  rw [succeeds]
  apply Iff.intro
  · intro takes enough
    obtain ⟨answers, belongs⟩ := takes request deadline startTime datagram rest isWaiting pending
      enough
    rw [← isCall] at belongs
    exact ⟨request, _, datagram, rfl, rfl, there, answers, belongs⟩
  · intro counts otherRequest otherDeadline otherStart other behind isPhase isQueue enough
    rw [isWaiting, Phase.waiting.injEq] at isPhase
    rw [pending, Option.some.injEq, List.cons.injEq] at isQueue
    obtain ⟨rfl, _, rfl⟩ := isPhase
    obtain ⟨rfl, rfl⟩ := isQueue
    obtain ⟨sent, position, taken, isSent, isTaken, isLogged, answers, belongs⟩ := counts enough
    obtain rfl := Option.some.inj isSent
    obtain rfl := Option.some.inj isTaken
    obtain rfl := Option.some.inj (there.symm.trans isLogged)
    exact ⟨answers, isCall ▸ belongs⟩

/-- A step counts only own answers exactly when its receive takes one. -/
theorem countsOwnAnswers_step (logged : Logged host) (stepped : host.step event = some next) :
    CountsOwnAnswers cause next ↔
      CountsOwnAnswers cause host ∧ TakesOwnAnswer cause host event := by
  obtain ⟨longer, ⟨other, kept | ⟨number, record, appends, _, unsuccessful⟩⟩ |
    ⟨number, request, deadline, startTime, datagram, rest, rfl, isWaiting, pending, appends⟩⟩ :=
    step_cases stepped
  · rw [and_iff_left (takesOwnAnswer_of_other other)]
    unfold CountsOwnAnswers
    simp only [kept]
    apply forall_congr'
    intro client
    apply forall₃_congr
    intro k record present
    apply imp_congr_right
    intro _
    exact countsOwnAnswer_iff longer _ fun position => logged client k record position present
  · rw [countsOwnAnswers_of_appends logged longer appends,
      and_iff_left (takesOwnAnswer_of_other other)]
    exact and_iff_left fun succeeded => absurd succeeded unsuccessful
  · rw [countsOwnAnswers_of_appends logged longer appends,
      takesOwnAnswer_iff longer isWaiting pending _ rfl]

theorem stepsTakeOwnAnswers_cons_iff {events : List HostEvent} :
    StepsTakeOwnAnswers cause host (event :: events) ↔ TakesOwnAnswer cause host event ∧
      ∀ next, host.step event = some next → StepsTakeOwnAnswers cause next events := by
  apply Iff.intro
  · intro takes
    refine ⟨takes 0 event host rfl rfl, fun next stepped k later before present ran => ?_⟩
    refine takes (k + 1) later before present ?_
    rw [List.take_succ_cons, Host.run, stepped]
    exact ran
  · rintro ⟨first, rest⟩ k later before present ran
    cases k with
    | zero =>
        obtain rfl := Option.some.inj present
        obtain rfl := Option.some.inj ran
        exact first
    | succ k =>
        obtain ⟨next, stepped, ran⟩ := Option.bind_eq_some_iff.mp ran
        exact rest next stepped k later before present ran

/-- A run counts only own answers exactly when each of its receives takes one. -/
theorem countsOwnAnswers_run {events : List HostEvent} {last : Host} (logged : Logged host)
    (ran : host.run events = some last) :
    CountsOwnAnswers cause last ↔
      CountsOwnAnswers cause host ∧ StepsTakeOwnAnswers cause host events := by
  induction events generalizing host with
  | nil =>
      obtain rfl := Option.some.inj ran
      exact (and_iff_left fun k event before present => by simp at present).symm
  | cons event events ih =>
      obtain ⟨next, stepped, rest⟩ := Option.bind_eq_some_iff.mp ran
      rw [ih (logged_step logged stepped) rest, countsOwnAnswers_step logged stepped,
        stepsTakeOwnAnswers_cons_iff, stepped, and_assoc]
      simp only [Option.some.injEq, forall_eq']

end Records

/-- Concurrent clients count only answers of their own exactly when each datagram that stands next
in the queue of a waiting call answers this call and belongs to no other one. -/
theorem sendEchoRequest_own_iff (events : List HostEvent) (provenance : Provenance events)
    (host : Host) (ran : Host.start.run events = some host) :
    CountsOwnAnswers provenance.cause host ↔
      StepsTakeOwnAnswers provenance.cause Host.start events := by
  rw [countsOwnAnswers_run logged_start ran]
  apply and_iff_right
  intro client number record present
  simp [Host.start] at present

/-- One client sends a request, and its host replies. -/
def soleEvents : List HostEvent :=
  [.enter 0, .call 0 "host" 64 (some 5), .resolved 0 (.ok [hostAddress]) (.ok ())
      (Vector.replicate 8 0), .sent 0 (.ok ()), .arrive (firstReply hostAddress), .received 0]

/-- Two clients send requests to two hosts, and only the first host replies. -/
def sharedEvents : List HostEvent :=
  [.enter 0, .enter 1, .call 0 "host" 64 (some 5), .call 1 "router" 64 (some 5),
    .resolved 0 (.ok [hostAddress]) (.ok ()) (Vector.replicate 8 0),
    .resolved 1 (.ok [routerAddress]) (.ok ()) (Vector.replicate 8 0),
    .sent 0 (.ok ()), .sent 1 (.ok ()), .arrive (firstReply hostAddress), .received 0,
    .received 1]

/-- The only datagram of these events is the reply to the request of the first client. -/
theorem soleEvents_arrive {k : Nat} {datagram : List UInt8}
    (present : soleEvents[k]? = some (.arrive datagram)) :
    k = 4 ∧ firstReply hostAddress = datagram := by
  match k with
  | 4 => exact ⟨rfl, by simpa [soleEvents] using present⟩
  | 0 | 1 | 2 | 3 | 5 => simp [soleEvents] at present
  | _ + 6 => simp [soleEvents] at present

theorem sharedEvents_arrive {k : Nat} {datagram : List UInt8}
    (present : sharedEvents[k]? = some (.arrive datagram)) :
    k = 8 ∧ firstReply hostAddress = datagram := by
  match k with
  | 8 => exact ⟨rfl, by simpa [sharedEvents] using present⟩
  | 0 | 1 | 2 | 3 | 4 | 5 | 6 | 7 | 9 | 10 => simp [sharedEvents] at present
  | _ + 11 => simp [sharedEvents] at present

def soleProvenance : Provenance soleEvents where
  cause _ := some ⟨0, 0⟩
  answers := by
    intro k datagram host id present ran isCause
    obtain ⟨rfl, rfl⟩ := soleEvents_arrive present
    obtain rfl := Option.some.inj isCause
    have sent : (Host.start.run (soleEvents.take 4)).map (fun host => requestOf host ⟨0, 0⟩) =
        some (some ⟨hostAddress, firstPacket⟩) := by
      decide +kernel
    rw [ran] at sent
    exact ⟨_, Option.some.inj sent, by decide +kernel⟩

def sharedProvenance : Provenance sharedEvents where
  cause _ := some ⟨0, 0⟩
  answers := by
    intro k datagram host id present ran isCause
    obtain ⟨rfl, rfl⟩ := sharedEvents_arrive present
    obtain rfl := Option.some.inj isCause
    have sent : (Host.start.run (sharedEvents.take 8)).map (fun host => requestOf host ⟨0, 0⟩) =
        some (some ⟨hostAddress, firstPacket⟩) := by
      decide +kernel
    rw [ran] at sent
    exact ⟨_, Option.some.inj sent, by decide +kernel⟩

/-- A client that is alone with its reply counts its own answer. -/
theorem sendEchoRequest_own_sole :
    ∃ host, Host.start.run soleEvents = some host ∧
      CountsOwnAnswers soleProvenance.cause host := by
  have runs : (Host.start.run soleEvents).isSome = true := by decide +kernel
  obtain ⟨host, ran⟩ := Option.isSome_iff_exists.mp runs
  refine ⟨host, ran, (sendEchoRequest_own_iff soleEvents soleProvenance host ran).mpr ?_⟩
  intro k event before present state
  match k with
  | 0 | 1 | 2 | 3 | 4 =>
      obtain rfl := Option.some.inj present
      trivial
  | 5 =>
      obtain rfl := Option.some.inj present
      have waits : (Host.start.run (soleEvents.take 5)).map (fun before =>
          ((before.client 0).phase, before.sockets.queue 0, (before.client 0).history.length)) =
          some (.waiting ⟨hostAddress, firstPacket⟩ (some 5) 0,
            some [firstReply hostAddress], 0) := by
        decide +kernel
      rw [state] at waits
      have inState := Option.some.inj waits
      rw [Prod.mk.injEq, Prod.mk.injEq] at inState
      obtain ⟨isPhase, isPending, isFirst⟩ := inState
      intro request deadline startTime datagram rest isWaiting isQueue _
      obtain ⟨rfl, _, _⟩ := Phase.waiting.inj (isWaiting.symm.trans isPhase)
      obtain ⟨rfl, _⟩ := List.cons.inj (Option.some.inj (isQueue.symm.trans isPending))
      refine ⟨by decide +kernel, fun other isCause => ?_⟩
      rw [isFirst]
      exact (Option.some.inj isCause).symm
  | _ + 6 => simp [soleEvents] at present

/-- A client counts the reply to the request of another client, although its own host is silent. -/
theorem sendEchoRequest_shared :
    ∃ host, Host.start.run sharedEvents = some host ∧
      (∃ record, (host.client 1).history[0]? = some record ∧ Succeeded record ∧
        record.sent = some ⟨routerAddress, firstPacket⟩ ∧
        sharedProvenance.cause 0 = some ⟨0, 0⟩ ∧ record.received = some 0) ∧
      ¬ CountsOwnAnswers sharedProvenance.cause host := by
  have runs : (Host.start.run sharedEvents).isSome = true := by decide +kernel
  obtain ⟨host, ran⟩ := Option.isSome_iff_exists.mp runs
  have counted : (Host.start.run sharedEvents).map (fun host => (host.client 1).history.map
      fun record => (record.sent, record.received, record.result.toOption.map EchoResult.success)) =
      some [(some ⟨routerAddress, firstPacket⟩, some 0, some true)] := by
    decide +kernel
  rw [ran] at counted
  obtain ⟨record, isHistory, isRecord⟩ := List.map_eq_singleton_iff.mp (Option.some.inj counted)
  rw [Prod.mk.injEq, Prod.mk.injEq] at isRecord
  obtain ⟨isSent, isTaken, isSuccess⟩ := isRecord
  have present : (host.client 1).history[0]? = some record := by rw [isHistory]; rfl
  have succeeded : Succeeded record := (succeeded_iff record).mpr isSuccess
  refine ⟨host, ran, ⟨record, present, succeeded, isSent, rfl, isTaken⟩, fun counts => ?_⟩
  obtain ⟨request, position, datagram, _, _, _, _, belongs⟩ := counts 1 0 record present succeeded
  exact absurd (belongs ⟨0, 0⟩ rfl) (by decide)

end NetworkTools
