/-
This file proves that no two requests of a client look the same.
-/

import NetworkTools.Proof.Client.Interleaving
import NetworkTools.Proof.Client.Sequence
import NetworkTools.Specification.Numbering

namespace NetworkTools
open Library Specification

section Words

theorem wordAt_cons (high low : UInt8) (rest : List UInt8) (index : Nat) :
    wordAt (high :: low :: rest) (index + 2) = wordAt rest index := rfl

/-- The words of a message stand at its even offsets. -/
theorem wordAt_of_words {bytes : List UInt8} {index word : Nat}
    (here : (words bytes)[index]? = some word) : wordAt bytes (2 * index) = word := by
  induction bytes using words.induct generalizing index with
  | case1 => simp [words] at here
  | case2 last =>
      cases index with
      | zero =>
          obtain rfl := Option.some.inj here
          simp [wordAt, byteAt]
      | succ index => simp [words] at here
  | case3 high low rest ih =>
      cases index with
      | zero =>
          obtain rfl := Option.some.inj here
          simp [wordAt, byteAt]
      | succ index =>
          rw [Nat.mul_succ, wordAt_cons]
          exact ih here

/-- A built request carries the fields of its package. -/
theorem isEchoRequest_of_built {sequence : Nat} {request : EchoRequest}
    (built : Built sequence request) :
    IsEchoRequest request ∧ requestNumber request = sequence := by
  obtain ⟨timestamp, package, created, encoded⟩ := built
  have listed := IcmpPackage.words_toBytes encoded
  obtain ⟨_, rfl⟩ := IcmpPackage.createEchoRequest_eq_ok_iff.mp created
  have type : (words request.packetData)[0]? = some (8 * 256) := by
    simp [listed, IcmpPackage.headerWords, IcmpPackage.setChecksum, IcmpPackage.uncheckedRequest,
      IcmpType.value]
  have identifier : (words request.packetData)[2]? = some 12345 := by
    simp [listed, IcmpPackage.headerWords, IcmpPackage.setChecksum, IcmpPackage.uncheckedRequest]
  have number : (words request.packetData)[3]? = some sequence := by
    simp [listed, IcmpPackage.headerWords, IcmpPackage.setChecksum, IcmpPackage.uncheckedRequest]
  have typeWord := wordAt_of_words type
  have identifierWord := wordAt_of_words identifier
  have numberWord := wordAt_of_words number
  exact ⟨⟨typeWord, identifierWord⟩, numberWord⟩

end Words

/-- The requests that the finished calls of a client have handed to its socket. -/
def finishedRequests (client : IcmpClient) : List EchoRequest :=
  client.history.filterMap CallRecord.sent

/-- Each request of a finished call is older than the current one, and their numbers grow. -/
structure Numbering (client : IcmpClient) : Prop where
  notNegative : 0 ≤ client.sequence
  isRequest : ∀ request ∈ finishedRequests client, IsEchoRequest request
  bounded : ∀ request ∈ finishedRequests client, (requestNumber request : Int) ≤ client.sequence
  increasing : (finishedRequests client).Pairwise fun earlier later =>
    requestNumber earlier < requestNumber later
  current : ∀ request, client.phase.request? = some request →
    IsEchoRequest request ∧ (requestNumber request : Int) = client.sequence ∧
      ∀ earlier ∈ finishedRequests client, requestNumber earlier < requestNumber request

section Clients

variable {client changed : IcmpClient} (numbering : Numbering client)

include numbering

/-- A step that leaves the counter, the requests, and the current request alone. -/
theorem Numbering.of_same (sequence : changed.sequence = client.sequence)
    (sent : finishedRequests changed = finishedRequests client)
    (current : ∀ request, changed.phase.request? = some request →
      client.phase.request? = some request) : Numbering changed where
  notNegative := sequence ▸ numbering.notNegative
  isRequest := sent ▸ numbering.isRequest
  bounded := by
    rw [sent, sequence]
    exact numbering.bounded
  increasing := sent ▸ numbering.increasing
  current request isCurrent := by
    rw [sequence, sent]
    exact numbering.current request (current request isCurrent)

/-- A call that has not sent a request leaves no request behind. -/
theorem Numbering.finish_unsent (result : Except CallError EchoResult) :
    Numbering (client.finish none none none result) := by
  apply numbering.of_same
  · rfl
  · simp [finishedRequests, IcmpClient.finish]
  · intro request impossible
    cases impossible

/-- The request of the current call comes behind all others. -/
theorem Numbering.finish_sent {request : EchoRequest}
    (isCurrent : client.phase.request? = some request) (received lost : Option Nat)
    (result : Except CallError EchoResult) :
    Numbering (client.finish (some request) received lost result) := by
  obtain ⟨isRequest, number, latest⟩ := numbering.current request isCurrent
  have sent : finishedRequests (client.finish (some request) received lost result) =
      finishedRequests client ++ [request] := by
    simp [finishedRequests, IcmpClient.finish]
  constructor
  case notNegative => exact numbering.notNegative
  case isRequest =>
    intro other present
    rw [sent] at present
    rcases List.mem_append.mp present with old | new
    · exact numbering.isRequest other old
    · rw [List.mem_singleton.mp new]
      exact isRequest
  case bounded =>
    intro other present
    rw [sent] at present
    rcases List.mem_append.mp present with old | new
    · exact numbering.bounded other old
    · rw [List.mem_singleton.mp new]
      exact Int.le_of_eq number
  case increasing =>
    rw [sent, List.pairwise_append]
    refine ⟨numbering.increasing, List.pairwise_singleton _ _, ?_⟩
    intro earlier present later isLater
    rw [List.mem_singleton.mp isLater]
    exact latest earlier present
  case current =>
    intro other impossible
    cases impossible

/-- The preparation moves the counter beyond all requests, whether it succeeds or not. -/
theorem Numbering.prepare (destIp : AddressV4) (timestamp : Vector UInt8 8) (timeout : Option ℚ)
    (clock : ℚ) : Numbering (client.prepare destIp timestamp timeout clock) := by
  have positive := numbering.notNegative
  have moved : Numbering { client with sequence := client.sequence + 1, phase := .idle } :=
    { notNegative := Int.le_add_one positive
      isRequest := numbering.isRequest
      bounded := fun request present => Int.le_add_one (numbering.bounded request present)
      increasing := numbering.increasing
      current := fun request impossible => by cases impossible }
  cases created : IcmpPackage.createEchoRequest timestamp none (client.sequence + 1) none with
  | error error =>
      rw [prepare_of_error created]
      exact moved.finish_unsent (.ok .failure)
  | ok package =>
      obtain ⟨packetData, encoded⟩ :=
        IcmpPackage.toBytes_of_inRange (IcmpPackage.created_fields created).1
      rw [prepare_of_ok created encoded]
      obtain ⟨sequence, isSequence⟩ := Int.eq_ofNat_of_zero_le (Int.le_add_one positive)
      rw [isSequence] at created
      have built : Built sequence ⟨destIp, packetData⟩ := ⟨timestamp, package, created, encoded⟩
      obtain ⟨isRequest, number⟩ := isEchoRequest_of_built built
      refine ⟨moved.notNegative, moved.isRequest, moved.bounded, moved.increasing, ?_⟩
      intro request isCurrent
      obtain rfl := Option.some.inj isCurrent
      refine ⟨isRequest, ?_, ?_⟩
      · rw [number]
        exact isSequence.symm
      · intro earlier present
        have before := numbering.bounded earlier present
        rw [number]
        omega

end Clients

section Hosts

variable {host next last : Host} {event : HostEvent} {events : List HostEvent} {number : Nat}

theorem Numbering.step (numbering : Numbering (host.client number))
    (stepped : host.step event = some next) : Numbering (next.client number) := by
  cases hidden : event.concerns number with
  | false =>
      rw [show next.client number = host.client number from
        congrArg ClientView.client (viewOf_of_hidden hidden stepped)]
      exact numbering
  | true =>
      have own {other : Nat} : event.client? = some other → other = number := eq_of_concerns hidden
      have keeps {phase : Phase} (same : phase.request? = (host.client number).phase.request?) :
          Numbering { host.client number with phase := phase } :=
        numbering.of_same rfl rfl fun request isCurrent => same ▸ isCurrent
      cases step_eq_some_iff.mp stepped with
      | entered =>
          obtain rfl := own rfl
          rw [setClient_self]
          exact numbering.of_same rfl rfl fun _ => id
      | exited => exact numbering
      | raised =>
          obtain rfl := own rfl
          rw [setClient_self]
          exact numbering.finish_unsent (.error (.exception ""))
      | called idle =>
          obtain rfl := own rfl
          rw [setClient_self]
          exact keeps (by rw [idle]; rfl)
      | @resolved _ _ _ timeout _ _ _ destIp _ timestamp =>
          obtain rfl := own rfl
          rw [setClient_self]
          exact numbering.prepare destIp timestamp timeout host.clock
      | unresolved =>
          obtain rfl := own rfl
          rw [setClient_self]
          exact numbering.finish_unsent (.ok .failure)
      | sent sending =>
          obtain rfl := own rfl
          rw [setClient_self]
          exact keeps (by rw [sending]; rfl)
      | unsent =>
          obtain rfl := own rfl
          rw [setClient_self]
          exact numbering.finish_unsent (.ok .failure)
      | received waiting =>
          obtain rfl := own rfl
          rw [setClient_self]
          exact numbering.finish_sent (by rw [waiting]; rfl) _ _ _
      | failed waiting =>
          obtain rfl := own rfl
          rw [setClient_self]
          exact numbering.finish_sent (by rw [waiting]; rfl) none none (.ok .failure)
      | unanswered waiting ends =>
          obtain rfl := own ends.client?_eq
          rw [setClient_self]
          exact numbering.finish_sent (by rw [waiting]; rfl) none none _
      | lost waiting _ ends =>
          obtain rfl := own ends.client?_eq
          rw [setClient_self]
          exact numbering.finish_sent (by rw [waiting]; rfl) none _ _
      | unresolvedCancelled =>
          obtain rfl := own rfl
          rw [setClient_self]
          exact numbering.finish_unsent (.error .cancelled)
      | sendCancelled sending done =>
          obtain rfl := own rfl
          rw [setClient_self]
          cases done with
          | false => exact numbering.finish_unsent (.error .cancelled)
          | true => exact numbering.finish_sent (by rw [sending]; rfl) none none _
      | arrived => exact numbering
      | passed => exact numbering

/-- The request of a waiting call comes behind those of the finished calls. -/
theorem Numbering.sent {client : IcmpClient} (numbering : Numbering client) :
    (∀ request ∈ sentRequests client, IsEchoRequest request) ∧
      (sentRequests client).Pairwise fun earlier later =>
        requestNumber earlier < requestNumber later := by
  rw [sentRequests]
  cases waits : waitingRequest client with
  | none =>
      rw [Option.toList_none, List.append_nil]
      exact ⟨numbering.isRequest, numbering.increasing⟩
  | some request =>
      have isCurrent : client.phase.request? = some request := by
        unfold waitingRequest at waits
        split at waits
        · next waiting =>
            rw [waiting]
            exact waits
        · cases waits
      obtain ⟨isRequest, _, latest⟩ := numbering.current request isCurrent
      rw [Option.toList_some]
      apply And.intro
      · intro other present
        rcases List.mem_append.mp present with old | new
        · exact numbering.isRequest other old
        · rw [List.mem_singleton.mp new]
          exact isRequest
      · refine List.pairwise_append.mpr ⟨numbering.increasing, List.pairwise_singleton _ _, ?_⟩
        intro earlier present later isLater
        rw [List.mem_singleton.mp isLater]
        exact latest earlier present

/-- In each run the requests of a client differ in their numbers, which grow from call to call. -/
theorem requests_increase (ran : Host.start.run events = some last) (number : Nat) :
    (∀ request ∈ sentRequests (last.client number), IsEchoRequest request) ∧
      (sentRequests (last.client number)).Pairwise fun earlier later =>
        requestNumber earlier < requestNumber later := by
  have start : Numbering (Host.start.client number) := by
    constructor <;> simp [Host.start, finishedRequests, Phase.request?]
  rw [run_eq_runSteps] at ran
  have numbering := runSteps_invariant (fun host => Numbering (host.client number))
    (fun _ => True) (fun _ _ _ _ numbering => numbering.step) start (fun _ _ => trivial) ran
  exact numbering.sent

end Hosts

theorem requests_increase_shared :
    ∃ last, Host.start.run sharedEvents = some last ∧
      (∀ request ∈ sentRequests (last.client 1), IsEchoRequest request) ∧
      (sentRequests (last.client 1)).Pairwise fun earlier later =>
        requestNumber earlier < requestNumber later := by
  have runs : (Host.start.run sharedEvents).isSome = true := by decide +kernel
  obtain ⟨last, ran⟩ := Option.isSome_iff_exists.mp runs
  exact ⟨last, ran, requests_increase ran 1⟩

end NetworkTools
