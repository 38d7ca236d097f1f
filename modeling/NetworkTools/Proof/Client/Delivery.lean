/-
This file proves that each open client takes each datagram off its socket once and in order, and
what its calls report about them.
-/

import NetworkTools.Proof.Client.Attribution
import NetworkTools.Proof.Client.Interleaving
import NetworkTools.Specification.Delivery
import Mathlib.Data.List.Range
import Mathlib.Tactic.Positivity

namespace NetworkTools
open Library Specification

variable {host next last : Host} {event : HostEvent} {events : List HostEvent} {number : Nat}

section Sessions

/-- A step of an open client adds what has arrived to its queue, or takes the head of the queue. -/
inductive SessionStep (host next : Host) (number : Nat) (pending : List (List UInt8)) : Prop where
  | waits (more : List (List UInt8)) (later : List CallRecord)
      (log : next.sockets.log = host.sockets.log ++ more)
      (queue : next.sockets.queue number = some (pending ++ more))
      (history : (next.client number).history = (host.client number).history ++ later)
      (untaken : ∀ record ∈ later, drawnBy record = none)
  | takes (record : CallRecord) (datagram : List UInt8) (rest : List (List UInt8))
      (isPending : pending = datagram :: rest)
      (log : next.sockets.log = host.sockets.log)
      (queue : next.sockets.queue number = some rest)
      (history : (next.client number).history = (host.client number).history ++ [record])
      (drawn : drawnBy record = some (host.sockets.position (datagram :: rest)))

variable {pending : List (List UInt8)} (isOpen : host.sockets.queue number = some pending)

include isOpen

theorem SessionStep.of_view (same : next.viewOf number = host.viewOf number) :
    SessionStep host next number pending := by
  obtain ⟨_, log, queue, client⟩ := ClientView.mk.inj same
  exact .waits [] [] (by rw [log, List.append_nil]) (by rw [queue, isOpen, List.append_nil])
    (by rw [client, List.append_nil]) (by simp)

/-- A step of the client between two awaits leaves the queue alone. -/
theorem SessionStep.of_setClient {client : IcmpClient} (later : List CallRecord)
    (history : client.history = (host.client number).history ++ later)
    (untaken : ∀ record ∈ later, drawnBy record = none) :
    SessionStep host (host.setClient number client) number pending :=
  .waits [] later (List.append_nil _).symm (by rw [List.append_nil]; exact isOpen)
    (by rw [setClient_self, history]) untaken

theorem SessionStep.of_finish (sent : Option EchoRequest) (result : Except CallError EchoResult) :
    SessionStep host (host.setClient number ((host.client number).finish sent none none result))
      number pending :=
  .of_setClient isOpen [⟨sent, none, none, result⟩] rfl (by simp [drawnBy])

/-- A call that takes the head of the queue ends, whether it receives the datagram or loses it. -/
theorem SessionStep.of_drop {record : CallRecord} {datagram : List UInt8}
    {rest : List (List UInt8)} (isPending : host.sockets.queue number = some (datagram :: rest))
    (drawn : drawnBy record = some (host.sockets.position (datagram :: rest))) :
    SessionStep host
      (Host.setClient { host with sockets := host.sockets.drop number } number
        ((host.client number).finish record.sent record.received record.lost record.result))
      number pending := by
  obtain rfl := Option.some.inj (isOpen.symm.trans isPending)
  refine .takes record datagram rest rfl rfl ?_ ?_ drawn
  · simp only [Host.setClient, Broadcast.drop, Function.update_self, isOpen, Option.map_some,
      List.tail_cons]
  · rw [setClient_self]
    rfl

theorem SessionStep.of_phase (phase : Phase) :
    SessionStep host (host.setClient number { host.client number with phase := phase }) number
      pending :=
  .of_setClient isOpen [] (List.append_nil _).symm (by simp)

theorem sessionStep (stays : event ≠ .exit number) (stepped : host.step event = some next) :
    SessionStep host next number pending := by
  cases hidden : event.concerns number with
  | false => exact .of_view isOpen (viewOf_of_hidden hidden stepped)
  | true =>
      have own {other : Nat} : event.client? = some other → other = number := eq_of_concerns hidden
      cases step_eq_some_iff.mp stepped with
      | entered closed =>
          obtain rfl := own rfl
          rw [isOpen] at closed
          cases closed
      | exited =>
          obtain rfl := own rfl
          exact absurd rfl stays
      | raised =>
          obtain rfl := own rfl
          exact .of_finish isOpen none _
      | called =>
          obtain rfl := own rfl
          exact .of_phase isOpen _
      | @resolved other _ _ timeout _ _ _ destIp _ timestamp =>
          obtain rfl := own rfl
          rcases prepare_history (host.client other) destIp timestamp timeout host.clock with
            kept | failed
          · exact .of_setClient isOpen [] (by rw [kept, List.append_nil]) (by simp)
          · exact .of_setClient isOpen _ failed (by simp [drawnBy])
      | unresolved =>
          obtain rfl := own rfl
          exact .of_finish isOpen none _
      | sent =>
          obtain rfl := own rfl
          exact .of_phase isOpen _
      | unsent =>
          obtain rfl := own rfl
          exact .of_finish isOpen none _
      | @received other request _ startTime datagram rest waiting isPending =>
          obtain rfl := own rfl
          have drawn : drawnBy (receivedRecord host request startTime datagram rest) =
              some (host.sockets.position (datagram :: rest)) := rfl
          exact .of_drop isOpen isPending drawn
      | failed =>
          obtain rfl := own rfl
          exact .of_finish isOpen _ _
      | unanswered _ ends =>
          obtain rfl := own ends.client?_eq
          exact .of_finish isOpen _ _
      | @lost other request _ _ datagram rest _ result _ isPending ends =>
          obtain rfl := own ends.client?_eq
          have drawn : drawnBy ⟨some request, none,
              some (host.sockets.position (datagram :: rest)), result⟩ =
                some (host.sockets.position (datagram :: rest)) := rfl
          exact .of_drop isOpen isPending drawn
      | unresolvedCancelled =>
          obtain rfl := own rfl
          exact .of_finish isOpen none _
      | sendCancelled =>
          obtain rfl := own rfl
          exact .of_finish isOpen _ _
      | arrived datagram =>
          refine .waits [datagram] [] rfl ?_ (List.append_nil _).symm (by simp)
          simp only [Broadcast.publish, isOpen, Option.map_some]
      | passed =>
          exact .waits [] [] (List.append_nil _).symm (by rw [List.append_nil]; exact isOpen)
            (List.append_nil _).symm (by simp)

end Sessions

/-- The client has taken these many datagrams off its socket since the log had this length, and the
others wait. -/
structure Session (host : Host) (number opened : Nat) (earlier : List CallRecord) (drawn : Nat) :
    Prop where
  queue : host.sockets.queue number = some (host.sockets.log.drop (opened + drawn))
  inside : opened + drawn ≤ host.sockets.log.length
  history : ∃ later, (host.client number).history = earlier ++ later ∧
    later.filterMap drawnBy = List.range' opened drawn

theorem Session.step {opened drawn : Nat} {earlier : List CallRecord}
    (session : Session host number opened earlier drawn) (stays : event ≠ .exit number)
    (stepped : host.step event = some next) :
    ∃ drawn, Session next number opened earlier drawn := by
  obtain ⟨later, isHistory, positions⟩ := session.history
  cases sessionStep session.queue stays stepped with
  | waits more added log queue history untaken =>
      refine ⟨drawn, ?_, ?_, later ++ added, ?_, ?_⟩
      · rw [queue, log, List.drop_append_of_le_length session.inside]
      · rw [log, List.length_append]
        exact Nat.le_add_right_of_le session.inside
      · rw [history, isHistory, List.append_assoc]
      · rw [List.filterMap_append, positions, List.filterMap_eq_nil_iff.mpr untaken,
          List.append_nil]
  | takes record datagram rest isPending log queue history isDrawn =>
      have length := congrArg List.length isPending
      rw [List.length_drop, List.length_cons] at length
      have here : host.sockets.position (datagram :: rest) = opened + drawn := by
        rw [Broadcast.position, List.length_cons]
        omega
      rw [here] at isDrawn
      refine ⟨drawn + 1, ?_, ?_, later ++ [record], ?_, ?_⟩
      · rw [queue, log, ← Nat.add_assoc, ← List.drop_drop, isPending]
        rfl
      · rw [log]
        omega
      · rw [history, isHistory, List.append_assoc]
      · rw [List.filterMap_append, positions, List.range'_concat, Nat.one_mul,
          List.filterMap_cons_some isDrawn, List.filterMap_nil]

theorem Session.run {opened drawn : Nat} {earlier : List CallRecord}
    (session : Session host number opened earlier drawn)
    (stays : ∀ event ∈ events, event ≠ .exit number) (ran : host.run events = some last) :
    ∃ drawn, Session last number opened earlier drawn := by
  rw [run_eq_runSteps] at ran
  exact runSteps_invariant (fun host => ∃ drawn, Session host number opened earlier drawn)
    (fun event => event ≠ .exit number)
    (fun _ _ _ stays ⟨_, session⟩ stepped => session.step stays stepped) ⟨drawn, session⟩ stays ran

theorem session_of_open {pending : List (List UInt8)}
    (isOpen : host.sockets.queue number = some pending) :
    Session host number (host.sockets.position pending) (host.client number).history 0 where
  queue := by
    have suffix := host.sockets.suffix number pending isOpen
    rw [isOpen, Broadcast.position, Nat.add_zero, ← List.suffix_iff_eq_drop.mp suffix]
  inside := by
    rw [Broadcast.position]
    omega
  history := ⟨[], (List.append_nil _).symm, rfl⟩

/-- What a call receives it has taken off its socket. -/
theorem received_sublist_drawn (records : List CallRecord) :
    (records.filterMap CallRecord.received).Sublist (records.filterMap drawnBy) := by
  induction records with
  | nil => exact .slnil
  | cons record records ih =>
      cases received : record.received with
      | some position =>
          have drawn : drawnBy record = some position := by rw [drawnBy, received]; rfl
          rw [List.filterMap_cons_some received, List.filterMap_cons_some drawn]
          exact ih.cons_cons position
      | none =>
          rw [List.filterMap_cons_none received]
          apply ih.trans
          exact (List.sublist_cons_self record records).filterMap drawnBy

theorem received_eq_drawn {records : List CallRecord}
    (lossless : ∀ record ∈ records, record.lost = none) :
    records.filterMap CallRecord.received = records.filterMap drawnBy := by
  apply List.filterMap_congr
  intro record present
  rw [drawnBy, lossless record present]
  cases record.received <;> rfl

/-- An open client takes each datagram that arrives off its socket once and in order, whatever else
happens. -/
theorem received_in_order {pending : List (List UInt8)}
    (isOpen : host.sockets.queue number = some pending)
    (stays : ∀ event ∈ events, event ≠ .exit number) (ran : host.run events = some last) :
    ∃ drawn, TakesInOrder host last number (host.sockets.position pending) drawn := by
  obtain ⟨drawn, session⟩ := (session_of_open isOpen).run stays ran
  obtain ⟨later, history, positions⟩ := session.history
  have since : callsSince host last number = later := by rw [callsSince, history, List.drop_left]
  refine ⟨drawn, ⟨later, history.symm⟩, ?_, session.queue, ?_, fun lossless => ?_⟩
  · rw [drawnSince, since, positions]
  · exact received_sublist_drawn _
  · exact received_eq_drawn lossless

/-- The first client takes the reply, whatever the second client does. -/
theorem received_in_order_shared :
    ∃ opened last pending, Host.start.run (sharedEvents.take 2) = some opened ∧
      opened.run (sharedEvents.drop 2) = some last ∧
      opened.sockets.queue 0 = some pending ∧
      ∃ drawn, TakesInOrder opened last 0 (opened.sockets.position pending) drawn := by
  have enters : ((Host.start.run (sharedEvents.take 2)).bind fun opened =>
      opened.sockets.queue 0) = some [] := by
    decide +kernel
  have runs : ((Host.start.run (sharedEvents.take 2)).bind fun opened =>
      opened.run (sharedEvents.drop 2)).isSome = true := by
    decide +kernel
  obtain ⟨opened, entered, isOpen⟩ := Option.bind_eq_some_iff.mp enters
  rw [entered, Option.bind_some] at runs
  obtain ⟨last, ran⟩ := Option.isSome_iff_exists.mp runs
  exact ⟨opened, last, [], entered, ran, isOpen,
    received_in_order isOpen (by simp [sharedEvents]) ran⟩

/-- The timer of the first client comes when its receive is done, and the reply is lost. -/
example : (Host.start.run (sharedEvents.take 9 ++ [.pass 5, .expired 0 true])).map (fun last =>
    (drawnSince Host.start last 0, takenSince Host.start last 0)) = some ([0], []) := by
  decide +kernel

section Accounts

/-- The texts of the source and the rest of the datagram do not depend on the clock. -/
theorem echoResponse_of_reaches {datagram : List UInt8} (reaches : 16 ≤ datagram.length)
    (startTime endTime : ℚ) :
    echoResponse datagram startTime endTime =
      ⟨dottedQuad ((datagram.take 16).drop 12), true, (endTime - startTime) * 1000,
        some ((datagram.take receiveSize).drop 20)⟩ := by
  have slice : (((datagram.take receiveSize).take 20).take 16).drop 12 =
      (datagram.take 16).drop 12 := by
    rw [List.take_take, List.take_take]
    rfl
  have four : ((datagram.take 16).drop 12).length = 4 := by
    rw [List.length_drop, List.length_take]
    omega
  simp only [echoResponse, slice, inetNtoa, four, if_pos]
  rfl

theorem echoResponse_of_short {datagram : List UInt8} (short : ¬ 16 ≤ datagram.length)
    (startTime endTime : ℚ) : echoResponse datagram startTime endTime = .failure := by
  have slice : ((((datagram.take receiveSize).take 20).take 16).drop 12).length ≠ 4 := by
    simp only [List.length_drop, List.length_take, receiveSize]
    omega
  simp only [echoResponse, inetNtoa, if_neg slice]

/-- The clock of the host is not behind the start of a call. -/
def Phase.StartsBy (clock : ℚ) : Phase → Prop
  | .idle => True
  | .resolving _ _ _ => True
  | .sending _ _ startTime => startTime ≤ clock
  | .waiting _ _ startTime => startTime ≤ clock

/-- Each finished call is accounted for, and no call starts in the future. -/
structure Accounting (host : Host) : Prop where
  records : ∀ number, ∀ record ∈ (host.client number).history,
    Accounted host.sockets.log record
  starts : ∀ number, (host.client number).phase.StartsBy host.clock

theorem accounted_failure (log : List (List UInt8)) (sent : Option EchoRequest)
    (received : Option Nat) : Accounted log ⟨sent, received, none, .ok .failure⟩ where
  reports := .inl rfl
  loses := by simp

theorem accounted_cancelled (log : List (List UInt8)) (sent : Option EchoRequest) :
    Accounted log ⟨sent, none, none, .error .cancelled⟩ where
  reports := rfl
  loses := by simp

/-- A wait that ends without an answer reports nothing, and it may lose a datagram of the log. -/
theorem EndsWait.accounted {deadline : Option ℚ} {done : Bool}
    {result : Except CallError EchoResult} (ends : EndsWait host number deadline done event result)
    (request : EchoRequest) {lost : Option Nat}
    (arrived : ∀ position, lost = some position → position < host.sockets.log.length) :
    Accounted host.sockets.log ⟨some request, none, lost, result⟩ := by
  cases ends with
  | expired => exact ⟨.inl rfl, fun _ isLost => ⟨rfl, rfl, arrived _ isLost, .inl rfl⟩⟩
  | cancelled => exact ⟨rfl, fun _ isLost => ⟨rfl, rfl, arrived _ isLost, .inr rfl⟩⟩

theorem reports_grows {log longer : List (List UInt8)} {record : CallRecord}
    (reported : Reports log record) (grows : log <+: longer) : Reports longer record := by
  unfold Reports at *
  split at reported
  · exact reported
  · exact reported
  · rcases reported with failed | ⟨success, position, datagram, reports⟩
    · exact .inl failed
    · refine .inr ⟨success, position, datagram, { reports with arrived := ?_ }⟩
      have inside := (List.getElem?_eq_some_iff.mp reports.arrived).1
      rw [List.prefix_iff_getElem?.mp grows position inside, ← List.getElem?_eq_getElem,
        reports.arrived]

theorem Accounted.of_grows {log longer : List (List UInt8)} {record : CallRecord}
    (accounted : Accounted log record) (grows : log <+: longer) : Accounted longer record where
  reports := reports_grows accounted.reports grows
  loses position isLost :=
    have loses := accounted.loses position isLost
    { loses with arrived := Nat.lt_of_lt_of_le loses.arrived grows.length_le }

theorem Phase.StartsBy.of_le {phase : Phase} {clock later : ℚ} (starts : phase.StartsBy clock)
    (passes : clock ≤ later) : phase.StartsBy later := by
  cases phase with
  | idle => trivial
  | resolving => trivial
  | sending => exact le_trans starts passes
  | waiting => exact le_trans starts passes

theorem prepare_startsBy (client : IcmpClient) (destIp : AddressV4) (timestamp : Vector UInt8 8)
    (timeout : Option ℚ) (clock : ℚ) :
    (client.prepare destIp timestamp timeout clock).phase.StartsBy clock := by
  unfold IcmpClient.prepare
  simp only
  split
  · trivial
  · split
    · trivial
    · exact le_refl clock

theorem prepare_accounted {log : List (List UInt8)} {client : IcmpClient}
    (records : ∀ record ∈ client.history, Accounted log record) (destIp : AddressV4)
    (timestamp : Vector UInt8 8) (timeout : Option ℚ) (clock : ℚ) :
    ∀ record ∈ (client.prepare destIp timestamp timeout clock).history, Accounted log record := by
  rcases prepare_history client destIp timestamp timeout clock with kept | failed
  · rw [kept]
    exact records
  · rw [failed]
    intro record present
    rcases List.mem_append.mp present with old | new
    · exact records record old
    · rw [List.mem_singleton.mp new]
      exact accounted_failure log none none

variable (accounting : Accounting host)

include accounting

theorem Accounting.setClient {sockets : Broadcast (List UInt8)} {client : IcmpClient}
    (log : sockets.log = host.sockets.log) (starts : client.phase.StartsBy host.clock)
    (records : ∀ record ∈ client.history, Accounted host.sockets.log record) :
    Accounting (Host.setClient { host with sockets := sockets } number client) := by
  constructor
  case records =>
    intro other
    change ∀ record ∈ ((Host.setClient _ number client).client other).history,
      Accounted sockets.log record
    rw [log]
    by_cases same : other = number
    · rw [same, setClient_self]
      exact records
    · rw [setClient_other _ same]
      exact accounting.records other
  case starts =>
    intro other
    by_cases same : other = number
    · rw [same, setClient_self]
      exact starts
    · rw [setClient_other _ same]
      exact accounting.starts other

theorem Accounting.finish {sockets : Broadcast (List UInt8)} (log : sockets.log = host.sockets.log)
    (record : CallRecord) (accounted : Accounted host.sockets.log record) :
    Accounting (Host.setClient { host with sockets := sockets } number
      ((host.client number).finish record.sent record.received record.lost record.result)) := by
  have starts : ((host.client number).finish record.sent record.received record.lost
      record.result).phase.StartsBy host.clock := trivial
  apply accounting.setClient log starts
  intro other present
  rcases List.mem_append.mp present with old | new
  · exact accounting.records number other old
  · rw [List.mem_singleton.mp new]
    exact accounted

theorem Accounting.received {request : EchoRequest} {deadline : Option ℚ} {startTime : ℚ}
    {datagram : List UInt8} {rest : List (List UInt8)}
    (waiting : (host.client number).phase = .waiting request deadline startTime)
    (isPending : host.sockets.queue number = some (datagram :: rest)) :
    Accounted host.sockets.log (receivedRecord host request startTime datagram rest) := by
  have starts := accounting.starts number
  rw [waiting] at starts
  by_cases reaches : 16 ≤ datagram.length
  · have response := echoResponse_of_reaches reaches startTime host.clock
    rw [receivedRecord, response]
    exact ⟨.inr ⟨rfl, _, datagram, rfl, rfl, host.sockets.log_position isPending, reaches, rfl, rfl,
      mul_nonneg (sub_nonneg.mpr starts) (by norm_num)⟩, by simp⟩
  · rw [receivedRecord, echoResponse_of_short reaches]
    exact accounted_failure host.sockets.log _ _

theorem Accounting.step (stepped : host.step event = some next) : Accounting next := by
  have failed (sent : Option EchoRequest) :=
    accounted_failure host.sockets.log sent none
  cases step_eq_some_iff.mp stepped with
  | @entered other =>
      exact accounting.setClient rfl (accounting.starts other) (accounting.records other)
  | exited => exact ⟨accounting.records, accounting.starts⟩
  | raised =>
      have accounted : Accounted host.sockets.log
          ⟨none, none, none, .error (.exception "")⟩ := ⟨⟨rfl, rfl, rfl, rfl⟩, by simp⟩
      exact accounting.finish rfl _ accounted
  | @called other => exact accounting.setClient rfl trivial (accounting.records other)
  | @resolved other _ _ _ _ _ _ destIp _ timestamp =>
      exact accounting.setClient rfl (prepare_startsBy _ destIp timestamp _ host.clock)
        (prepare_accounted (accounting.records other) destIp timestamp _ host.clock)
  | unresolved => exact accounting.finish rfl _ (failed none)
  | @sent other _ _ _ sending =>
      have starts := accounting.starts other
      rw [sending] at starts
      exact accounting.setClient rfl starts (accounting.records other)
  | unsent => exact accounting.finish rfl _ (failed none)
  | @received other _ _ _ _ _ waiting isPending =>
      have log : (host.sockets.drop other).log = host.sockets.log := rfl
      exact accounting.finish log _ (accounting.received waiting isPending)
  | failed => exact accounting.finish rfl _ (failed _)
  | @unanswered _ request _ _ _ _ _ ends =>
      exact accounting.finish rfl _ (ends.accounted request (by simp))
  | @lost other request _ _ _ _ _ _ _ isPending ends =>
      have log : (host.sockets.drop other).log = host.sockets.log := rfl
      have arrived := (List.getElem?_eq_some_iff.mp (host.sockets.log_position isPending)).1
      exact accounting.finish log _ (ends.accounted request fun _ isLost =>
        Option.some.inj isLost ▸ arrived)
  | unresolvedCancelled =>
      exact accounting.finish rfl _ (accounted_cancelled host.sockets.log none)
  | sendCancelled => exact accounting.finish rfl _ (accounted_cancelled host.sockets.log _)
  | arrived datagram =>
      refine ⟨fun other record present => ?_, accounting.starts⟩
      exact Accounted.of_grows (accounting.records other record present) (List.prefix_append _ _)
  | passed nonneg =>
      exact ⟨accounting.records, fun other =>
        (accounting.starts other).of_le (le_add_of_nonneg_right nonneg)⟩

end Accounts

end NetworkTools
