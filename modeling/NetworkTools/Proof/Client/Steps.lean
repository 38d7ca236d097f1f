/-
This file lists the outcomes of the steps of a host.
-/

import NetworkTools.Construction.IcmpClient

namespace NetworkTools
open Library

/-- The timer or a cancellation ends a wait. The receive of the wait may be done. -/
inductive EndsWait (host : Host) (number : Nat) (deadline : Option ℚ) (done : Bool) :
    HostEvent → Except CallError EchoResult → Prop where
  | expired {limit : ℚ} (isDeadline : deadline = some limit) (passed : limit ≤ host.clock) :
      EndsWait host number deadline done (.expired number done) (.ok .failure)
  | cancelled : EndsWait host number deadline done (.cancelled number done) (.error .cancelled)

/-- Each event of a client needs its phase, and some events have two outcomes. -/
inductive StepsTo (host : Host) : HostEvent → Host → Prop where
  | entered {number : Nat} (closed : host.sockets.queue number = none) :
      StepsTo host (.enter number)
        (Host.setClient { host with sockets := host.sockets.subscribe number } number
          { host.client number with hasSocket := true })
  | exited {number : Nat} (idle : (host.client number).phase = .idle) :
      StepsTo host (.exit number) { host with sockets := host.sockets.unsubscribe number }
  | raised {number : Nat} (idle : (host.client number).phase = .idle)
      (closed : (host.client number).hasSocket = false) (name : String) (ttl : Int)
      (timeout : Option ℚ) :
      StepsTo host (.call number name ttl timeout)
        (host.setClient number ((host.client number).finish none none none
          (.error (.exception ""))))
  | called {number : Nat} (idle : (host.client number).phase = .idle)
      (isOpen : (host.client number).hasSocket = true) (name : String) (ttl : Int)
      (timeout : Option ℚ) :
      StepsTo host (.call number name ttl timeout)
        (host.setClient number
          { host.client number with phase := .resolving name ttl timeout })
  | resolved {number : Nat} {name : String} {ttl : Int} {timeout : Option ℚ}
      {pending : List (List UInt8)}
      (resolving : (host.client number).phase = .resolving name ttl timeout)
      (isPending : host.sockets.queue number = some pending) (destIp : AddressV4)
      (others : List AddressV4) (timestamp : Vector UInt8 8) :
      StepsTo host (.resolved number (.ok (destIp :: others)) (.ok ()) timestamp)
        (host.setClient number
          ((host.client number).prepare destIp timestamp timeout host.clock))
  | unresolved {number : Nat} {name : String} {ttl : Int} {timeout : Option ℚ}
      {addresses : Except String (List AddressV4)} {option : Except String Unit}
      (resolving : (host.client number).phase = .resolving name ttl timeout)
      (refused : ∀ destIp others pending, addresses = .ok (destIp :: others) → option = .ok () →
        host.sockets.queue number = some pending → False) (timestamp : Vector UInt8 8) :
      StepsTo host (.resolved number addresses option timestamp)
        (host.setClient number ((host.client number).finish none none none (.ok .failure)))
  | sent {number : Nat} {request : EchoRequest} {timeout : Option ℚ} {startTime : ℚ}
      (sending : (host.client number).phase = .sending request timeout startTime) :
      StepsTo host (.sent number (.ok ()))
        (host.setClient number { host.client number with
          phase := .waiting request (timeout.map (host.clock + ·)) startTime })
  | unsent {number : Nat} {request : EchoRequest} {timeout : Option ℚ} {startTime : ℚ}
      (sending : (host.client number).phase = .sending request timeout startTime) (e : String) :
      StepsTo host (.sent number (.error e))
        (host.setClient number ((host.client number).finish none none none (.ok .failure)))
  | received {number : Nat} {request : EchoRequest} {deadline : Option ℚ} {startTime : ℚ}
      {datagram : List UInt8} {rest : List (List UInt8)}
      (waiting : (host.client number).phase = .waiting request deadline startTime)
      (isPending : host.sockets.queue number = some (datagram :: rest)) :
      StepsTo host (.received number)
        (Host.setClient { host with sockets := host.sockets.drop number } number
          ((host.client number).finish (some request)
            (some (host.sockets.position (datagram :: rest))) none
            (.ok (echoResponse datagram startTime host.clock))))
  | failed {number : Nat} {request : EchoRequest} {deadline : Option ℚ} {startTime : ℚ}
      (waiting : (host.client number).phase = .waiting request deadline startTime) :
      StepsTo host (.failed number)
        (host.setClient number
          ((host.client number).finish (some request) none none (.ok .failure)))
  | unanswered {number : Nat} {request : EchoRequest} {deadline : Option ℚ} {startTime : ℚ}
      {event : HostEvent} {result : Except CallError EchoResult}
      (waiting : (host.client number).phase = .waiting request deadline startTime)
      (ends : EndsWait host number deadline false event result) :
      StepsTo host event
        (host.setClient number ((host.client number).finish (some request) none none result))
  | lost {number : Nat} {request : EchoRequest} {deadline : Option ℚ} {startTime : ℚ}
      {datagram : List UInt8} {rest : List (List UInt8)} {event : HostEvent}
      {result : Except CallError EchoResult}
      (waiting : (host.client number).phase = .waiting request deadline startTime)
      (isPending : host.sockets.queue number = some (datagram :: rest))
      (ends : EndsWait host number deadline true event result) :
      StepsTo host event
        (Host.setClient { host with sockets := host.sockets.drop number } number
          ((host.client number).finish (some request) none
            (some (host.sockets.position (datagram :: rest))) result))
  | unresolvedCancelled {number : Nat} {name : String} {ttl : Int} {timeout : Option ℚ}
      (resolving : (host.client number).phase = .resolving name ttl timeout) (done : Bool) :
      StepsTo host (.cancelled number done)
        (host.setClient number
          ((host.client number).finish none none none (.error .cancelled)))
  | sendCancelled {number : Nat} {request : EchoRequest} {timeout : Option ℚ} {startTime : ℚ}
      (sending : (host.client number).phase = .sending request timeout startTime) (done : Bool) :
      StepsTo host (.cancelled number done)
        (host.setClient number
          ((host.client number).finish (if done then some request else none) none none
            (.error .cancelled)))
  | arrived (datagram : List UInt8) :
      StepsTo host (.arrive datagram) { host with sockets := host.sockets.publish datagram }
  | passed {duration : ℚ} (nonneg : 0 ≤ duration) :
      StepsTo host (.pass duration) { host with clock := host.clock + duration }

variable {host next : Host} {event : HostEvent}

theorem StepsTo.step_eq (outcome : StepsTo host event next) : host.step event = some next := by
  cases outcome with
  | entered closed => simp only [Host.step, closed]
  | exited idle => simp only [Host.step, idle]
  | raised idle closed => simp only [Host.step, idle, closed]
  | called idle isOpen => simp only [Host.step, idle, isOpen]
  | resolved resolving isPending => simp only [Host.step, resolving, isPending]
  | unresolved resolving refused => simp only [Host.step, resolving]
  | sent sending => simp only [Host.step, sending]
  | unsent sending => simp only [Host.step, sending]
  | received waiting isPending => simp only [Host.step, waiting, isPending]
  | failed waiting => simp only [Host.step, waiting]
  | unanswered waiting ends =>
      cases ends with
      | expired isDeadline passed =>
          simp only [Host.step, waiting, isDeadline, if_pos passed, Host.leave]
      | cancelled => simp only [Host.step, waiting, Host.leave]
  | lost waiting isPending ends =>
      cases ends with
      | expired isDeadline passed =>
          simp only [Host.step, waiting, isDeadline, if_pos passed, Host.leave, isPending]
      | cancelled => simp only [Host.step, waiting, Host.leave, isPending]
  | unresolvedCancelled resolving => simp only [Host.step, resolving]
  | sendCancelled sending => simp only [Host.step, sending]
  | arrived => rfl
  | passed nonneg => simp only [Host.step, if_pos nonneg]

/-- A wait that ends without an answer may lose the head of its queue. -/
theorem stepsTo_of_leave {number : Nat} {request : EchoRequest} {deadline : Option ℚ}
    {startTime : ℚ} {done : Bool} {result : Except CallError EchoResult}
    (waiting : (host.client number).phase = .waiting request deadline startTime)
    (ends : EndsWait host number deadline done event result)
    (left : host.leave number request done result = some next) : StepsTo host event next := by
  simp only [Host.leave] at left
  split at left
  · obtain rfl := Option.some.inj left
    exact .unanswered waiting ends
  · next isPending =>
      obtain rfl := Option.some.inj left
      exact .lost waiting isPending ends
  · cases left

theorem stepsTo_of_step (stepped : host.step event = some next) : StepsTo host event next := by
  cases event with
  | enter number =>
      simp only [Host.step] at stepped
      split at stepped
      · next closed =>
          obtain rfl := Option.some.inj stepped
          exact .entered closed
      · cases stepped
  | exit number =>
      simp only [Host.step] at stepped
      split at stepped
      · next idle =>
          obtain rfl := Option.some.inj stepped
          exact .exited idle
      · cases stepped
  | call number name ttl timeout =>
      simp only [Host.step] at stepped
      split at stepped
      · next idle closed =>
          obtain rfl := Option.some.inj stepped
          exact .raised idle closed name ttl timeout
      · next idle isOpen =>
          obtain rfl := Option.some.inj stepped
          exact .called idle isOpen name ttl timeout
      · cases stepped
  | resolved number addresses option timestamp =>
      simp only [Host.step] at stepped
      split at stepped
      · next resolving =>
          split at stepped
          · next destIp others pending isPending =>
              obtain rfl := Option.some.inj stepped
              exact .resolved resolving isPending destIp others timestamp
          · next refused =>
              obtain rfl := Option.some.inj stepped
              exact .unresolved resolving refused timestamp
      · cases stepped
  | sent number outcome =>
      simp only [Host.step] at stepped
      split at stepped
      · next sending =>
          obtain rfl := Option.some.inj stepped
          exact .sent sending
      · next e sending =>
          obtain rfl := Option.some.inj stepped
          exact .unsent sending e
      · cases stepped
  | received number =>
      simp only [Host.step] at stepped
      split at stepped
      · next waiting isPending =>
          obtain rfl := Option.some.inj stepped
          exact .received waiting isPending
      · cases stepped
  | failed number =>
      simp only [Host.step] at stepped
      split at stepped
      · next waiting =>
          obtain rfl := Option.some.inj stepped
          exact .failed waiting
      · cases stepped
  | expired number done =>
      simp only [Host.step] at stepped
      split at stepped
      · next waiting =>
          split at stepped
          · next passed => exact stepsTo_of_leave waiting (.expired rfl passed) stepped
          · cases stepped
      · cases stepped
  | cancelled number done =>
      simp only [Host.step] at stepped
      split at stepped
      · cases stepped
      · next resolving =>
          obtain rfl := Option.some.inj stepped
          exact .unresolvedCancelled resolving done
      · next sending =>
          obtain rfl := Option.some.inj stepped
          exact .sendCancelled sending done
      · next waiting => exact stepsTo_of_leave waiting .cancelled stepped
  | arrive datagram =>
      obtain rfl := Option.some.inj stepped
      exact .arrived datagram
  | pass duration =>
      simp only [Host.step] at stepped
      split at stepped
      · next nonneg =>
          obtain rfl := Option.some.inj stepped
          exact .passed nonneg
      · cases stepped

theorem eq_of_enter {number : Nat} (stepped : host.step (.enter number) = some next) :
    next = Host.setClient { host with sockets := host.sockets.subscribe number } number
      { host.client number with hasSocket := true } := by
  simp only [Host.step] at stepped
  split at stepped
  · exact (Option.some.inj stepped).symm
  · cases stepped

theorem eq_of_exit {number : Nat} (stepped : host.step (.exit number) = some next) :
    next = { host with sockets := host.sockets.unsubscribe number } := by
  simp only [Host.step] at stepped
  split at stepped
  · exact (Option.some.inj stepped).symm
  · cases stepped

/-- A step has one of its outcomes and no other. -/
theorem step_eq_some_iff : host.step event = some next ↔ StepsTo host event next :=
  ⟨stepsTo_of_step, StepsTo.step_eq⟩

end NetworkTools
