/-
This file proves that a trace lists the path to its destination.
-/

import NetworkTools.Proof.Trace.GiveUp

namespace NetworkTools
open Library Specification

variable {ip : IpType} {route : Route} {dest : String} {timeout : Int} {destination : Address}
  {canPing : Bool} {path : List (Option Address)}

section Hops

variable {ttl : Nat} {answer : Option Address}

/-- A hop with one address records it, and a silent hop records none. -/
theorem AnswersFrom.hopRecord_eq (answers : AnswersFrom ip route dest timeout ttl answer)
    (specified : ∀ address, answer = some address → address.isUnspecified = false) :
    hopRecord ip route dest timeout ttl = answer := by
  obtain ⟨complete, only, answered⟩ := answers
  rw [hopRecord, if_pos complete, firstSpecified]
  generalize answerSources ip (route.hop ttl) (hopRun ip route dest timeout ttl).probes =
    sources at only answered
  cases sources with
  | nil =>
      cases answer with
      | none => rfl
      | some address => exact absurd rfl (answered rfl)
  | cons address others =>
      have isAnswer := only address List.mem_cons_self
      rw [List.find?_cons_of_pos (by rw [specified address isAnswer]; rfl), isAnswer]

/-- The entry of such a hop shows its address. -/
theorem hopEntry_of_record (complete : (hopRun ip route dest timeout ttl).failure = none)
    (record : hopRecord ip route dest timeout ttl = answer) (positive : 0 < ttl) :
    ∃ delay, delay.length = 3 ∧
      hopEntry ip route dest timeout ttl = .success ttl delay answer := by
  have returned := asyncPing_ok_iff.mpr ⟨complete, rfl⟩
  have described : Describes ip route dest timeout ttl (hopEntry ip route dest timeout ttl) :=
    hopEntry_describes positive
  have entry : hopEntry ip route dest timeout ttl = .success ttl
      (hopDelay ip ((hopRun ip route dest timeout ttl).probes.map Probe.compose)) answer := by
    rw [← record, ← (hopRecord_of_ok returned).2.2, hopEntry, returned]
    rfl
  rw [entry] at described
  exact ⟨_, described.2.2.2.1, entry⟩

end Hops

section Paths

variable (leads : Leads ip route dest timeout destination path)

include leads

theorem Leads.record {index : Nat} {answer : Option Address}
    (here : path[index]? = some answer) :
    hopRecord ip route dest timeout (index + 1) = answer := by
  apply (leads.hops index answer here).hopRecord_eq
  rintro address rfl
  exact leads.specified address (List.mem_of_getElem? here)

theorem Leads.destination_specified : destination ≠ Address.unspecified := by
  intro unspecified
  have isSpecified := leads.specified destination (List.mem_of_getLast? leads.arrives)
  rw [unspecified] at isSpecified
  exact absurd isSpecified (by decide)

/-- The trace goes on at each hop before the last one. -/
theorem Leads.goesOn {index : Nat} (before : index + 1 < path.length) :
    ¬ StopsAt ip route dest timeout destination canPing (index + 1) := by
  have here := List.getElem?_eq_getElem (Nat.lt_of_succ_lt before)
  rintro ⟨_, isDestination | ⟨givesUp, _⟩⟩
  · rw [leads.record here] at isDestination
    cases answer : path[index] with
    | none =>
        rw [answer] at isDestination
        exact leads.destination_specified isDestination.symm
    | some address =>
        rw [answer, Option.getD_some] at isDestination
        apply leads.once
        apply List.mem_of_getElem?
        rw [List.getElem?_dropLast, if_pos (show index < path.length - 1 by omega), here, answer,
          isDestination]
  · obtain ⟨enough, silent⟩ := givesUp.completesSilence
    obtain ⟨k, address, above, below, audible⟩ := leads.audible (index + 1 - 10) (by omega)
    have none := silent (k + 1) (by omega) (by omega)
    rw [leads.record audible] at none
    cases none

/-- The trace stops at the last hop. -/
theorem Leads.stops : ∃ last, path.length = last + 1 ∧
    StopsAt ip route dest timeout destination canPing (last + 1) := by
  have arrives := leads.arrives
  rw [List.getLast?_eq_getElem?] at arrives
  have inside := (List.getElem?_eq_some_iff.mp arrives).1
  refine ⟨path.length - 1, by omega, (leads.hops _ _ arrives).complete, .inl ?_⟩
  rw [leads.record arrives, Option.getD_some]

end Paths

/-- A trace of a path lists the address of each hop up to the destination and stops there. -/
theorem tracert_follows {hopsCount : Int32} {composes : List (IcmpCompose ip)}
    (reached : asyncPing ip route.reachability dest 3 64 (ofMilliseconds 1000) = .ok composes)
    (resolved : route.resolve dest = .ok destination)
    (leads : Leads ip route dest timeout destination path)
    (within : (path.length : Int) ≤ hopsCount.toInt) :
    (tracert ip route dest hopsCount.toInt timeout).length = path.length ∧
      ∀ (index : Nat) answer, path[index]? = some answer →
        ∃ delay, delay.length = 3 ∧ (tracert ip route dest hopsCount.toInt timeout)[index]? =
          some (.success (index + 1) delay answer) := by
  have probed (k : Nat) := @lt_tracert_length_iff ip route dest timeout destination hopsCount
    composes reached resolved k
  obtain ⟨last, length, stops⟩ := leads.stops
  have listed : (tracert ip route dest hopsCount.toInt timeout).length = path.length := by
    apply Nat.le_antisymm
    · apply Nat.le_of_not_lt
      intro more
      exact ((probed _).mp more).2 last (by omega) stops
    · rw [length]
      refine (probed last).mpr ⟨by omega, fun index before => ?_⟩
      exact leads.goesOn (by omega)
  refine ⟨listed, fun index answer here => ?_⟩
  have inside := (List.getElem?_eq_some_iff.mp here).1
  rw [← listed] at inside
  obtain ⟨entry, present⟩ : ∃ entry,
      (tracert ip route dest hopsCount.toInt timeout)[index]? = some entry :=
    ⟨_, List.getElem?_eq_getElem inside⟩
  have isEntry := present
  rw [tracert_eq_breakLoop reached resolved] at isEntry
  obtain ⟨delay, three, isSuccess⟩ := hopEntry_of_record (leads.hops index answer here).complete
    (leads.record here) (Nat.succ_pos index)
  refine ⟨delay, three, ?_⟩
  rw [present, breakLoop_getElem? _ _ isEntry, Nat.zero_add, isSuccess]

/-- The second router of this route is silent, and the third hop is the destination. -/
def mutedRoute : Route where
  reachability := deliveringNetwork 7 []
  resolve _ := .ok (.v4 hostAddress)
  hop
    | 1 => deliveringNetwork 7 [⟨1, exceededDatagram routerAddress 7 0⟩]
    | 2 => deliveringNetwork 7 []
    | _ => deliveringNetwork 7 [⟨1, replyDatagram hostAddress 7 0⟩]

def mutedPath : List (Option Address) := [some (.v4 routerAddress), none, some (.v4 hostAddress)]

theorem mutedRoute_leads : Leads .useIpv4 mutedRoute "host" 10 (.v4 hostAddress) mutedPath where
  hops index answer here := by
    match index with
    | 0 =>
        obtain rfl := Option.some.inj here
        exact ⟨by decide +kernel, by decide +kernel, fun _ => by decide +kernel⟩
    | 1 =>
        obtain rfl := Option.some.inj here
        exact ⟨by decide +kernel, by decide +kernel, fun impossible => by cases impossible⟩
    | 2 =>
        obtain rfl := Option.some.inj here
        exact ⟨by decide +kernel, by decide +kernel, fun _ => by decide +kernel⟩
    | _ + 3 => cases here
  specified address present := by
    simp only [mutedPath, List.mem_cons, Option.some.injEq, List.not_mem_nil, or_false] at present
    obtain rfl | impossible | rfl := present
    · decide
    · cases impossible
    · decide
  arrives := rfl
  once := by decide
  audible first within := absurd within (by simp [mutedPath])

theorem tracert_follows_muted :
    (tracert .useIpv4 mutedRoute "host" (30 : Int32).toInt 10).length = mutedPath.length ∧
      ∀ (index : Nat) answer, mutedPath[index]? = some answer →
        ∃ delay, delay.length = 3 ∧
          (tracert .useIpv4 mutedRoute "host" (30 : Int32).toInt 10)[index]? =
            some (.success (index + 1) delay answer) :=
  tracert_follows (asyncPing_ok_iff.mpr ⟨by decide +kernel, rfl⟩) rfl mutedRoute_leads (by decide)

end NetworkTools
