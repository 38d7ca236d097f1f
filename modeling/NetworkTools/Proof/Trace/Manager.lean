/-
This file proves which traces of the manager have the shape that its stop tests aim at.
-/

import NetworkTools.Library.BreakLoop
import NetworkTools.Specification.Manager

namespace NetworkTools
open Library Specification IcmpManager

variable {manager : IcmpManager} {world : Nat → HopWorld} {addr : String}
  {hop : Nat → TracertHop}

section Hops

theorem tracertHop_hopNumber {world : HopWorld} {ttl : Int} {hop : TracertHop}
    (returned : manager.tracertHop world addr ttl = .ok hop) : hop.hopNumber = ttl := by
  unfold tracertHop at returned
  cases probed : manager.probeHop world addr ttl with
  | error e =>
      rw [probed] at returned
      cases returned
  | ok state =>
      rw [probed] at returned
      obtain rfl := Except.ok.inj returned
      rfl

/-- The hops up to this hop limit. -/
def hopsTo (hop : Nat → TracertHop) (count : Nat) : List TracertHop :=
  (List.range count).map fun k => hop (k + 1)

theorem hopsTo_succ (hop : Nat → TracertHop) (count : Nat) :
    hopsTo hop (count + 1) = hopsTo hop count ++ [hop (count + 1)] := by
  rw [hopsTo, hopsTo, List.range_succ, List.map_append, List.map_singleton]

theorem hopsTo_length (hop : Nat → TracertHop) (count : Nat) :
    (hopsTo hop count).length = count := by
  rw [hopsTo, List.length_map, List.length_range]

theorem hopsTo_drop (hop : Nat → TracertHop) (k : Nat) :
    (hopsTo hop (k + 3)).drop k = [hop (k + 1), hop (k + 2), hop (k + 3)] := by
  rw [hopsTo_succ, hopsTo_succ, hopsTo_succ, List.append_assoc, List.append_assoc,
    List.drop_left' (hopsTo_length hop k)]
  rfl

/-- The test stops behind three timeouts, but never at the third hop. -/
theorem timedOutInARow_iff (hop : Nat → TracertHop) (count : Nat) :
    timedOutInARow (hopsTo hop count) = true ↔
      ∃ k, 0 < k ∧ count = k + 3 ∧ (hop (k + 1)).status = .timeout ∧
        (hop (k + 2)).status = .timeout ∧ (hop (k + 3)).status = .timeout := by
  have lastThree (k : Nat) : ((hopsTo hop (k + 3)).drop (k + 3 - 3)).all
        (fun result => decide (result.status = .timeout)) = true ↔
      (hop (k + 1)).status = .timeout ∧ (hop (k + 2)).status = .timeout ∧
        (hop (k + 3)).status = .timeout := by
    rw [Nat.add_sub_cancel, hopsTo_drop]
    simp only [List.all_cons, List.all_nil, Bool.and_true, Bool.and_eq_true, decide_eq_true_eq]
  rw [timedOutInARow, Bool.and_eq_true, decide_eq_true_eq, hopsTo_length]
  apply Iff.intro
  · rintro ⟨long, all⟩
    obtain ⟨k, rfl⟩ := Nat.exists_eq_add_of_le' (Nat.le_of_lt long)
    exact ⟨k, by omega, rfl, (lastThree k).mp all⟩
  · rintro ⟨k, positive, rfl, all⟩
    exact ⟨by omega, (lastThree k).mpr all⟩

end Hops

section Loop

/-- The two tests behind a hop. -/
def stopsAt (world : Nat → HopWorld) (addr : String) (hop : Nat → TracertHop) (ttl : Nat) : Bool :=
  reachesTarget (world ttl) addr (hop ttl) || timedOutInARow (hopsTo hop ttl)

/-- One round of the loop with its two tests. -/
theorem tracertLoop_succ {remaining ttl : Nat} {hops : List TracertHop} {message : String}
    {result : TracertHop} (returned : manager.tracertHop (world ttl) addr ttl = .ok result) :
    manager.tracertLoop world addr (remaining + 1) ttl hops message =
      if reachesTarget (world ttl) addr result then
        .ok (hops ++ [result], message ++ printTracertHop result, true)
      else if timedOutInARow (hops ++ [result]) then
        .ok (hops ++ [result], message ++ printTracertHop result ++
          "Trace terminated: multiple consecutive timeouts\n", false)
      else manager.tracertLoop world addr remaining (ttl + 1) (hops ++ [result])
        (message ++ printTracertHop result) := by
  rw [IcmpManager.tracertLoop, returned]
  rfl

/-- The loop adds hops until one of its tests stops it. -/
theorem tracertLoop_eq {remaining : Nat} (done : Nat) (message : String)
    (assigned : ∀ ttl, done < ttl → ttl ≤ done + remaining →
      manager.tracertHop (world ttl) addr ttl = .ok (hop ttl)) :
    ∃ text reached,
      manager.tracertLoop world addr remaining (done + 1) (hopsTo hop done) message =
        .ok (hopsTo hop done ++ breakLoop hop (stopsAt world addr hop) remaining (done + 1),
          text, reached) := by
  induction remaining generalizing done message with
  | zero => exact ⟨message, false, by rw [breakLoop, List.append_nil]; rfl⟩
  | succ remaining ih =>
      rw [tracertLoop_succ (assigned (done + 1) (Nat.lt_succ_self done) (by omega)),
        ← hopsTo_succ, breakLoop, List.append_cons, ← hopsTo_succ, stopsAt]
      cases reachesTarget (world (done + 1)) addr (hop (done + 1)) with
      | true => exact ⟨_, _, by rw [Bool.true_or, if_pos rfl, if_pos rfl, List.append_nil]⟩
      | false =>
          cases timedOutInARow (hopsTo hop (done + 1)) with
          | true =>
              exact ⟨_, _, by
                rw [Bool.or_true, if_neg (by decide), if_pos rfl, if_pos rfl, List.append_nil]⟩
          | false =>
              exact ih (done + 1) _ fun ttl later within =>
                assigned ttl (Nat.lt_of_succ_lt later) (by omega)

/-- The trace is the list of hops up to the first one that stops it. -/
theorem tracert_eq {maxHops : Option Int}
    (assigned : ∀ ttl : Nat, 1 ≤ ttl → ttl ≤ maxHops.getD manager.maxHops →
      manager.tracertHop (world ttl) addr ttl = .ok (hop ttl)) :
    ∃ message, manager.tracert world addr maxHops =
      .ok (breakLoop hop (stopsAt world addr hop) (maxHops.getD manager.maxHops).toNat 1,
        message) := by
  have looped := tracertLoop_eq 0
    s!"Tracing route to {addr} over a maximum of {maxHops.getD manager.maxHops} hops:\n"
    fun ttl (positive : 0 < ttl) (within : ttl ≤ 0 + (maxHops.getD manager.maxHops).toNat) =>
      assigned ttl positive (by omega)
  obtain ⟨text, reached, looped⟩ := looped
  exact ⟨_, by
    simp only [IcmpManager.tracert]
    rw [show ([] : List TracertHop) = hopsTo hop 0 from rfl, looped]
    rfl⟩

end Loop

section Shape

variable {count : Nat}

/-- The hops of a trace with this many hops at most. -/
def traced (world : Nat → HopWorld) (addr : String) (hop : Nat → TracertHop) (count : Nat) :
    List TracertHop :=
  breakLoop hop (stopsAt world addr hop) count 1

theorem traced_getElem? (k : Nat) (result : TracertHop) :
    (traced world addr hop count)[k]? = some result ↔
      k < (traced world addr hop count).length ∧ result = hop (k + 1) := by
  apply Iff.intro
  · intro here
    refine ⟨(List.getElem?_eq_some_iff.mp here).1, ?_⟩
    rw [breakLoop_getElem? _ _ here, Nat.add_comm]
  · rintro ⟨inside, rfl⟩
    have here := List.getElem?_eq_getElem inside
    rw [here, breakLoop_getElem? _ _ here, Nat.add_comm]

theorem timedOut_iff (k : Nat) :
    TimedOut (traced world addr hop count) k ↔
      k < (traced world addr hop count).length ∧ (hop (k + 1)).status = .timeout := by
  unfold TimedOut
  simp only [traced_getElem?, and_assoc, exists_and_left, exists_eq_left]

theorem timedOutThrice_iff (k : Nat) :
    TimedOutThrice (traced world addr hop count) k ↔
      k + 2 < (traced world addr hop count).length ∧ (hop (k + 1)).status = .timeout ∧
        (hop (k + 2)).status = .timeout ∧ (hop (k + 3)).status = .timeout := by
  unfold TimedOutThrice
  rw [timedOut_iff, timedOut_iff, timedOut_iff]
  apply Iff.intro
  · rintro ⟨⟨_, first⟩, ⟨_, second⟩, ⟨inside, third⟩⟩
    exact ⟨inside, first, second, third⟩
  · rintro ⟨inside, first, second, third⟩
    exact ⟨⟨by omega, first⟩, ⟨by omega, second⟩, ⟨inside, third⟩⟩

theorem atDestination_iff (k : Nat) :
    AtDestination world addr (traced world addr hop count) k ↔
      k < (traced world addr hop count).length ∧
        reachesTarget (world (k + 1)) addr (hop (k + 1)) = true := by
  unfold AtDestination reachesTarget
  simp only [traced_getElem?, and_assoc, exists_and_left, exists_eq_left, Bool.and_eq_true,
    decide_eq_true_eq]

/-- A hop that stops the trace is the last one. -/
theorem last_of_stopsAt {k : Nat} (inside : k < (traced world addr hop count).length)
    (stops : stopsAt world addr hop (k + 1) = true) :
    k + 1 = (traced world addr hop count).length := by
  apply Nat.le_antisymm inside
  by_contra longer
  have later := (lt_breakLoop_length_iff hop (stopsAt world addr hop) count 1 (k + 1)).mp
    (Nat.lt_of_not_le longer)
  have unstopped := later.2 k (Nat.lt_succ_self k)
  rw [Nat.add_comm, stops] at unstopped
  cases unstopped

/-- Three timeouts behind the first hop stop the trace. -/
theorem last_of_timeouts {k : Nat} (positive : 0 < k)
    (timeouts : TimedOutThrice (traced world addr hop count) k) :
    k + 3 = (traced world addr hop count).length := by
  obtain ⟨inside, all⟩ := (timedOutThrice_iff k).mp timeouts
  apply last_of_stopsAt inside
  rw [stopsAt, (timedOutInARow_iff hop (k + 3)).mpr ⟨k, positive, rfl, all⟩, Bool.or_true]

/-- A trace that stops early has reached its destination or three timeouts. -/
theorem stopped_of_short (short : (traced world addr hop count).length < count) :
    ∃ k, (k + 1 = (traced world addr hop count).length ∧
        AtDestination world addr (traced world addr hop count) k) ∨
      (k + 3 = (traced world addr hop count).length ∧
        TimedOutThrice (traced world addr hop count) k) := by
  obtain ⟨last, length, stops⟩ := breakLoop_stopped hop (stopsAt world addr hop) short
  change (traced world addr hop count).length = last + 1 at length
  rw [Nat.add_comm, stopsAt, Bool.or_eq_true] at stops
  rcases stops with reaches | timeouts
  · exact ⟨last, .inl ⟨length.symm, (atDestination_iff last).mpr ⟨by omega, reaches⟩⟩⟩
  · obtain ⟨k, _, isLast, all⟩ := (timedOutInARow_iff hop (last + 1)).mp timeouts
    exact ⟨k, .inr ⟨by omega, (timedOutThrice_iff k).mpr ⟨by omega, all⟩⟩⟩

/-- Three timeouts from the start on do not stop the trace. -/
theorem longer_of_timeouts (many : 4 ≤ count)
    (all : ∀ ttl ∈ [1, 2, 3], (hop ttl).status = .timeout) :
    3 < (traced world addr hop count).length := by
  apply (lt_breakLoop_length_iff hop (stopsAt world addr hop) count 1 3).mpr
  refine ⟨many, fun j inside => ?_⟩
  have unreached : reachesTarget (world (1 + j)) addr (hop (1 + j)) = false := by
    have timeout := all (1 + j) (by simp only [List.mem_cons, List.not_mem_nil]; omega)
    rw [reachesTarget, timeout]
    rfl
  rw [stopsAt, unreached, Bool.false_or, Bool.eq_false_iff]
  intro timeouts
  obtain ⟨k, positive, isLast, _⟩ := (timedOutInARow_iff hop (1 + j)).mp timeouts
  omega

/-- Only a trace whose first three hops time out can miss the shape. -/
theorem tracertShape_iff {maxHops : Int} (nonneg : 0 ≤ maxHops)
    (numbered : ∀ ttl : Nat, 1 ≤ ttl → ttl ≤ maxHops → (hop ttl).hopNumber = ttl) :
    TracertShape world addr maxHops (traced world addr hop maxHops.toNat) ↔
      ¬ (4 ≤ maxHops ∧ ∀ ttl ∈ [1, 2, 3], (hop ttl).status = .timeout) := by
  have bounded : (traced world addr hop maxHops.toNat).length ≤ maxHops.toNat :=
    breakLoop_length_le _ _ _ _
  apply Iff.intro
  · rintro shape ⟨many, all⟩
    have longer : 3 < (traced world addr hop maxHops.toNat).length :=
      longer_of_timeouts (by omega) all
    have thrice : TimedOutThrice (traced world addr hop maxHops.toNat) 0 :=
      (timedOutThrice_iff 0).mpr ⟨by omega, all 1 (by simp), all 2 (by simp), all 3 (by simp)⟩
    have last := shape.timeouts_last 0 thrice
    omega
  · intro allowed
    constructor
    case numbers =>
      intro k result here
      obtain ⟨inside, rfl⟩ := (traced_getElem? k result).mp here
      rw [numbered (k + 1) (Nat.succ_pos k) (by omega)]
      rfl
    case length_le => omega
    case destination_last =>
      intro k reached
      obtain ⟨inside, reaches⟩ := (atDestination_iff k).mp reached
      exact last_of_stopsAt inside (by rw [stopsAt, reaches, Bool.true_or])
    case timeouts_last =>
      intro k timeouts
      rcases Nat.eq_zero_or_pos k with rfl | positive
      · obtain ⟨inside, first, second, third⟩ := (timedOutThrice_iff 0).mp timeouts
        have few : ¬ 4 ≤ maxHops := fun many => allowed ⟨many, by simp [first, second, third]⟩
        omega
      · exact last_of_timeouts positive timeouts
    case stopped =>
      intro short
      exact stopped_of_short (by omega)

end Shape

/-- The trace returns with the shape unless its first three hops time out and there is a fourth
one: the test on three timeouts asks for more than three hops. -/
theorem tracert_shape_iff {maxHops : Option Int} (nonneg : 0 ≤ maxHops.getD manager.maxHops)
    (assigned : ∀ ttl : Nat, 1 ≤ ttl → ttl ≤ maxHops.getD manager.maxHops →
      manager.tracertHop (world ttl) addr ttl = .ok (hop ttl)) :
    ∃ hops message, manager.tracert world addr maxHops = .ok (hops, message) ∧
      (TracertShape world addr (maxHops.getD manager.maxHops) hops ↔
        ¬ (4 ≤ maxHops.getD manager.maxHops ∧
          ∀ ttl ∈ [1, 2, 3], (hop ttl).status = .timeout)) := by
  obtain ⟨message, returned⟩ := tracert_eq assigned
  exact ⟨_, message, returned, tracertShape_iff nonneg fun ttl positive within =>
    tracertHop_hopNumber (assigned ttl positive within)⟩

/-- Each probe answers with this tuple, and the name has one address. -/
def steadyWorld (reply : EchoResult) : HopWorld where
  probe _ _ _ _ := .ok reply
  getnameinfo _ := .error "Name or service not known"
  getaddrinfo _ := .ok ["203.0.113.9"]

def arrivedHop (ttl : Nat) : TracertHop :=
  ⟨ttl, "203.0.113.9", none, [some 10, some 10, some 10], .success⟩

def silentHop (ttl : Nat) : TracertHop := ⟨ttl, "*", none, [none, none, none], .timeout⟩

theorem tracertHop_arrived (ttl : Nat) :
    tracertHop {} (steadyWorld ⟨"203.0.113.9", true, 10, some []⟩) "example.com" ttl =
      .ok (arrivedHop ttl) := rfl

theorem tracertHop_silent (ttl : Nat) :
    tracertHop {} (steadyWorld .failure) "example.com" ttl = .ok (silentHop ttl) := rfl

/-- A destination behind one hop. -/
theorem tracert_shape_arrived :
    ∃ hops message,
      IcmpManager.tracert {} (fun _ => steadyWorld ⟨"203.0.113.9", true, 10, some []⟩)
          "example.com" none = .ok (hops, message) ∧
      TracertShape (fun _ => steadyWorld ⟨"203.0.113.9", true, 10, some []⟩) "example.com" 30
        hops := by
  obtain ⟨hops, message, returned, shape⟩ :=
    @tracert_shape_iff {} (fun _ => steadyWorld ⟨"203.0.113.9", true, 10, some []⟩) "example.com"
      arrivedHop none (by decide) fun ttl _ _ => tracertHop_arrived ttl
  exact ⟨hops, message, returned, shape.mpr fun ⟨_, all⟩ => absurd (all 1 (by simp)) (by decide)⟩

/-- A silent path shows a fourth timeout. -/
theorem tracert_shape_silent :
    ∃ hops message,
      IcmpManager.tracert {} (fun _ => steadyWorld .failure) "example.com" none =
        .ok (hops, message) ∧
      3 < hops.length ∧ TimedOutThrice hops 0 ∧
      ¬ TracertShape (fun _ => steadyWorld .failure) "example.com" 30 hops := by
  have silent : ∀ ttl ∈ [1, 2, 3], (silentHop ttl).status = .timeout := fun _ _ => rfl
  obtain ⟨message, returned⟩ : ∃ message,
      IcmpManager.tracert {} (fun _ => steadyWorld .failure) "example.com" none =
        .ok (traced (fun _ => steadyWorld .failure) "example.com" silentHop 30, message) :=
    tracert_eq fun ttl _ _ => tracertHop_silent ttl
  have longer : 3 < (traced (fun _ => steadyWorld .failure) "example.com" silentHop 30).length :=
    longer_of_timeouts (by decide) silent
  have thrice : TimedOutThrice
      (traced (fun _ => steadyWorld .failure) "example.com" silentHop 30) 0 :=
    (timedOutThrice_iff 0).mpr ⟨by omega, rfl, rfl, rfl⟩
  exact ⟨_, message, returned, longer, thrice, fun shape =>
    absurd (shape.timeouts_last 0 thrice) (by omega)⟩

end NetworkTools
