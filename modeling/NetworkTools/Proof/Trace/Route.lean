/-
This file proves that a trace of the manager lists the route to its target.
-/

import NetworkTools.Proof.Trace.Clients
import NetworkTools.Proof.Trace.Manager

namespace NetworkTools
open Library Specification IcmpManager

section Loop

variable {manager : IcmpManager} {world : Nat → HopWorld} {addr : String}
  {hop : Nat → TracertHop}

theorem hopsTo_drop_cons {count done : Nat} (inside : done < count) :
    (hopsTo hop count).drop done = hop (done + 1) :: (hopsTo hop count).drop (done + 1) := by
  have within : done < (hopsTo hop count).length := by rwa [hopsTo_length]
  rw [List.drop_eq_getElem_cons within]
  simp [hopsTo]

/-- A loop whose tests fail before the target adds and prints each hop up to the target. -/
theorem tracertLoop_arrives {last remaining done : Nat} (message : String) (within : done ≤ last)
    (enough : last < done + remaining)
    (assigned : ∀ k ≤ last,
      manager.tracertHop (world (k + 1)) addr ((k + 1 : Nat) : Int) = .ok (hop (k + 1)))
    (goesOn : ∀ k < last, stopsAt world addr hop (k + 1) = false)
    (arrives : reachesTarget (world (last + 1)) addr (hop (last + 1)) = true) :
    manager.tracertLoop world addr remaining (done + 1) (hopsTo hop done) message =
      .ok (hopsTo hop (last + 1), message ++
        String.join (((hopsTo hop (last + 1)).drop done).map printTracertHop), true) := by
  induction remaining generalizing done message with
  | zero => omega
  | succ remaining ih =>
      rw [tracertLoop_succ (assigned done within), ← hopsTo_succ,
        hopsTo_drop_cons (by omega), List.map_cons, String.join_cons, ← String.append_assoc]
      rcases Nat.lt_or_eq_of_le within with before | rfl
      · have unstopped := goesOn done before
        rw [stopsAt, Bool.or_eq_false_iff] at unstopped
        rw [unstopped.1, unstopped.2, if_neg (by decide), if_neg (by decide)]
        exact ih _ before (by omega)
      · rw [arrives, if_pos rfl, List.drop_of_length_le (by rw [hopsTo_length]), List.map_nil,
          String.join_nil, String.append_empty]

end Loop

/-- The hop that shows what stands at this distance. -/
def routeHop (world : Nat → HopWorld) (replies : Nat → Nat → EchoResult)
    (route : List (Option String)) (ttl : Nat) : TracertHop :=
  hopOfReplies (world ttl) (((route[ttl - 1]?).getD none).getD "*") ttl
    ((List.range 3).map (replies ttl))

section Routes

variable {manager : IcmpManager} {world : Nat → HopWorld} {addr target : String}
  {replies : Nat → Nat → EchoResult} {route : List (Option String)} {k : Nat}
  {answer : Option String}

theorem routeHop_eq (here : route[k]? = some answer) :
    routeHop world replies route (k + 1) =
      hopOfReplies (world (k + 1)) (answer.getD "*") ((k + 1 : Nat) : Int)
        ((List.range 3).map (replies (k + 1))) := by
  rw [routeHop, Nat.add_sub_cancel, here, Option.getD_some]

theorem RepliesFrom.any {replies : Nat → EchoResult} (repliesFrom : RepliesFrom answer replies) :
    ((List.range 3).map replies).any EchoResult.success = answer.isSome := by
  cases answer with
  | some source =>
      obtain ⟨i, inside, success⟩ := repliesFrom.answered rfl
      rw [Option.isSome_some, List.any_eq_true]
      exact ⟨replies i, List.mem_map_of_mem (List.mem_range.mpr inside), success⟩
  | none =>
      rw [Option.isSome_none, List.any_eq_false]
      intro reply present success
      obtain ⟨i, inside, rfl⟩ := List.mem_map.mp present
      have impossible := repliesFrom.names i (List.mem_range.mp inside) success
      cases impossible

variable (routes : Routes manager world addr replies route target)

include routes

/-- The status and the address of a hop are those of its place on the route. -/
theorem Routes.shown (here : route[k]? = some answer) :
    (routeHop world replies route (k + 1)).status =
        (if answer.isSome then .success else .timeout) ∧
      (routeHop world replies route (k + 1)).ipAddress = answer.getD "*" := by
  rw [routeHop_eq here]
  simp only [hopOfReplies, (routes.hops k answer here).any, true_and]
  cases answer <;> rfl

theorem Routes.returns (here : route[k]? = some answer) :
    manager.tracertHop (world (k + 1)) addr ((k + 1 : Nat) : Int) =
      .ok (routeHop world replies route (k + 1)) := by
  have inside := (List.getElem?_eq_some_iff.mp here).1
  have replied := routes.hops k answer here
  rw [routeHop_eq here]
  apply tracertHop_of_replies
  · intro unnamed
    cases answer with
    | none => exact absurd unnamed (by decide)
    | some source => exact replied.named (congrArg some unnamed)
  · exact routes.probes k inside
  · intro i within success
    rw [replied.names i within success, Option.getD_some]

theorem Routes.reaches_iff (here : route[k]? = some answer) :
    reachesTarget (world (k + 1)) addr (routeHop world replies route (k + 1)) = true ↔
      answer = some target := by
  have inside := (List.getElem?_eq_some_iff.mp here).1
  obtain ⟨status, ipAddress⟩ := routes.shown here
  rw [reachesTarget, status, ipAddress, routes.resolves k inside]
  cases answer <;> simp

/-- The tests behind a hop before the last one fail. -/
theorem Routes.goesOn (before : k + 1 < route.length) :
    stopsAt world addr (routeHop world replies route) (k + 1) = false := by
  have here := List.getElem?_eq_getElem (Nat.lt_of_succ_lt before)
  rw [stopsAt, Bool.or_eq_false_iff]
  constructor
  · rw [Bool.eq_false_iff]
    intro reaches
    have isTarget := (routes.reaches_iff here).mp reaches
    apply routes.once
    apply List.mem_of_getElem?
    rw [List.getElem?_dropLast, if_pos (show k < route.length - 1 by omega), here, isTarget]
  · rw [Bool.eq_false_iff]
    intro timeouts
    obtain ⟨first, positive, isLast, one, two, three⟩ :=
      (timedOutInARow_iff _ (k + 1)).mp timeouts
    obtain ⟨place, source, above, below, audible⟩ := routes.audible first positive (by omega)
    have shown := (routes.shown audible).1
    obtain rfl | rfl | rfl : place = first ∨ place = first + 1 ∨ place = first + 2 := by omega
    · rw [one] at shown
      cases shown
    · rw [two] at shown
      cases shown
    · rw [three] at shown
      cases shown

end Routes

/-- A trace whose loop ends at the target adds nothing to its message. -/
theorem tracert_of_arrived {manager : IcmpManager} {world : Nat → HopWorld} {addr text : String}
    {maxHops : Option Int} {hops : List TracertHop}
    (arrived : manager.tracertLoop world addr (maxHops.getD manager.maxHops).toNat 1 []
      (routeHeader addr (maxHops.getD manager.maxHops)) = .ok (hops, text, true)) :
    manager.tracert world addr maxHops = .ok (hops, text) := by
  unfold routeHeader at arrived
  simp only [IcmpManager.tracert]
  rw [arrived]
  rfl

/-- A trace of a route lists and prints what stands at each distance, up to the target, and does not
call itself incomplete. -/
theorem tracert_routes {manager : IcmpManager} {world : Nat → HopWorld} {addr target : String}
    {replies : Nat → Nat → EchoResult} {route : List (Option String)} {maxHops : Option Int}
    (routes : Routes manager world addr replies route target)
    (within : (route.length : Int) ≤ maxHops.getD manager.maxHops) :
    ∃ hops, manager.tracert world addr maxHops =
        .ok (hops, routeHeader addr (maxHops.getD manager.maxHops) ++
          String.join (hops.map printTracertHop)) ∧
      hops.length = route.length ∧
      ∀ (k : Nat) answer, route[k]? = some answer →
        hops[k]? = some (hopOfReplies (world (k + 1)) (answer.getD "*") ((k + 1 : Nat) : Int)
          ((List.range 3).map (replies (k + 1)))) := by
  have arrives := routes.arrives
  rw [List.getLast?_eq_getElem?] at arrives
  have inside := (List.getElem?_eq_some_iff.mp arrives).1
  obtain ⟨last, length⟩ : ∃ last, route.length = last + 1 := ⟨route.length - 1, by omega⟩
  rw [length, Nat.add_sub_cancel] at arrives
  have looped := @tracertLoop_arrives manager world addr (routeHop world replies route) last
    (maxHops.getD manager.maxHops).toNat 0
    (routeHeader addr (maxHops.getD manager.maxHops)) (Nat.zero_le last) (by omega)
    (fun k before => routes.returns (List.getElem?_eq_getElem (by omega)))
    (fun k before => routes.goesOn (by omega)) ((routes.reaches_iff arrives).mpr rfl)
  refine ⟨hopsTo (routeHop world replies route) (last + 1), ?_, ?_, ?_⟩
  · exact tracert_of_arrived looped
  · rw [hopsTo_length, length]
  · intro k answer here
    have before := (List.getElem?_eq_some_iff.mp here).1
    rw [← routeHop_eq here, hopsTo, List.getElem?_map, List.getElem?_range (by omega)]
    rfl

/-- The second router is silent, and the target is the third hop. -/
def distanceReply : Nat → EchoResult
  | 1 => ⟨"10.0.0.1", true, 4, some []⟩
  | 2 => .failure
  | _ => ⟨"203.0.113.9", true, 10, some []⟩

theorem routes_muted : Routes {} (fun ttl => steadyWorld (distanceReply ttl)) "example.com"
    (fun ttl _ => distanceReply ttl) [some "10.0.0.1", none, some "203.0.113.9"]
    "203.0.113.9" where
  probes _ _ _ _ := rfl
  hops k answer here := by
    match k with
    | 0 =>
        obtain rfl := Option.some.inj here
        exact ⟨by decide, fun _ _ _ => rfl, fun _ => ⟨0, by decide, rfl⟩⟩
    | 1 =>
        obtain rfl := Option.some.inj here
        exact ⟨by decide, fun _ _ impossible => absurd impossible (by decide),
          fun isSome => by cases isSome⟩
    | 2 =>
        obtain rfl := Option.some.inj here
        exact ⟨by decide, fun _ _ _ => rfl, fun _ => ⟨0, by decide, rfl⟩⟩
    | _ + 3 => cases here
  resolves _ _ := rfl
  arrives := rfl
  once := by decide
  audible first positive within := by
    simp only [List.length_cons, List.length_nil] at within
    omega

theorem tracert_routes_muted :
    ∃ hops,
      IcmpManager.tracert {} (fun ttl => steadyWorld (distanceReply ttl)) "example.com" none =
        .ok (hops, routeHeader "example.com" 30 ++ String.join (hops.map printTracertHop)) ∧
      hops.length = 3 ∧
      ∀ (k : Nat) answer, [some "10.0.0.1", none, some "203.0.113.9"][k]? = some answer →
        hops[k]? = some (hopOfReplies (steadyWorld (distanceReply (k + 1))) (answer.getD "*")
          ((k + 1 : Nat) : Int) ((List.range 3).map fun _ => distanceReply (k + 1))) :=
  tracert_routes routes_muted (by decide)

end NetworkTools
