/-
This file develops runs of partial steps and the parts of their states that an observer sees.
-/

import Mathlib.Data.Option.Basic
import Mathlib.Tactic.Common

namespace NetworkTools.Library

variable {State Event : Type}

/-- A run takes its events in turn and stops at the first one that cannot happen. -/
def runSteps (step : State → Event → Option State) (state : State) : List Event → Option State
  | [] => some state
  | event :: events => (step state event).bind fun next => runSteps step next events

/-- What each step preserves holds behind each run. -/
theorem runSteps_invariant {step : State → Event → Option State} (Invariant : State → Prop)
    (Allowed : Event → Prop)
    (preserved : ∀ state event next, Allowed event → Invariant state →
      step state event = some next → Invariant next)
    {state last : State} {events : List Event} (holds : Invariant state)
    (allowed : ∀ event ∈ events, Allowed event) (ran : runSteps step state events = some last) :
    Invariant last := by
  induction events generalizing state with
  | nil =>
      obtain rfl := Option.some.inj ran
      exact holds
  | cons event events ih =>
      obtain ⟨next, stepped, rest⟩ := Option.bind_eq_some_iff.mp ran
      exact ih (preserved state event next (allowed event List.mem_cons_self) holds stepped)
        (fun later present => allowed later (List.mem_cons_of_mem _ present)) rest

/-- An observer sees a part of the state and some of the events. Hidden events leave its view
alone, and visible events act on its view. -/
structure Observer (step : State → Event → Option State) (View : Type) where
  view : State → View
  sees : Event → Bool
  hidden : ∀ {state event next}, sees event = false → step state event = some next →
    view next = view state
  visible : ∀ {state other event next}, sees event = true → view state = view other →
    step state event = some next →
      ∃ after, step other event = some after ∧ view after = view next

namespace Observer

variable {step : State → Event → Option State} {View : Type} (observer : Observer step View)

/-- The visible events of a run lead each state with the same view to the same view. -/
theorem run_filter {state other last : State} {events : List Event}
    (same : observer.view state = observer.view other)
    (ran : runSteps step state events = some last) :
    ∃ final, runSteps step other (events.filter observer.sees) = some final ∧
      observer.view final = observer.view last := by
  induction events generalizing state other with
  | nil =>
      obtain rfl := Option.some.inj ran
      exact ⟨other, rfl, same.symm⟩
  | cons event events ih =>
      obtain ⟨next, stepped, rest⟩ := Option.bind_eq_some_iff.mp ran
      cases seen : observer.sees event with
      | false =>
          rw [List.filter_cons_of_neg (by rw [seen]; decide)]
          exact ih ((observer.hidden seen stepped).trans same) rest
      | true =>
          rw [List.filter_cons_of_pos seen]
          obtain ⟨after, moved, sameNext⟩ := observer.visible seen same stepped
          obtain ⟨final, ended, sameLast⟩ := ih sameNext.symm rest
          exact ⟨final, by rw [runSteps, moved]; exact ended, sameLast⟩

/-- A run of events that the observer sees depends on its view alone. -/
theorem run_congr {state other : State} {events : List Event}
    (seen : ∀ event ∈ events, observer.sees event = true)
    (same : observer.view state = observer.view other)
    (runs : (runSteps step state events).isSome) : (runSteps step other events).isSome := by
  obtain ⟨last, ran⟩ := Option.isSome_iff_exists.mp runs
  obtain ⟨final, ended, _⟩ := observer.run_filter same ran
  rw [List.filter_eq_self.mpr seen] at ended
  rw [ended]
  rfl

end Observer

section Families

variable {step : State → Event → Option State} {Index : Type} {View : Index → Type}
  (observer : (index : Index) → Observer step (View index))

/-- Events that some observer sees form a run exactly if the events of each observer do. -/
theorem run_isSome_iff_forall (attended : ∀ event, ∃ index, (observer index).sees event = true)
    (state : State) (events : List Event) :
    (runSteps step state events).isSome ↔
      ∀ index, (runSteps step state (events.filter (observer index).sees)).isSome := by
  apply Iff.intro
  · intro runs index
    obtain ⟨last, ran⟩ := Option.isSome_iff_exists.mp runs
    obtain ⟨final, ended, _⟩ := (observer index).run_filter rfl ran
    rw [ended]
    rfl
  · intro each
    induction events generalizing state with
    | nil => rfl
    | cons event events ih =>
        -- An observer that sees the first event shows that it can happen.
        obtain ⟨witness, attends⟩ := attended event
        have first := each witness
        rw [List.filter_cons_of_pos attends, runSteps] at first
        obtain ⟨final, ended⟩ := Option.isSome_iff_exists.mp first
        obtain ⟨next, stepped, _⟩ := Option.bind_eq_some_iff.mp ended
        rw [runSteps, stepped, Option.bind_some]
        apply ih
        intro index
        have runs := each index
        cases seen : (observer index).sees event with
        | true =>
            rw [List.filter_cons_of_pos seen, runSteps, stepped, Option.bind_some] at runs
            exact runs
        | false =>
            rw [List.filter_cons_of_neg (by rw [seen]; decide)] at runs
            exact (observer index).run_congr (fun later present => (List.mem_filter.mp present).2)
              ((observer index).hidden seen stepped).symm runs

/-- Two orders of events that no observer can tell apart have the same outcome. -/
theorem run_eq_of_filter_eq (attended : ∀ event, ∃ index, (observer index).sees event = true)
    (separated : ∀ state other : State,
      (∀ index, (observer index).view state = (observer index).view other) → state = other)
    (state : State) {events permuted : List Event}
    (same : ∀ index, events.filter (observer index).sees =
      permuted.filter (observer index).sees) :
    runSteps step state events = runSteps step state permuted := by
  have both : (runSteps step state events).isSome ↔ (runSteps step state permuted).isSome := by
    rw [run_isSome_iff_forall observer attended, run_isSome_iff_forall observer attended]
    simp only [same]
  cases ran : runSteps step state events with
  | none =>
      rw [ran] at both
      exact (Option.not_isSome_iff_eq_none.mp (mt both.mpr (by simp))).symm
  | some last =>
      rw [ran] at both
      obtain ⟨other, alsoRan⟩ := Option.isSome_iff_exists.mp (both.mp rfl)
      rw [alsoRan]
      apply congrArg some
      apply separated
      intro index
      obtain ⟨final, ended, sameLast⟩ := (observer index).run_filter rfl ran
      obtain ⟨twin, alsoEnded, sameOther⟩ := (observer index).run_filter rfl alsoRan
      rw [same index, alsoEnded] at ended
      obtain rfl := Option.some.inj ended
      exact sameLast.symm.trans sameOther

end Families

end NetworkTools.Library
