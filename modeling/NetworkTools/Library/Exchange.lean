/-
This file develops exchanges: what a scan takes from a timed message queue, and how it ends.
-/

import NetworkTools.Library.Deadline
import Mathlib.Tactic.Ring

namespace NetworkTools.Library.TimedScan

/-- A scan ends at a timer, at a message that settles it, or at one skip too many. -/
inductive Ending (Message Result : Type) where
  | expired
  | settled (arrival : Arrival Message) (result : Option Result)
  | exhausted (arrival : Arrival Message)

/-- An exchange lists the arrivals that a scan skips before it ends. -/
structure Exchange (Message Result : Type) where
  skipped : List (Arrival Message)
  ending : Ending Message Result

section Definitions

variable {Message Result : Type}

namespace Ending

/-- The arrival that the last wait takes. -/
def taken : Ending Message Result → List (Arrival Message)
  | .expired => []
  | .settled arrival _ => [arrival]
  | .exhausted arrival => [arrival]

def result : Ending Message Result → Option Result
  | .settled _ result => result
  | _ => none

/-- The last wait starts at this cursor. -/
def final (timeout : Int) (last : Cursor) : Ending Message Result → Cursor
  | .expired => expire timeout last
  | .settled arrival _ => read last arrival
  | .exhausted arrival => read last arrival

/-- The last wait meets what the ending says. -/
def Meets (judge : Message → Verdict Result) (traffic : Traffic Message) (timeout : Int)
    (left : Nat) (last : Cursor) : Ending Message Result → Prop
  | .expired => ∀ arrival, traffic last.position = some arrival →
      last.clock + timeout ≤ arrival.time
  | .settled arrival result => traffic last.position = some arrival ∧
      arrival.time < last.clock + timeout ∧ judge arrival.message = .settle result
  | .exhausted arrival => left = 0 ∧ traffic last.position = some arrival ∧
      arrival.time < last.clock + timeout ∧ judge arrival.message = .skip

end Ending

namespace Exchange

/-- All that the scan takes from the queue, in order. -/
def taken (exchange : Exchange Message Result) : List (Arrival Message) :=
  exchange.skipped ++ exchange.ending.taken

/-- The cursor at which the last wait starts. -/
def last (exchange : Exchange Message Result) (cursor : Cursor) : Cursor :=
  exchange.skipped.foldl read cursor

def final (exchange : Exchange Message Result) (timeout : Int) (cursor : Cursor) : Cursor :=
  exchange.ending.final timeout (exchange.last cursor)

/-- The elapsed time counts from the start of the last wait. -/
def outcome (exchange : Exchange Message Result) (timeout : Int) (cursor : Cursor) :
    Option (Result × Int) :=
  exchange.ending.result.map fun value =>
    (value, (exchange.final timeout cursor).clock - (exchange.last cursor).clock)

/-- The traffic plays an exchange if the scan can skip its arrivals and then meets its ending. -/
structure PlayedBy (exchange : Exchange Message Result) (judge : Message → Verdict Result)
    (traffic : Traffic Message) (timeout : Int) (left : Nat) (cursor : Cursor) : Prop where
  skips : Skippable judge traffic timeout left cursor exchange.skipped
  ends : exchange.ending.Meets judge traffic timeout (left - exchange.skipped.length)
    (exchange.last cursor)

end Exchange

end Definitions

section Scans

variable {Message Result : Type} {judge : Message → Verdict Result} {traffic : Traffic Message}
  {timeout : Int} {left : Nat} {cursor : Cursor}

theorem playedBy_nil_iff {ending : Ending Message Result} :
    Exchange.PlayedBy ⟨[], ending⟩ judge traffic timeout left cursor ↔
      ending.Meets judge traffic timeout left cursor :=
  ⟨fun played => played.ends, fun ends => ⟨skippable_nil, ends⟩⟩

theorem playedBy_cons_iff {arrival : Arrival Message} {skipped : List (Arrival Message)}
    {ending : Ending Message Result} :
    Exchange.PlayedBy ⟨arrival :: skipped, ending⟩ judge traffic timeout (left + 1) cursor ↔
      traffic cursor.position = some arrival ∧ arrival.time < cursor.clock + timeout ∧
        judge arrival.message = .skip ∧
        Exchange.PlayedBy ⟨skipped, ending⟩ judge traffic timeout left (read cursor arrival) := by
  have budget : left + 1 - (arrival :: skipped).length = left - skipped.length := by
    rw [List.length_cons, Nat.add_sub_add_right]
  apply Iff.intro
  · rintro ⟨skips, ends⟩
    obtain ⟨present, onTime, skip, rest⟩ := skippable_cons_iff.mp skips
    exact ⟨present, onTime, skip, rest, budget ▸ ends⟩
  · rintro ⟨present, onTime, skip, rest, ends⟩
    exact ⟨skippable_cons_iff.mpr ⟨present, onTime, skip, rest⟩, budget.symm ▸ ends⟩

/-- A wait without a message sees no arrival before its timer. -/
theorem wait_eq_none_iff :
    wait traffic timeout cursor = (none, expire timeout cursor) ↔
      ∀ arrival, traffic cursor.position = some arrival →
        cursor.clock + timeout ≤ arrival.time := by
  unfold wait
  cases traffic cursor.position with
  | none => simp
  | some arrival =>
      by_cases onTime : arrival.time < cursor.clock + timeout
      · simp [onTime]
      · simp only [if_neg onTime, Option.some.injEq, forall_eq', true_iff]
        omega

/-- The ending of an exchange without a skip decides its scan. -/
theorem scan_of_meets {ending : Ending Message Result}
    (ends : ending.Meets judge traffic timeout left cursor) :
    scan judge traffic timeout left cursor =
      (Exchange.outcome ⟨[], ending⟩ timeout cursor,
        Exchange.final ⟨[], ending⟩ timeout cursor) := by
  cases ending with
  | expired => rw [scan_of_expired left (wait_eq_none_iff.mpr ends)]; rfl
  | settled arrival result =>
      obtain ⟨present, onTime, settles⟩ := ends
      rw [scan_of_settled left (wait_of_arrival present onTime) settles, step_of_arrival present]
      rfl
  | exhausted arrival =>
      obtain ⟨rfl, present, onTime, skip⟩ := ends
      rw [scan_of_exhausted (wait_of_arrival present onTime) skip, step_of_arrival present]
      rfl

/-- A played exchange is what the scan does. -/
theorem scan_of_played {exchange : Exchange Message Result}
    (played : exchange.PlayedBy judge traffic timeout left cursor) :
    scan judge traffic timeout left cursor =
      (exchange.outcome timeout cursor, exchange.final timeout cursor) := by
  obtain ⟨skipped, ending⟩ := exchange
  induction skipped generalizing left cursor with
  | nil => exact scan_of_meets (playedBy_nil_iff.mp played)
  | cons arrival skipped ih =>
      obtain _ | left := left
      · exact absurd played.skips.budget (Nat.not_succ_le_zero _)
      · obtain ⟨present, onTime, skip, rest⟩ := playedBy_cons_iff.mp played
        rw [scan_of_skipped left (wait_of_arrival present onTime) skip, step_of_arrival present]
        exact ih rest

/-- The first wait of a scan ends it or skips an arrival. -/
theorem meets_or_skips (judge : Message → Verdict Result) (traffic : Traffic Message)
    (timeout : Int) (left : Nat) (cursor : Cursor) :
    (∃ ending : Ending Message Result, ending.Meets judge traffic timeout left cursor) ∨
      ∃ rest arrival, left = rest + 1 ∧ traffic cursor.position = some arrival ∧
        arrival.time < cursor.clock + timeout ∧ judge arrival.message = .skip := by
  rcases received : wait traffic timeout cursor with ⟨_ | message, next⟩
  · obtain rfl := wait_none received
    exact .inl ⟨.expired, wait_eq_none_iff.mp received⟩
  · obtain ⟨arrival, present, rfl, onTime, _⟩ := wait_some received
    cases verdict : judge arrival.message with
    | settle result => exact .inl ⟨.settled arrival result, present, onTime, verdict⟩
    | skip =>
        cases left with
        | zero => exact .inl ⟨.exhausted arrival, rfl, present, onTime, verdict⟩
        | succ rest => exact .inr ⟨rest, arrival, rfl, present, onTime, verdict⟩

/-- Each scan plays an exchange. -/
theorem exists_playedBy (judge : Message → Verdict Result) (traffic : Traffic Message)
    (timeout : Int) (left : Nat) (cursor : Cursor) :
    ∃ exchange : Exchange Message Result,
      exchange.PlayedBy judge traffic timeout left cursor := by
  induction left using Nat.strongRecOn generalizing cursor with
  | ind left ih =>
      obtain ⟨ending, ends⟩ | ⟨rest, arrival, rfl, present, onTime, skip⟩ :=
        meets_or_skips judge traffic timeout left cursor
      · exact ⟨⟨[], ending⟩, playedBy_nil_iff.mpr ends⟩
      · obtain ⟨⟨skipped, ending⟩, played⟩ :=
          ih rest (Nat.lt_succ_self rest) (read cursor arrival)
        exact ⟨⟨arrival :: skipped, ending⟩,
          playedBy_cons_iff.mpr ⟨present, onTime, skip, played⟩⟩

/-- A wait that ends a scan does not skip. -/
theorem not_skip_of_meets {ending : Ending Message Result} {arrival : Arrival Message}
    (ends : ending.Meets judge traffic timeout (left + 1) cursor)
    (present : traffic cursor.position = some arrival)
    (onTime : arrival.time < cursor.clock + timeout) : judge arrival.message ≠ .skip := by
  intro skip
  cases ending with
  | expired => exact absurd onTime (Int.not_lt.mpr (ends arrival present))
  | settled other result =>
      obtain ⟨here, _, settles⟩ := ends
      obtain rfl := Option.some.inj (present.symm.trans here)
      cases settles.symm.trans skip
  | exhausted => exact absurd ends.1 (Nat.succ_ne_zero left)

theorem meets_unique {first second : Ending Message Result}
    (isFirst : first.Meets judge traffic timeout left cursor)
    (isSecond : second.Meets judge traffic timeout left cursor) : first = second := by
  cases first with
  | expired =>
      cases second with
      | expired => rfl
      | settled arrival => exact absurd isSecond.2.1 (Int.not_lt.mpr (isFirst _ isSecond.1))
      | exhausted arrival =>
          exact absurd isSecond.2.2.1 (Int.not_lt.mpr (isFirst _ isSecond.2.1))
  | settled arrival result =>
      obtain ⟨present, onTime, settles⟩ := isFirst
      cases second with
      | expired => exact absurd onTime (Int.not_lt.mpr (isSecond _ present))
      | settled other =>
          obtain rfl := Option.some.inj (present.symm.trans isSecond.1)
          obtain rfl := Verdict.settle.inj (settles.symm.trans isSecond.2.2)
          rfl
      | exhausted other =>
          obtain rfl := Option.some.inj (present.symm.trans isSecond.2.1)
          cases settles.symm.trans isSecond.2.2.2
  | exhausted arrival =>
      obtain ⟨_, present, onTime, skip⟩ := isFirst
      cases second with
      | expired => exact absurd onTime (Int.not_lt.mpr (isSecond _ present))
      | settled other =>
          obtain rfl := Option.some.inj (present.symm.trans isSecond.1)
          cases skip.symm.trans isSecond.2.2
      | exhausted other =>
          obtain rfl := Option.some.inj (present.symm.trans isSecond.2.1)
          rfl

/-- The traffic plays at most one exchange. -/
theorem playedBy_unique {first second : Exchange Message Result}
    (isFirst : first.PlayedBy judge traffic timeout left cursor)
    (isSecond : second.PlayedBy judge traffic timeout left cursor) : first = second := by
  obtain ⟨skipped, ending⟩ := first
  obtain ⟨otherSkipped, otherEnding⟩ := second
  induction left generalizing cursor skipped otherSkipped with
  | zero =>
      obtain rfl := List.length_eq_zero_iff.mp (Nat.le_zero.mp isFirst.skips.budget)
      obtain rfl := List.length_eq_zero_iff.mp (Nat.le_zero.mp isSecond.skips.budget)
      rw [meets_unique (playedBy_nil_iff.mp isFirst) (playedBy_nil_iff.mp isSecond)]
  | succ left ih =>
      cases skipped with
      | nil =>
          have ends := playedBy_nil_iff.mp isFirst
          cases otherSkipped with
          | nil => rw [meets_unique ends (playedBy_nil_iff.mp isSecond)]
          | cons arrival others =>
              obtain ⟨present, onTime, skip, _⟩ := playedBy_cons_iff.mp isSecond
              exact absurd skip (not_skip_of_meets ends present onTime)
      | cons arrival skipped =>
          obtain ⟨present, onTime, skip, rest⟩ := playedBy_cons_iff.mp isFirst
          cases otherSkipped with
          | nil =>
              have ends := playedBy_nil_iff.mp isSecond
              exact absurd skip (not_skip_of_meets ends present onTime)
          | cons other others =>
              obtain ⟨here, _, _, otherRest⟩ := playedBy_cons_iff.mp isSecond
              obtain rfl := Option.some.inj (present.symm.trans here)
              obtain ⟨rfl, rfl⟩ := Exchange.mk.inj (ih skipped rest others otherRest)
              rfl

end Scans

section Bounds

variable {Message Result : Type} {judge : Message → Verdict Result} {traffic : Traffic Message}
  {timeout : Int} {left : Nat} {cursor : Cursor} {exchange : Exchange Message Result}

theorem final_cons (arrival : Arrival Message) (skipped : List (Arrival Message))
    (ending : Ending Message Result) :
    Exchange.final ⟨arrival :: skipped, ending⟩ timeout cursor =
      Exchange.final ⟨skipped, ending⟩ timeout (read cursor arrival) := rfl

theorem final_position (exchange : Exchange Message Result) (timeout : Int) (cursor : Cursor) :
    (exchange.final timeout cursor).position = cursor.position + exchange.taken.length := by
  obtain ⟨skipped, ending⟩ := exchange
  induction skipped generalizing cursor with
  | nil => cases ending <;> rfl
  | cons arrival skipped ih =>
      rw [final_cons, ih, Exchange.taken, Exchange.taken, List.cons_append, List.length_cons]
      simp only [read]
      omega

theorem final_clock_ge (exchange : Exchange Message Result) (timeout : Int) (cursor : Cursor) :
    cursor.clock ≤ (exchange.final timeout cursor).clock := by
  obtain ⟨skipped, ending⟩ := exchange
  induction skipped generalizing cursor with
  | nil => cases ending <;> exact Int.le_max_left _ _
  | cons arrival skipped ih =>
      rw [final_cons]
      exact Int.le_trans (Int.le_max_left _ _) (ih (read cursor arrival))

theorem Ending.Meets.delivers {ending : Ending Message Result}
    (ends : ending.Meets judge traffic timeout left cursor) :
    Delivers traffic cursor.position ending.taken := by
  intro k arrival inside
  have first : [arrival][k]? = some arrival → k = 0 := by
    intro here
    have below := (List.getElem?_eq_some_iff.mp here).1
    rw [List.length_singleton] at below
    omega
  cases ending with
  | expired => cases inside
  | settled last result =>
      obtain rfl := List.mem_singleton.mp (List.mem_of_getElem? inside)
      rw [first inside, Nat.add_zero]
      exact ends.1
  | exhausted last =>
      obtain rfl := List.mem_singleton.mp (List.mem_of_getElem? inside)
      rw [first inside, Nat.add_zero]
      exact ends.2.1

/-- What an exchange takes stands in the traffic from its start on. -/
theorem Exchange.PlayedBy.delivers
    (played : exchange.PlayedBy judge traffic timeout left cursor) :
    Delivers traffic cursor.position exchange.taken := by
  obtain ⟨skipped, ending⟩ := exchange
  induction skipped generalizing left cursor with
  | nil => exact (playedBy_nil_iff.mp played).delivers
  | cons arrival skipped ih =>
      obtain ⟨left, rfl⟩ : ∃ fewer, left = fewer + 1 :=
        Nat.exists_eq_add_of_le' (Nat.le_trans (Nat.succ_le_succ (Nat.zero_le _))
          played.skips.budget)
      obtain ⟨present, _, _, rest⟩ := playedBy_cons_iff.mp played
      intro k other inside
      cases k with
      | zero =>
          obtain rfl := Option.some.inj inside
          exact present
      | succ k =>
          rw [Nat.add_comm k, ← Nat.add_assoc]
          exact ih rest k other inside

theorem Exchange.PlayedBy.taken_length_le
    (played : exchange.PlayedBy judge traffic timeout left cursor) :
    exchange.taken.length ≤ left + 1 := by
  have budget := played.skips.budget
  have one : exchange.ending.taken.length ≤ 1 := by
    cases exchange.ending <;> simp [Ending.taken]
  rw [Exchange.taken, List.length_append]
  omega

/-- Each wait of an exchange takes at most one timeout. -/
theorem Exchange.PlayedBy.final_clock_le (positive : 0 ≤ timeout)
    (played : exchange.PlayedBy judge traffic timeout left cursor) :
    (exchange.final timeout cursor).clock ≤ cursor.clock + (left + 1 : Nat) * timeout := by
  obtain ⟨skipped, ending⟩ := exchange
  have more (count : Nat) : (0 : Int) ≤ count * timeout :=
    Int.mul_nonneg (Int.natCast_nonneg count) positive
  induction skipped generalizing left cursor with
  | nil =>
      have ends := playedBy_nil_iff.mp played
      have expand : ((left + 1 : Nat) : Int) * timeout = left * timeout + timeout := by
        push_cast
        ring
      have rest := more left
      rw [expand]
      cases ending with
      | expired =>
          simp only [Exchange.final, Ending.final, Exchange.last, List.foldl_nil, expire]
          omega
      | settled arrival result =>
          have onTime := ends.2.1
          simp only [Exchange.final, Ending.final, Exchange.last, List.foldl_nil, read]
          omega
      | exhausted arrival =>
          have onTime := ends.2.2.1
          simp only [Exchange.final, Ending.final, Exchange.last, List.foldl_nil, read]
          omega
  | cons arrival skipped ih =>
      obtain _ | left := left
      · exact absurd played.skips.budget (Nat.not_succ_le_zero _)
      · obtain ⟨_, onTime, _, rest⟩ := playedBy_cons_iff.mp played
        have expand : ((left + 1 + 1 : Nat) : Int) * timeout =
            (left + 1 : Nat) * timeout + timeout := by
          push_cast
          ring
        have behind := ih rest
        simp only [read] at behind
        rw [final_cons, expand]
        simp only [read]
        omega

end Bounds

section Horizons

variable {Message Result : Type} {judge : Message → Verdict Result}
  {traffic other : Traffic Message} {timeout horizon : Int} {left : Nat} {cursor : Cursor}

/-- Two traffics are the same up to a time if they share the arrivals until then. -/
def SameUntil (horizon : Int) (traffic other : Traffic Message) : Prop :=
  ∀ position arrival, arrival.time ≤ horizon →
    (traffic position = some arrival ↔ other position = some arrival)

variable (same : SameUntil horizon traffic other)

include same

theorem meets_of_sameUntil {ending : Ending Message Result}
    (inside : (ending.final timeout cursor).clock ≤ horizon)
    (ends : ending.Meets judge traffic timeout left cursor) :
    ending.Meets judge other timeout left cursor := by
  cases ending with
  | expired =>
      simp only [Ending.final, expire] at inside
      intro arrival present
      by_contra early
      exact early (ends arrival ((same _ arrival (by omega)).mpr present))
  | settled arrival result =>
      simp only [Ending.final, read] at inside
      exact ⟨(same _ arrival (by omega)).mp ends.1, ends.2⟩
  | exhausted arrival =>
      simp only [Ending.final, read] at inside
      exact ⟨ends.1, (same _ arrival (by omega)).mp ends.2.1, ends.2.2⟩

/-- An exchange does not depend on what arrives after its end. -/
theorem playedBy_of_sameUntil {exchange : Exchange Message Result}
    (inside : (exchange.final timeout cursor).clock ≤ horizon)
    (played : exchange.PlayedBy judge traffic timeout left cursor) :
    exchange.PlayedBy judge other timeout left cursor := by
  obtain ⟨skipped, ending⟩ := exchange
  induction skipped generalizing left cursor with
  | nil =>
      exact playedBy_nil_iff.mpr (meets_of_sameUntil same inside (playedBy_nil_iff.mp played))
  | cons arrival skipped ih =>
      obtain _ | left := left
      · exact absurd played.skips.budget (Nat.not_succ_le_zero _)
      · obtain ⟨present, onTime, skip, rest⟩ := playedBy_cons_iff.mp played
        have behind := final_clock_ge ⟨skipped, ending⟩ timeout (read cursor arrival)
        have early : arrival.time ≤ horizon := by
          rw [final_cons] at inside
          simp only [read] at behind inside
          omega
        exact playedBy_cons_iff.mpr
          ⟨(same _ arrival early).mp present, onTime, skip, ih inside rest⟩

end Horizons

end NetworkTools.Library.TimedScan
