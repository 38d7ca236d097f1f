/-
This file models a receiver that scans a timed message queue under a timer.
-/

import Mathlib.Logic.Function.Iterate
import Mathlib.Order.Basic
import Mathlib.Tactic.Common

namespace NetworkTools.Library

/-- An arrival is one message with the time at which it enters the queue. -/
structure Arrival (Message : Type) where
  time : Int
  message : Message
deriving DecidableEq

/-- The traffic gives each queue position its arrival. -/
abbrev Traffic (Message : Type) := Nat → Option (Arrival Message)

/-- A cursor names the next unread position and the current time. -/
structure Cursor where
  position : Nat
  clock : Int
deriving DecidableEq

/-- A verdict skips one message or settles the scan. -/
inductive Verdict (Result : Type) where
  | skip
  | settle (result : Option Result)

/-- A settling verdict decides the scan. -/
def Verdict.decision {Result : Type} : Verdict Result → Option (Option Result)
  | .skip => none
  | .settle result => some result

theorem Verdict.decision_eq_none_iff {Result : Type} (verdict : Verdict Result) :
    verdict.decision = none ↔ verdict = .skip := by
  cases verdict <;> simp [decision]

theorem Verdict.decision_eq_some_iff {Result : Type} (verdict : Verdict Result)
    (result : Option Result) : verdict.decision = some result ↔ verdict = .settle result := by
  cases verdict <;> simp [decision]

namespace TimedScan

variable {Message Result : Type}

/-- The reader cannot take a message before it arrives. -/
def read (cursor : Cursor) (arrival : Arrival Message) : Cursor :=
  ⟨cursor.position + 1, max cursor.clock arrival.time⟩

/-- An expired timer moves the clock and leaves the queue. -/
def expire (timeout : Int) (cursor : Cursor) : Cursor :=
  ⟨cursor.position, max cursor.clock (cursor.clock + timeout)⟩

/-- The timer wins unless the next message arrives before it expires. -/
def wait (traffic : Traffic Message) (timeout : Int) (cursor : Cursor) :
    Option Message × Cursor :=
  match traffic cursor.position with
  | some arrival =>
      if arrival.time < cursor.clock + timeout then
        (some arrival.message, read cursor arrival)
      else (none, expire timeout cursor)
  | none => (none, expire timeout cursor)

/-- A scan repeats the wait after each skipped message, at most `left` times. -/
def scan (judge : Message → Verdict Result) (traffic : Traffic Message) (timeout : Int) :
    Nat → Cursor → Option (Result × Int) × Cursor
  | left, cursor =>
      match wait traffic timeout cursor with
      | (none, next) => (none, next)
      | (some message, next) =>
          match judge message with
          | .settle result =>
              (result.map fun value => (value, next.clock - cursor.clock), next)
          | .skip =>
              match left with
              | 0 => (none, next)
              | left + 1 => scan judge traffic timeout left next

/-- The step takes the next message without a timer. -/
def step (traffic : Traffic Message) (cursor : Cursor) : Cursor :=
  match traffic cursor.position with
  | some arrival => read cursor arrival
  | none => cursor

/-- The next `count` waits each receive a message that the judge skips. -/
def Skips (judge : Message → Verdict Result) (traffic : Traffic Message) (timeout : Int)
    (cursor : Cursor) (count : Nat) : Prop :=
  ∀ k < count, ∃ message,
    (wait traffic timeout ((step traffic)^[k] cursor)).1 = some message ∧
      judge message = .skip

/-- The arrivals stand in the traffic from one position on. -/
def Delivers (traffic : Traffic Message) (position : Nat)
    (arrivals : List (Arrival Message)) : Prop :=
  ∀ k arrival, arrivals[k]? = some arrival → traffic (position + k) = some arrival

/-- Each arrival comes before its own wait expires. -/
def OnTime (timeout : Int) : Int → List (Arrival Message) → Prop
  | _, [] => True
  | clock, arrival :: rest =>
      arrival.time < clock + timeout ∧ OnTime timeout (max clock arrival.time) rest

instance OnTime.decide (timeout : Int) :
    (clock : Int) → (arrivals : List (Arrival Message)) → Decidable (OnTime timeout clock arrivals)
  | _, [] => isTrue trivial
  | clock, arrival :: rest =>
      have := OnTime.decide timeout (max clock arrival.time) rest
      inferInstanceAs (Decidable (_ ∧ _))

/-- The queue holds its messages in the order of their arrival. -/
def Ordered (traffic : Traffic Message) : Prop :=
  ∀ first second earlier later, first ≤ second → traffic first = some earlier →
    traffic second = some later → earlier.time ≤ later.time

/-- A list of arrivals is a finite queue. -/
def ofList (arrivals : List (Arrival Message)) : Traffic Message :=
  fun position => arrivals[position]?

section Waits

variable {traffic : Traffic Message} {timeout : Int} {cursor : Cursor}

theorem wait_of_arrival {arrival : Arrival Message}
    (present : traffic cursor.position = some arrival)
    (onTime : arrival.time < cursor.clock + timeout) :
    wait traffic timeout cursor = (some arrival.message, step traffic cursor) := by
  simp [wait, step, present, onTime]

/-- A received message is the next arrival and came before the deadline. -/
theorem wait_some {message : Message} {next : Cursor}
    (received : wait traffic timeout cursor = (some message, next)) :
    ∃ arrival, traffic cursor.position = some arrival ∧ arrival.message = message ∧
      arrival.time < cursor.clock + timeout ∧ next = read cursor arrival := by
  unfold wait at received
  split at received
  · next arrival present =>
      split at received
      · next onTime =>
          simp only [Prod.mk.injEq, Option.some.injEq] at received
          exact ⟨arrival, present, received.1, onTime, received.2.symm⟩
      · simp at received
  · simp at received

/-- A wait without a message only lets the timer expire. -/
theorem wait_none {next : Cursor} (expired : wait traffic timeout cursor = (none, next)) :
    next = expire timeout cursor := by
  unfold wait at expired
  split at expired
  · split at expired
    · simp at expired
    · exact (Prod.mk.inj expired).2.symm
  · exact (Prod.mk.inj expired).2.symm

theorem ofList_delivers (arrivals : List (Arrival Message)) :
    Delivers (ofList arrivals) 0 arrivals := by
  intro k arrival inside
  rw [Nat.zero_add]
  exact inside

theorem ofList_ordered {arrivals : List (Arrival Message)}
    (sorted : arrivals.Pairwise fun earlier later => earlier.time ≤ later.time) :
    Ordered (ofList arrivals) := by
  intro first second earlier later before isEarlier isLater
  obtain ⟨firstInside, rfl⟩ := List.getElem?_eq_some_iff.mp isEarlier
  obtain ⟨secondInside, rfl⟩ := List.getElem?_eq_some_iff.mp isLater
  rcases Nat.lt_or_eq_of_le before with less | rfl
  · exact List.pairwise_iff_getElem.mp sorted first second firstInside secondInside less
  · exact Int.le_refl _

theorem step_of_arrival {arrival : Arrival Message}
    (present : traffic cursor.position = some arrival) :
    step traffic cursor = read cursor arrival := by
  simp [step, present]

end Waits

section Scans

variable {judge : Message → Verdict Result} {traffic : Traffic Message} {timeout : Int}

theorem scan_of_expired {cursor next : Cursor} (left : Nat)
    (expired : wait traffic timeout cursor = (none, next)) :
    scan judge traffic timeout left cursor = (none, next) := by
  rw [scan, expired]

theorem scan_of_settled {cursor next : Cursor} {message : Message} {result : Option Result}
    (left : Nat) (received : wait traffic timeout cursor = (some message, next))
    (settled : judge message = .settle result) :
    scan judge traffic timeout left cursor =
      (result.map fun value => (value, next.clock - cursor.clock), next) := by
  rw [scan, received]
  simp only [settled]

theorem scan_of_exhausted {cursor next : Cursor} {message : Message}
    (received : wait traffic timeout cursor = (some message, next))
    (skipped : judge message = .skip) :
    scan judge traffic timeout 0 cursor = (none, next) := by
  rw [scan, received]
  simp only [skipped]

theorem scan_of_skipped {cursor next : Cursor} {message : Message} (left : Nat)
    (received : wait traffic timeout cursor = (some message, next))
    (skipped : judge message = .skip) :
    scan judge traffic timeout (left + 1) cursor = scan judge traffic timeout left next := by
  rw [scan, received]
  simp only [skipped]

/-- A wait that receives a message makes one step. -/
theorem wait_step {cursor next : Cursor} {message : Message}
    (received : wait traffic timeout cursor = (some message, next)) :
    next = step traffic cursor := by
  obtain ⟨arrival, present, _, _, same⟩ := wait_some received
  rw [same, step_of_arrival present]

theorem skips_zero (cursor : Cursor) : Skips judge traffic timeout cursor 0 :=
  fun _ impossible => absurd impossible (Nat.not_lt_zero _)

/-- One skipped message and the skips after it form one run of skips. -/
theorem skips_succ {cursor next : Cursor} {message : Message} {count : Nat}
    (received : wait traffic timeout cursor = (some message, next))
    (skipped : judge message = .skip) (later : Skips judge traffic timeout next count) :
    Skips judge traffic timeout cursor (count + 1) := by
  intro k inside
  cases k with
  | zero => exact ⟨message, by rw [Function.iterate_zero_apply, received], skipped⟩
  | succ k =>
      rw [Function.iterate_succ_apply, ← wait_step received]
      exact later k (by omega)

/-- Each skip advances the cursor by one position. -/
theorem skips_position {cursor : Cursor} {count : Nat}
    (skips : Skips judge traffic timeout cursor count) (k : Nat) (inside : k ≤ count) :
    ((step traffic)^[k] cursor).position = cursor.position + k := by
  induction k with
  | zero => rfl
  | succ k ih =>
      obtain ⟨message, received, _⟩ := skips k (by omega)
      obtain ⟨arrival, present, _⟩ := wait_some (Prod.ext received rfl)
      rw [Function.iterate_succ_apply', step_of_arrival present]
      simp only [read, ih (by omega)]
      omega

/-- Each skipped position holds an arrival that the judge skips. -/
theorem skips_arrival {cursor : Cursor} {count : Nat}
    (skips : Skips judge traffic timeout cursor count) (k : Nat) (inside : k < count) :
    ∃ arrival, traffic (cursor.position + k) = some arrival ∧
      judge arrival.message = .skip := by
  obtain ⟨message, received, skipped⟩ := skips k inside
  obtain ⟨arrival, present, same, _⟩ := wait_some (Prod.ext received rfl)
  rw [skips_position skips k (by omega)] at present
  exact ⟨arrival, present, by rw [same, skipped]⟩

/-- The scan passes over a run of skips and keeps the rest of its budget. -/
theorem scan_skips {count : Nat} (left : Nat) {cursor : Cursor}
    (skips : Skips judge traffic timeout cursor count) :
    scan judge traffic timeout (left + count) cursor =
      scan judge traffic timeout left ((step traffic)^[count] cursor) := by
  induction count generalizing cursor with
  | zero => rfl
  | succ count ih =>
      obtain ⟨message, received, skipped⟩ := skips 0 (by omega)
      have first : wait traffic timeout cursor = (some message, step traffic cursor) := by
        have whole : wait traffic timeout cursor =
            (some message, (wait traffic timeout cursor).2) := Prod.ext received rfl
        rwa [← wait_step whole]
      rw [← Nat.add_assoc, scan_of_skipped _ first skipped, Function.iterate_succ_apply]
      apply ih
      intro k inside
      rw [← Function.iterate_succ_apply]
      exact skips (k + 1) (by omega)

/-- A scan skips some messages and then expires, settles, or exhausts its budget. -/
theorem scan_cases (judge : Message → Verdict Result) (traffic : Traffic Message)
    (timeout : Int) (left : Nat) (cursor : Cursor) :
    ∃ skipped ≤ left, Skips judge traffic timeout cursor skipped ∧
      ((∃ next, wait traffic timeout ((step traffic)^[skipped] cursor) = (none, next) ∧
          scan judge traffic timeout left cursor = (none, next)) ∨
        (∃ message result next,
          wait traffic timeout ((step traffic)^[skipped] cursor) = (some message, next) ∧
          judge message = .settle result ∧
          scan judge traffic timeout left cursor =
            (result.map fun value =>
              (value, next.clock - ((step traffic)^[skipped] cursor).clock), next)) ∨
        (skipped = left ∧ ∃ message next,
          wait traffic timeout ((step traffic)^[skipped] cursor) = (some message, next) ∧
          judge message = .skip ∧
          scan judge traffic timeout left cursor = (none, next))) := by
  induction left using Nat.strongRecOn generalizing cursor with
  | ind left ih =>
      rcases received : wait traffic timeout cursor with ⟨_ | message, next⟩
      · exact ⟨0, Nat.zero_le left, skips_zero cursor,
          .inl ⟨next, received, scan_of_expired left received⟩⟩
      · cases verdict : judge message with
        | settle result =>
            exact ⟨0, Nat.zero_le left, skips_zero cursor,
              .inr (.inl ⟨message, result, next, received, verdict,
                scan_of_settled left received verdict⟩)⟩
        | skip =>
            cases left with
            | zero =>
                exact ⟨0, Nat.le_refl 0, skips_zero cursor,
                  .inr (.inr ⟨rfl, message, next, received, verdict,
                    scan_of_exhausted received verdict⟩)⟩
            | succ rest =>
                -- The budget drops by one and the scan continues behind the skipped message.
                obtain ⟨skipped, within, skips, outcome⟩ := ih rest (Nat.lt_succ_self rest) next
                refine ⟨skipped + 1, by omega, skips_succ received verdict skips, ?_⟩
                rw [scan_of_skipped rest received verdict, Function.iterate_succ_apply,
                  ← wait_step received]
                rcases outcome with expired | settled | ⟨full, exhausted⟩
                · exact .inl expired
                · exact .inr (.inl settled)
                · exact .inr (.inr ⟨by omega, exhausted⟩)

/-- A reported result comes from the last message that the scan takes. -/
theorem scan_some {left : Nat} {cursor final : Cursor} {value : Result} {elapsed : Int}
    (found : scan judge traffic timeout left cursor = (some (value, elapsed), final)) :
    ∃ skipped arrival, skipped ≤ left ∧ Skips judge traffic timeout cursor skipped ∧
      traffic (cursor.position + skipped) = some arrival ∧
      judge arrival.message = .settle (some value) ∧
      final = read ((step traffic)^[skipped] cursor) arrival ∧
      elapsed = final.clock - ((step traffic)^[skipped] cursor).clock := by
  obtain ⟨skipped, within, skips, outcome⟩ := scan_cases judge traffic timeout left cursor
  rcases outcome with ⟨next, _, same⟩ | ⟨message, result, next, received, settled, same⟩ |
    ⟨_, message, next, _, _, same⟩
  · simp [same] at found
  · obtain ⟨arrival, present, sameMessage, _, sameNext⟩ := wait_some received
    rw [skips_position skips skipped (Nat.le_refl _)] at present
    rw [same] at found
    obtain ⟨sameResult, sameFinal⟩ := Prod.mk.inj found
    obtain ⟨inner, isInner, pair⟩ := Option.map_eq_some_iff.mp sameResult
    obtain ⟨sameValue, sameElapsed⟩ := Prod.mk.inj pair
    refine ⟨skipped, arrival, within, skips, present, ?_, ?_, ?_⟩
    · rw [sameMessage, settled, isInner, sameValue]
    · rw [← sameFinal, sameNext]
    · rw [← sameElapsed, sameFinal]
  · simp [same] at found

/-- The scan never moves backwards. -/
theorem scan_position_le (judge : Message → Verdict Result) (traffic : Traffic Message)
    (timeout : Int) (left : Nat) (cursor : Cursor) :
    cursor.position ≤ (scan judge traffic timeout left cursor).2.position := by
  obtain ⟨skipped, _, skips, outcome⟩ := scan_cases judge traffic timeout left cursor
  have reached := skips_position skips skipped (Nat.le_refl _)
  rcases outcome with ⟨next, expired, same⟩ | ⟨message, result, next, received, _, same⟩ |
    ⟨_, message, next, received, _, same⟩
  · rw [same, wait_none expired]
    simp only [expire, reached]
    omega
  · obtain ⟨arrival, _, _, _, sameNext⟩ := wait_some received
    rw [same, sameNext]
    simp only [read, reached]
    omega
  · obtain ⟨arrival, _, _, _, sameNext⟩ := wait_some received
    rw [same, sameNext]
    simp only [read, reached]
    omega

/-- Each message that a scan takes is skipped, or it is the last one and decides the result. -/
theorem scan_taken {left : Nat} {cursor : Cursor} {position : Nat}
    (started : cursor.position ≤ position)
    (taken : position < (scan judge traffic timeout left cursor).2.position) :
    ∃ arrival, traffic position = some arrival ∧
      (judge arrival.message = .skip ∨
        ∃ result, judge arrival.message = .settle result ∧
          position + 1 = (scan judge traffic timeout left cursor).2.position ∧
          (scan judge traffic timeout left cursor).1.map Prod.fst = result) := by
  obtain ⟨skipped, _, skips, outcome⟩ := scan_cases judge traffic timeout left cursor
  have reached := skips_position skips skipped (Nat.le_refl _)
  by_cases inside : position < cursor.position + skipped
  · obtain ⟨arrival, present, skip⟩ := skips_arrival skips (position - cursor.position) (by omega)
    rw [Nat.add_sub_cancel' started] at present
    exact ⟨arrival, present, .inl skip⟩
  rcases outcome with ⟨next, expired, same⟩ | ⟨message, result, next, received, settled, same⟩ |
    ⟨_, message, next, received, skip, same⟩
  · rw [same, wait_none expired] at taken
    simp only [expire, reached] at taken
    omega
  · obtain ⟨arrival, present, sameMessage, _, sameNext⟩ := wait_some received
    rw [same, sameNext] at taken
    simp only [read, reached] at taken
    have last : position = cursor.position + skipped := by omega
    rw [reached, ← last] at present
    refine ⟨arrival, present, .inr ⟨result, by rw [sameMessage, settled], ?_, ?_⟩⟩
    · rw [same, sameNext]
      simp only [read, reached, last]
    · rw [same]
      cases result <;> rfl
  · obtain ⟨arrival, present, sameMessage, _, sameNext⟩ := wait_some received
    rw [same, sameNext] at taken
    simp only [read, reached] at taken
    have last : position = cursor.position + skipped := by omega
    rw [reached, ← last] at present
    exact ⟨arrival, present, .inl (by rw [sameMessage, skip])⟩

/-- The first deciding arrival decides a scan whose budget covers the earlier ones. -/
theorem scan_delivered {left : Nat} {cursor : Cursor} {arrivals : List (Arrival Message)}
    {result : Option Result} (budget : arrivals.length ≤ left + 1)
    (delivered : Delivers traffic cursor.position arrivals)
    (onTime : OnTime timeout cursor.clock arrivals)
    (decides : arrivals.findSome? (fun arrival => (judge arrival.message).decision) =
      some result) :
    (scan judge traffic timeout left cursor).1.map Prod.fst = result := by
  induction arrivals generalizing left cursor with
  | nil => simp at decides
  | cons arrival rest ih =>
      have present : traffic cursor.position = some arrival := delivered 0 arrival rfl
      have received := wait_of_arrival present onTime.1
      cases verdict : judge arrival.message with
      | settle outcome =>
          simp only [List.findSome?_cons, verdict, Verdict.decision, Option.some.injEq] at decides
          rw [scan_of_settled left received verdict, ← decides]
          cases outcome <;> rfl
      | skip =>
          simp only [List.findSome?_cons, verdict, Verdict.decision] at decides
          have more : rest ≠ [] := by
            intro empty
            simp [empty] at decides
          have room : 0 < rest.length := List.length_pos_iff.mpr more
          simp only [List.length_cons] at budget
          obtain ⟨left, rfl⟩ := Nat.exists_eq_succ_of_ne_zero (show left ≠ 0 by omega)
          rw [Nat.succ_eq_add_one, scan_of_skipped left received verdict]
          apply ih (by omega)
          · intro k later inside
            have shifted := delivered (k + 1) later (by simpa using inside)
            rw [step_of_arrival present]
            simp only [read]
            rwa [Nat.add_right_comm, Nat.add_assoc]
          · rw [step_of_arrival present]
            exact onTime.2
          · exact decides

/-- Skips leave the clock alone exactly when each skipped message was already there. -/
theorem skips_clock_eq_iff {cursor : Cursor} {count : Nat}
    (skips : Skips judge traffic timeout cursor count) :
    cursor.clock ≤ ((step traffic)^[count] cursor).clock ∧
      (((step traffic)^[count] cursor).clock = cursor.clock ↔
        ∀ k < count, ∀ arrival, traffic (cursor.position + k) = some arrival →
          arrival.time ≤ cursor.clock) := by
  induction count with
  | zero =>
      exact ⟨Int.le_refl _, fun _ k impossible => absurd impossible (Nat.not_lt_zero k),
        fun _ => rfl⟩
  | succ count ih =>
      obtain ⟨lower, unmoved⟩ := ih fun k inside => skips k (by omega)
      obtain ⟨last, present, _⟩ := skips_arrival skips count (by omega)
      have reached := skips_position skips count (by omega)
      have clock : ((step traffic)^[count + 1] cursor).clock =
          max ((step traffic)^[count] cursor).clock last.time := by
        rw [Function.iterate_succ_apply', step_of_arrival (by rw [reached, present])]
        rfl
      rw [clock]
      apply And.intro
      · omega
      apply Iff.intro
      · intro same k inside arrival here
        by_cases earlier : k < count
        · exact unmoved.mp (by omega) k earlier arrival here
        · have isLast : k = count := by omega
          rw [isLast, present, Option.some.injEq] at here
          rw [← here]
          omega
      · intro early
        have before := unmoved.mpr fun k inside => early k (by omega)
        have bound := early count (by omega) last present
        omega

/-- In an ordered queue no skip moves the clock beyond a later arrival. -/
theorem skips_clock_le {cursor : Cursor} {count : Nat} (ordered : Ordered traffic)
    (skips : Skips judge traffic timeout cursor count) {arrival : Arrival Message}
    (present : traffic (cursor.position + count) = some arrival) :
    ((step traffic)^[count] cursor).clock ≤ max cursor.clock arrival.time := by
  have bound : ∀ k ≤ count,
      ((step traffic)^[k] cursor).clock ≤ max cursor.clock arrival.time := by
    intro k inside
    induction k with
    | zero => exact Int.le_max_left _ _
    | succ k ih =>
        obtain ⟨earlier, here, _⟩ := skips_arrival skips k (by omega)
        have reached := skips_position skips k (by omega)
        rw [Function.iterate_succ_apply', step_of_arrival (by rw [reached, here])]
        have before := ordered _ _ earlier arrival (by omega) here present
        have previous := ih (by omega)
        simp only [read]
        omega
  exact bound count (Nat.le_refl _)

end Scans

end TimedScan
end NetworkTools.Library
