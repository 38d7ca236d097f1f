/-
This file develops the scan of an endless queue whose messages all arrive in time.
-/

import NetworkTools.Library.TimedScan

namespace NetworkTools.Library.TimedScan

variable {Message Result : Type}

/-- The queue never runs out of messages. -/
def endless (stream : Nat → Arrival Message) : Traffic Message :=
  fun position => some (stream position)

/-- Each message arrives before the timer of its own wait expires. -/
def Prompt (stream : Nat → Arrival Message) (timeout : Int) (cursor : Cursor) : Prop :=
  ∀ k, (stream (cursor.position + k)).time <
    ((step (endless stream))^[k] cursor).clock + timeout

section Streams

variable {judge : Message → Verdict Result} {stream : Nat → Arrival Message} {timeout : Int}
  {cursor : Cursor}

theorem endless_position (k : Nat) :
    ((step (endless stream))^[k] cursor).position = cursor.position + k := by
  induction k with
  | zero => rfl
  | succ k ih =>
      rw [Function.iterate_succ_apply', step_of_arrival rfl]
      simp only [read, ih, Nat.add_assoc]

variable (prompt : Prompt stream timeout cursor)

include prompt

/-- Each wait receives the message at its own position. -/
theorem wait_endless (k : Nat) :
    wait (endless stream) timeout ((step (endless stream))^[k] cursor) =
      (some (stream (cursor.position + k)).message, (step (endless stream))^[k + 1] cursor) := by
  have here : endless stream ((step (endless stream))^[k] cursor).position =
      some (stream (cursor.position + k)) := by
    rw [endless_position]
    rfl
  rw [wait_of_arrival here (prompt k), Function.iterate_succ_apply']

theorem skips_endless {count : Nat}
    (skipped : ∀ k < count, judge (stream (cursor.position + k)).message = .skip) :
    Skips judge (endless stream) timeout cursor count := by
  intro k inside
  exact ⟨_, by rw [wait_endless prompt], skipped k inside⟩

/-- The first message that settles within the budget decides the scan and is the last one taken. -/
theorem scan_endless_settled {left k : Nat} {result : Option Result} (within : k ≤ left)
    (skipped : ∀ j < k, judge (stream (cursor.position + j)).message = .skip)
    (settled : judge (stream (cursor.position + k)).message = .settle result) :
    (scan judge (endless stream) timeout left cursor).1.map Prod.fst = result ∧
      (scan judge (endless stream) timeout left cursor).2.position = cursor.position + k + 1 := by
  obtain ⟨rest, rfl⟩ := Nat.exists_eq_add_of_le' within
  rw [scan_skips rest (skips_endless prompt skipped),
    scan_of_settled rest (wait_endless prompt k) settled]
  refine ⟨?_, endless_position (k + 1)⟩
  cases result <;> rfl

/-- A scan that only skips takes one message more than its budget. -/
theorem scan_endless_exhausted {left : Nat}
    (skipped : ∀ j ≤ left, judge (stream (cursor.position + j)).message = .skip) :
    (scan judge (endless stream) timeout left cursor).1 = none ∧
      (scan judge (endless stream) timeout left cursor).2.position =
        cursor.position + left + 1 := by
  have skips := skips_endless prompt fun j inside => skipped j (Nat.le_of_lt inside)
  have whole := scan_skips 0 skips
  rw [Nat.zero_add] at whole
  rw [whole, scan_of_exhausted (wait_endless prompt left) (skipped left (Nat.le_refl left))]
  exact ⟨rfl, endless_position (left + 1)⟩

end Streams

end NetworkTools.Library.TimedScan
