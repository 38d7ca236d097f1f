/-
This file proves what the readers of a batch ping can get from its values.
-/

import NetworkTools.Proof.Statistics.Manager
import NetworkTools.Specification.Diagnostics

namespace NetworkTools
open Library Specification NetworkDiagnostics

variable {diagnostics : NetworkDiagnostics} {task : Nat → PingTask} {addresses : List String}
  {count : Int}

section Messages

/-- A round only adds to the message. -/
theorem pingRound_message (addr : String) (state : IcmpManager.PingState) (attempt : Attempt) :
    ∃ more, (IcmpManager.pingRound addr state attempt).message = state.message ++ more := by
  unfold IcmpManager.pingRound
  split
  · exact ⟨_, rfl⟩
  · split <;> exact ⟨_, rfl⟩

theorem foldl_pingRound_message (addr : String) (attempts : List Attempt)
    (state : IcmpManager.PingState) :
    ∃ more, (attempts.foldl (IcmpManager.pingRound addr) state).message =
      state.message ++ more := by
  induction attempts generalizing state with
  | nil => exact ⟨"", by rw [List.foldl_nil, String.append_empty]⟩
  | cons attempt rest ih =>
      obtain ⟨first, isFirst⟩ := pingRound_message addr state attempt
      obtain ⟨others, isOthers⟩ := ih (IcmpManager.pingRound addr state attempt)
      exact ⟨first ++ others, by rw [List.foldl_cons, isOthers, isFirst, String.append_assoc]⟩

theorem pingHeader_head (addr : String) (count : Int) :
    (IcmpManager.pingHeader addr count).toList.head? = some 'P' := by
  simp only [IcmpManager.pingHeader, String.toList_append, List.head?_append]
  rfl

/-- The message of a ping is not the name of one of its statistics. -/
theorem ping_message_ne (manager : IcmpManager) (client : Nat → EchoCall) (addr : String)
    (count : Int) : (manager.ping client addr count).2 ≠ "rtt_avg" := by
  obtain ⟨more, isMessage⟩ := foldl_pingRound_message addr
    (attempts manager client addr count)
    ⟨{ target := addr, packetsSent := count, message := IcmpManager.pingHeader addr count }, 0,
      IcmpManager.pingHeader addr count⟩
  rw [attempts, List.foldl_map] at isMessage
  have message : (manager.pingState client addr count).message =
      IcmpManager.pingHeader addr count ++ more := isMessage
  intro same
  have first := congrArg (fun text : String => text.toList.head?) same
  simp only [IcmpManager.ping, message, String.toList_append, List.head?_append,
    pingHeader_head, Option.some_or] at first
  exact absurd first (by decide)

end Messages

section Items

/-- The pair of an address holds the value of its own task. -/
theorem batchPairs_getElem? (i : Nat) :
    ((addresses.zip (addresses.mapIdx fun i addr => diagnostics.gather addr count (task i))).map
      fun pair => (pair.1, batchValue pair.2))[i]? =
        addresses[i]?.map fun addr =>
          (addr, batchValue (diagnostics.gather addr count (task i))) := by
  rw [List.getElem?_map, List.zip, List.getElem?_zipWith, List.getElem?_mapIdx]
  cases addresses[i]? <;> rfl

/-- The items of a batch are the values of the recorded tasks. -/
theorem mem_batchPing_iff (addr : String) (value : BatchValue) :
    (addr, value) ∈ (diagnostics.batchPing task addresses count).items ↔
      ∃ i, Recorded addresses addr i ∧
        value = batchValue (diagnostics.gather addr count (task i)) := by
  rw [Dictionary.mem_items_iff, batchPing, Dictionary.get?_ofPairs]
  apply exists_congr
  intro i
  unfold Dictionary.LastAt Recorded
  have pair (j : Nat) (found : BatchValue) :
      ((addresses.zip (addresses.mapIdx fun i addr =>
        diagnostics.gather addr count (task i))).map fun pair =>
          (pair.1, batchValue pair.2))[j]? = some (addr, found) ↔
        addresses[j]? = some addr ∧
          found = batchValue (diagnostics.gather addr count (task j)) := by
    rw [batchPairs_getElem?, Option.map_eq_some_iff]
    apply Iff.intro
    · rintro ⟨other, here, same⟩
      obtain ⟨rfl, rfl⟩ := Prod.mk.inj same
      exact ⟨here, rfl⟩
    · rintro ⟨here, rfl⟩
      exact ⟨addr, here, rfl⟩
  simp only [ne_eq, pair]
  apply Iff.intro
  · rintro ⟨⟨here, rfl⟩, last⟩
    exact ⟨⟨here, fun j later present => last j _ later ⟨present, rfl⟩⟩, rfl⟩
  · rintro ⟨⟨here, last⟩, rfl⟩
    exact ⟨⟨here, rfl⟩, fun j other later present => last j later present.1⟩

/-- What holds of each item holds of the value of each recorded task. -/
theorem forall_mem_batchPing_iff (holds : BatchValue → Prop) :
    (∀ item ∈ (diagnostics.batchPing task addresses count).items, holds item.2) ↔
      ∀ addr i, Recorded addresses addr i →
        holds (batchValue (diagnostics.gather addr count (task i))) := by
  apply Iff.intro
  · intro all addr i isRecorded
    exact all (addr, _) ((mem_batchPing_iff addr _).mpr ⟨i, isRecorded, rfl⟩)
  · rintro all ⟨addr, value⟩ present
    obtain ⟨i, isRecorded, rfl⟩ := (mem_batchPing_iff addr value).mp present
    exact all addr i isRecorded

theorem mem_batchPing_keys (addr : String) :
    addr ∈ (diagnostics.batchPing task addresses count).keys ↔ addr ∈ addresses := by
  rw [batchPing, Dictionary.mem_keys_ofPairs, List.map_map]
  change addr ∈ (addresses.zip _).map Prod.fst ↔ _
  rw [List.map_fst_zip (by rw [List.length_mapIdx])]

end Items

section Shapes

/-- The name of a statistic is no component of a returned tuple and no key of an error. -/
theorem contains_batchValue (addr : String) {task : PingTask} (ends : task ≠ .cancelled) :
    (batchValue (diagnostics.gather addr count task)).contains "rtt_avg" = .ok false := by
  cases task with
  | runs client =>
      simp only [gather, batchValue, BatchValue.contains,
        ping_message_ne diagnostics.icmpManager client addr count, decide_false]
  | raises text => rfl
  | cancelled => exact absurd rfl ends

theorem batchValue_eq_cancelledError_iff (addr : String) (task : PingTask) :
    batchValue (diagnostics.gather addr count task) = .cancelledError ↔ task = .cancelled := by
  cases task <;> simp [gather, batchValue]

/-- The value of a task is a dictionary exactly if the task raised. -/
theorem batchValue_eq_error_iff (addr : String) (task : PingTask) (text : String) :
    batchValue (diagnostics.gather addr count task) = .error text ↔ task = .raises text := by
  cases task <;> simp [gather, batchValue]

end Shapes

end NetworkTools
