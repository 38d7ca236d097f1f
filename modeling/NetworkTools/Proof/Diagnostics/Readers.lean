/-
This file proves when the latency map and the connectivity test answer for their addresses.
-/

import NetworkTools.Proof.Diagnostics.Batch

namespace NetworkTools
open Library Specification NetworkDiagnostics

variable {diagnostics : NetworkDiagnostics} {task : Nat → PingTask} {addresses : List String}

section Latencies

/-- The loop finds no latency, and a cancelled value stops it. -/
theorem latencies_eq_ok_iff {items : List (String × BatchValue)}
    (shapes : ∀ item ∈ items, item.2 ≠ .cancelledError → item.2.contains "rtt_avg" = .ok false)
    (latencyMap : List (String × ℚ)) :
    latencies items = .ok latencyMap ↔
      latencyMap = [] ∧ ∀ item ∈ items, item.2 ≠ .cancelledError := by
  induction items with
  | nil => simp [latencies, eq_comm]
  | cons item rest ih =>
      obtain ⟨addr, value⟩ := item
      have others := ih fun item present => shapes item (List.mem_cons_of_mem _ present)
      by_cases isCancelled : value = .cancelledError
      · subst isCancelled
        apply iff_of_false
        · intro returned
          cases returned
        · rintro ⟨_, all⟩
          exact all _ List.mem_cons_self rfl
      · have absent : value.contains "rtt_avg" = .ok false :=
          shapes (addr, value) List.mem_cons_self isCancelled
        have skipped : latencies ((addr, value) :: rest) = latencies rest := by
          rw [latencies, absent]
          rfl
        rw [skipped, others, List.forall_mem_cons]
        exact and_congr_right fun _ => (and_iff_right isCancelled).symm

/-- Whatever the pings bring, the map is empty. -/
theorem networkLatencyMap_eq_ok_iff (latencyMap : List (String × ℚ)) :
    diagnostics.networkLatencyMap task addresses = .ok latencyMap ↔
      latencyMap = [] ∧ ∀ addr i, Recorded addresses addr i → task i ≠ .cancelled := by
  have shapes : ∀ item ∈ (diagnostics.batchPing task addresses 3).items,
      item.2 ≠ .cancelledError → item.2.contains "rtt_avg" = .ok false := by
    apply (forall_mem_batchPing_iff fun value =>
      value ≠ .cancelledError → value.contains "rtt_avg" = .ok false).mpr
    intro addr i _ ends
    exact contains_batchValue addr (mt (batchValue_eq_cancelledError_iff addr (task i)).mpr ends)
  have recorded : (∀ item ∈ (diagnostics.batchPing task addresses 3).items,
      item.2 ≠ .cancelledError) ↔
        ∀ addr i, Recorded addresses addr i → task i ≠ .cancelled := by
    rw [forall_mem_batchPing_iff fun value => value ≠ .cancelledError]
    simp only [ne_eq, batchValue_eq_cancelledError_iff]
  rw [← recorded]
  have found := latencies_eq_ok_iff shapes
  cases read : latencies (diagnostics.batchPing task addresses 3).items with
  | error e =>
      rw [networkLatencyMap, read]
      apply iff_of_false
      · intro returned
        cases returned
      · rintro ⟨_, all⟩
        have impossible := (found []).mpr ⟨rfl, all⟩
        rw [read] at impossible
        cases impossible
  | ok entries =>
      obtain ⟨rfl, all⟩ := (found entries).mp read
      have returned : diagnostics.networkLatencyMap task addresses = .ok [] := by
        rw [networkLatencyMap, read]
        exact congrArg Except.ok List.mergeSort_nil
      rw [returned, and_iff_left all, Except.ok.injEq, eq_comm]

end Latencies

section Connectivity

/-- Only the dictionary of an exception has the method. -/
theorem connectivityLoop_ne_ok {value : BatchValue} (noError : ∀ text, value ≠ .error text)
    (addr : String) (rest : List (String × BatchValue))
    (start connectivity : Dictionary String Bool) :
    connectivityLoop ((addr, value) :: rest) start ≠ .ok connectivity := by
  intro returned
  cases value with
  | error text => exact noError text rfl
  | tuple value => cases returned
  | cancelledError => cases returned

/-- The loop needs the text of an exception at each address, and it answers no for it. -/
theorem connectivityLoop_eq_ok_iff {items : List (String × BatchValue)}
    (start connectivity : Dictionary String Bool) :
    connectivityLoop items start = .ok connectivity ↔
      (∀ item ∈ items, ∃ text, item.2 = .error text) ∧
        connectivity = (items.map fun item => (item.1, false)).foldl
          (fun dictionary pair => dictionary.set pair.1 pair.2) start := by
  induction items generalizing start with
  | nil => simp [connectivityLoop, eq_comm]
  | cons item rest ih =>
      obtain ⟨addr, value⟩ := item
      by_cases isError : ∃ text, value = .error text
      · obtain ⟨text, rfl⟩ := isError
        have next : connectivityLoop ((addr, .error text) :: rest) start =
            connectivityLoop rest (start.set addr false) := rfl
        rw [next, ih, List.forall_mem_cons]
        exact and_congr_left fun _ => (and_iff_right ⟨text, rfl⟩).symm
      · apply iff_of_false
        · exact connectivityLoop_ne_ok (not_exists.mp isError) addr rest start connectivity
        · rintro ⟨all, _⟩
          exact isError (all (addr, value) List.mem_cons_self)

/-- The test returns only if each recorded task raised, and then it answers no everywhere. -/
theorem connectivityTest_eq_ok_iff (testAddresses : Option (List String))
    (connectivity : Dictionary String Bool) :
    diagnostics.connectivityTest task testAddresses = .ok connectivity ↔
      (∀ addr i, Recorded (testAddresses.getD defaultAddresses) addr i →
        ∃ text, task i = .raises text) ∧
      connectivity = .ofPairs ((diagnostics.batchPing task
        (testAddresses.getD defaultAddresses) 1).items.map fun item => (item.1, false)) := by
  have recorded : (∀ item ∈ (diagnostics.batchPing task
      (testAddresses.getD defaultAddresses) 1).items, ∃ text, item.2 = .error text) ↔
        ∀ addr i, Recorded (testAddresses.getD defaultAddresses) addr i →
          ∃ text, task i = .raises text := by
    rw [forall_mem_batchPing_iff fun value => ∃ text, value = .error text]
    simp only [batchValue_eq_error_iff]
  rw [connectivityTest, connectivityLoop_eq_ok_iff, recorded]
  rfl

/-- A dictionary of negative answers holds no positive one. -/
theorem get?_negative (items : List (String × BatchValue)) (addr : String) :
    (Dictionary.ofPairs (items.map fun item => (item.1, false))).get? addr ≠ some true := by
  rw [ne_eq, Dictionary.get?_ofPairs]
  rintro ⟨i, here, _⟩
  rw [List.getElem?_map, Option.map_eq_some_iff] at here
  obtain ⟨item, _, same⟩ := here
  cases same

end Connectivity

/-- The latency map is right exactly if no address replies and no recorded task is cancelled: the
average stands inside a tuple, where the membership test does not look. -/
theorem networkLatencyMap_iff (diagnostics : NetworkDiagnostics) (task : Nat → PingTask)
    (addresses : List String) :
    (∃ latencyMap, diagnostics.networkLatencyMap task addresses = .ok latencyMap ∧
        MapsLatencies diagnostics task addresses latencyMap) ↔
      (∀ (i : Nat) addr, addresses[i]? = some addr → ¬ GotReply diagnostics addr 3 (task i)) ∧
        ∀ addr i, Recorded addresses addr i → task i ≠ .cancelled := by
  apply Iff.intro
  · rintro ⟨latencyMap, returned, maps⟩
    obtain ⟨rfl, ends⟩ := (networkLatencyMap_eq_ok_iff latencyMap).mp returned
    refine ⟨fun i addr here replied => ?_, ends⟩
    obtain ⟨rttAvg, present⟩ := maps.complete i addr here replied
    cases present
  · rintro ⟨silent, ends⟩
    refine ⟨[], (networkLatencyMap_eq_ok_iff []).mpr ⟨rfl, ends⟩, ?_⟩
    exact
      { once := List.nodup_nil
        complete := fun i addr here replied => absurd replied (silent i addr here)
        computed := fun addr rttAvg impossible => by cases impossible
        sorted := List.Pairwise.nil }

/-- An address that answers each ping is missing from the map. -/
theorem networkLatencyMap_answered :
    networkLatencyMap {} (fun _ => .runs fun _ => answeringCall) ["8.8.8.8"] = .ok [] ∧
      ¬ MapsLatencies {} (fun _ => .runs fun _ => answeringCall) ["8.8.8.8"] [] := by
  refine ⟨(networkLatencyMap_eq_ok_iff []).mpr ⟨rfl, fun _ _ _ => by simp⟩, fun maps => ?_⟩
  obtain ⟨rttAvg, present⟩ := maps.complete 0 "8.8.8.8" rfl
    ⟨_, rfl, _, List.mem_map.mpr ⟨0, by decide, rfl⟩, rfl⟩
  cases present

/-- The connectivity test answers exactly if each recorded task raised: the tuple of any other task
has no method of a dictionary. -/
theorem connectivityTest_iff (diagnostics : NetworkDiagnostics) (task : Nat → PingTask)
    (testAddresses : Option (List String)) :
    (∃ connectivity, diagnostics.connectivityTest task testAddresses = .ok connectivity ∧
        TestsConnectivity diagnostics task (testAddresses.getD defaultAddresses) connectivity) ↔
      ∀ addr i, Recorded (testAddresses.getD defaultAddresses) addr i →
        ∃ text, task i = .raises text := by
  apply Iff.intro
  · rintro ⟨connectivity, returned, _⟩
    exact ((connectivityTest_eq_ok_iff testAddresses connectivity).mp returned).1
  · intro raised
    refine ⟨_, (connectivityTest_eq_ok_iff testAddresses _).mpr ⟨raised, rfl⟩, ?_⟩
    constructor
    case keys =>
      intro addr
      rw [Dictionary.mem_keys_ofPairs, List.map_map]
      exact mem_batchPing_keys addr
    case replied =>
      intro addr i isRecorded
      apply iff_of_false (get?_negative _ addr)
      rintro ⟨client, ran, _⟩
      obtain ⟨text, isRaised⟩ := raised addr i isRecorded
      rw [isRaised] at ran
      cases ran

/-- An address that answers its ping ends the test with an exception. -/
theorem connectivityTest_answered :
    connectivityTest {} (fun _ => .runs fun _ => answeringCall) (some ["8.8.8.8"]) =
        .error (.attributeError "'tuple' object has no attribute 'get'") ∧
      ¬ ∃ connectivity,
        connectivityTest {} (fun _ => .runs fun _ => answeringCall) (some ["8.8.8.8"]) =
            .ok connectivity ∧
          TestsConnectivity {} (fun _ => .runs fun _ => answeringCall) ["8.8.8.8"]
            connectivity := by
  refine ⟨rfl, ?_⟩
  rintro ⟨connectivity, returned, _⟩
  cases returned

end NetworkTools
