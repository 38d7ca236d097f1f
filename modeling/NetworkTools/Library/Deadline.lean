/-
This file proves when a scan with a fresh timer for each wait ends by a deadline.
-/

import NetworkTools.Library.TimedScan

namespace NetworkTools.Library.TimedScan

variable {Message Result : Type}

/-- The clock after a reader took all these arrivals. -/
def latest (clock : Int) (arrivals : List (Arrival Message)) : Int :=
  arrivals.foldl (fun clock arrival => max clock arrival.time) clock

/-- The scan can skip these arrivals, one after the other, and still wait again. -/
structure Skippable (judge : Message → Verdict Result) (traffic : Traffic Message)
    (timeout : Int) (left : Nat) (cursor : Cursor) (arrivals : List (Arrival Message)) : Prop where
  budget : arrivals.length ≤ left
  delivered : Delivers traffic cursor.position arrivals
  onTime : OnTime timeout cursor.clock arrivals
  skipped : ∀ arrival ∈ arrivals, judge arrival.message = .skip

/-- A late arrival moves the clock. -/
theorem lt_latest_iff (clock bound : Int) (arrivals : List (Arrival Message)) :
    bound < latest clock arrivals ↔ bound < clock ∨ ∃ arrival ∈ arrivals, bound < arrival.time := by
  unfold latest
  induction arrivals generalizing clock with
  | nil => simp
  | cons arrival rest ih =>
      have front : bound < max clock arrival.time ↔ bound < clock ∨ bound < arrival.time := by omega
      rw [List.foldl_cons, ih, front, or_assoc]
      simp only [List.mem_cons, exists_eq_or_imp]

section Waits

variable {judge : Message → Verdict Result} {traffic : Traffic Message} {timeout : Int}
  {left : Nat} {cursor : Cursor}

theorem skippable_nil : Skippable judge traffic timeout left cursor [] :=
  ⟨Nat.zero_le left, fun k arrival inside => by simp at inside, trivial, by simp⟩

/-- A skippable sequence starts with the next message and goes on behind it. -/
theorem skippable_cons_iff {arrival : Arrival Message} {rest : List (Arrival Message)} :
    Skippable judge traffic timeout (left + 1) cursor (arrival :: rest) ↔
      traffic cursor.position = some arrival ∧ arrival.time < cursor.clock + timeout ∧
        judge arrival.message = .skip ∧
        Skippable judge traffic timeout left (read cursor arrival) rest := by
  apply Iff.intro
  · intro skippable
    refine ⟨skippable.delivered 0 arrival rfl, skippable.onTime.1,
      skippable.skipped arrival List.mem_cons_self, Nat.le_of_succ_le_succ skippable.budget, ?_,
      skippable.onTime.2, fun other member => skippable.skipped other
        (List.mem_cons_of_mem _ member)⟩
    intro k later inside
    have shifted := skippable.delivered (k + 1) later inside
    simp only [read]
    rwa [Nat.add_right_comm, Nat.add_assoc]
  · intro split
    obtain ⟨present, onTime, skip, rest⟩ := split
    refine ⟨Nat.succ_le_succ rest.budget, ?_, ⟨onTime, rest.onTime⟩, ?_⟩
    · intro k later inside
      cases k with
      | zero =>
          obtain rfl := Option.some.inj inside
          exact present
      | succ k =>
          have shifted := rest.delivered k later inside
          simp only [read] at shifted
          rwa [Nat.add_right_comm, Nat.add_assoc] at shifted
    · intro other member
      cases List.mem_cons.mp member with
      | inl same => rw [same, skip]
      | inr later => exact rest.skipped other later

/-- An expired wait has nothing to skip. -/
theorem eq_nil_of_expired {next : Cursor} {arrivals : List (Arrival Message)}
    (expired : wait traffic timeout cursor = (none, next))
    (skippable : Skippable judge traffic timeout left cursor arrivals) : arrivals = [] := by
  cases arrivals with
  | nil => rfl
  | cons arrival rest =>
      have received := wait_of_arrival (skippable.delivered 0 arrival rfl) skippable.onTime.1
      rw [expired] at received
      simp at received

/-- A settled wait has nothing to skip. -/
theorem eq_nil_of_settled {next : Cursor} {message : Message} {result : Option Result}
    {arrivals : List (Arrival Message)}
    (received : wait traffic timeout cursor = (some message, next))
    (settled : judge message = .settle result)
    (skippable : Skippable judge traffic timeout left cursor arrivals) : arrivals = [] := by
  cases arrivals with
  | nil => rfl
  | cons arrival rest =>
      have first := wait_of_arrival (skippable.delivered 0 arrival rfl) skippable.onTime.1
      rw [received] at first
      have skip := skippable.skipped arrival List.mem_cons_self
      rw [← Option.some.inj (Prod.mk.inj first).1, settled] at skip
      simp at skip

end Waits

section Deadlines

variable {judge : Message → Verdict Result} {traffic : Traffic Message} {timeout : Int}
  {left : Nat} {cursor : Cursor}

/-- A scan ends with its first wait, or it skips an arrival in time and goes on behind it. -/
theorem scan_next (judge : Message → Verdict Result) (traffic : Traffic Message) (timeout : Int)
    (left : Nat) (cursor : Cursor) :
    ((scan judge traffic timeout left cursor).2 = (wait traffic timeout cursor).2 ∧
        ∀ arrivals, Skippable judge traffic timeout left cursor arrivals → arrivals = []) ∨
      ∃ rest arrival, left = rest + 1 ∧ traffic cursor.position = some arrival ∧
        arrival.time < cursor.clock + timeout ∧ judge arrival.message = .skip ∧
        scan judge traffic timeout left cursor =
          scan judge traffic timeout rest (read cursor arrival) := by
  rcases received : wait traffic timeout cursor with ⟨_ | message, next⟩
  · refine .inl ⟨?_, fun arrivals => eq_nil_of_expired received⟩
    rw [scan_of_expired left received]
  · cases verdict : judge message with
    | settle result =>
        refine .inl ⟨?_, fun arrivals => eq_nil_of_settled received verdict⟩
        rw [scan_of_settled left received verdict]
    | skip =>
        cases left with
        | zero =>
            refine .inl ⟨?_, fun arrivals skippable => ?_⟩
            · rw [scan_of_exhausted received verdict]
            · exact List.length_eq_zero_iff.mp (Nat.le_zero.mp skippable.budget)
        | succ rest =>
            obtain ⟨arrival, present, rfl, onTime, rfl⟩ := wait_some received
            exact .inr ⟨rest, arrival, rfl, present, onTime, verdict,
              scan_of_skipped rest received verdict⟩

theorem wait_clock_le : cursor.clock ≤ (wait traffic timeout cursor).2.clock := by
  rcases received : wait traffic timeout cursor with ⟨_ | message, next⟩
  · rw [wait_none received]
    exact Int.le_max_left _ _
  · obtain ⟨arrival, _, _, _, rfl⟩ := wait_some received
    exact Int.le_max_left _ _

/-- The clock of a scan never runs backwards. -/
theorem scan_clock_le : cursor.clock ≤ (scan judge traffic timeout left cursor).2.clock := by
  induction left using Nat.strongRecOn generalizing cursor with
  | ind left ih =>
      obtain ⟨last, _⟩ | ⟨rest, arrival, rfl, _, _, _, goesOn⟩ :=
        scan_next judge traffic timeout left cursor
      · rw [last]
        exact wait_clock_le
      · rw [goesOn]
        exact Int.le_trans (Int.le_max_left _ _) (ih rest (Nat.lt_succ_self rest))

/-- The deadline holds for the wait that ends the scan, whatever comes behind it. -/
def WaitEnds (traffic : Traffic Message) (timeout : Int) (cursor : Cursor) (deadline : Int)
    (arrivals : List (Arrival Message)) : Prop :=
  latest cursor.clock arrivals + timeout ≤ deadline ∨
    ∃ next, traffic (cursor.position + arrivals.length) = some next ∧ next.time ≤ deadline

/-- A wait that nothing follows ends by the deadline exactly when it expires or receives by then. -/
theorem wait_clock_le_iff {deadline : Int} (ahead : cursor.clock ≤ deadline) :
    (wait traffic timeout cursor).2.clock ≤ deadline ↔
      WaitEnds traffic timeout cursor deadline [] := by
  unfold WaitEnds
  simp only [latest, List.foldl_nil, List.length_nil, Nat.add_zero]
  cases present : traffic cursor.position with
  | none =>
      simp only [wait, present, expire]
      simp
      omega
  | some arrival =>
      by_cases onTime : arrival.time < cursor.clock + timeout
      · rw [wait_of_arrival present onTime, step_of_arrival present]
        simp only [read, Option.some.injEq, exists_eq_left']
        omega
      · simp only [wait, present, if_neg onTime, expire, Option.some.injEq, exists_eq_left']
        omega

/-- A scan that ends with its first wait skips nothing, so that wait decides alone. -/
theorem scan_clock_le_iff_of_last {deadline : Int} (ahead : cursor.clock ≤ deadline)
    (last : (scan judge traffic timeout left cursor).2 = (wait traffic timeout cursor).2)
    (none : ∀ arrivals, Skippable judge traffic timeout left cursor arrivals → arrivals = []) :
    (scan judge traffic timeout left cursor).2.clock ≤ deadline ↔
      ∀ arrivals, Skippable judge traffic timeout left cursor arrivals →
        WaitEnds traffic timeout cursor deadline arrivals := by
  rw [last, wait_clock_le_iff ahead]
  apply Iff.intro
  · intro ends arrivals skippable
    rw [none arrivals skippable]
    exact ends
  · intro all
    exact all [] skippable_nil

/-- Behind a skipped arrival the deadline holds for the rest of the scan. -/
theorem waitEnds_cons_iff {deadline : Int} {arrival : Arrival Message}
    {rest : List (Arrival Message)} :
    WaitEnds traffic timeout cursor deadline (arrival :: rest) ↔
      WaitEnds traffic timeout (read cursor arrival) deadline rest := by
  unfold WaitEnds
  simp only [latest, List.foldl_cons, List.length_cons, read, Nat.add_assoc,
    Nat.add_comm 1 rest.length]

section Skipped

variable {deadline : Int} {arrival : Arrival Message}
  (present : traffic cursor.position = some arrival)

include present

/-- Behind an arrival by the deadline the waits of the rest decide. -/
theorem waitEnds_of_skipped (onTime : arrival.time < cursor.clock + timeout)
    (skip : judge arrival.message = .skip) (early : arrival.time ≤ deadline) :
    (∀ rest, Skippable judge traffic timeout left (read cursor arrival) rest →
        WaitEnds traffic timeout (read cursor arrival) deadline rest) ↔
      ∀ arrivals, Skippable judge traffic timeout (left + 1) cursor arrivals →
        WaitEnds traffic timeout cursor deadline arrivals := by
  apply Iff.intro
  · intro behind arrivals skippable
    cases arrivals with
    | nil => exact .inr ⟨arrival, present, early⟩
    | cons other rest =>
        obtain ⟨here, _, _, later⟩ := skippable_cons_iff.mp skippable
        obtain rfl := Option.some.inj (here.symm.trans present)
        exact waitEnds_cons_iff.mpr (behind rest later)
  · intro all rest later
    have skippable := skippable_cons_iff.mpr ⟨present, onTime, skip, later⟩
    exact waitEnds_cons_iff.mp (all (arrival :: rest) skippable)

/-- An arrival behind the deadline outlasts it. -/
theorem not_waitEnds_of_late (onTime : arrival.time < cursor.clock + timeout)
    (late : deadline < arrival.time) : ¬ WaitEnds traffic timeout cursor deadline [] := by
  intro ends
  rcases ends with expires | ⟨next, here, before⟩
  · simp only [latest, List.foldl_nil] at expires
    omega
  · obtain rfl := Option.some.inj (here.symm.trans present)
    omega

end Skipped

/-- A scan ends by a deadline exactly when no wait behind skipped messages outlasts it. -/
theorem scan_clock_le_iff {deadline : Int} (ahead : cursor.clock ≤ deadline) :
    (scan judge traffic timeout left cursor).2.clock ≤ deadline ↔
      ∀ arrivals, Skippable judge traffic timeout left cursor arrivals →
        WaitEnds traffic timeout cursor deadline arrivals := by
  induction left using Nat.strongRecOn generalizing cursor with
  | ind left ih =>
      obtain ⟨last, none⟩ | ⟨rest, arrival, rfl, present, onTime, skip, goesOn⟩ :=
        scan_next judge traffic timeout left cursor
      · exact scan_clock_le_iff_of_last ahead last none
      · rw [goesOn]
        have clock : max cursor.clock arrival.time ≤
            (scan judge traffic timeout rest (read cursor arrival)).2.clock := scan_clock_le
        by_cases early : arrival.time ≤ deadline
        · have behind : (read cursor arrival).clock ≤ deadline := by
            simp only [read]
            omega
          rw [ih rest (Nat.lt_succ_self rest) behind, waitEnds_of_skipped present onTime skip early]
        · -- The late arrival alone outlasts the deadline.
          apply iff_of_false (by omega)
          intro all
          exact not_waitEnds_of_late present onTime (by omega) (all [] skippable_nil)

/-- A scan keeps within one timeout exactly when each skipped message that comes after the start
is followed by another message in time. -/
theorem scan_duration_le_iff :
    (scan judge traffic timeout left cursor).2.clock - cursor.clock ≤ timeout ↔
      0 ≤ timeout ∧ ∀ arrivals, Skippable judge traffic timeout left cursor arrivals →
        (∃ arrival ∈ arrivals, cursor.clock < arrival.time) →
          ∃ next, traffic (cursor.position + arrivals.length) = some next ∧
            next.time ≤ cursor.clock + timeout := by
  by_cases positive : 0 ≤ timeout
  · have ahead : cursor.clock ≤ cursor.clock + timeout := by omega
    have shift (ended : Int) :
        ended - cursor.clock ≤ timeout ↔ ended ≤ cursor.clock + timeout := by omega
    rw [shift, scan_clock_le_iff ahead]
    simp only [positive, true_and]
    apply Iff.intro
    · intro all arrivals skippable late
      have moved := (lt_latest_iff cursor.clock cursor.clock arrivals).mpr (.inr late)
      rcases all arrivals skippable with expires | followed
      · omega
      · exact followed
    · intro followed arrivals skippable
      by_cases late : ∃ arrival ∈ arrivals, cursor.clock < arrival.time
      · exact .inr (followed arrivals skippable late)
      · have still := fun moved => (lt_latest_iff cursor.clock cursor.clock arrivals).mp moved
        apply Or.inl
        by_contra outlasts
        rcases still (by omega) with impossible | isLate
        · omega
        · exact late isLate
  · have clock : cursor.clock ≤ (scan judge traffic timeout left cursor).2.clock := scan_clock_le
    simp only [positive, false_and, iff_false]
    omega

end Deadlines

end NetworkTools.Library.TimedScan
