/-
This file develops the end-around-carry sum of sixteen-bit words and the changes it detects.
-/

import NetworkTools.Library.WordSum

namespace NetworkTools.Library

/-- The carry of one addition goes back into the low end. -/
def endAroundAdd (sum word : Nat) : Nat := (sum + word) % 65536 + (sum + word) / 65536

/-- Each word has its high byte first. A zero fills up the last word. -/
def words : List UInt8 → List Nat
  | [] => []
  | [last] => [last.toNat * 256]
  | high :: low :: rest => (high.toNat * 256 + low.toNat) :: words rest

def endAroundSum (message : List UInt8) : Nat := (words message).foldl endAroundAdd 0

/-- Sums that agree modulo 65535 fold to one value. Only the empty sum folds to zero. -/
def residue (sum : Nat) : Nat := if sum = 0 then 0 else (sum - 1) % 65535 + 1

/-- Two lists differ at one index and nowhere else. -/
def DifferOnlyAt {Value : Type} (index : Nat) (first second : List Value) : Prop :=
  first.length = second.length ∧ first[index]? ≠ second[index]? ∧
    ∀ other, other ≠ index → first[other]? = second[other]?

/-- The sum has two zeros, and a word turns from one into the other. -/
def ZeroSwap (before after : Nat) : Prop :=
  before = 0 ∧ after = 65535 ∨ before = 65535 ∧ after = 0

/-- One bit of one byte is inverted. -/
def flipBit (message : List UInt8) (index bit : Nat) : List UInt8 :=
  message.modify index fun byte => byte ^^^ UInt8.ofNat (1 <<< bit)

instance (before after : Nat) : Decidable (ZeroSwap before after) :=
  inferInstanceAs (Decidable (_ ∨ _))

section Folding

theorem residue_le (sum : Nat) : residue sum ≤ 65535 := by
  unfold residue
  split <;> omega

/-- One end-around addition keeps the residue of the plain sum. -/
theorem endAroundAdd_residue (sum word : Nat) (inside : word ≤ 65535) :
    endAroundAdd (residue sum) word = residue (sum + word) := by
  unfold endAroundAdd residue
  split
  · next empty =>
      subst empty
      split <;> omega
  · rw [if_neg (by omega)]
    omega

/-- The two folds of a sum that fits thirty-two bits leave its residue. -/
theorem foldCarries_residue (sum : Nat) (inside : sum < 4294967296) :
    foldCarries sum % 65536 = residue sum := by
  have once : sum / 65536 + sum % 65536 ≤ 131070 := by omega
  have split : sum = sum / 65536 * 65535 + (sum / 65536 + sum % 65536) := by omega
  have few : sum / 65536 ≤ sum / 65536 + sum % 65536 := Nat.le_add_right _ _
  unfold foldCarries residue
  generalize sum / 65536 + sum % 65536 = folded at once split few ⊢
  generalize sum / 65536 = carries at split few
  by_cases empty : folded = 0
  · rw [if_pos (by omega), empty]
  · -- A second carry can only be one.
    have step : (sum - 1) % 65535 = (folded - 1) % 65535 := by
      rw [show sum - 1 = folded - 1 + carries * 65535 by omega, Nat.add_mul_mod_self_right]
    rw [if_neg (by omega), step]
    by_cases small : folded < 65536
    · omega
    · have carry : folded / 65536 = 1 := by omega
      omega

theorem words_le (message : List UInt8) : ∀ word ∈ words message, word ≤ 65535 := by
  induction message using words.induct with
  | case1 => simp [words]
  | case2 last =>
      have bound := last.toNat_lt
      simp only [words, List.mem_singleton, forall_eq]
      omega
  | case3 high low rest ih =>
      have highBound := high.toNat_lt
      have lowBound := low.toNat_lt
      simp only [words, List.mem_cons, forall_eq_or_imp]
      exact ⟨by omega, ih⟩

theorem wordSum_eq_foldr (message : List UInt8) :
    wordSum message = (words message).foldr (· + ·) 0 := by
  induction message using words.induct with
  | case1 => rfl
  | case2 last => rw [wordSum, words, List.foldr_cons, List.foldr_nil, Nat.add_zero]
  | case3 high low rest ih => rw [wordSum, words, List.foldr_cons, ih]

/-- The words of an even front part do not reach into the rest. -/
theorem words_append (first second : List UInt8) (even : first.length % 2 = 0) :
    words (first ++ second) = words first ++ words second := by
  induction first using words.induct with
  | case1 => rfl
  | case2 last => simp at even
  | case3 high low rest ih =>
      simp only [List.length_cons] at even
      simp only [List.cons_append, words]
      rw [ih (by omega)]

/-- Folding after each addition and folding at the end agree. -/
theorem endAroundSum_eq (message : List UInt8) :
    endAroundSum message = residue (wordSum message) := by
  have run (list : List Nat) (inside : ∀ word ∈ list, word ≤ 65535) (sum : Nat) :
      list.foldl endAroundAdd (residue sum) = residue (sum + list.foldr (· + ·) 0) := by
    induction list generalizing sum with
    | nil => rfl
    | cons word rest ih =>
        rw [List.foldl_cons, endAroundAdd_residue sum word (inside word List.mem_cons_self),
          ih (fun other member => inside other (List.mem_cons_of_mem _ member)),
          List.foldr_cons, Nat.add_assoc]
  have whole := run (words message) (words_le message) 0
  rw [Nat.zero_add, ← wordSum_eq_foldr] at whole
  exact whole

end Folding

section Complements

/-- The complement of the residue is what the checksum field carries. -/
theorem complement_foldCarries (sum : Nat) (inside : sum < 4294967296) :
    complement (foldCarries sum) = 65535 - residue sum := by
  rw [complement, foldCarries_residue sum inside]

/-- Two sums have one checksum exactly when they have one residue. -/
theorem complement_foldCarries_eq_iff {first second : Nat} (firstInside : first < 4294967296)
    (secondInside : second < 4294967296) :
    complement (foldCarries first) = complement (foldCarries second) ↔
      residue first = residue second := by
  have firstBound := residue_le first
  have secondBound := residue_le second
  rw [complement_foldCarries first firstInside, complement_foldCarries second secondInside]
  omega

/-- A nonempty sum together with its complement folds to the negative zero. -/
theorem residue_complement {sum : Nat} (nonempty : 0 < sum) :
    residue (sum + (65535 - residue sum)) = 65535 := by
  unfold residue
  rw [if_neg (by omega), if_neg (by omega)]
  omega

/-- A stored word is the complement of the residue exactly when the whole sum folds to the negative
zero, and it is the negative zero itself only for an empty sum. -/
theorem stored_complement_iff {sum stored : Nat} (inside : stored ≤ 65535) :
    stored = 65535 - residue sum ↔
      residue (sum + stored) = 65535 ∧ (stored = 65535 → sum = 0) := by
  unfold residue
  by_cases empty : sum = 0
  · rw [empty, if_pos rfl, Nat.zero_add]
    split <;> omega
  · rw [if_neg empty, if_neg (by omega)]
    omega

end Complements

section Changes

/-- Two sums have one residue exactly when they agree modulo 65535 and in being empty. -/
theorem residue_eq_iff (first second : Nat) :
    residue first = residue second ↔
      (first = 0 ↔ second = 0) ∧ first % 65535 = second % 65535 := by
  unfold residue
  split
  · split <;> omega
  · split <;> omega

/-- Lists that differ only in front have one tail. -/
theorem differOnlyAt_zero_cons_iff {Value : Type} (first second : Value)
    (rest others : List Value) :
    DifferOnlyAt 0 (first :: rest) (second :: others) ↔ first ≠ second ∧ rest = others := by
  apply Iff.intro
  · intro differ
    obtain ⟨_, changed, same⟩ := differ
    exact ⟨fun equal => changed (by rw [equal]; rfl),
      List.ext_getElem? fun position => same (position + 1) (by omega)⟩
  · intro split
    obtain ⟨changed, rfl⟩ := split
    refine ⟨rfl, fun equal => changed (Option.some.inj equal), ?_⟩
    intro other apart
    obtain ⟨other, rfl⟩ := Nat.exists_eq_succ_of_ne_zero apart
    rfl

/-- Lists that differ only behind the front have one head. -/
theorem differOnlyAt_succ_cons_iff {Value : Type} (index : Nat) (first second : Value)
    (rest others : List Value) :
    DifferOnlyAt (index + 1) (first :: rest) (second :: others) ↔
      first = second ∧ DifferOnlyAt index rest others := by
  apply Iff.intro
  · intro differ
    obtain ⟨length, changed, same⟩ := differ
    exact ⟨Option.some.inj (same 0 (by omega)), Nat.succ.inj length, changed,
      fun other apart => same (other + 1) (by omega)⟩
  · intro split
    obtain ⟨rfl, length, changed, same⟩ := split
    refine ⟨congrArg Nat.succ length, changed, ?_⟩
    intro other apart
    cases other with
    | zero => rfl
    | succ other => exact same other (by omega)

/-- A change of one word changes the sum by the difference of the words. -/
theorem foldr_differOnlyAt {index : Nat} {first second : List Nat}
    (differ : DifferOnlyAt index first second) :
    ∃ before after, first[index]? = some before ∧ second[index]? = some after ∧
      before ≠ after ∧ before ≤ first.foldr (· + ·) 0 ∧
      first.foldr (· + ·) 0 + after = second.foldr (· + ·) 0 + before := by
  induction first generalizing index second with
  | nil =>
      obtain rfl := List.length_eq_zero_iff.mp differ.1.symm
      exact absurd rfl differ.2.1
  | cons word rest ih =>
      cases second with
      | nil => simp [DifferOnlyAt] at differ
      | cons other others =>
          cases index with
          | zero =>
              obtain ⟨distinct, rfl⟩ := (differOnlyAt_zero_cons_iff _ _ _ _).mp differ
              refine ⟨word, other, rfl, rfl, distinct, ?_⟩
              simp only [List.foldr_cons]
              omega
          | succ index =>
              obtain ⟨rfl, later⟩ := (differOnlyAt_succ_cons_iff _ _ _ _ _).mp differ
              obtain ⟨before, after, isBefore, isAfter, distinct, least, sums⟩ := ih later
              refine ⟨before, after, isBefore, isAfter, distinct, ?_⟩
              simp only [List.foldr_cons]
              omega

/-- A changed byte changes its own word and never swaps the zeros. -/
theorem words_set {message : List UInt8} {index : Nat} {before after : UInt8}
    (here : message[index]? = some before) (changed : after ≠ before) :
    DifferOnlyAt (index / 2) (words message) (words (message.set index after)) ∧
      ∀ first second, (words message)[index / 2]? = some first →
        (words (message.set index after))[index / 2]? = some second → ¬ ZeroSwap first second := by
  have distinct : after.toNat ≠ before.toNat := fun same => changed (UInt8.toNat_inj.mp same)
  have beforeBound := before.toNat_lt
  have afterBound := after.toNat_lt
  induction message using words.induct generalizing index with
  | case1 => simp at here
  | case2 last =>
      cases index with
      | zero =>
          obtain rfl := Option.some.inj here
          rw [Nat.zero_div, List.set_cons_zero]
          simp only [words, differOnlyAt_zero_cons_iff, List.getElem?_cons_zero, Option.some.injEq,
            and_true]
          refine ⟨by omega, ?_⟩
          intro first second isFirst isSecond swap
          simp only [ZeroSwap] at swap
          omega
      | succ index => simp at here
  | case3 high low rest ih =>
      match index with
      | 0 =>
          obtain rfl := Option.some.inj here
          have lowBound := low.toNat_lt
          rw [Nat.zero_div, List.set_cons_zero]
          simp only [words, differOnlyAt_zero_cons_iff, List.getElem?_cons_zero, Option.some.injEq,
            and_true]
          refine ⟨by omega, ?_⟩
          intro first second isFirst isSecond swap
          simp only [ZeroSwap] at swap
          omega
      | 1 =>
          obtain rfl := Option.some.inj here
          have highBound := high.toNat_lt
          rw [show 1 / 2 = 0 from rfl, List.set_cons_succ, List.set_cons_zero]
          simp only [words, differOnlyAt_zero_cons_iff, List.getElem?_cons_zero, Option.some.injEq,
            and_true]
          refine ⟨by omega, ?_⟩
          intro first second isFirst isSecond swap
          simp only [ZeroSwap] at swap
          omega
      | index + 2 =>
          rw [Nat.add_div_right _ (by decide), List.set_cons_succ, List.set_cons_succ]
          simp only [words, differOnlyAt_succ_cons_iff, List.getElem?_cons_succ, true_and]
          exact ih here

theorem flipBit_eq_set {message : List UInt8} {index : Nat} {byte : UInt8} (bit : Nat)
    (here : message[index]? = some byte) :
    flipBit message index bit = message.set index (byte ^^^ UInt8.ofNat (1 <<< bit)) := by
  rw [flipBit, List.modify_eq_set, here]
  rfl

/-- An inverted bit changes its byte. -/
theorem xor_bit_ne (byte : UInt8) {bit : Nat} (inside : bit < 8) :
    byte ^^^ UInt8.ofNat (1 <<< bit) ≠ byte := by
  have mask : ∀ position < 8, UInt8.ofNat (1 <<< position) ≠ 0 := by decide
  intro same
  apply mask bit inside
  rw [← UInt8.xor_right_inj byte, same, UInt8.xor_zero]

/-- A nonempty sum keeps its residue under a change of one word only in a swap of zeros. -/
theorem residue_changed_iff {first second before after : Nat} (distinct : before ≠ after)
    (beforeInside : before ≤ 65535) (afterInside : after ≤ 65535)
    (sums : first + after = second + before) (others : before < first) :
    residue second = residue first ↔ ZeroSwap before after := by
  rw [residue_eq_iff, ZeroSwap]
  omega

end Changes

end NetworkTools.Library
