/-
This file develops the sum of the sixteen-bit words of a message and its folded complement.
-/

namespace NetworkTools.Library

/-- Each word has its high byte first. A zero fills up the last word. -/
def wordSum : List UInt8 → Nat
  | [] => 0
  | [last] => last.toNat * 256
  | high :: low :: rest => high.toNat * 256 + low.toNat + wordSum rest

/-- The first fold adds the carries to the low word. The second fold adds the last carry. -/
def foldCarries (sum : Nat) : Nat :=
  sum / 65536 + sum % 65536 + (sum / 65536 + sum % 65536) / 65536

/-- The complement keeps sixteen bits. -/
def complement (sum : Nat) : Nat := 65535 - sum % 65536

/-- The length of a message bounds its sum. -/
theorem wordSum_le (message : List UInt8) :
    wordSum message ≤ (message.length + 1) / 2 * 65535 := by
  induction message using wordSum.induct with
  | case1 => exact Nat.zero_le _
  | case2 last =>
      have bound := last.toNat_lt
      simp only [wordSum, List.length_singleton]
      omega
  | case3 high low rest ih =>
      have highBound := high.toNat_lt
      have lowBound := low.toNat_lt
      simp only [wordSum, List.length_cons]
      omega

/-- The words of an even front part do not reach into the rest. -/
theorem wordSum_append (first second : List UInt8) (even : first.length % 2 = 0) :
    wordSum (first ++ second) = wordSum first + wordSum second := by
  induction first using wordSum.induct with
  | case1 => rw [List.nil_append, wordSum, Nat.zero_add]
  | case2 last => simp at even
  | case3 high low rest ih =>
      simp only [List.length_cons] at even
      simp only [List.cons_append, wordSum]
      rw [ih (by omega)]
      omega

/-- The padding of an odd message adds nothing. -/
theorem wordSum_pad (message : List UInt8) (odd : message.length % 2 = 1) :
    wordSum (message ++ [0]) = wordSum message := by
  induction message using wordSum.induct with
  | case1 => simp at odd
  | case2 last => simp [wordSum]
  | case3 high low rest ih =>
      simp only [List.length_cons] at odd
      simp only [List.cons_append, wordSum]
      rw [ih (by omega)]

end NetworkTools.Library
