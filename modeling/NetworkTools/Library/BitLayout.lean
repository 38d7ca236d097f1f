/-
This file develops bit layouts: sequences of fields of fixed widths in network byte order.
-/

import NetworkTools.Library.Struct
import Mathlib.Algebra.BigOperators.Group.List.Basic
import Mathlib.Algebra.Order.Ring.Nat
import Mathlib.Data.List.Induction
import Mathlib.Tactic.Ring

namespace NetworkTools.Library

section Numbers

/-- Each value fits the width of its field. -/
def Fits (layout values : List Nat) : Prop :=
  List.Forall₂ (fun width value => value < 2 ^ width) layout values

/-- The first field takes the high bits. -/
def joinBits : List Nat → List Nat → Nat
  | _ :: layout, value :: values => value * 2 ^ layout.sum + joinBits layout values
  | _, _ => 0

def splitBits : List Nat → Nat → List Nat
  | [], _ => []
  | width :: layout, word => word / 2 ^ layout.sum % 2 ^ width :: splitBits layout word

theorem joinBits_lt {layout values : List Nat} (fits : Fits layout values) :
    joinBits layout values < 2 ^ layout.sum := by
  induction fits with
  | nil => exact Nat.one_pos
  | @cons width value layout values inside fits ih =>
      rw [joinBits, List.sum_cons, Nat.pow_add]
      calc value * 2 ^ layout.sum + joinBits layout values
          < value * 2 ^ layout.sum + 2 ^ layout.sum := Nat.add_lt_add_left ih _
        _ = (value + 1) * 2 ^ layout.sum := (Nat.succ_mul _ _).symm
        _ ≤ 2 ^ width * 2 ^ layout.sum := Nat.mul_le_mul_right _ inside

/-- The bits above a layout do not reach its fields. -/
theorem splitBits_add (layout : List Nat) (above word : Nat) :
    splitBits layout (above * 2 ^ layout.sum + word) = splitBits layout word := by
  suffices shifted : ∀ factor,
      splitBits layout (factor * 2 ^ layout.sum + word) = splitBits layout word from shifted above
  induction layout with
  | nil => intro factor; rfl
  | cons width layout ih =>
      intro factor
      have regroup : factor * 2 ^ (width :: layout).sum + word =
          factor * 2 ^ width * 2 ^ layout.sum + word := by
        rw [List.sum_cons, Nat.pow_add, Nat.mul_assoc]
      rw [regroup, splitBits, splitBits, ih]
      congr 1
      rw [Nat.add_comm, Nat.add_mul_div_right _ _ (Nat.two_pow_pos _), Nat.add_mul_mod_self_right]

/-- Splitting gives back the joined fields. -/
theorem splitBits_joinBits {layout values : List Nat} (fits : Fits layout values) :
    splitBits layout (joinBits layout values) = values := by
  induction fits with
  | nil => rfl
  | @cons width value layout values inside fits ih =>
      have low := joinBits_lt fits
      rw [joinBits, splitBits, splitBits_add, ih]
      congr 1
      rw [Nat.add_comm, Nat.add_mul_div_right _ _ (Nat.two_pow_pos _), Nat.div_eq_of_lt low,
        Nat.zero_add, Nat.mod_eq_of_lt inside]

/-- Joining gives back the split word below its limit. -/
theorem joinBits_splitBits (layout : List Nat) (word : Nat) :
    joinBits layout (splitBits layout word) = word % 2 ^ layout.sum := by
  induction layout with
  | nil => exact (Nat.mod_one word).symm
  | cons width layout ih =>
      rw [splitBits, joinBits, ih, List.sum_cons, Nat.pow_add, Nat.mul_comm (2 ^ width),
        Nat.mod_mul, Nat.mul_comm, Nat.add_comm]

/-- A word of two layouts splits at their boundary. -/
theorem splitBits_append (front back : List Nat) (word : Nat) :
    splitBits (front ++ back) word =
      splitBits front (word / 2 ^ back.sum) ++ splitBits back word := by
  induction front with
  | nil => rfl
  | cons width front ih =>
      rw [List.cons_append, splitBits, splitBits, ih, List.sum_append, Nat.add_comm, Nat.pow_add,
        Nat.div_div_eq_div_mul, List.cons_append]

end Numbers

section Bytes

/-- The bytes of a number in base two. -/
theorem pow_bytes (size : Nat) : 256 ^ size = 2 ^ (8 * size) := by
  rw [Nat.pow_mul]

theorem ofBigEndian_concat (bytes : List UInt8) (last : UInt8) :
    ofBigEndian (bytes ++ [last]) = ofBigEndian bytes * 256 + last.toNat := by
  rw [ofBigEndian, List.foldl_append, List.foldl_cons, List.foldl_nil, ofBigEndian]

theorem ofBigEndian_append (front back : List UInt8) :
    ofBigEndian (front ++ back) = ofBigEndian front * 256 ^ back.length + ofBigEndian back := by
  induction back using List.reverseRecOn with
  | nil => simp [ofBigEndian]
  | append_singleton back last ih =>
      rw [← List.append_assoc, ofBigEndian_concat, ofBigEndian_concat, ih, List.length_append,
        List.length_singleton, Nat.pow_succ]
      ring

theorem ofBigEndian_lt (bytes : List UInt8) : ofBigEndian bytes < 256 ^ bytes.length := by
  induction bytes using List.reverseRecOn with
  | nil => exact Nat.one_pos
  | append_singleton bytes last ih =>
      have bound := last.toNat_lt
      rw [ofBigEndian_concat, List.length_append, List.length_singleton, Nat.pow_succ]
      omega

theorem ofBigEndian_bigEndian_mod (size value : Nat) :
    ofBigEndian (bigEndian size value) = value % 256 ^ size := by
  induction size generalizing value with
  | zero => rw [Nat.pow_zero, Nat.mod_one]; rfl
  | succ size ih =>
      have low : (UInt8.ofNat value).toNat = value % 256 := UInt8.toNat_ofNat'
      rw [bigEndian, ofBigEndian_concat, ih, low, Nat.pow_succ, Nat.mul_comm (256 ^ size),
        Nat.mod_mul, Nat.mul_comm, Nat.add_comm]

theorem bigEndian_ofBigEndian_length (bytes : List UInt8) :
    bigEndian bytes.length (ofBigEndian bytes) = bytes := by
  induction bytes using List.reverseRecOn with
  | nil => rfl
  | append_singleton bytes last ih =>
      have bound := last.toNat_lt
      have high : (ofBigEndian bytes * 256 + last.toNat) / 256 = ofBigEndian bytes := by omega
      have low : UInt8.ofNat (ofBigEndian bytes * 256 + last.toNat) = last := by
        apply UInt8.toNat_inj.mp
        rw [UInt8.toNat_ofNat']
        omega
      rw [List.length_append, List.length_singleton, bigEndian, ofBigEndian_concat, high, low, ih]

/-- Two byte strings of one length with one value are equal. -/
theorem ofBigEndian_inj {bytes others : List UInt8} (length : bytes.length = others.length)
    (same : ofBigEndian bytes = ofBigEndian others) : bytes = others := by
  rw [← bigEndian_ofBigEndian_length bytes, same, length, bigEndian_ofBigEndian_length]

end Bytes

section Fields

/-- The fields fill whole bytes. -/
def encodeFields (layout values : List Nat) : List UInt8 :=
  bigEndian (layout.sum / 8) (joinBits layout values)

def decodeFields (layout : List Nat) (bytes : List UInt8) : List Nat :=
  splitBits layout (ofBigEndian bytes)

theorem encodeFields_length (layout values : List Nat) :
    (encodeFields layout values).length = layout.sum / 8 :=
  bigEndian_length _ _

theorem decodeFields_encodeFields {layout values : List Nat} (whole : 8 ∣ layout.sum)
    (fits : Fits layout values) : decodeFields layout (encodeFields layout values) = values := by
  rw [decodeFields, encodeFields, ofBigEndian_bigEndian_mod, pow_bytes, Nat.mul_div_cancel' whole,
    Nat.mod_eq_of_lt (joinBits_lt fits), splitBits_joinBits fits]

theorem encodeFields_decodeFields {layout : List Nat} {bytes : List UInt8}
    (length : 8 * bytes.length = layout.sum) :
    encodeFields layout (decodeFields layout bytes) = bytes := by
  have inside : ofBigEndian bytes < 2 ^ layout.sum := by
    rw [← length, ← pow_bytes]
    exact ofBigEndian_lt bytes
  rw [encodeFields, decodeFields, joinBits_splitBits, Nat.mod_eq_of_lt inside, ← length,
    Nat.mul_div_cancel_left _ (by decide), bigEndian_ofBigEndian_length]

theorem decodeFields_append {back : List Nat} {after : List UInt8} (front : List Nat)
    (before : List UInt8) (length : 8 * after.length = back.sum) :
    decodeFields (front ++ back) (before ++ after) =
      decodeFields front before ++ decodeFields back after := by
  have inside := ofBigEndian_lt after
  rw [decodeFields, decodeFields, decodeFields, splitBits_append, ofBigEndian_append]
  rw [pow_bytes, length] at inside ⊢
  rw [splitBits_add, Nat.add_comm, Nat.add_mul_div_right _ _ (Nat.two_pow_pos _),
    Nat.div_eq_of_lt inside, Nat.zero_add]

/-- A layout of whole-byte groups decodes group by group. -/
theorem decodeFields_groups (groups : List (List Nat × List UInt8))
    (whole : ∀ group ∈ groups, 8 * group.2.length = group.1.sum) :
    decodeFields (groups.flatMap Prod.fst) (groups.flatMap Prod.snd) =
      groups.flatMap fun group => decodeFields group.1 group.2 := by
  suffices total : 8 * (groups.flatMap Prod.snd).length = (groups.flatMap Prod.fst).sum ∧
      decodeFields (groups.flatMap Prod.fst) (groups.flatMap Prod.snd) =
        groups.flatMap fun group => decodeFields group.1 group.2 from total.2
  induction groups with
  | nil => exact ⟨rfl, rfl⟩
  | cons group groups ih =>
      have first := whole group List.mem_cons_self
      obtain ⟨length, decoded⟩ :=
        ih fun later present => whole later (List.mem_cons_of_mem _ present)
      simp only [List.flatMap_cons]
      refine ⟨?_, ?_⟩
      · rw [List.length_append, List.sum_append, Nat.mul_add, first, length]
      · rw [decodeFields_append _ _ length, decoded]

end Fields

end NetworkTools.Library
