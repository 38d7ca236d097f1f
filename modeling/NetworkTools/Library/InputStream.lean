/-
This file models a byte stream that remembers its first failed read.
-/

import Mathlib.Tactic.Common

namespace NetworkTools.Library

/-- A stream keeps its unread bytes and its failure state. -/
structure InputStream where
  unread : List UInt8
  good : Bool
deriving DecidableEq

/-- A short read delivers what is left and fails. A failed stream delivers nothing. -/
def InputStream.read (stream : InputStream) (count : Nat) : List UInt8 × InputStream :=
  if stream.good then
    (stream.unread.take count,
      ⟨stream.unread.drop count, decide (count ≤ stream.unread.length)⟩)
  else ([], stream)

def InputStream.setFail (stream : InputStream) : InputStream :=
  { stream with good := false }

/-- A store overwrites the bytes from one offset and keeps all others. -/
def store {size : Nat} (memory : Vector UInt8 size) (offset : Nat)
    (bytes : List UInt8) : Vector UInt8 size :=
  Vector.ofFn fun index =>
    if offset ≤ index.val then (bytes[index.val - offset]?).getD memory[index]
    else memory[index]

/-- A failed stream ignores each later read. -/
theorem InputStream.read_failed (stream : InputStream) (failed : stream.good = false)
    (count : Nat) : stream.read count = ([], stream) := by
  simp [read, failed]

/-- A good stream delivers the requested prefix when it is long enough. -/
theorem InputStream.read_full (bytes : List UInt8) (count : Nat)
    (enough : count ≤ bytes.length) :
    InputStream.read ⟨bytes, true⟩ count = (bytes.take count, ⟨bytes.drop count, true⟩) := by
  simp [read, enough]

/-- A short read leaves a failed stream. -/
theorem InputStream.read_short (bytes : List UInt8) (count : Nat)
    (short : bytes.length < count) :
    InputStream.read ⟨bytes, true⟩ count = (bytes, ⟨[], false⟩) := by
  have within := Nat.le_of_lt short
  simp [read, List.take_of_length_le within, within, short]

theorem store_getElem {size : Nat} (memory : Vector UInt8 size) (offset : Nat)
    (bytes : List UInt8) (index : Nat) (inside : index < size) :
    (store memory offset bytes)[index] =
      if offset ≤ index then (bytes[index - offset]?).getD memory[index]
      else memory[index] := by
  simp [store]

@[simp] theorem store_nil {size : Nat} (memory : Vector UInt8 size) (offset : Nat) :
    store memory offset [] = memory := by
  apply Vector.ext
  intro index inside
  simp [store_getElem]

/-- Two stores behind each other are one store. -/
theorem store_append {size : Nat} (memory : Vector UInt8 size) (offset : Nat)
    (front back : List UInt8) :
    store memory offset (front ++ back) =
      store (store memory offset front) (offset + front.length) back := by
  apply Vector.ext
  intro index inside
  simp only [store_getElem]
  by_cases behind : offset + front.length ≤ index
  · rw [if_pos behind, if_pos (by omega), List.getElem?_append_right (by omega),
      if_pos (by omega), List.getElem?_eq_none (by omega : front.length ≤ index - offset),
      Nat.sub_sub, Option.getD_none]
  · rw [if_neg behind]
    by_cases within : offset ≤ index
    · rw [if_pos within, if_pos within, List.getElem?_append_left (by omega)]
    · rw [if_neg within, if_neg within]

/-- The stored bytes are the front of the memory. -/
theorem store_take {size : Nat} (memory : Vector UInt8 size) (bytes : List UInt8)
    (fits : bytes.length ≤ size) : (store memory 0 bytes).toList.take bytes.length = bytes := by
  apply List.ext_getElem
  · rw [List.length_take, Vector.length_toList, Nat.min_eq_left fits]
  · intro index left right
    rw [List.getElem_take, Vector.getElem_toList, store_getElem, if_pos (Nat.zero_le index),
      Nat.sub_zero, List.getElem?_eq_getElem right, Option.getD_some]

/-- Bytes of the full size replace the memory. -/
theorem store_whole {size : Nat} (memory : Vector UInt8 size) (bytes : List UInt8)
    (length : bytes.length = size) : (store memory 0 bytes).toList = bytes := by
  have whole := store_take memory bytes (Nat.le_of_eq length)
  rwa [List.take_of_length_le (Nat.le_of_eq (by rw [Vector.length_toList, length]))] at whole

theorem store_toList {size : Nat} (memory other : Vector UInt8 size) :
    store memory 0 other.toList = other :=
  Vector.toList_inj.mp (store_whole memory other.toList (by rw [Vector.length_toList]))

end NetworkTools.Library
