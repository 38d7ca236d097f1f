/-
This file develops dictionaries that keep their keys in the order of insertion.
-/

import Mathlib.Data.List.Induction
import Mathlib.Data.List.Nodup
import Mathlib.Tactic.Common

namespace NetworkTools.Library

/-- Each key of a dictionary has one item. -/
structure Dictionary (Key Value : Type) where
  items : List (Key × Value)
  nodup : (items.map Prod.fst).Nodup

namespace Dictionary

variable {Key Value : Type}

def keys (dictionary : Dictionary Key Value) : List Key := dictionary.items.map Prod.fst

def empty : Dictionary Key Value := ⟨[], List.nodup_nil⟩

section Places

/-- The pair at this place is the last one with its key. -/
def LastAt (pairs : List (Key × Value)) (key : Key) (value : Value) (i : Nat) : Prop :=
  pairs[i]? = some (key, value) ∧ ∀ (j : Nat) other, i < j → pairs[j]? ≠ some (key, other)

theorem lastAt_concat_self (pairs : List (Key × Value)) (key : Key) (value new : Value) :
    (∃ i, LastAt (pairs ++ [(key, new)]) key value i) ↔ new = value := by
  have final : (pairs ++ [(key, new)])[pairs.length]? = some (key, new) :=
    List.getElem?_concat_length
  apply Iff.intro
  · rintro ⟨i, here, last⟩
    have bound := (List.getElem?_eq_some_iff.mp here).1
    rw [List.length_append, List.length_singleton] at bound
    rcases Nat.lt_succ_iff_lt_or_eq.mp bound with before | rfl
    · exact absurd final (last _ new before)
    · rw [final] at here
      exact (Prod.mk.inj (Option.some.inj here)).2
  · rintro rfl
    refine ⟨pairs.length, final, fun j other later present => ?_⟩
    have bound := (List.getElem?_eq_some_iff.mp present).1
    rw [List.length_append, List.length_singleton] at bound
    omega

theorem lastAt_concat_of_ne (pairs : List (Key × Value)) {key other : Key} (apart : key ≠ other)
    (value new : Value) (i : Nat) :
    LastAt (pairs ++ [(other, new)]) key value i ↔ LastAt pairs key value i := by
  have same (j : Nat) (found : Value) :
      (pairs ++ [(other, new)])[j]? = some (key, found) ↔ pairs[j]? = some (key, found) := by
    rw [List.getElem?_append]
    split
    · rfl
    · next outside =>
        rw [List.getElem?_singleton, List.getElem?_eq_none (Nat.le_of_not_lt outside)]
        split
        · simp [Ne.symm apart]
        · rfl
  unfold LastAt
  simp only [ne_eq, same]

end Places

variable [DecidableEq Key]

/-- A key that is present keeps its place, and a new key comes last. -/
def setItem (key : Key) (value : Value) : List (Key × Value) → List (Key × Value)
  | [] => [(key, value)]
  | (other, old) :: rest =>
      if other = key then (other, value) :: rest else (other, old) :: setItem key value rest

theorem setItem_keys (key : Key) (value : Value) (items : List (Key × Value)) :
    (setItem key value items).map Prod.fst =
      if key ∈ items.map Prod.fst then items.map Prod.fst else items.map Prod.fst ++ [key] := by
  induction items with
  | nil => rfl
  | cons item rest ih =>
      obtain ⟨other, old⟩ := item
      rw [setItem, List.map_cons]
      by_cases same : other = key
      · rw [if_pos same, if_pos (by simp [same]), List.map_cons]
      · rw [if_neg same, List.map_cons, ih]
        simp only [List.mem_cons, Ne.symm same, false_or]
        split <;> rfl

def set (dictionary : Dictionary Key Value) (key : Key) (value : Value) :
    Dictionary Key Value where
  items := setItem key value dictionary.items
  nodup := by
    rw [setItem_keys]
    split
    · exact dictionary.nodup
    · next new => exact List.nodup_append.mpr ⟨dictionary.nodup, List.nodup_singleton key, by
        rintro other isOld _ isKey rfl
        rw [List.mem_singleton.mp isKey] at isOld
        exact new isOld⟩

def get? (dictionary : Dictionary Key Value) (key : Key) : Option Value :=
  dictionary.items.lookup key

/-- The dictionary takes the pairs in turn, so the last pair of a key counts. -/
def ofPairs (pairs : List (Key × Value)) : Dictionary Key Value :=
  pairs.foldl (fun dictionary pair => dictionary.set pair.1 pair.2) empty

theorem mem_keys_set (dictionary : Dictionary Key Value) (key other : Key) (value : Value) :
    other ∈ (dictionary.set key value).keys ↔ other ∈ dictionary.keys ∨ other = key := by
  rw [keys, set, setItem_keys, ← keys]
  split
  · next present =>
      apply Iff.symm
      apply or_iff_left_of_imp
      rintro rfl
      exact present
  · rw [List.mem_append, List.mem_singleton]

theorem lookup_cons (key first : Key) (old : Value) (rest : List (Key × Value)) :
    List.lookup key ((first, old) :: rest) = if key = first then some old else rest.lookup key := by
  rw [List.lookup_cons]
  by_cases same : key = first
  · rw [if_pos same, beq_iff_eq.mpr same]
  · rw [if_neg same, beq_eq_false_iff_ne.mpr same]

theorem lookup_setItem (key other : Key) (value : Value) (items : List (Key × Value)) :
    (setItem key value items).lookup other =
      if other = key then some value else items.lookup other := by
  induction items with
  | nil => exact lookup_cons other key value []
  | cons item rest ih =>
      obtain ⟨first, old⟩ := item
      rw [setItem]
      by_cases same : first = key
      · rw [if_pos same, lookup_cons, lookup_cons, same]
        split <;> rfl
      · rw [if_neg same, lookup_cons, lookup_cons, ih]
        by_cases isFirst : other = first
        · rw [if_pos isFirst, if_pos isFirst, if_neg (isFirst ▸ same)]
        · rw [if_neg isFirst, if_neg isFirst]

theorem get?_set (dictionary : Dictionary Key Value) (key other : Key) (value : Value) :
    (dictionary.set key value).get? other =
      if other = key then some value else dictionary.get? other :=
  lookup_setItem key other value dictionary.items

/-- Since keys do not repeat, the items are the pairs that the access finds. -/
theorem mem_iff_lookup {items : List (Key × Value)} (nodup : (items.map Prod.fst).Nodup)
    (key : Key) (value : Value) : (key, value) ∈ items ↔ items.lookup key = some value := by
  induction items with
  | nil => simp
  | cons item rest ih =>
      obtain ⟨first, old⟩ := item
      rw [List.map_cons, List.nodup_cons] at nodup
      rw [List.mem_cons, lookup_cons, Prod.mk.injEq]
      by_cases same : key = first
      · have absent : (key, value) ∉ rest := fun later =>
          nodup.1 (List.mem_map.mpr ⟨(key, value), later, same⟩)
        rw [if_pos same, Option.some.injEq, or_iff_left absent, and_iff_right same, eq_comm]
      · rw [if_neg same, or_iff_right (fun both => same both.1), ih nodup.2]

theorem mem_items_iff (dictionary : Dictionary Key Value) (key : Key) (value : Value) :
    (key, value) ∈ dictionary.items ↔ dictionary.get? key = some value :=
  mem_iff_lookup dictionary.nodup key value

theorem ofPairs_concat (pairs : List (Key × Value)) (pair : Key × Value) :
    ofPairs (pairs ++ [pair]) = (ofPairs pairs).set pair.1 pair.2 := by
  rw [ofPairs, List.foldl_append]
  rfl

theorem mem_keys_ofPairs (pairs : List (Key × Value)) (key : Key) :
    key ∈ (ofPairs pairs).keys ↔ key ∈ pairs.map Prod.fst := by
  induction pairs using List.reverseRecOn with
  | nil => rfl
  | append_singleton pairs pair ih =>
      rw [ofPairs_concat, mem_keys_set, ih, List.map_append, List.mem_append, List.map_singleton,
        List.mem_singleton]

/-- The access finds the last value of each key. -/
theorem get?_ofPairs (pairs : List (Key × Value)) (key : Key) (value : Value) :
    (ofPairs pairs).get? key = some value ↔ ∃ i, LastAt pairs key value i := by
  induction pairs using List.reverseRecOn with
  | nil => simp [ofPairs, empty, get?, LastAt]
  | append_singleton pairs pair ih =>
      obtain ⟨last, new⟩ := pair
      rw [ofPairs_concat, get?_set]
      by_cases same : key = last
      · subst same
        rw [if_pos rfl, Option.some.injEq, lastAt_concat_self]
      · rw [if_neg same, ih]
        simp only [lastAt_concat_of_ne pairs same]

end Dictionary
end NetworkTools.Library
