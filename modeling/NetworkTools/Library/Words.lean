/-
This file develops the words of a text: the longest parts without a separator.
-/

import Mathlib.Data.List.TakeWhile

namespace NetworkTools.Library

variable {Symbol : Type} (isSpace : Symbol → Bool)

def splitWords (text : List Symbol) : List (List Symbol) :=
  (text.splitOnP isSpace).filter fun word => !word.isEmpty

/-- A word has a symbol and no separator. -/
structure Solid (word : List Symbol) : Prop where
  nonempty : word ≠ []
  solid : ∀ symbol ∈ word, isSpace symbol = false

/-- The text lays out the words with separators between them and around them. -/
inductive Lays : List Symbol → List (List Symbol) → Prop where
  | nil : Lays [] []
  | space {symbol : Symbol} {text : List Symbol} {found : List (List Symbol)}
      (blank : isSpace symbol = true) (rest : Lays text found) : Lays (symbol :: text) found
  | last {word : List Symbol} (isWord : Solid isSpace word) : Lays word [word]
  | word {word : List Symbol} {symbol : Symbol} {text : List Symbol} {found : List (List Symbol)}
      (isWord : Solid isSpace word) (blank : isSpace symbol = true) (rest : Lays text found) :
      Lays (word ++ symbol :: text) (word :: found)

variable {isSpace}

section Steps

variable {word text : List Symbol} {symbol : Symbol}

theorem splitWords_space (blank : isSpace symbol = true) :
    splitWords isSpace (symbol :: text) = splitWords isSpace text := by
  rw [splitWords, List.splitOnP_cons_eq_if_modifyHead, if_pos blank,
    List.filter_cons_of_neg (by simp),
    splitWords]

theorem Solid.kept (isWord : Solid isSpace word) : (!word.isEmpty) = true := by
  rw [Bool.not_eq_true', List.isEmpty_eq_false_iff]
  exact isWord.nonempty

theorem splitWords_last (isWord : Solid isSpace word) : splitWords isSpace word = [word] := by
  rw [splitWords, List.splitOnP_eq_singleton isWord.solid,
    List.filter_cons_of_pos (by exact isWord.kept),
    List.filter_nil]

theorem splitWords_word (isWord : Solid isSpace word) (blank : isSpace symbol = true) :
    splitWords isSpace (word ++ symbol :: text) = word :: splitWords isSpace text := by
  rw [splitWords, List.splitOnP_append_cons_of_forall_mem isWord.solid symbol blank,
    List.filter_cons_of_pos (by exact isWord.kept), splitWords]

end Steps

/-- A text lays out its own words. -/
theorem lays_splitWords (text : List Symbol) : Lays isSpace text (splitWords isSpace text) := by
  induction length : text.length using Nat.strongRecOn generalizing text with
  | ind size ih =>
      cases text with
      | nil => exact .nil
      | cons first rest =>
          rw [List.length_cons] at length
          by_cases blank : isSpace first = true
          · rw [splitWords_space blank]
            exact .space blank (ih rest.length (by omega) rest rfl)
          -- The first word ends at the next separator, if there is one.
          · have isWord :
                Solid isSpace ((first :: rest).takeWhile fun symbol => !isSpace symbol) := by
              constructor
              · simp [blank]
              · intro symbol inside
                have kept := List.mem_takeWhile_imp inside
                exact Bool.not_eq_true' _ ▸ kept
            have whole := List.takeWhile_append_dropWhile
              (p := fun symbol => !isSpace symbol) (l := first :: rest)
            cases after : (first :: rest).dropWhile fun symbol => !isSpace symbol with
            | nil =>
                rw [after, List.append_nil] at whole
                rw [whole] at isWord
                rw [splitWords_last isWord]
                exact .last isWord
            | cons separator others =>
                rw [after] at whole
                have separates : isSpace separator = true := by
                  have stops := List.head_dropWhile_not
                    (fun symbol => !isSpace symbol) (by rw [after]; exact List.cons_ne_nil _ _)
                  simp only [after, List.head_cons, Bool.not_eq_false'] at stops
                  exact stops
                have shorter := congrArg List.length whole
                rw [List.length_append, List.length_cons, List.length_cons] at shorter
                have counted := List.length_pos_iff.mpr isWord.nonempty
                rw [← whole, splitWords_word isWord separates]
                exact .word isWord separates (ih others.length (by omega) others rfl)

/-- A text lays out one sequence of words. -/
theorem splitWords_eq_iff {text : List Symbol} {found : List (List Symbol)} :
    splitWords isSpace text = found ↔ Lays isSpace text found := by
  apply Iff.intro
  · rintro rfl
    exact lays_splitWords text
  · intro lays
    induction lays with
    | nil => rfl
    | space blank _ ih => rw [splitWords_space blank, ih]
    | last isWord => exact splitWords_last isWord
    | word isWord blank _ ih => rw [splitWords_word isWord blank, ih]

end NetworkTools.Library
