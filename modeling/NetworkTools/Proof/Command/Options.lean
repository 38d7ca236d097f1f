/-
This file proves that the argument loop inverts the documented options in any order.
-/

import NetworkTools.Specification.Command
import NetworkTools.Specification.Options

namespace NetworkTools
open Library Specification

section Texts

/-- A count has digits only, so no option looks like it. -/
theorem toString_nat_ne (value : Nat) (token : String) (dash : '-' ∈ token.toList) :
    toString value ≠ token := by
  intro same
  rw [← same, Nat.toString_eq_repr, Nat.toList_repr] at dash
  exact absurd (Nat.isDigit_of_mem_toDigits (by decide) (by decide) dash) (by decide)

theorem digitsValue_toDigits (value : Nat) :
    digitsValue (Nat.toDigits 10 value) = some value := by
  have digits : (Nat.toDigits 10 value).all Char.isDigit = true := by
    rw [List.all_eq_true]
    intro digit inside
    exact Nat.isDigit_of_mem_toDigits (by decide) (by decide) inside
  rw [digitsValue, if_pos ⟨Nat.toDigits_ne_nil, digits⟩, ← Nat.ofDigitChars_eq_foldl,
    Nat.ofDigitChars_ten_toDigits]

/-- The conversion inverts the decimal text of an integer. -/
theorem decimalInt_toString (value : Int) : decimalInt (toString value) = .ok value := by
  cases value with
  | ofNat magnitude =>
      have text : (toString (Int.ofNat magnitude)).toList = Nat.toDigits 10 magnitude :=
        Nat.toList_repr
      have dashless : ∀ digits, Nat.toDigits 10 magnitude = '-' :: digits → False := by
        intro digits isText
        have dash : '-' ∈ Nat.toDigits 10 magnitude := isText ▸ List.mem_cons_self
        exact absurd (Nat.isDigit_of_mem_toDigits (by decide) (by decide) dash) (by decide)
      rw [decimalInt, text]
      simp only [digitsValue_toDigits]
      rfl
  | negSucc magnitude =>
      have text : (toString (Int.negSucc magnitude)).toList =
          '-' :: Nat.toDigits 10 (magnitude + 1) := by
        change ("-" ++ (magnitude + 1).repr).toList = _
        rw [String.toList_append, Nat.toList_repr]
        rfl
      rw [decimalInt, text]
      simp only [digitsValue_toDigits]
      rfl

end Texts

/-- What one group does to the options. -/
def applyGroup (options : PingOptions) : OptionGroup → PingOptions
  | .forceIpv4 => { options with forceIpv4 := true }
  | .forceIpv6 => { options with forceIpv6 := true }
  | .ttl ttl => { options with ttl }
  | .timeout timeout => { options with timeout }
  | .count count => { options with count }

section Loop

variable {int : String → Except String Int}

/-- The loop takes the tokens of one group and goes on behind them. -/
theorem argumentLoop_group (group : OptionGroup)
    (inverts : ∀ value, group.number? = some value → int (toString value) = .ok value)
    (rest : List String) (options : PingOptions) :
    argumentLoop int (group.render ++ rest) options =
      argumentLoop int rest (applyGroup options group) := by
  cases group with
  | forceIpv4 => cases rest <;> rfl
  | forceIpv6 => cases rest <;> rfl
  | ttl value =>
      simp only [OptionGroup.render, List.cons_append, List.nil_append, argumentLoop,
        String.reduceEq, if_false, if_true, inverts value rfl, applyGroup]
  | timeout value =>
      simp only [OptionGroup.render, List.cons_append, List.nil_append, argumentLoop,
        String.reduceEq, if_false, if_true, inverts value rfl, applyGroup]
  | count value =>
      have counted :
          withCount int (toString value) options = applyGroup options (.count value) := by
        rw [withCount, show toString value = toString (value : Int) from rfl, inverts value rfl]
        rfl
      have not4 := toString_nat_ne value "-4" (by decide)
      have not6 := toString_nat_ne value "-6" (by decide)
      have notI := toString_nat_ne value "-i" (by decide)
      have notW := toString_nat_ne value "-w" (by decide)
      cases rest <;>
        simp only [OptionGroup.render, List.cons_append, List.nil_append, argumentLoop, not4, not6,
          notI, notW, if_false, counted]

theorem argumentLoop_groups {groups : List OptionGroup} (inverts : Inverts int groups)
    (options : PingOptions) :
    argumentLoop int (groups.flatMap OptionGroup.render) options =
      .ok (groups.foldl applyGroup options) := by
  induction groups generalizing options with
  | nil => rfl
  | cons group rest ih =>
      have first := inverts group List.mem_cons_self
      have others : Inverts int rest := fun other inside =>
        inverts other (List.mem_cons_of_mem group inside)
      rw [List.flatMap_cons, argumentLoop_group group first, ih others, List.foldl_cons]

end Loop

section Fields

/-- The last value wins when each group with a value replaces the kept one. -/
theorem foldl_lastValue (value : OptionGroup → Option Int) (absent : Int)
    (groups : List OptionGroup) :
    groups.foldl (fun kept group => (value group).getD kept) absent =
      lastValue value absent groups := by
  induction groups generalizing absent with
  | nil => rfl
  | cons group rest ih =>
      rw [List.foldl_cons, ih, lastValue, lastValue]
      cases isValue : value group with
      | none => rw [List.filterMap_cons_none isValue, Option.getD_none]
      | some number =>
          rw [List.filterMap_cons_some isValue, List.getLast?_cons, Option.getD_some,
            Option.getD_some]

theorem foldl_mark (mark : OptionGroup) (groups : List OptionGroup) (before : Bool) :
    groups.foldl (fun kept group => kept || decide (group = mark)) before =
      (before || decide (mark ∈ groups)) := by
  induction groups generalizing before with
  | nil => simp
  | cons group rest ih =>
      rw [List.foldl_cons, ih, Bool.or_assoc, ← Bool.decide_or]
      simp only [List.mem_cons, eq_comm]

variable (groups : List OptionGroup) (options : PingOptions)

/-- A number of the options follows the groups by itself. -/
theorem foldl_applyGroup_number (number : PingOptions → Int) (value : OptionGroup → Option Int)
    (follows : ∀ options group,
      (value group).getD (number options) = number (applyGroup options group)) :
    number (groups.foldl applyGroup options) = lastValue value (number options) groups := by
  rw [← foldl_lastValue]
  exact (List.foldl_hom number follows).symm

theorem foldl_applyGroup_mark (mark : PingOptions → Bool) (forced : OptionGroup)
    (follows : ∀ options group,
      (mark options || decide (group = forced)) = mark (applyGroup options group)) :
    mark (groups.foldl applyGroup options) = (mark options || decide (forced ∈ groups)) := by
  rw [← foldl_mark]
  exact (List.foldl_hom mark follows).symm

attribute [ext] PingOptions

theorem foldl_applyGroup : groups.foldl applyGroup {} = requestedOptions groups := by
  apply PingOptions.ext
  case count =>
    apply foldl_applyGroup_number groups {} PingOptions.count OptionGroup.count?
    intro options group
    cases group <;> rfl
  case ttl =>
    apply foldl_applyGroup_number groups {} PingOptions.ttl OptionGroup.ttl?
    intro options group
    cases group <;> rfl
  case timeout =>
    apply foldl_applyGroup_number groups {} PingOptions.timeout OptionGroup.timeout?
    intro options group
    cases group <;> rfl
  case forceIpv4 =>
    rw [foldl_applyGroup_mark groups {} PingOptions.forceIpv4 .forceIpv4]
    · exact Bool.false_or _
    · intro options group
      cases group <;> simp [applyGroup]
  case forceIpv6 =>
    rw [foldl_applyGroup_mark groups {} PingOptions.forceIpv6 .forceIpv6]
    · exact Bool.false_or _
    · intro options group
      cases group <;> simp [applyGroup]

end Fields

section Orders

variable {first second : List OptionGroup} (same : SameByKind first second)

include same

/-- Values that belong to one kind keep their order. -/
theorem lastValue_of_sameByKind {value : OptionGroup → Option Int} (kind : OptionKind)
    (belongs : ∀ group, group.kind ≠ kind → value group = none) (absent : Int) :
    lastValue value absent first = lastValue value absent second := by
  have filtered (groups : List OptionGroup) :
      (groups.filter fun group => group.kind = kind).filterMap value = groups.filterMap value := by
    rw [List.filterMap_filter]
    apply congrArg fun read => groups.filterMap read
    funext group
    by_cases isKind : group.kind = kind
    · simp [isKind]
    · simp [isKind, belongs group isKind]
  rw [lastValue, lastValue, ← filtered first, ← filtered second, same kind]

theorem mem_iff_of_sameByKind (group : OptionGroup) : group ∈ first ↔ group ∈ second := by
  have filtered (groups : List OptionGroup) :
      (group ∈ groups.filter fun other => other.kind = group.kind) ↔ group ∈ groups := by
    simp
  rw [← filtered first, ← filtered second, same group.kind]

theorem requestedOptions_of_sameByKind : requestedOptions first = requestedOptions second := by
  apply PingOptions.ext
  case count =>
    apply lastValue_of_sameByKind same .count
    intro group other
    cases group <;> simp_all [OptionGroup.kind, OptionGroup.count?]
  case ttl =>
    apply lastValue_of_sameByKind same .ttl
    intro group other
    cases group <;> simp_all [OptionGroup.kind, OptionGroup.ttl?]
  case timeout =>
    apply lastValue_of_sameByKind same .timeout
    intro group other
    cases group <;> simp_all [OptionGroup.kind, OptionGroup.timeout?]
  case forceIpv4 => exact decide_eq_decide.mpr (mem_iff_of_sameByKind same .forceIpv4)
  case forceIpv6 => exact decide_eq_decide.mpr (mem_iff_of_sameByKind same .forceIpv6)

end Orders

/-- The loop inverts the options behind any host, and only the order within a kind matters. -/
theorem argumentLoop_inverts {int : String → Except String Int}
    (inverts : ∀ value : Int, int (toString value) = .ok value) (host : String)
    (groups : List OptionGroup) :
    argumentLoop int (commandTokens host groups).tail {} = .ok (requestedOptions groups) ∧
      ∀ permuted, SameByKind groups permuted →
        argumentLoop int (commandTokens host permuted).tail {} =
          argumentLoop int (commandTokens host groups).tail {} := by
  have parsed (groups : List OptionGroup) :
      argumentLoop int (commandTokens host groups).tail {} = .ok (requestedOptions groups) := by
    have numbers : Inverts int groups := fun _ _ value _ => inverts value
    rw [commandTokens, List.tail_cons, argumentLoop_groups numbers, foldl_applyGroup]
  refine ⟨parsed groups, ?_⟩
  intro permuted same
  rw [parsed permuted, parsed groups, requestedOptions_of_sameByKind same]

/-- A value that looks like an option, a repeated option, and a count in the middle. -/
theorem argumentLoop_inverts_repeated :
    argumentLoop decimalInt
        (commandTokens "example.com" [.ttl (-4), .forceIpv6, .count 3, .ttl 9]).tail {} =
      .ok { count := 3, ttl := 9, timeout := 1000, forceIpv4 := false, forceIpv6 := true } :=
  (argumentLoop_inverts decimalInt_toString "example.com" _).1

end NetworkTools
