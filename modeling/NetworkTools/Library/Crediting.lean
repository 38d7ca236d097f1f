/-
This file states what it means to credit messages of one queue to a sequence of claims.
-/

import NetworkTools.Library.Stretch
import NetworkTools.Library.TimedScan

namespace NetworkTools.Library

/-- A crediting gives each claim at most one queue position, in the order of the claims. -/
structure Crediting where
  origin : Nat → Option Nat
  increasing : ∀ first second p q, first < second → origin first = some p →
    origin second = some q → p < q

namespace Crediting

/-- The claim is credited with this arrival of the traffic. -/
def Credits {Message : Type} (crediting : Crediting) (traffic : Traffic Message) (claim : Nat)
    (arrival : Arrival Message) : Prop :=
  ∃ position, crediting.origin claim = some position ∧ traffic position = some arrival

/-- Claims that take disjoint stretches of the queue in turn form a crediting. -/
def ofStretches (stretches : Nat → Option (Nat × Nat)) (origin : Nat → Option Nat)
    (inside : ∀ claim position, origin claim = some position →
      ∃ began ended, stretches claim = some (began, ended) ∧
        began ≤ position ∧ position < ended)
    (inTurn : ∀ first second began ended later stop, first < second →
      stretches first = some (began, ended) → stretches second = some (later, stop) →
        ended ≤ later) : Crediting where
  origin := origin
  increasing first second p q less isFirst isSecond := by
    obtain ⟨began, ended, firstStretch, _, before⟩ := inside first p isFirst
    obtain ⟨later, stop, secondStretch, after, _⟩ := inside second q isSecond
    have apart := inTurn first second began ended later stop less firstStretch secondStretch
    omega

/-- Claims with positions of their own stretches of a log form a crediting. -/
def ofInTurn {stretches : List Stretch} {low high : Nat}
    (inTurn : Stretch.InTurn low stretches high) (origin : Nat → Option Nat)
    (inside : ∀ claim position, origin claim = some position →
      ∃ stretch, stretches[claim]? = some stretch ∧
        stretch.opened ≤ position ∧ position < stretch.closed) : Crediting where
  origin := origin
  increasing first second p q less isFirst isSecond := by
    obtain ⟨earlier, isEarlier, _, before⟩ := inside first p isFirst
    obtain ⟨later, isLater, after, _⟩ := inside second q isSecond
    have apart := inTurn.apart less isEarlier isLater
    omega

end Crediting
end NetworkTools.Library
