/-
This file develops procedures that perform actions and may raise an exception.
-/

import Mathlib.Tactic.Common

namespace NetworkTools.Library

/-- A procedure performs its actions in turn and then returns a value or raises. -/
structure Procedure (Action Exn Value : Type) where
  actions : List Action
  result : Except Exn Value

namespace Procedure

variable {Action Exn Value Other : Type}

instance : Monad (Procedure Action Exn) where
  pure value := ⟨[], .ok value⟩
  bind first next :=
    match first.result with
    | .error exn => ⟨first.actions, .error exn⟩
    | .ok value => ⟨first.actions ++ (next value).actions, (next value).result⟩

def perform (action : Action) : Procedure Action Exn Unit := ⟨[action], .ok ()⟩

def raise (exn : Exn) : Procedure Action Exn Value := ⟨[], .error exn⟩

/-- A call without actions passes its own exception on. -/
def ofExcept (result : Except Exn Value) : Procedure Action Exn Value := ⟨[], result⟩

/-- The handler meets the exceptions of the body. The other branch follows a body that returns. -/
def tryElse (body : Procedure Action Exn Unit) (handler : Exn → Procedure Action Exn Unit)
    (otherwise : Procedure Action Exn Unit) : Procedure Action Exn Unit :=
  match body.result with
  | .error exn => ⟨body.actions ++ (handler exn).actions, (handler exn).result⟩
  | .ok () => ⟨body.actions ++ otherwise.actions, otherwise.result⟩

/-- The procedure raises this exception, and its last action meets this condition. -/
def EndsWith (procedure : Procedure Action Exn Value) (exn : Exn) (isLast : Action → Prop) :
    Prop :=
  procedure.result = .error exn ∧ ∃ action, procedure.actions.getLast? = some action ∧
    isLast action

section Binds

variable {first : Procedure Action Exn Value} {next : Value → Procedure Action Exn Other}

@[simp] theorem pure_bind (value : Value) (next : Value → Procedure Action Exn Other) :
    (pure value : Procedure Action Exn Value) >>= next = next value := rfl

theorem bind_of_ok {value : Value} (returned : first.result = .ok value) :
    first >>= next = ⟨first.actions ++ (next value).actions, (next value).result⟩ := by
  simp only [bind, returned]

theorem bind_of_error {exn : Exn} (raised : first.result = .error exn) :
    first >>= next = ⟨first.actions, .error exn⟩ := by
  simp only [bind, raised]

@[simp] theorem perform_bind (action : Action) (next : Unit → Procedure Action Exn Other) :
    perform action >>= next = ⟨action :: (next ()).actions, (next ()).result⟩ := rfl

@[simp] theorem ofExcept_ok_bind (value : Value) (next : Value → Procedure Action Exn Other) :
    (ofExcept (.ok value) : Procedure Action Exn Value) >>= next = next value := rfl

end Binds

section Endings

variable {exn : Exn} {isLast : Action → Prop}

/-- A procedure with another result does not end so. -/
theorem not_endsWith_of_result {procedure : Procedure Action Exn Value}
    {result : Except Exn Value} (isResult : procedure.result = result)
    (other : result ≠ .error exn) : ¬ procedure.EndsWith exn isLast :=
  fun ends => other (isResult.symm.trans ends.1)

/-- An ending stays an ending behind more actions. -/
theorem EndsWith.behind {actions : List Action} {procedure : Procedure Action Exn Value}
    (ends : procedure.EndsWith exn isLast) :
    (⟨actions ++ procedure.actions, procedure.result⟩ :
      Procedure Action Exn Value).EndsWith exn isLast := by
  obtain ⟨raised, action, last, holds⟩ := ends
  refine ⟨raised, action, ?_, holds⟩
  rw [List.getLast?_append, last, Option.some_or]

/-- A procedure that returns leaves the ending to what follows it. -/
theorem EndsWith.of_bind {value : Value} {first : Procedure Action Exn Value}
    {next : Value → Procedure Action Exn Other} (returned : first.result = .ok value)
    (ends : (next value).EndsWith exn isLast) : (first >>= next).EndsWith exn isLast := by
  rw [bind_of_ok returned]
  exact ends.behind

end Endings

end Procedure
end NetworkTools.Library
