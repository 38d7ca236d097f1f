/-
This file develops a log of messages whose open subscribers each receive a copy of every message.
-/

import Mathlib.Data.List.Infix
import Mathlib.Logic.Function.Basic
import Mathlib.Tactic.Common

namespace NetworkTools.Library

/-- Each open subscriber has a queue with the end of the log that it has not taken yet. -/
structure Broadcast (Message : Type) where
  log : List Message
  queue : Nat → Option (List Message)
  suffix : ∀ subscriber pending, queue subscriber = some pending → pending <:+ log

namespace Broadcast

variable {Message : Type}

def empty : Broadcast Message where
  log := []
  queue _ := none
  suffix := by simp

/-- A new subscriber starts behind the log. -/
def subscribe (broadcast : Broadcast Message) (subscriber : Nat) : Broadcast Message where
  log := broadcast.log
  queue := Function.update broadcast.queue subscriber (some [])
  suffix := by
    intro other pending present
    by_cases same : other = subscriber
    · rw [same, Function.update_self] at present
      obtain rfl := Option.some.inj present
      exact List.nil_suffix
    · rw [Function.update_of_ne same] at present
      exact broadcast.suffix other pending present

def unsubscribe (broadcast : Broadcast Message) (subscriber : Nat) : Broadcast Message where
  log := broadcast.log
  queue := Function.update broadcast.queue subscriber none
  suffix := by
    intro other pending present
    by_cases same : other = subscriber
    · rw [same, Function.update_self] at present
      simp at present
    · rw [Function.update_of_ne same] at present
      exact broadcast.suffix other pending present

/-- Each open queue gets a copy of the message. -/
def publish (broadcast : Broadcast Message) (message : Message) : Broadcast Message where
  log := broadcast.log ++ [message]
  queue subscriber := (broadcast.queue subscriber).map fun pending => pending ++ [message]
  suffix := by
    intro subscriber pending present
    obtain ⟨before, isBefore, rfl⟩ := Option.map_eq_some_iff.mp present
    obtain ⟨taken, isLog⟩ := broadcast.suffix subscriber before isBefore
    exact ⟨taken, by rw [← isLog, List.append_assoc]⟩

/-- The position in the log of the next message of a subscriber with this queue. -/
def position (broadcast : Broadcast Message) (pending : List Message) : Nat :=
  broadcast.log.length - pending.length

/-- A subscriber takes the message at the head of its queue. -/
def drop (broadcast : Broadcast Message) (subscriber : Nat) : Broadcast Message where
  log := broadcast.log
  queue := Function.update broadcast.queue subscriber
    ((broadcast.queue subscriber).map List.tail)
  suffix := by
    intro other pending present
    by_cases same : other = subscriber
    · rw [same, Function.update_self] at present
      obtain ⟨before, isBefore, rfl⟩ := Option.map_eq_some_iff.mp present
      exact (List.tail_suffix before).trans (broadcast.suffix subscriber before isBefore)
    · rw [Function.update_of_ne same] at present
      exact broadcast.suffix other pending present

/-- The head of a queue is the message of the log at the position of the queue. -/
theorem log_position (broadcast : Broadcast Message) {subscriber : Nat} {message : Message}
    {rest : List Message} (pending : broadcast.queue subscriber = some (message :: rest)) :
    broadcast.log[broadcast.position (message :: rest)]? = some message := by
  obtain ⟨taken, isLog⟩ := broadcast.suffix subscriber _ pending
  have here : broadcast.position (message :: rest) = taken.length := by
    rw [position, ← isLog, List.length_append, Nat.add_sub_cancel]
  rw [here, ← isLog, List.getElem?_append_right (Nat.le_refl _), Nat.sub_self]
  rfl

end Broadcast
end NetworkTools.Library
