import Mender.Host.Bus

/-!
# Listeners

Listeners are called by a bus. Scripted ones note every call and then follow a script: they fail,
end their own subscription, emit another event or subscribe another listener.
-/

namespace Mender.Script

/-- What a listener does after it has noted a call. -/
inductive Behaviour where
  | note
  | fail
  /-- Ends its own subscription to an event. -/
  | leave (event : String)
  /-- Emits another event, which tells who emitted it. -/
  | emit (event : String)
  /-- Subscribes another listener to an event. -/
  | invite (event id : String)
  deriving DecidableEq, Repr

/-- A listener; the number tells apart listeners that were defined under one id. -/
structure Listener where
  id : String
  number : Nat
  behaviour : Behaviour
  deriving DecidableEq, Repr

/-- What an event carries: what it was emitted with, or the listener that emitted it. -/
inductive Payload (α : Type) where
  | given (a : α)
  | via (id : String)
  deriving Repr

/-- Listeners by id, the latest definition first, their subscriptions, and the calls noted. -/
structure Audience (α : Type) where
  known : List Listener := []
  bus : Bus Listener := .empty
  calls : List (String × Payload α) := []

namespace Audience

variable {α : Type}

/-- Defines a listener. -/
def define (a : Audience α) (id : String) (b : Behaviour) : Audience α :=
  { a with known := ⟨id, a.known.length, b⟩ :: a.known }

/-- The listener of an id. -/
def find? (a : Audience α) (id : String) : Option Listener :=
  a.known.find? (·.id = id)

/-- Subscribes the listener of an id to an event. -/
def subscribe (a : Audience α) (event id : String) : Audience α :=
  match a.find? id with
  | some l => { a with bus := a.bus.subscribe event l }
  | none => a

/-- Ends a subscription of the listener of an id. -/
def unsubscribe (a : Audience α) (event id : String) : Audience α :=
  match a.find? id with
  | some l => { a with bus := a.bus.unsubscribe event l }
  | none => a

/-- Notes a call. -/
def note (a : Audience α) (l : Listener) (p : Payload α) : Audience α :=
  { a with calls := a.calls ++ [(l.id, p)] }

/-- Emits an event; events emitted by listeners are nested at most `depth` deep. -/
def emit : Nat → String → Payload α → Audience α → Audience α
  | 0, _, _, a => a
  | depth + 1, event, p, a =>
    (a.bus.listeners event).foldl
      (fun a l =>
        let a := a.note l p
        match l.behaviour with
        | .note | .fail => a
        | .leave event => { a with bus := a.bus.unsubscribe event l }
        | .emit event => emit depth event (.via l.id) a
        | .invite event id => a.subscribe event id)
      a

/-- How deep events may be nested. -/
def maxDepth : Nat := 497

/-- Emits an event and returns the calls that were noted for it. -/
def tell (a : Audience α) (event : String) (payload : α) :
    Audience α × List (String × Payload α) :=
  let told := emit maxDepth event (.given payload) { a with calls := [] }
  (told, told.calls)

end Audience

end Mender.Script
