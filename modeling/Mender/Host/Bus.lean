/-!
# The event bus

Listeners subscribe to events by name and are called in the order they subscribed. Those that are
called are the ones subscribed when the event was emitted, whatever a listener changes meanwhile,
and a listener that fails keeps no other from being called.
-/

namespace Mender

/-- Subscriptions of listeners, in order. -/
structure Bus (L : Type) where
  subscriptions : List (String × L)
  deriving Repr

namespace Bus

variable {L : Type}

/-- No subscriptions. -/
def empty : Bus L := ⟨[]⟩

/-- Subscribes a listener to an event. -/
def subscribe (b : Bus L) (event : String) (l : L) : Bus L :=
  ⟨b.subscriptions ++ [(event, l)]⟩

/-- Ends the first subscription of a listener to an event. -/
def unsubscribe [DecidableEq L] (b : Bus L) (event : String) (l : L) : Bus L :=
  ⟨b.subscriptions.erase (event, l)⟩

/-- The listeners of an event. -/
def listeners (b : Bus L) (event : String) : List L :=
  (b.subscriptions.filter (·.1 = event)).map (·.2)

end Bus

end Mender
