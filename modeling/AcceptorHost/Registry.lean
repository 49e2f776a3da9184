import AcceptorHost.Run

/-!
# Listeners in order

A registry holds listeners in the order of their subscription and no two equal
ones.  A dispatch delivers an event to the listeners that were registered when
it began; a listener that fails is logged and the others still hear the event.
-/

namespace AcceptorHost

/-- Registered listeners, the oldest first. -/
structure Registry (α : Type) where
  listeners : List α
  deriving Repr

namespace Registry

variable {α : Type} [BEq α]

/-- The registry without listeners. -/
def empty : Registry α := ⟨[]⟩

/-- The registry with a listener at its end, unless an equal one is in it. -/
def subscribe (l : α) (r : Registry α) : Registry α :=
  if r.listeners.any (· == l) then r else ⟨r.listeners ++ [l]⟩

/-- The registry without the listeners equal to one. -/
def unsubscribe (l : α) (r : Registry α) : Registry α :=
  ⟨r.listeners.filter fun m => !(m == l)⟩

/-- The count of listeners. -/
def size (r : Registry α) : Nat := r.listeners.length

end Registry

namespace Run

variable {S α : Type}

/-- A delivery whose fault is logged; an exit goes on. -/
def contained (label : α → String) (deliver : α → Event → Run S Unit) (event : Event) (l : α) :
    Run S Unit :=
  handle (deliver l event) fun
    | .fault _ => emit (.listenerFailed (label l) event)
    | h => halt h

/-- The deliveries of an event to a row of listeners. -/
def dispatch (label : α → String) (deliver : α → Event → Run S Unit) (event : Event) :
    List α → Run S Unit
  | [] => give ()
  | l :: rest => do
      contained label deliver event l
      dispatch label deliver event rest

end Run

end AcceptorHost
