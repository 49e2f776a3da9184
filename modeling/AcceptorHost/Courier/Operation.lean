import AcceptorHost.Courier.Loop

/-!
# Operations on a courier

Everything that a caller or a listener can ask of a courier, as data, and what
it does.  `perform` takes the way listeners are told as a parameter, so that a
listener may itself ask for operations.
-/

namespace AcceptorHost

/-- What can be asked of a courier. -/
inductive Operation where
  /-- One tick on the caller. -/
  | poll
  /-- A request for a later tick. -/
  | request (r : Request)
  /-- The next request is taken out of the mailbox. -/
  | takeRequest
  /-- Polling is suspended or resumed. -/
  | pause (value : Bool)
  /-- A listener is registered. -/
  | subscribe (who : Listener)
  /-- The listeners equal to one are removed. -/
  | unsubscribe (who : Listener)
  /-- All listeners are removed. -/
  | unsubscribeAll
  /-- An event is told to the listeners. -/
  | dispatch (event : Event)
  /-- The count of listeners. -/
  | count
  /-- The loop is started. -/
  | start
  /-- The loop runs to its next parking place. -/
  | pass
  /-- The loop is asked to stop, with or without a bound on the wait. -/
  | stop (bounded : Bool)
  deriving Repr

namespace World

variable {σ τ : Type}

/-- An operation and the value it returns. -/
def perform (port : Port σ) (deliver : Deliver σ τ) : Operation → Run (World σ τ) Value
  | .poll => do
      tick port deliver
      Run.give .null
  | .request r => do
      request r
      Run.give .null
  | .takeRequest => do
      match ← takeRequest with
      | some r => Run.give (.text r.label)
      | none => Run.give .null
  | .pause value => do
      setPaused value
      Run.give .null
  | .subscribe who => do
      listeners (Registry.subscribe who)
      Run.give .null
  | .unsubscribe who => do
      listeners (Registry.unsubscribe who)
      Run.give .null
  | .unsubscribeAll => do
      listeners fun _ => Registry.empty
      Run.give .null
  | .dispatch event => do
      fire deliver event
      Run.give .null
  | .count => do
      let n ← ask fun c => c.listeners.size
      Run.give (.int n)
  | .start => do
      start port
      Run.give .null
  | .pass => do
      pass port deliver
      Run.give .null
  | .stop bounded => do
      let stopped ← requestStop port bounded
      Run.give (.bool stopped)

end World

end AcceptorHost
