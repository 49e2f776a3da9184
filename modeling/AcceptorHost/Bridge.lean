import AcceptorHost.Courier.Loop
import AcceptorHost.Link.SerialPort

/-!
# The bridge to a user interface

A bridge runs a courier for a user interface: it starts and stops the loop
once each in turn, and while it runs it passes every event that is no traffic
on as a signal, with a second signal for credits, bills in escrow and failures
of the link.
-/

namespace AcceptorHost

/-- The state of a bridge. -/
structure Bridge where
  running : Bool
  deriving DecidableEq, Repr

/-- What a user interface can ask of a bridge. -/
inductive BridgeOperation where
  | start
  | stop
  | pause (value : Bool)
  | reset
  | serialNumber
  /-- An event handed to the bridge directly. -/
  | event (e : Event)
  /-- The loop runs to its next parking place. -/
  | pass
  deriving Repr

namespace Bridge

variable {σ : Type}

/-- The bridge that has not been started. -/
def idle : Bridge := ⟨false⟩

/-- The bridge as a listener. -/
def listener : Listener := ⟨"bridge", .text "bridge"⟩

/-- The signals of an event. -/
def signals : Event → List Signal
  | .traffic _ _ => []
  | e =>
      .eventReceived e ::
        match e with
        | .credit name _ => [.credit name]
        | .escrowed name _ => [.escrowed name]
        | .connectionFailure count => [.connectionFailure count]
        | _ => []

/-- Signals one after another. -/
def emitAll : List Signal → Run (World σ Bridge) Unit
  | [] => Run.give ()
  | s :: rest => do
      Run.emit (.signal s)
      emitAll rest

/-- The bridge hears an event. -/
def deliver : Deliver σ Bridge := fun _ e => emitAll (signals e)

/-- The bridge is marked as running or not. -/
def mark (running : Bool) : Run (World σ Bridge) Unit :=
  Run.change fun w => { w with audience := ⟨running⟩ }

/-- Starts polling, unless it is running. -/
def start (port : Port σ) : Run (World σ Bridge) Unit := do
  if ← Run.look fun w : World σ Bridge => w.audience.running then Run.give ()
  else do
    mark true
    World.listeners (Registry.subscribe listener)
    World.start port
    Run.emit (.signal (.status ("Polling " ++ port.name.display)))
    Run.emit (.signal .started)

/-- Stops polling and waits for the loop's end, if it is running. -/
def stop (port : Port σ) : Run (World σ Bridge) Unit := do
  if ← Run.look fun w : World σ Bridge => w.audience.running then do
    mark false
    let _ ← World.requestStop port false
    World.listeners (Registry.unsubscribe listener)
    Run.emit (.signal .stopped)
  else Run.give ()

/-- What an operation does. -/
def perform (port : Port σ) : BridgeOperation → Run (World σ Bridge) Unit
  | .start => start port
  | .stop => stop port
  | .pause value => do
      World.setPaused value
      Run.emit (.signal (.status (if value then "Paused" else "Resumed")))
  | .reset => World.request .reset
  | .serialNumber => World.request .identity
  | .event e => emitAll (signals e)
  | .pass => World.pass port deliver

/-- The reports of operations one after another. -/
def steps (port : Port σ) :
    List BridgeOperation → World σ Bridge → List (Report (World σ Bridge) Unit)
  | [], _ => []
  | op :: rest, w =>
      let r := perform port op w
      r :: steps port rest r.state

/-- The serial port and the courier of a bridge that makes its own. -/
def build (longestWait : Option Binary64) (name baud milliseconds : Value) :
    Except Fault (SerialPort × Courier) := do
  let courier ← Courier.create longestWait Codec.usual milliseconds (.int 5) .null false
  .ok (⟨name, baud, .float SerialPort.usualTimeout⟩, courier)

end Bridge

end AcceptorHost
