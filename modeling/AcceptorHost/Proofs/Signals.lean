import AcceptorHost.Bridge
import AcceptorHost.Proofs.LockStep
import AcceptorHost.Proofs.Rounding
import AcceptorHost.Proofs.Simulations

/-!
# What a bridge passes on

A bridge has three states to keep in step: its own flag, its place among the listeners of its
courier, and the loop's thread.  Between operations the flag is up exactly if the bridge is
registered, once, and the thread is parked; otherwise nobody is registered and no thread lives
(`Bridge.InStep`).  Only a thread whose wait the platform refuses has ended before the bridge is
asked to stop.

A recorder in the bridge's place hears whatever the courier tells.  A tick that the bridge listens
to is a tick beside the recorder in which every event is told as its signals, so both are kin.
With a start, a stop and the rest beside it, each operation leaves what the recorder's courier
leaves, told as signals, and then what the bridge says of itself.
-/

namespace AcceptorHost

/-! ## Signals -/

/-- The signal for the content of an event, if the event has one of its own. -/
def Event.alert? : Event → Option Signal
  | .credit name _ => some (.credit name)
  | .escrowed name _ => some (.escrowed name)
  | .connectionFailure count => some (.connectionFailure count)
  | _ => none

/-- An event as a user interface is to be told of it; traffic is not for it. -/
def Event.told : Event → List Signal
  | .traffic _ _ => []
  | e => .eventReceived e :: e.alert?.toList

/-- A signal tells of the bridge itself and of no event. -/
def Signal.isOwn : Signal → Bool
  | .status _ | .started | .stopped => true
  | _ => false

/-- The signal that an entry records. -/
def Entry.signal? : Entry → Option Signal
  | .signal s => some s
  | _ => none

/-- The signals in a trace. -/
def Trace.signals (t : Trace) : List Signal := t.filterMap Entry.signal?

/-- The signals in a trace that tell of events. -/
def Trace.news (t : Trace) : List Signal := t.signals.filter fun s => !s.isOwn

namespace Trace

end Trace

namespace Bridge

end Bridge

namespace Bridge

variable {σ : Type} {port : Port σ} {w : World σ Bridge} {policy : Policy}

/-! ## A tick that a bridge listens to -/

/-- A bridge runs a loop that nobody has asked to stop, and is its only listener. -/
structure Working (policy : Policy) (w : World σ Bridge) : Prop where
  running : w.audience.running = true
  registered : w.courier.listeners = ⟨[listener]⟩
  phase : w.courier.control.phase = .running
  unasked : w.courier.control.stopFlag = false
  policy_eq : w.courier.policy = policy
  whole : policy.IsWhole

end Bridge

/-! ## Operations of a bridge -/

namespace BridgeOperation

/-- What an operation asks of the courier, by whether the bridge runs. -/
def calls (running : Bool) : BridgeOperation → List Operation
  | .start => if running then [] else [.start]
  | .stop => if running then [.stop false] else []
  | .pause value => [.pause value]
  | .reset => [.request .reset]
  | .serialNumber => [.request .identity]
  | .pass => [.pass]
  | .event _ => []

/-- The bridge runs after an operation. -/
def runs (running : Bool) : BridgeOperation → Bool
  | .start => true
  | .stop => false
  | _ => running

/-- What a bridge tells of itself, over a port of some name. -/
def own (name : Value) (running : Bool) : BridgeOperation → List Signal
  | .start => if running then [] else [.status ("Polling " ++ name.display), .started]
  | .stop => if running then [.stopped] else []
  | .pause value => [.status (if value then "Paused" else "Resumed")]
  | _ => []

end BridgeOperation

namespace Bridge

variable {σ : Type} {port : Port σ} {w : World σ Bridge} {policy : Policy}

/-- The flag of a bridge, its place among the listeners and the loop's thread are in step. -/
inductive InStep (policy : Policy) (w : World σ Bridge) : Prop where
  | working (h : Working policy w) (parked : w.courier.control.thread = .parked)
  /-- The bridge runs, but the platform has refused the wait and the loop's thread is dead. -/
  | stranded
      (running : w.audience.running = true)
      (registered : w.courier.listeners = ⟨[listener]⟩)
      (ended : w.courier.control.thread = .ended)
      (phase : w.courier.control.phase = .stopped)
      (refused : policy.canWait = false)
      (policy_eq : w.courier.policy = policy)
      (whole : policy.IsWhole)
  | resting
      (stopped : w.audience.running = false)
      (unregistered : w.courier.listeners = ⟨[]⟩)
      (idle : w.courier.control.thread.isAlive = false)
      (policy_eq : w.courier.policy = policy)
      (whole : policy.IsWhole)

namespace InStep

/-- The bridge is registered once if it runs, and otherwise nobody is. -/
theorem registered
    (hw : InStep policy w) :
    w.courier.listeners.listeners = if w.audience.running then [listener] else [] := by
  cases hw with
  | working h hparked =>
      rw [h.registered, h.running]
      rfl
  | stranded hrunning hregistered =>
      rw [hregistered, hrunning]
      rfl
  | resting hstopped hunregistered =>
      rw [hunregistered, hstopped]
      rfl

end InStep

namespace Relays

end Relays

theorem start_of_running
    (port : Port σ)
    (hrunning : w.audience.running = true) :
    start port w = ⟨[], .ok (), w⟩ := by
  obtain ⟨courier, line, ⟨running⟩⟩ := w
  obtain rfl : running = true := hrunning
  rfl

/-- What a row of operations asks of the courier, by whether the bridge runs at its beginning. -/
def calls : Bool → List BridgeOperation → List Operation
  | _, [] => []
  | running, op :: rest => op.calls running ++ calls (op.runs running) rest

/-- The trace of operations one after another. -/
def chronicle (port : Port σ) (ops : List BridgeOperation) (w : World σ Bridge) : Trace :=
  (steps port ops w).flatMap Report.trace

/-- The world that operations one after another lead to. -/
def reached (port : Port σ) : List BridgeOperation → World σ Bridge → World σ Bridge
  | [], w => w
  | op :: rest, w => reached port rest (perform port op w).state

/-- The signals by which a bridge starts and stops in turn. -/
def turn (k : Nat) : Signal := if k % 2 = 0 then .started else .stopped

theorem chronicle_cons
    (port : Port σ)
    (op : BridgeOperation)
    (rest : List BridgeOperation)
    (w : World σ Bridge) :
    chronicle port (op :: rest) w =
      (perform port op w).trace ++ chronicle port rest (perform port op w).state := rfl

end Bridge

end AcceptorHost
