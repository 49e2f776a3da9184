import AcceptorHost.Link.Port
import AcceptorHost.Registry
import AcceptorHost.Wire.Reply

/-!
# Couriers

A courier polls one acceptor.  Its state has five parts: the policy it was
made with, the codec, the control state that callers write, the registered
listeners, and the record of what the acceptor said.  `World` puts a courier
together with the state of its port and the state of whoever listens.
-/

namespace AcceptorHost

/-- The requests that callers leave for a later tick. -/
inductive Request where
  | identity
  | reset
  deriving DecidableEq, Repr

namespace Request

/-- The word for a request. -/
def label : Request → String
  | .identity => "identity"
  | .reset => "reset"

end Request

/-- The requests that wait, each kind at most once. -/
structure Mailbox where
  identity : Bool
  reset : Bool
  deriving DecidableEq, Repr

namespace Mailbox

/-- The mailbox without requests. -/
def empty : Mailbox := ⟨false, false⟩

/-- A request waits. -/
def holds (m : Mailbox) : Request → Bool
  | .identity => m.identity
  | .reset => m.reset

/-- The mailbox with a request in it. -/
def add (m : Mailbox) : Request → Mailbox
  | .identity => { m with identity := true }
  | .reset => { m with reset := true }

/-- The request to serve next, and the mailbox without it; identity comes first. -/
def take (m : Mailbox) : Option Request × Mailbox :=
  if m.identity then (some .identity, { m with identity := false })
  else if m.reset then (some .reset, { m with reset := false })
  else (none, m)

/-- The waiting requests in the order of their words. -/
def pending (m : Mailbox) : List Request :=
  (if m.identity then [.identity] else []) ++ (if m.reset then [.reset] else [])

end Mailbox

/-- How far a courier has come. -/
inductive Phase where
  | notStarted
  | running
  | stopping
  | stopped
  deriving DecidableEq, Repr

/-- Where the loop's thread is. -/
inductive Thread where
  /-- There never was one. -/
  | absent
  /-- It stands at the start of the loop or in a wait. -/
  | parked
  /-- It is at work, and whatever happens now happens on it. -/
  | running
  /-- It has ended. -/
  | ended
  deriving DecidableEq, Repr

namespace Thread

/-- The thread lives. -/
def isAlive : Thread → Bool
  | .parked | .running => true
  | _ => false

end Thread

/-- What a courier was made with. -/
structure Policy where
  pollInterval : Binary64
  retryLimit : Value
  timeout : Value
  unsignedSerial : Bool
  /-- The longest wait that the platform makes, if it sets a bound. -/
  longestWait : Option Binary64
  deriving DecidableEq, Repr

namespace Policy

/-- The shortest poll interval: 0.001 s. -/
def leastInterval : Binary64 := Binary64.ofRatio false 1 1000

/-- The longest wait that platforms make as a rule: 2^63 - 1 nanoseconds, in whole seconds. -/
def usualLongestWait : Binary64 := Binary64.ofInt 9223372036

/-- The poll interval of a count of milliseconds. -/
def interval (milliseconds : Value) : Except Fault Binary64 :=
  milliseconds.seconds.map (Binary64.larger leastInterval)

/-- The platform makes a wait of one poll interval. -/
def canWait (p : Policy) : Bool :=
  match p.longestWait with
  | none => true
  | some longest => !longest.lt p.pollInterval

/-- A count of failures has come to the limit. -/
def reached (limit : Value) (count : Nat) : Except Fault Bool :=
  match limit with
  | .float .nan => .ok false
  | .float x => .ok (!(Binary64.ofInt count).lt x)
  | v =>
      match v.integer? with
      | some n => .ok (decide (n ≤ count))
      | none => .error .wrongType

end Policy

/-- What callers write and the loop reads. -/
structure Control where
  paused : Bool
  stopFlag : Bool
  mailbox : Mailbox
  phase : Phase
  thread : Thread
  deriving DecidableEq, Repr

namespace Control

/-- The control state before a first start. -/
def fresh : Control := ⟨false, false, .empty, .notStarted, .absent⟩

end Control

/-- What the loop knows of the acceptor and of the link. -/
structure Record where
  healthy : Bool
  failures : Nat
  creditAction : CreditAction
  model : Option UInt8
  firmware : Option UInt8
  serialNumber : Option String
  deriving DecidableEq, Repr

namespace Record

/-- The record before a first tick. -/
def fresh : Record := ⟨true, 0, .none, none, none, none⟩

/-- What stands for a value that is not known. -/
def unknownText : String := "N/A"

/-- The text of the model. -/
def modelText (r : Record) : String :=
  match r.model with
  | none => unknownText
  | some b => HexText.spaced [b]

/-- The text of the firmware revision. -/
def firmwareText (r : Record) : String :=
  match r.firmware with
  | none => unknownText
  | some b => "1." ++ HexText.compact [b]

/-- The record after a reply to a normal command. -/
def updated (r : Record) (reply : Reply) : Record :=
  { r with
    creditAction := reply.creditAction
    model := some reply.model
    firmware := some reply.firmware }

end Record

/-- A listener; two of them are equal if their keys are. -/
structure Listener where
  name : String
  key : Value
  deriving Repr

instance : BEq Listener := ⟨fun a b => a.key == b.key⟩

/-- A courier. -/
structure Courier where
  policy : Policy
  codec : Codec
  control : Control
  listeners : Registry Listener
  record : Record

namespace Courier

/-- A fresh courier for settings of any shape, on a platform with some longest wait. -/
def create (longestWait : Option Binary64) (codec : Codec)
    (milliseconds retryLimit timeout : Value) (unsignedSerial : Bool) : Except Fault Courier :=
  (Policy.interval milliseconds).map fun interval =>
    { policy := ⟨interval, retryLimit, timeout, unsignedSerial, longestWait⟩
      codec := codec
      control := Control.fresh
      listeners := Registry.empty
      record := Record.fresh }

/-- A wait of one poll interval is not refused; once a stop was asked for it ends at once. -/
def canWait (c : Courier) : Bool := c.control.stopFlag || c.policy.canWait

end Courier

/-- A courier with the states of its port and of whoever listens. -/
structure World (σ τ : Type) where
  courier : Courier
  port : σ
  audience : τ

/-- How a listener is told of an event. -/
abbrev Deliver (σ τ : Type) := Listener → Event → Run (World σ τ) Unit

namespace World

variable {σ τ α : Type}

/-- A run on the port. -/
def onPort (x : Run σ α) : Run (World σ τ) α :=
  Run.within World.port (fun p w => { w with port := p }) x

/-- A change of the courier. -/
def change (f : Courier → Courier) : Run (World σ τ) Unit :=
  Run.change fun w => { w with courier := f w.courier }

/-- A change of the control state. -/
def control (f : Control → Control) : Run (World σ τ) Unit :=
  change fun c => { c with control := f c.control }

/-- A change of the record. -/
def record (f : Record → Record) : Run (World σ τ) Unit :=
  change fun c => { c with record := f c.record }

/-- A change of the registered listeners. -/
def listeners (f : Registry Listener → Registry Listener) : Run (World σ τ) Unit :=
  change fun c => { c with listeners := f c.listeners }

/-- What the courier shows. -/
def ask (f : Courier → α) : Run (World σ τ) α := Run.look fun w => f w.courier

/-- A request is left for a later tick. -/
def request (r : Request) : Run (World σ τ) Unit :=
  control fun c => { c with mailbox := c.mailbox.add r }

/-- The next request is taken out of the mailbox. -/
def takeRequest : Run (World σ τ) (Option Request) := do
  let taken ← ask fun c => c.control.mailbox.take
  control fun c => { c with mailbox := taken.2 }
  Run.give taken.1

/-- Polling is suspended or resumed. -/
def setPaused (paused : Bool) : Run (World σ τ) Unit :=
  control fun c => { c with paused := paused }

end World

end AcceptorHost
