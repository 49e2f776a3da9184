import AcceptorHost.Link.Port

/-!
# Ports whose calls are answered one by one

The calls on such a port are recorded in the trace and answered by its peer,
which also decides whether the port is open after a call.
-/

namespace AcceptorHost

/-- The state of an answered port. -/
structure AnsweredLine (σ : Type) where
  isOpen : Bool
  party : σ

namespace AnsweredLine

variable {σ : Type}

/-- The line after a call. -/
def after (peer : Peer σ) (c : PortCall) (s : AnsweredLine σ) : AnsweredLine σ :=
  ⟨peer.opens c s.party s.isOpen, (peer c s.party).2⟩

/-- A call is recorded and answered. -/
def ask (peer : Peer σ) (c : PortCall) : Run (AnsweredLine σ) (Option (List UInt8)) := fun s =>
  ⟨[.port c], (peer c s.party).1.ending, s.after peer c⟩

/-- A call whose value is of no interest. -/
def call (peer : Peer σ) (c : PortCall) : Run (AnsweredLine σ) Unit := do
  let _ ← ask peer c

end AnsweredLine

/-- The port whose calls a peer answers. -/
def answeredPort {σ : Type} (name : Value) (peer : Peer σ) : Port (AnsweredLine σ) where
  name := name
  isOpen := AnsweredLine.isOpen
  connect := AnsweredLine.call peer .connect
  disconnect := AnsweredLine.call peer .disconnect
  discard := AnsweredLine.call peer .discard
  send bs := AnsweredLine.call peer (.send bs)
  receive count timeout := AnsweredLine.ask peer (.receive count timeout)

end AcceptorHost
