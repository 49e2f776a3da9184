import AcceptorHost.Run
import AcceptorHost.Wire.HexText

/-!
# Ports

A port is whatever carries frames: it can be connected and disconnected, drops
what waits in its receive buffer, sends bytes, and receives as many as asked
for or fails.  The courier works over any port; the modules beside this one
make ports of scripts of answers and of a serial library.
-/

namespace AcceptorHost

/-- The operations of a port with states in `σ`. -/
structure Port (σ : Type) where
  /-- The name of the port, of any shape. -/
  name : Value
  /-- The port is open. -/
  isOpen : σ → Bool
  /-- Opens the port. -/
  connect : Run σ Unit
  /-- Closes the port. -/
  disconnect : Run σ Unit
  /-- Drops what waits in the receive buffer. -/
  discard : Run σ Unit
  /-- Sends bytes. -/
  send : List UInt8 → Run σ Unit
  /-- Receives so many bytes within a timeout; nothing at all is no byte string. -/
  receive : Int → Value → Run σ (Option (List UInt8))

/-- What comes of a call that another party answers. -/
inductive Answer where
  /-- The call succeeds and gives nothing. -/
  | nothing
  /-- The call succeeds and gives bytes. -/
  | bytes (bs : List UInt8)
  /-- The call halts. -/
  | halts (h : Halt)
  deriving DecidableEq, Repr

/-- A party that answers calls of the type `κ` from a state in `σ`. -/
abbrev Responder (κ σ : Type) := κ → σ → Answer × σ

/-- Whether a port is open after an answered call, for a port that is open from a connection
that succeeds to a disconnection that succeeds. -/
def PortCall.opens (c : PortCall) (a : Answer) (isOpen : Bool) : Bool :=
  match c, a with
  | _, .halts _ => isOpen
  | .connect, _ => true
  | .disconnect, _ => false
  | _, _ => isOpen

/-- The peer of a port: how it answers the calls on the port, and which calls leave the port
open, by the state it answers from and whether the port was open before. -/
structure Peer (σ : Type) where
  respond : Responder PortCall σ
  opens : PortCall → σ → Bool → Bool

instance {σ : Type} : CoeFun (Peer σ) fun _ => Responder PortCall σ := ⟨Peer.respond⟩

/-- The peer of a port that is open from a connection that succeeds to a disconnection that
succeeds, whatever else fails. -/
def Peer.steady {σ : Type} (respond : Responder PortCall σ) : Peer σ :=
  ⟨respond, fun c s => c.opens (respond c s).1⟩

/-- A serial library: how it answers, and which calls find the cable of the held object pulled. -/
structure SerialLibrary (σ : Type) where
  respond : Responder SerialCall σ
  unplugged : SerialCall → σ → Bool

/-- The library over a cable that is never pulled. -/
def SerialLibrary.steady {σ : Type} (respond : Responder SerialCall σ) : SerialLibrary σ :=
  ⟨respond, fun _ _ => false⟩

namespace Answer

/-- The answer as the ending of a call. -/
def ending : Answer → Except Halt (Option (List UInt8))
  | .nothing => .ok none
  | .bytes bs => .ok (some bs)
  | .halts h => .error h

end Answer

end AcceptorHost
