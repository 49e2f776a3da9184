import AcceptorHost.Value

/-!
# Events

What the acceptor reports in a reply, what the host tells it to do with a bill
in escrow, and what the host tells its listeners.
-/

namespace AcceptorHost

/-- States and conditions that the acceptor reports, and the credit drawn from them. -/
inductive DeviceEvent where
  | idling
  | accepting
  | escrowed
  | stacking
  | stacked
  | returning
  | returned
  | cheated
  | billRejected
  | billJammed
  | stackerFull
  | cassetteRemoved
  | powerUp
  | invalidCommand
  | failure
  | credit
  deriving DecidableEq, Repr

namespace DeviceEvent

/-- The word a device event is printed as. -/
def label : DeviceEvent → String
  | .idling => "Idling"
  | .accepting => "Accepting"
  | .escrowed => "Escrowed"
  | .stacking => "Stacking"
  | .stacked => "Stacked"
  | .returning => "Returning"
  | .returned => "Returned"
  | .cheated => "Cheated"
  | .billRejected => "BillRejected"
  | .billJammed => "BillJammed"
  | .stackerFull => "StackerFull"
  | .cassetteRemoved => "CassetteRemoved"
  | .powerUp => "PowerUp"
  | .invalidCommand => "InvalidCommand"
  | .failure => "Failure"
  | .credit => "Credit"

/-- Every device event, in the order of the reply's bits. -/
def all : List DeviceEvent :=
  [.idling, .accepting, .escrowed, .stacking, .stacked, .returning, .returned,
   .cheated, .billRejected, .billJammed, .stackerFull, .cassetteRemoved,
   .powerUp, .invalidCommand, .failure, .credit]

theorem mem_all
    (e : DeviceEvent) :
    e ∈ all := by
  cases e <;> decide

end DeviceEvent

/-- What the next normal command tells the acceptor to do with a bill in escrow. -/
inductive CreditAction where
  | none
  | accept
  | giveBack
  deriving DecidableEq, Repr

namespace CreditAction

/-- The bits of a credit action in a command. -/
def bits : CreditAction → UInt8
  | .none => 0x00
  | .accept => 0x20
  | .giveBack => 0x40

end CreditAction

/-- The direction of traffic, seen from the host. -/
inductive Direction where
  | sent
  | received
  deriving DecidableEq, Repr

namespace Direction

/-- The word for a direction. -/
def label : Direction → String
  | .sent => "tx"
  | .received => "rx"

end Direction

/-- What listeners are told. -/
inductive Event where
  /-- So many ticks in a row have failed. -/
  | connectionFailure (count : Int)
  /-- Bytes went over the link. -/
  | traffic (direction : Direction) (data : String)
  /-- A bill was stacked and is to be credited. -/
  | credit (billName : Value) (raw : String)
  /-- A bill is held in escrow. -/
  | escrowed (billName : Value) (raw : String)
  /-- The acceptor reports a state or a condition. -/
  | device (kind : DeviceEvent) (raw : String)
  /-- A value that is no event of this library. -/
  | foreign (value : Value)
  deriving DecidableEq, Repr

/-- What a user interface is told. -/
inductive Signal where
  | status (text : String)
  | started
  | stopped
  | eventReceived (event : Event)
  | credit (billName : Value)
  | escrowed (billName : Value)
  | connectionFailure (count : Int)
  deriving DecidableEq, Repr

end AcceptorHost
