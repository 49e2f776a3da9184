import AcceptorHost.Event
import AcceptorHost.Number.Whole
import AcceptorHost.Wire.Frame

/-!
# Commands

A codec knows which bills are enabled, what the seven bills are called, and
the acknowledgement bit of the next command.  Each command carries that bit in
its type byte and turns it over; a frame that cannot be built leaves it alone.
-/

namespace AcceptorHost

/-- The builder of commands and reader of replies of one acceptor. -/
structure Codec where
  enabledBills : BitVec 7
  billNames : List Value
  ack : Bool
  seven_names : billNames.length = 7

namespace Codec

/-- The names of the bills of the usual data set. -/
def usualBillNames : List Value :=
  [.text "$1", .text "$2", .text "$5", .text "$10", .text "$20", .text "$50", .text "$100"]

/-- The codec with all bills enabled and the usual names. -/
def usual : Codec := ⟨127, usualBillNames, false, rfl⟩

/-- A fresh codec for integer bits and a list of names. -/
def ofNames (enabled : Int) (names : List Value) : Except Fault Codec :=
  if h : names.length = 7 then .ok ⟨BitVec.ofInt 7 enabled, names, false, h⟩
  else .error .billNameCount

/-- A fresh codec for settings of any shape; the bits are looked at first. -/
def create (enabled names : Value) : Except Fault Codec :=
  match enabled.integer? with
  | none => .error .wrongType
  | some bits =>
      match names.members? with
      | none => .error .wrongType
      | some members => ofNames bits members

/-- The acknowledgement bit as part of a type byte. -/
def ackBit (c : Codec) : UInt8 := if c.ack then 1 else 0

/-- The codec after a command. -/
def turned (c : Codec) : Codec := { c with ack := !c.ack }

/-- The bit of a normal command that holds bills in escrow until the host decides. -/
def escrowMode : UInt8 := 0x10

/-- The payload of a normal command: enabled bills, escrow mode with the action, and nothing. -/
def normalPayload (c : Codec) (action : CreditAction) : List UInt8 :=
  [UInt8.ofNat c.enabledBills.toNat, escrowMode ||| action.bits, 0x00]

/-- The payload of a soft reset. -/
def resetPayload : List UInt8 := [0x7F, 0x7F, 0x7F]

/-- The payload of a query for the serial number. -/
def identityPayload : List UInt8 := [0x00, 0x00, 0x05]

/-- The frame of a type and a payload with the acknowledgement bit in the type. -/
def stamped (c : Codec) (kind : UInt8) (payload : List UInt8) : List UInt8 :=
  Frame.encode (kind ||| c.ackBit) payload

/-- The normal command. -/
def normalCommand (c : Codec) (action : CreditAction) : List UInt8 :=
  c.stamped Frame.hostType (c.normalPayload action)

/-- The reset command. -/
def resetCommand (c : Codec) : List UInt8 := c.stamped Frame.auxiliaryType resetPayload

/-- The query for the serial number. -/
def identityCommand (c : Codec) : List UInt8 := c.stamped Frame.auxiliaryType identityPayload

/-- An integer is a byte. -/
def isByte (n : Int) : Bool := decide (0 ≤ n ∧ n < 256)

/-- The frame of an integer type and integer data, and the codec after it. -/
def frame (c : Codec) (kind : Int) (data : List Int) : Except Fault (List UInt8 × Codec) :=
  if isByte kind && decide (data.length ≤ Frame.maxPayload) && data.all isByte then
    .ok (c.stamped (UInt8.ofNat kind.toNat) (data.map fun n => UInt8.ofNat n.toNat), c.turned)
  else .error .byteRange

end Codec

end AcceptorHost
