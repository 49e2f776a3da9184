import AcceptorHost.Wire.Codec
import AcceptorHost.Wire.HexText

/-!
# Replies

The six data bytes of a reply hold bit fields: the acceptance state, faults
and the cassette, conditions with the index of the bill, the model and the
firmware revision.  Bytes that are missing count as zero.  A stacked bill whose
name is known is a credit, and a bill in escrow is to be accepted with the next
command.
-/

namespace AcceptorHost

/-- What a reply says. -/
structure Reply where
  creditAction : CreditAction
  model : UInt8
  firmware : UInt8
  events : List DeviceEvent
  billName : Value
  raw : String
  deriving DecidableEq, Repr

namespace Reply

/-- The bits of the first data byte. -/
def stateBits : List (UInt8 × DeviceEvent) :=
  [(0x01, .idling), (0x02, .accepting), (0x04, .escrowed), (0x08, .stacking),
   (0x10, .stacked), (0x20, .returning), (0x40, .returned)]

/-- The bits of the second data byte. -/
def faultBits : List (UInt8 × DeviceEvent) :=
  [(0x01, .cheated), (0x02, .billRejected), (0x04, .billJammed), (0x08, .stackerFull)]

/-- The bit of the second data byte that is clear while the cassette is away. -/
def cassetteBit : UInt8 := 0x10

/-- The bits of the third data byte. -/
def conditionBits : List (UInt8 × DeviceEvent) :=
  [(0x01, .powerUp), (0x02, .invalidCommand), (0x04, .failure)]

/-- The events of a table whose bits are set. -/
def eventsOf (table : List (UInt8 × DeviceEvent)) (b : UInt8) : List DeviceEvent :=
  (table.filter fun row => b &&& row.1 != 0).map (·.2)

/-- A data byte of received bytes; zero if there is none. -/
def dataByte (x : List UInt8) (i : Nat) : UInt8 := (Frame.payloadPart x).getD i 0

/-- The index of the bill in the third data byte. -/
def billIndex (condition : UInt8) : Nat := ((condition >>> 3) &&& 0x07).toNat

/-- The name of the bill of an index; null for the index zero. -/
def nameOf (c : Codec) (index : Nat) : Value :=
  if index = 0 then .null else c.billNames.getD (index - 1) .null

/-- The events of three data bytes, before the credit. -/
def reported (state status condition : UInt8) : List DeviceEvent :=
  eventsOf stateBits state
    ++ eventsOf faultBits status
    ++ (if status &&& cassetteBit == 0 then [.cassetteRemoved] else [])
    ++ eventsOf conditionBits condition

/-- The reply that received bytes hold, whether they form a frame or not. -/
def decode (c : Codec) (x : List UInt8) : Reply :=
  let condition := dataByte x 2
  let events := reported (dataByte x 0) (dataByte x 1) condition
  let billName := nameOf c (billIndex condition)
  { creditAction := if events.contains .escrowed then .accept else .none
    model := dataByte x 3
    firmware := dataByte x 4
    events :=
      if events.contains .stacked && billName != .null then events ++ [.credit] else events
    billName := billName
    raw := HexText.spaced x }

end Reply

end AcceptorHost
