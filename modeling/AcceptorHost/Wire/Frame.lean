/-!
# Frames

A frame is a start byte, its own length, a type byte, a payload, an end byte
and a checksum, which is the exclusive or of everything between the start and
the end byte.  `Frame.encode` writes a frame from the front; `Frame.accepts`
judges received bytes from both ends.
-/

namespace AcceptorHost

namespace Frame

/-- The first byte of a frame. -/
def startByte : UInt8 := 0x02

/-- The last byte but one of a frame. -/
def endByte : UInt8 := 0x03

/-- The type of a normal command. -/
def hostType : UInt8 := 0x10

/-- The type of a normal reply. -/
def replyType : UInt8 := 0x20

/-- The type of auxiliary commands and their replies. -/
def auxiliaryType : UInt8 := 0x60

/-- The bytes around a payload: start, length, type, end and checksum. -/
def overhead : Nat := 5

/-- The longest payload whose frame length is a byte. -/
def maxPayload : Nat := 250

/-- The length of a reply. -/
def replySize : Nat := 11

/-- The exclusive or of all bytes. -/
def checksum (bs : List UInt8) : UInt8 := bs.foldl (· ^^^ ·) 0

/-- The checked part of a frame: length, type and payload. -/
def body (kind : UInt8) (payload : List UInt8) : List UInt8 :=
  UInt8.ofNat (payload.length + overhead) :: kind :: payload

/-- The frame of a type and a payload. -/
def encode (kind : UInt8) (payload : List UInt8) : List UInt8 :=
  startByte :: body kind payload ++ [endByte, checksum (body kind payload)]

/-- The part of received bytes that the checksum covers. -/
def checkedPart (x : List UInt8) : List UInt8 := (x.take (x.length - 2)).drop 1

/-- The part of received bytes that stands where the payload does. -/
def payloadPart (x : List UInt8) : List UInt8 := (x.take (x.length - 2)).drop 3

/-- Received bytes form a frame. -/
def accepts (x : List UInt8) : Bool :=
  decide (overhead ≤ x.length)
    && x[0]? == some startByte
    && x[x.length - 2]? == some endByte
    && (x[1]?.map UInt8.toNat) == some x.length
    && x[x.length - 1]? == some (checksum (checkedPart x))

end Frame

end AcceptorHost
