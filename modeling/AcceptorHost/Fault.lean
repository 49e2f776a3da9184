import AcceptorHost.Text.Quoted
import AcceptorHost.Value

/-!
# Ways in which a call can fail

A call that does not return ends in a halt: a fault, which a caller may
contain, or an exit, which nobody contains.  Faults are told apart by their
cause; `Fault.message` gives each its wording.
-/

namespace AcceptorHost

/-- The failures of a device driver that the link layer tells apart. -/
inductive DeviceFault where
  /-- A failure that belongs to no other kind. -/
  | runtime
  /-- The driver refuses an argument. -/
  | badValue
  /-- The operating system reports a failure. -/
  | system
  /-- The serial line reports a failure; a special case of a system failure. -/
  | serial
  /-- The serial line does not take the bytes in time; a special case of a serial failure. -/
  | serialTimeout
  deriving DecidableEq, Repr

/-- A driver failure that counts as one of the serial line. -/
def DeviceFault.isSerial : DeviceFault → Bool
  | .serial | .serialTimeout => true
  | _ => false

/-- A driver failure that counts as one of the operating system. -/
def DeviceFault.isSystem : DeviceFault → Bool
  | .system => true
  | k => k.isSerial

/-- The causes of a contained failure. -/
inductive Fault where
  /-- The acceptor did not answer with a full frame in time. -/
  | noReply (text : String)
  /-- The serial link itself failed. -/
  | linkDown (text : String)
  /-- A driver failure that is passed on as it is. -/
  | device (kind : DeviceFault) (text : String)
  /-- A value of the wrong type. -/
  | wrongType
  /-- Fields or text methods asked of a value that has none. -/
  | noSuchMember
  /-- Bytes that are no text. -/
  | undecodable
  /-- A directory where a file is needed. -/
  | isDirectory
  /-- A list of bill names that does not hold seven. -/
  | billNameCount
  /-- A serial number that does not have five bytes. -/
  | serialNumberLength (length : Nat)
  /-- An integer that is no byte. -/
  | byteRange
  /-- A text that is no integer. -/
  | notANumeral (text : String)
  /-- A numeral with more digits than there may be. -/
  | tooManyDigits (limit count : Nat)
  /-- Values of a text that are nested deeper than they may be. -/
  | nestedTooDeep
  /-- What is not a number has no whole part. -/
  | nanNotWhole
  /-- An infinity has no whole part. -/
  | infinityNotWhole
  /-- An integer beyond the range of floating point numbers. -/
  | tooLarge
  /-- A log level without that name. -/
  | unknownLevel (name : String)
  /-- A wait for a loop that has died and will not report its end. -/
  | neverStops
  /-- A wait that is longer than the platform can make. -/
  | waitTooLong
  deriving DecidableEq, Repr

/-- How many characters of a quoted text an error message shows. -/
def Fault.quoteLimit : Nat := 200

/-- The wording of a fault. -/
def Fault.message : Fault → String
  | .noReply text => text
  | .linkDown text => text
  | .device _ text => text
  | .wrongType => "a value of the wrong type"
  | .noSuchMember => "a value without such a member"
  | .undecodable => "bytes that are no text"
  | .isDirectory => "a directory where a file is needed"
  | .billNameCount => "Provide exactly seven bill names"
  | .serialNumberLength length => s!"Serial number is 5 bytes, got {length}"
  | .byteRange => "bytes must be in range(0, 256)"
  | .notANumeral text =>
      "invalid literal for int() with base 10: "
        ++ String.ofList ((Text.quoted text).toList.take quoteLimit)
  | .tooManyDigits limit count =>
      s!"Exceeds the limit ({limit} digits) for integer string conversion: value has {count} digits"
  | .nestedTooDeep => "maximum recursion depth exceeded"
  | .nanNotWhole => "cannot convert float NaN to integer"
  | .infinityNotWhole => "cannot convert float infinity to integer"
  | .tooLarge => "int too large to convert to float"
  | .unknownLevel name => "Unknown level: " ++ Text.quoted name
  | .neverStops => "request_stop would never return"
  | .waitTooLong => "timeout value is too large"

/-- How a call ends that does not return. -/
inductive Halt where
  | fault (cause : Fault)
  | exit (status : Value)
  deriving DecidableEq, Repr

/-- A halt is a fault. -/
def Halt.isFault : Halt → Bool
  | .fault _ => true
  | .exit _ => false

end AcceptorHost
