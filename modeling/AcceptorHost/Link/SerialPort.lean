import AcceptorHost.Link.Port
import AcceptorHost.Number.Whole

/-!
# Ports over a serial library

The line runs at seven data bits, even parity and one stop bit.  Failures of
the library become two: no reply in time, and a link that is down.  Failures
that are none of the serial line or the operating system pass through as they
are.  The port holds a serial object from the moment the library hands one out
until it is closed or an opening fails in a way the port understands.
-/

namespace AcceptorHost

/-- The settings of a serial port. -/
structure SerialPort where
  name : Value
  baud : Value
  timeout : Value
  deriving DecidableEq, Repr

/-- The state of a serial port: the held object, as its open flag, and the library. -/
structure SerialLine (σ : Type) where
  held : Option Bool
  library : σ

namespace SerialLine

variable {σ : Type}

/-- An object is held and open. -/
def isOpen (s : SerialLine σ) : Bool := s.held.getD false

/-- The line with another object, or none. -/
def hold (object : Option Bool) (s : SerialLine σ) : SerialLine σ := { s with held := object }

/-- The held object loses its open flag. -/
def unplug (s : SerialLine σ) : SerialLine σ := { s with held := s.held.map fun _ => false }

/-- A call is recorded and answered; with the cable pulled the held object is open no longer. -/
def ask (lib : SerialLibrary σ) (c : SerialCall) :
    Run (SerialLine σ) (Option (List UInt8)) := fun s =>
  let r := lib.respond c s.library
  let after : SerialLine σ := { s with library := r.2 }
  ⟨[.serial c], r.1.ending, if lib.unplugged c s.library then after.unplug else after⟩

end SerialLine

/-- A fault that an opening reports as a link that is down. -/
def Fault.refusesOpening : Fault → Bool
  | .device k _ => k.isSerial || k == .badValue
  | _ => false

/-- A fault of the serial line or the operating system. -/
def Fault.isSystem : Fault → Bool
  | .device k _ => k.isSystem
  | _ => false

/-- A fault of a write that took too long. -/
def Fault.isSerialTimeout : Fault → Bool
  | .device k _ => k == .serialTimeout
  | _ => false

namespace SerialPort

variable {σ : Type}

/-- How long a port waits for a reply unless told otherwise: 0.25 s. -/
def usualTimeout : Binary64 := Binary64.ofRatio false 1 4

/-- How long the acceptor is left alone after an opening: 0.02 s. -/
def settleTime : Binary64 := Binary64.ofRatio false 1 50

/-- The text of a baud rate in the log. -/
def baudText (baud : Value) : String :=
  match baud.integer? with
  | some n => Value.intText n
  | none =>
      match baud with
      | .float x => ((x.truncate?).map Value.intText).getD (Value.display baud)
      | v => v.display

/-- A timeout with three places; other values than numbers have no such text. -/
def timeoutText (timeout : Value) : Except Fault String :=
  match timeout with
  | .text _ => .error (.device .badValue "Unknown format code 'f' for object of type 'str'")
  | v => v.number.map (Decimal.fixed 3)

/-- The message of a failed operation. -/
def complaint (what : String) (p : SerialPort) (f : Fault) : Fault :=
  .linkDown (what ++ p.name.display ++ ": " ++ f.message)

/-- Opens the port. -/
def connect (p : SerialPort) (lib : SerialLibrary σ) : Run (SerialLine σ) Unit := do
  Run.handle
    (do
      let _ ← SerialLine.ask lib (.acquire p.name p.baud p.timeout)
      Run.change (SerialLine.hold (some true))
      let _ ← SerialLine.ask lib .resetInput
      let _ ← SerialLine.ask lib .resetOutput)
    fun
      | .fault f =>
          if f.refusesOpening then do
            Run.change (SerialLine.hold none)
            Run.fail (complaint "Error opening " p f)
          else Run.fail f
      | h => Run.halt h
  Run.emit (.slept settleTime)
  Run.log Level.info ("Opened " ++ p.name.display ++ " @ " ++ baudText p.baud ++ " bps")

/-- Closes the port; a failure of the line is logged and the object given up. -/
def disconnect (p : SerialPort) (lib : SerialLibrary σ) : Run (SerialLine σ) Unit := do
  if ← Run.look fun s : SerialLine σ => s.held.isSome then
    Run.handle
      (do
        let _ ← SerialLine.ask lib .release
        Run.change SerialLine.unplug)
      fun
        | .fault f =>
            if f.isSystem then
              Run.log Level.warning
                ("Error closing " ++ p.name.display ++ ": " ++ f.message)
            else Run.fail f
        | h => Run.halt h
    Run.change (SerialLine.hold none)

/-- Drops what waits in the receive buffer; a closed port has none. -/
def discard (p : SerialPort) (lib : SerialLibrary σ) : Run (SerialLine σ) Unit := do
  if ← Run.look SerialLine.isOpen then
    Run.handle
      (do
        let _ ← SerialLine.ask lib .resetInput)
      fun
        | .fault f => Run.fail (if f.isSystem then complaint "Flush failed on " p f else f)
        | h => Run.halt h

/-- Fails on a closed port. -/
def requireOpen (p : SerialPort) : Run (SerialLine σ) Unit := do
  if ← Run.look SerialLine.isOpen then Run.give ()
  else Run.fail (.linkDown (p.name.display ++ " is not open"))

/-- Sends bytes and waits until they are out. -/
def send (p : SerialPort) (lib : SerialLibrary σ) (bs : List UInt8) :
    Run (SerialLine σ) Unit := do
  p.requireOpen
  Run.handle
    (do
      let _ ← SerialLine.ask lib (.write bs)
      let _ ← SerialLine.ask lib .drain)
    fun
      | .fault f =>
          if f.isSerialTimeout then Run.fail (.noReply ("Write timed out on " ++ p.name.display))
          else Run.fail (if f.isSystem then complaint "Write failed on " p f else f)
      | h => Run.halt h

/-- The message of a reply that is too short or too long. -/
def shortfall (p : SerialPort) (got count : Int) (within : String) : Fault :=
  .noReply ("Got " ++ Value.intText got ++ "/" ++ Value.intText count ++ " bytes from "
    ++ p.name.display ++ " within " ++ within ++ "s")

/-- Receives exactly so many bytes within a timeout, the port's own if none is given. -/
def receive (p : SerialPort) (lib : SerialLibrary σ) (count : Int) (timeout : Value) :
    Run (SerialLine σ) (Option (List UInt8)) := do
  p.requireOpen
  let within := if timeout = .null then p.timeout else timeout
  let got ← Run.handle
    (do
      let _ ← SerialLine.ask lib (.setTimeout within)
      let r ← SerialLine.ask lib (.read count)
      Run.give (r.getD []))
    fun
      | .fault f => Run.fail (if f.isSystem then complaint "Read failed on " p f else f)
      | h => Run.halt h
  if (got.length : Int) = count then Run.give (some got)
  else do
    let text ← Run.ofExcept (timeoutText within)
    Run.fail (p.shortfall got.length count text)

/-- The port over a serial library. -/
def port (p : SerialPort) (lib : SerialLibrary σ) : Port (SerialLine σ) where
  name := p.name
  isOpen := SerialLine.isOpen
  connect := p.connect lib
  disconnect := p.disconnect lib
  discard := p.discard lib
  send := p.send lib
  receive := p.receive lib

end SerialPort

end AcceptorHost
