import AcceptorHost.Console.Session
import AcceptorHost.Link.Dialogue

/-!
# The command line program

The session is a run of this library.  Here its calls on the serial line are
put to a device, and its lines, log records and pauses are carried out.  A run
is computed over the answers that the device has given; what it did up to its
first call without an answer is carried out, the call is put to the device, and
the run is computed again with one answer more.  The device is a file whose
line settings were made beforehand.
-/

namespace AcceptorHost

namespace Program

/-- An open device: where bytes go, which have come, and how many milliseconds a read waits. -/
structure Device where
  sink : IO.FS.Handle
  received : IO.Ref (List UInt8)
  patience : IO.Ref Nat

/-- A session over the answers of a device. -/
abbrev Site := World (SerialLine Dialogue) EventPrinter

/-- The file that log records are added to. -/
def logFile : String := "apex.log"

/-- A count of seconds in whole milliseconds. -/
def milliseconds (seconds : Value) : Nat :=
  match seconds.number.bind fun x => (Value.float (x.scale 1000 1)).whole none with
  | .ok n => n.toNat
  | .error _ => 0

/-- Takes bytes from a source one at a time until it ends. -/
partial def gather (source : IO.FS.Handle) (received : IO.Ref (List UInt8)) : IO Unit := do
  let chunk ← source.read 1
  unless chunk.isEmpty do
    received.modify (· ++ chunk.toList)
    gather source received

/-- Waits for so many bytes, but not beyond a point in time. -/
partial def await (received : IO.Ref (List UInt8)) (count deadline : Nat) : IO Unit := do
  if (← received.get).length < count && (← IO.monoMsNow) < deadline then
    IO.sleep 1
    await received count deadline

/-- Opens the device of a name. -/
def acquire (name : String) (patience : Nat) : IO Device := do
  let source ← IO.FS.Handle.mk name .read
  let sink ← IO.FS.Handle.mk name .append
  let received ← IO.mkRef []
  let _ ← IO.asTask (gather source received) .dedicated
  return ⟨sink, received, ← IO.mkRef patience⟩

/-- Puts a call to an open device. -/
def put (device : Device) : SerialCall → IO Answer
  | .write bytes => do
      device.sink.write ⟨bytes.toArray⟩
      return .nothing
  | .drain => do
      device.sink.flush
      return .nothing
  | .resetInput => do
      device.received.set []
      return .nothing
  | .setTimeout seconds => do
      device.patience.set (milliseconds seconds)
      return .nothing
  | .read count => do
      let deadline := (← IO.monoMsNow) + (← device.patience.get)
      await device.received count.toNat deadline
      return .bytes (← device.received.modifyGet fun bs =>
        (bs.take count.toNat, bs.drop count.toNat))
  | _ => return .nothing

/-- Puts a call to the device, which may not be open yet. -/
def answer (device : IO.Ref (Option Device)) (call : SerialCall) : IO Answer := do
  try
    match call, ← device.get with
    | .acquire url _ timeout, _ =>
        device.set (some (← acquire url.display (milliseconds timeout)))
        return .nothing
    | .release, _ =>
        device.set none
        return .nothing
    | call, some opened => put opened call
    | _, none => return .nothing
  catch e =>
    return .halts (.fault (.device .serial (toString e)))

/-- Sleeps for so many milliseconds, for an hour at most at a time. -/
def pause (milliseconds : Nat) : IO Unit := do
  let hour := 3600000
  for _ in [0 : milliseconds / hour] do
    IO.sleep (UInt32.ofNat hour)
  IO.sleep (UInt32.ofNat (milliseconds % hour))

/-- Shows a log record and adds it to the log file. -/
def record (text : String) : IO Unit := do
  IO.eprintln text
  let file ← IO.FS.Handle.mk logFile .append
  file.putStrLn text

/-- Carries out an entry of a trace. -/
def carryOut (level : Int) (e : Entry) : IO Unit := do
  if e.shownAt level then
    match e with
    | .printed line =>
        IO.println line
        (← IO.getStdout).flush
    | .log n text => record (Level.name n ++ " " ++ text)
    | .listenerFailed listener _ => record ("ERROR listener failed: " ++ listener)
    | .slept seconds | .waited seconds =>
        pause (milliseconds (.float seconds))
    | .threadDied (.fault f) => record ("ERROR the loop died: " ++ f.message)
    | _ => return ()

/-- Plays a run, of which so many entries have been carried out over these answers. -/
partial def play {α : Type} (device : IO.Ref (Option Device)) (level : Int) (x : Run Site α)
    (w : Site) (answers : List Answer) (done : Nat) : IO (Except Halt α × Site) := do
  let r := x { w with port := { w.port with library := Dialogue.ofAnswers answers } }
  match r.state.port.library.wanted with
  | none =>
      (r.trace.drop done).forM (carryOut level)
      return (r.result, r.state)
  | some call =>
      let now := r.trace.throughCall answers.length
      (now.drop done).forM (carryOut level)
      let a ← answer device call
      play device level x w (answers ++ [a]) now.length

/-- Plays the watch while the loop lives. -/
partial def watch (device : IO.Ref (Option Device)) (level : Int)
    (port : Port (SerialLine Dialogue)) (asked reported : Bool) (w : Site) : IO Site := do
  let (ending, w) ← play device level (Session.beat port asked 1 reported) w [] 0
  match ending with
  | .ok reported =>
      if w.courier.control.thread.isAlive then watch device level port asked reported w
      else return w
  | .error _ => return w

/-- Plays a session from the making of the courier to its end. -/
def serve (level : Int) (options : Options) (port : SerialPort) (courier : Courier) :
    IO (Except Halt Unit) := do
  let device ← IO.mkRef none
  let line := port.port Dialogue.library
  let start := Session.opening options courier (Dialogue.ofAnswers [])
  let (ending, w) ← play device level (Session.launch line options) start [] 0
  match ending with
  | .ok () =>
      let w ← watch device level line options.serial false w
      return (← play device level (Session.conclude line) w [] 0).1
  | .error h => return .error h

/-- How settings files are read: integers have 4300 digits at most, and values are nested a
thousand levels deep. -/
def json : JsonLibrary where
  limits := ⟨some 4300, some 1000⟩
  refusal _ := "the text is no JSON"

/-- What stands at a path. -/
def contentAt (path : String) : IO FileContent := do
  try
    return .bytes (← IO.FS.readBinFile path)
  catch
    | .noFileOrDirectory .. => return .missing
    | .inappropriateType .. => return .directory
    | e => throw e

/-- The status that the program ends with. -/
def status : Except Halt Unit → IO UInt32
  | .ok () => return 0
  | .error (.exit (.int n)) => return UInt32.ofNat n.toNat
  | .error (.exit v) => do
      IO.eprintln v.display
      return 1
  | .error (.fault f) => do
      IO.eprintln ("error: " ++ f.message)
      return 1

/-- The program with options that were understood. -/
def run (args : List String) (options : Options) : IO UInt32 := do
  let content ← contentAt options.config
  let made :=
    Session.prepare (some Policy.usualLongestWait) json args (fun _ => content) LogBook.fresh
  if made.state.file.isSome then IO.FS.writeFile logFile ""
  made.trace.forM (carryOut made.state.level)
  match made.result with
  | .ok (options, port, courier) => status (← serve made.state.level options port courier)
  | .error h => status (.error h)

end Program

end AcceptorHost

/-- Polls an acceptor as the arguments and the settings file say. -/
def main (args : List String) : IO UInt32 := do
  match AcceptorHost.Arguments.parse args with
  | .ok options => AcceptorHost.Program.run args options
  | .error .help => do
      AcceptorHost.Arguments.help.forM IO.println
      return 0
  | .error (.usage message) => do
      IO.eprintln AcceptorHost.Arguments.usage
      IO.eprintln ("acceptor-host: error: " ++ message)
      return 2
