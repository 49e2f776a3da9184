import AcceptorHost.Console.Arguments
import AcceptorHost.Console.EventPrinter
import AcceptorHost.Courier.Loop
import AcceptorHost.Log.Book
import AcceptorHost.Settings

/-!
# A console session

A session reads its arguments and its settings, starts a courier whose events
it prints, and watches it at a fixed pace until it is interrupted.  Once the
serial number that was asked for is known, it prints one line about the
device.  However the watch ends, the courier is asked to stop.
-/

namespace AcceptorHost

namespace Session

variable {σ : Type}

/-- The pace of the watch: 0.25 s. -/
def pace : Binary64 := Binary64.ofRatio false 1 4

/-- The printer as a listener. -/
def listener : Listener := ⟨"printer", .text "printer"⟩

/-- A text on the console, one entry a line. -/
def printLines {S : Type} : List String → Run S Unit
  | [] => Run.give ()
  | line :: rest => do
      Run.emit (.printed line)
      printLines rest

/-- A text on the console. -/
def print {S : Type} (text : String) : Run S Unit := printLines (text.splitOn "\n")

/-- The printer hears an event. -/
def deliver : Deliver σ EventPrinter := fun _ e => do
  let (printer, line) ← Run.look fun w : World σ EventPrinter => w.audience.hear e
  Run.change fun w : World σ EventPrinter => { w with audience := printer }
  match line with
  | some text => print text
  | none => Run.give ()

/-- The line about the device. -/
def statusLine (r : Record) (serialNumber : String) : String :=
  "[STATUS] model " ++ r.modelText ++ ", firmware " ++ r.firmwareText ++ ", serial "
    ++ serialNumber

/-- The line about the device is printed once its serial number is known; the result says whether
it was. -/
def report (asked reported : Bool) : Run (World σ EventPrinter) Bool := do
  let r ← World.ask Courier.record
  match r.serialNumber with
  | some text =>
      if asked && !reported && !text.isEmpty then do
        print (statusLine r text)
        Run.give true
      else Run.give reported
  | none => Run.give reported

/-- The start of the session: the printer listens, the requests are left, the loop is started. -/
def launch (port : Port σ) (options : Options) : Run (World σ EventPrinter) Unit := do
  World.listeners (Registry.subscribe listener)
  if options.reset then World.request .reset else Run.give ()
  if options.serial then World.request .identity else Run.give ()
  World.start port
  print "Press Ctrl+C to exit."

/-- So many passes of the loop. -/
def passes (port : Port σ) : Nat → Run (World σ EventPrinter) Unit
  | 0 => Run.give ()
  | n + 1 => do
      World.pass port deliver
      passes port n

/-- The passes of the loop during one wait of the watch, and the look at the device after it. -/
def beat (port : Port σ) (asked : Bool) (n : Nat) (reported : Bool) :
    Run (World σ EventPrinter) Bool := do
  passes port n
  report asked reported

/-- How often the loop passes in the waits of a watch: in those that end, and in the last one. -/
structure Schedule where
  ended : List Nat
  interrupted : Nat
  deriving DecidableEq, Repr

/-- The watch over the waits that end. -/
def watch (port : Port σ) (asked : Bool) : List Nat → Bool → Run (World σ EventPrinter) Unit
  | [], _ => Run.give ()
  | n :: rest, reported => do
      Run.emit (.watched pace)
      let reported ← beat port asked n reported
      watch port asked rest reported

/-- The watch up to the interrupt, which ends its last wait. -/
def watchAll (port : Port σ) (asked : Bool) (schedule : Schedule) :
    Run (World σ EventPrinter) Unit := do
  watch port asked schedule.ended false
  Run.emit (.watched pace)
  passes port schedule.interrupted

/-- The end of the session: the courier is asked to stop. -/
def conclude (port : Port σ) : Run (World σ EventPrinter) Unit := do
  let _ ← World.requestStop port false

/-- The session from the making of the courier to its end. -/
def serve (port : Port σ) (options : Options) (schedule : Schedule) :
    Run (World σ EventPrinter) Unit := do
  launch port options
  Run.always (watchAll port options.serial schedule) (conclude port)

/-- How refused arguments end the program. -/
def refusalHalt : Refusal → Halt
  | .help => .exit (.int 0)
  | .usage _ => .exit (.int 2)

/-- The options of a program's arguments. -/
def readArguments (args : List String) : Run LogBook Options :=
  match Arguments.parse args with
  | .ok options => Run.give options
  | .error r => Run.halt (refusalHalt r)

/-- The session up to the making of the courier. -/
def prepare (longestWait : Option Binary64) (json : JsonLibrary) (args : List String)
    (files : String → FileContent) : Run LogBook (Options × SerialPort × Courier) := do
  let options ← readArguments args
  LogBook.setLevel (.text options.logLevel)
  if options.purgeLog then LogBook.purge else Run.give ()
  let settings ← Settings.load json options.config (files options.config)
  let (port, courier) ← Run.ofExcept (settings.build longestWait)
  Run.give (options, port, courier)

/-- What a session leaves behind. -/
structure Outcome (σ : Type) where
  trace : Trace
  result : Except Halt Unit
  book : LogBook
  world : Option (World (SerialLine σ) EventPrinter)
  port : Option SerialPort

/-- The world of a session at its start. -/
def opening (options : Options) (courier : Courier) (library : σ) :
    World (SerialLine σ) EventPrinter :=
  ⟨courier, ⟨none, library⟩, EventPrinter.fresh options.traffic⟩

/-- A whole session, with the log records that pass its level. -/
def run (longestWait : Option Binary64) (json : JsonLibrary) (args : List String)
    (files : String → FileContent) (book : LogBook) (lib : SerialLibrary σ) (library : σ)
    (schedule : Schedule) : Outcome σ :=
  let made := prepare longestWait json args files book
  match made.result with
  | .error h =>
      { trace := made.trace.shownAt made.state.level
        result := .error h
        book := made.state
        world := none
        port := none }
  | .ok (options, port, courier) =>
      let served := serve (port.port lib) options schedule (opening options courier library)
      { trace := (made.trace ++ served.trace).shownAt made.state.level
        result := served.result
        book := made.state
        world := some served.state
        port := some port }

end Session

end AcceptorHost
