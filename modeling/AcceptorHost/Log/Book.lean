import AcceptorHost.Json.Printer
import AcceptorHost.Run
import AcceptorHost.Text.UpperCase

/-!
# The log book

A log book has a threshold for the program's loggers and a file.  The loggers
of the serial library have a threshold of their own that no setting changes.
-/

namespace AcceptorHost

/-- The threshold of the program's loggers and the content of the log file, if there is one. -/
structure LogBook where
  level : Int
  file : Option String
  deriving DecidableEq, Repr

/-- What can be asked of a log book. -/
inductive LogOperation where
  | setLevel (level : Value)
  | log (level text : Value) (logger : String)
  | logJson (level payload : Value) (logger : String)
  | writeFile (text : String)
  | purge
  | fileContent
  deriving Repr

namespace LogBook

/-- The log book at the start of a program. -/
def fresh : LogBook := ⟨Level.info, none⟩

/-- A logger belongs to the serial library. -/
def isSerialLogger (logger : String) : Bool :=
  logger = "serial" || logger.toList.take 7 == "serial.".toList

/-- The threshold of a logger. -/
def threshold (b : LogBook) (logger : String) : Int :=
  if isSerialLogger logger then Level.warning else b.level

/-- The threshold is set by the name of a level, in letters of any case. -/
def setLevel (level : Value) : Run LogBook Unit :=
  match level with
  | .text s =>
      match Level.ofName? (Text.upper s) with
      | some n => Run.change fun b => { b with level := n }
      | none => Run.fail (.unknownLevel (Text.upper s))
  | _ => Run.fail .noSuchMember

/-- A record of a logger, if it is shown. -/
def record (level : Value) (text : String) (logger : String) : Run LogBook Unit :=
  match level.integer? with
  | none => Run.fail .wrongType
  | some n => do
      if Level.shows (← Run.look fun b => b.threshold logger) n then Run.log n text

/-- The log file is emptied, or made empty. -/
def purge : Run LogBook Unit := Run.change fun b => { b with file := some "" }

/-- An operation and the value it returns. -/
def perform : LogOperation → Run LogBook Value
  | .setLevel level => do
      setLevel level
      Run.give .null
  | .log level text logger => do
      record level text.display logger
      Run.give .null
  | .logJson level payload logger => do
      record level (Json.compact payload) logger
      Run.give .null
  | .writeFile text => do
      Run.change fun b => { b with file := some text }
      Run.give .null
  | .purge => do
      purge
      Run.give .null
  | .fileContent => do
      let content ← Run.look fun b => b.file
      Run.give ((content.map Value.text).getD .null)

/-- The reports of operations one after another. -/
def steps : List LogOperation → LogBook → List (Report LogBook Value)
  | [], _ => []
  | op :: rest, b =>
      let r := perform op b
      r :: steps rest r.state

end LogBook

end AcceptorHost
