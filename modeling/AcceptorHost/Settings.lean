import AcceptorHost.Courier.Basic
import AcceptorHost.Json.Printer
import AcceptorHost.Json.Reader
import AcceptorHost.Link.SerialPort
import AcceptorHost.Text.Lines

/-!
# Settings files

A settings file holds one JSON object whose block `apex` names a port and may
set the rest.  Each setting goes through its own conversion, in a fixed order,
and the names of the bills are counted last.  A file that cannot be read or
misses what it needs is reported on the console and ends the program with
status one; a value that a conversion refuses is a fault.
-/

namespace AcceptorHost

/-- What stands at a path. -/
inductive FileContent where
  | missing
  | directory
  | bytes (bs : ByteArray)

/-- The words of a failure to find the file of a path. -/
def missingWords (path : String) : String :=
  "[Errno 2] No such file or directory: " ++ Text.quoted path

/-- A JSON library: the limits of its reader, and the words in which it refuses a text that is
no JSON. -/
structure JsonLibrary where
  limits : Json.Limits
  refusal : String → String

/-- The settings of a host. -/
structure Settings where
  portName : Value
  baudRate : Int
  pollIntervalMs : Int
  pollRetryLimit : Int
  timeoutMs : Int
  enabledBills : Int
  billNames : List Value
  maskSerialNumber : Bool
  seven_names : billNames.length = 7
  deriving DecidableEq

namespace Settings

variable {S α : Type}

/-- The lines of a report on the console, and the end of the program with status one. -/
def refuse : List String → Run S α
  | [] => Run.halt (.exit (.int 1))
  | line :: rest => do
      Run.emit (.printed line)
      refuse rest

/-- The end of the program over a file that cannot be read, with the words of what failed. -/
def refuseFile (path words : String) : Run S α :=
  refuse
    ["Error: Could not load or parse " ++ path ++ ". " ++ words,
     "Please ensure 'config.json' exists and is correctly formatted."]

/-- The end of the program over a file without the block it needs. -/
def refuseBlock (path : String) : Run S α :=
  refuse ["Error: an 'apex' block with 'port_name' is required in " ++ path ++ "."]

/-- The end of the program over a wrong count of names. -/
def refuseNames : Run S α :=
  refuse ["Error: 'bill_names' must list exactly 7 names (bill index 1..7)."]

/-- How a flaw of its text ends the reading of a file: only a text that is no JSON is reported. -/
def refuseText (json : JsonLibrary) (path text : String) : Json.Flaw → Run S α
  | .malformed => refuseFile path (json.refusal text)
  | .digits limit count => Run.fail (.tooManyDigits limit count)
  | .depth => Run.fail .nestedTooDeep

/-- The value that a file holds. -/
def readValue (json : JsonLibrary) (path : String) : FileContent → Run S Value
  | .missing => refuseFile path (missingWords path)
  | .directory => Run.fail .isDirectory
  | .bytes bs =>
      match String.fromUTF8? bs with
      | none => Run.fail .undecodable
      | some text =>
          let text := String.ofList (Text.uniformLines text.toList)
          match Json.parse json.limits text with
          | .error flaw => refuseText json path text flaw
          | .ok v => Run.give v

/-- The block of settings with a port name that counts, if the value has one. -/
def block? (v : Value) : Option (Value × List (String × Value)) :=
  match v.field? "apex" with
  | some (.record fields) =>
      match Value.lookup "port_name" fields with
      | some name => if name.truth then some (name, fields) else none
      | none => none
  | _ => none

/-- The integer of a field, or a usual one. -/
def intField (limits : Json.Limits) (fields : List (String × Value)) (name : String)
    (usual : Int) : Run S Int :=
  match Value.lookup name fields with
  | none => Run.give usual
  | some v => Run.ofExcept (v.whole limits.digits)

/-- The names of the bills, or the usual ones. -/
def namesField (fields : List (String × Value)) : Run S (List Value) :=
  match Value.lookup "bill_names" fields with
  | none => Run.give Codec.usualBillNames
  | some v =>
      match v.members? with
      | none => Run.fail .wrongType
      | some names => Run.give names

/-- The settings of a block. -/
def ofBlock (limits : Json.Limits) (portName : Value) (fields : List (String × Value)) :
    Run S Settings := do
  let baudRate ← intField limits fields "baud_rate" 9600
  let pollIntervalMs ← intField limits fields "poll_interval_ms" 100
  let pollRetryLimit ← intField limits fields "poll_retry_limit" 5
  let timeoutMs ← intField limits fields "timeout_ms" 250
  let enabledBills ← intField limits fields "enabled_bills" 0x7F
  let billNames ← namesField fields
  let mask := ((Value.lookup "mask_serial_number" fields).map Value.truth).getD false
  if h : billNames.length = 7 then
    Run.give
      { portName := portName
        baudRate := baudRate
        pollIntervalMs := pollIntervalMs
        pollRetryLimit := pollRetryLimit
        timeoutMs := timeoutMs
        enabledBills := enabledBills
        billNames := billNames
        maskSerialNumber := mask
        seven_names := h }
  else refuseNames

/-- The settings of a value read from a path; only a record can be asked for its block. -/
def ofValue (limits : Json.Limits) (path : String) (v : Value) : Run S Settings :=
  match v with
  | .record _ =>
      match block? v with
      | some (name, fields) => ofBlock limits name fields
      | none => refuseBlock path
  | _ => Run.fail .noSuchMember

/-- The settings of a file. -/
def load (json : JsonLibrary) (path : String) (file : FileContent) : Run S Settings := do
  let v ← readValue json path file
  ofValue json.limits path v

/-- The value that a file of these settings holds. -/
def toValue (s : Settings) : Value :=
  .record
    [("apex", .record
      [("port_name", s.portName),
       ("baud_rate", .int s.baudRate),
       ("poll_interval_ms", .int s.pollIntervalMs),
       ("poll_retry_limit", .int s.pollRetryLimit),
       ("timeout_ms", .int s.timeoutMs),
       ("enabled_bills", .int s.enabledBills),
       ("bill_names", .list s.billNames),
       ("mask_serial_number", .bool s.maskSerialNumber)])]

/-- The reply timeout in seconds. -/
def timeoutSeconds (s : Settings) : Except Fault Binary64 := (Value.int s.timeoutMs).seconds

/-- The serial port and the courier that the settings describe. -/
def build (longestWait : Option Binary64) (s : Settings) :
    Except Fault (SerialPort × Courier) := do
  let timeout ← s.timeoutSeconds
  let codec ← Codec.ofNames s.enabledBills s.billNames
  let courier ← Courier.create longestWait codec (.int s.pollIntervalMs)
    (.int s.pollRetryLimit) (.float timeout) s.maskSerialNumber
  .ok (⟨s.portName, .int s.baudRate, .float timeout⟩, courier)

end Settings

end AcceptorHost
