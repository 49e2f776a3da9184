import AcceptorHost.Courier.Basic
import AcceptorHost.Json.Printer
import AcceptorHost.Wire.SerialNumber

/-!
# One tick

A tick takes at most one request, makes one exchange with the acceptor and
accounts for it.  A port that is not open is opened first.  No reply in time
and a link that is down are counted as failures, the latter after closing the
port; any other fault is logged and counted too.  From the retry limit on every
further failure in a row is told to the listeners.
-/

namespace AcceptorHost

namespace World

variable {σ τ : Type}

/-- The rest that an acceptor needs after a reset: 0.5 s. -/
def resetRest : Binary64 := Binary64.ofRatio false 1 2

/-- Where the serial number starts in a reply. -/
def serialNumberOffset : Nat := 3

/-- A line of JSON in the log. -/
def logFields (level : Int) (fields : List (String × Value)) : Run (World σ τ) Unit :=
  Run.log level (Json.compact (.record fields))

/-- An event is told to the listeners that are registered now. -/
def fire (deliver : Deliver σ τ) (event : Event) : Run (World σ τ) Unit := do
  let snapshot ← ask fun c => c.listeners.listeners
  Run.dispatch Listener.name deliver event snapshot

/-- The command that a builder makes of the codec, which turns over. -/
def command (build : Courier → List UInt8) : Run (World σ τ) (List UInt8) := do
  let bytes ← ask build
  change fun c => { c with codec := c.codec.turned }
  Run.give bytes

/-- A command is shown to the listeners and sent. -/
def transmit (port : Port σ) (deliver : Deliver σ τ) (bytes : List UInt8) :
    Run (World σ τ) Unit := do
  fire deliver (.traffic .sent (HexText.spaced bytes))
  onPort (port.send bytes)

/-- A reply is received and shown to the listeners; one that is no frame is dropped. -/
def collect (port : Port σ) (deliver : Deliver σ τ) : Run (World σ τ) (List UInt8) := do
  let timeout ← ask fun c => c.policy.timeout
  match ← onPort (port.receive Frame.replySize timeout) with
  | none => Run.fail .wrongType
  | some reply => do
      fire deliver (.traffic .received (HexText.spaced reply))
      if Frame.accepts reply then Run.give reply
      else do
        onPort port.discard
        Run.log Level.debug
          ("Invalid data received, flushed port and ignoring data: " ++ HexText.spaced reply)
        Run.give []

/-- The name on a bill event; a name without content is not known. -/
def shownName (name : Value) : Value := if name.truth then name else .text "Unknown"

/-- What the listeners are told of a device event. -/
def eventOf (reply : Reply) : DeviceEvent → Event
  | .credit => .credit (shownName reply.billName) reply.raw
  | .escrowed => .escrowed (shownName reply.billName) reply.raw
  | kind => .device kind reply.raw

/-- Events are told one after another. -/
def fireAll (deliver : Deliver σ τ) : List Event → Run (World σ τ) Unit
  | [] => Run.give ()
  | e :: rest => do
      fire deliver e
      fireAll deliver rest

/-- The exchange of a normal poll. -/
def pollState (port : Port σ) (deliver : Deliver σ τ) : Run (World σ τ) Unit := do
  let bytes ← command fun c => c.codec.normalCommand c.record.creditAction
  transmit port deliver bytes
  let reply ← collect port deliver
  if reply.isEmpty then Run.give ()
  else do
    let packet ← ask fun c => Reply.decode c.codec reply
    record fun r => r.updated packet
    fireAll deliver (packet.events.map (eventOf packet))

/-- The exchange of a reset: the acceptor restarts without a reply and needs a rest. -/
def resetAcceptor (port : Port σ) (deliver : Deliver σ τ) : Run (World σ τ) Unit := do
  Run.log Level.info "Reset command being sent"
  let bytes ← command fun c => c.codec.resetCommand
  transmit port deliver bytes
  onPort port.disconnect
  Run.emit (.slept resetRest)
  onPort port.connect
  Run.log Level.info "Acceptor reset performed"

/-- The exchange of a query for the serial number. -/
def queryIdentity (port : Port σ) (deliver : Deliver σ τ) : Run (World σ τ) Unit := do
  Run.log Level.debug "Serial number command being sent"
  let bytes ← command fun c => c.codec.identityCommand
  transmit port deliver bytes
  let reply ← collect port deliver
  if reply.length < serialNumberOffset + SerialNumber.size then
    Run.log Level.warning
      ("Invalid serial number response: "
        ++ (if reply.isEmpty then "<empty>" else HexText.spaced reply))
  else do
    let unsigned ← ask fun c => c.policy.unsignedSerial
    let text ← Run.ofExcept
      (SerialNumber.ofBytes unsigned ((reply.drop serialNumberOffset).take SerialNumber.size))
    record fun r => { r with serialNumber := some text }
    logFields Level.info [("event", .text "serial_number"), ("value", .text text)]

/-- The exchange that a request asks for. -/
def serve (port : Port σ) (deliver : Deliver σ τ) : Option Request → Run (World σ τ) Unit
  | some .identity => queryIdentity port deliver
  | some .reset => resetAcceptor port deliver
  | none => pollState port deliver

/-- The port is opened unless it is open. -/
def ensureOpen (port : Port σ) : Run (World σ τ) Unit := do
  if ← Run.look fun w : World σ τ => port.isOpen w.port then Run.give ()
  else onPort port.connect

/-- What a failed exchange leads to; the result says that the exchange has failed. -/
def recover (port : Port σ) : Halt → Run (World σ τ) Bool
  | .fault (.noReply text) => do
      Run.log Level.error ("Acceptor did not respond: " ++ text)
      Run.give false
  | .fault (.linkDown text) => do
      Run.log Level.error ("Serial link fault: " ++ text)
      onPort port.disconnect
      Run.give false
  | .fault _ => do
      Run.log Level.error "Unexpected error in courier tick"
      Run.give false
  | h => Run.halt h

/-- One exchange; the result says whether it was completed. -/
def exchange (port : Port σ) (deliver : Deliver σ τ) (request : Option Request) :
    Run (World σ τ) Bool :=
  Run.handle
    (do
      ensureOpen port
      serve port deliver request
      Run.give true)
    (recover port)

/-- The health of the link after an exchange. -/
def account (deliver : Deliver σ τ) (completed : Bool) : Run (World σ τ) Unit := do
  record fun r =>
    { r with healthy := completed, failures := if completed then 0 else r.failures + 1 }
  if completed then Run.give ()
  else do
    let count ← ask fun c => c.record.failures
    let limit ← ask fun c => c.policy.retryLimit
    if ← Run.ofExcept (Policy.reached limit count) then do
      logFields Level.warning [("event", .text "connection_failure"), ("count", .int count)]
      fire deliver (.connectionFailure count)

/-- One tick. -/
def tick (port : Port σ) (deliver : Deliver σ τ) : Run (World σ τ) Unit := do
  let request ← takeRequest
  let completed ← exchange port deliver request
  account deliver completed

end World

end AcceptorHost
