import AcceptorHost.Event
import AcceptorHost.Text.Display
import AcceptorHost.Text.UpperCase

/-!
# Events on the console

The acceptor reports its whole state in every reply, so states are printed
only when their label changes.  Credits and failures of the link are always
printed; a failure also makes the printer forget its label.  Traffic is
printed on demand, and values that are no events are passed over.
-/

namespace AcceptorHost

/-- A printer of events, with the label of the last state it printed. -/
structure EventPrinter where
  showTraffic : Bool
  lastLabel : Option String
  deriving DecidableEq, Repr

namespace EventPrinter

/-- A printer that has printed nothing. -/
def fresh (showTraffic : Bool) : EventPrinter := ⟨showTraffic, none⟩

/-- The label of an event that is a state. -/
def label? : Event → Option String
  | .escrowed name _ => some ("Escrowed:" ++ name.display)
  | .device kind _ => some kind.label
  | _ => none

/-- The line of an event. -/
def line : Event → String
  | .connectionFailure count => "[COMMS] no response for " ++ Value.intText count ++ " polls"
  | .traffic direction data => "[" ++ Text.upper direction.label ++ "] " ++ data
  | .credit name _ => "[CREDIT] " ++ name.display
  | .escrowed name _ => "[EVENT] ESCROWED (" ++ name.display ++ ")"
  | .device .cassetteRemoved _ => "[EVENT] CASSETTE REMOVED"
  | .device kind _ => "[EVENT] " ++ kind.label
  | .foreign _ => ""

/-- The printer after an event, and the line it prints, if it prints one. -/
def hear (p : EventPrinter) (e : Event) : EventPrinter × Option String :=
  match e with
  | .traffic _ _ => (p, if p.showTraffic then some (line e) else none)
  | .credit _ _ => (p, some (line e))
  | .connectionFailure _ => ({ p with lastLabel := none }, some (line e))
  | .foreign _ => (p, none)
  | .escrowed _ _ | .device _ _ =>
      if p.lastLabel = label? e then (p, none)
      else ({ p with lastLabel := label? e }, some (line e))

/-- The printers after each of a row of events, with what each event printed. -/
def hearAll (p : EventPrinter) : List Event → List (EventPrinter × Option String)
  | [] => []
  | e :: rest =>
      let r := p.hear e
      r :: hearAll r.1 rest

end EventPrinter

end AcceptorHost
