import AcceptorHost.Event
import AcceptorHost.Fault
import AcceptorHost.Log.Level

/-!
# Traces

A run leaves a trace: what it logged, told its listeners, asked of its port or
of the serial library, printed and waited for, in order.  The views at the end
keep one kind of entry each.
-/

namespace AcceptorHost

/-- The calls on a port. -/
inductive PortCall where
  | connect
  | disconnect
  | discard
  | send (bytes : List UInt8)
  | receive (count : Int) (timeout : Value)
  deriving DecidableEq, Repr

/-- The calls on the serial library. -/
inductive SerialCall where
  | acquire (url baud timeout : Value)
  | resetInput
  | resetOutput
  | write (bytes : List UInt8)
  | drain
  | read (count : Int)
  | release
  | setTimeout (timeout : Value)
  deriving DecidableEq, Repr

/-- What a run leaves behind, one thing at a time. -/
inductive Entry where
  /-- A log record. -/
  | log (level : Int) (text : String)
  /-- The log record of a listener that failed on an event. -/
  | listenerFailed (listener : String) (event : Event)
  /-- A listener hears an event. -/
  | heard (listener : String) (event : Event)
  /-- A listener has acted, and this is what came of it. -/
  | acted (listener : String) (outcome : Except Halt Value)
  /-- A call on the port. -/
  | port (call : PortCall)
  /-- A call on the serial library. -/
  | serial (call : SerialCall)
  /-- A pause of so many seconds. -/
  | slept (seconds : Binary64)
  /-- The loop waits so many seconds for a stop. -/
  | waited (seconds : Binary64)
  /-- A signal to a user interface. -/
  | signal (signal : Signal)
  /-- A line on the console. -/
  | printed (line : String)
  /-- The console session waits so many seconds. -/
  | watched (seconds : Binary64)
  /-- The loop's thread ended with this. -/
  | threadDied (cause : Halt)

/-- A trace is a list of entries, the oldest first. -/
abbrev Trace := List Entry

namespace Entry

/-- The level of a log record. -/
def logLevel? : Entry → Option Int
  | .log level _ => some level
  | .listenerFailed _ _ => some Level.error
  | _ => none

/-- An entry is shown at a threshold; only log records can be held back. -/
def shownAt (threshold : Int) (e : Entry) : Bool :=
  match e.logLevel? with
  | some level => Level.shows threshold level
  | none => true

/-- The call on the port that an entry records. -/
def portCall? : Entry → Option PortCall
  | .port c => some c
  | _ => none

/-- The call on the serial library that an entry records. -/
def serialCall? : Entry → Option SerialCall
  | .serial c => some c
  | _ => none

/-- The line that an entry printed. -/
def line? : Entry → Option String
  | .printed s => some s
  | _ => none

end Entry

namespace Trace

/-- The calls on the port. -/
def portCalls (t : Trace) : List PortCall := t.filterMap Entry.portCall?

/-- The events that a listener heard. -/
def heardBy (listener : String) (t : Trace) : List Event :=
  t.filterMap fun
    | .heard l e => if l = listener then some e else none
    | _ => none

/-- The entries that are shown at a threshold. -/
def shownAt (threshold : Int) (t : Trace) : Trace := t.filter (Entry.shownAt threshold)

/-- The printed lines. -/
def lines (t : Trace) : List String := t.filterMap Entry.line?

@[simp] theorem portCalls_append
    (s t : Trace) :
    portCalls (s ++ t) = portCalls s ++ portCalls t := by
  simp [portCalls]

@[simp] theorem heardBy_append
    (listener : String)
    (s t : Trace) :
    heardBy listener (s ++ t) = heardBy listener s ++ heardBy listener t := by
  simp [heardBy]

@[simp] theorem lines_append
    (s t : Trace) :
    lines (s ++ t) = lines s ++ lines t := by
  simp [lines]

/-- Printed lines are shown at every threshold. -/
@[simp] theorem lines_shownAt
    (threshold : Int)
    (t : Trace) :
    lines (t.shownAt threshold) = lines t := by
  induction t with
  | nil =>
      rfl
  | cons e rest ih =>
      cases e with
      | printed line =>
          exact congrArg (line :: ·) ih
      | log level text =>
          unfold shownAt lines
          rw [List.filter_cons]
          split <;> exact ih
      | listenerFailed listener event =>
          unfold shownAt lines
          rw [List.filter_cons]
          split <;> exact ih
      | _ =>
          exact ih

end Trace

end AcceptorHost
