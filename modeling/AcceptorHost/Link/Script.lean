import AcceptorHost.Link.Port

/-!
# Scripts of answers

A script answers calls by name: each name has a queue of answers, used up one
per call.  A call whose queue is used up or absent gets nothing, except that
reads then get a default answer.
-/

namespace AcceptorHost

/-- Queues of answers by the names of calls, and the answer to reads beyond them. -/
structure Script where
  queues : List (String × List Answer)
  default : Answer
  deriving Repr

namespace Script

/-- The first answer of a name's queue, if there is one, and the queues without it. -/
def pop (name : String) :
    List (String × List Answer) → Option Answer × List (String × List Answer)
  | [] => (none, [])
  | (key, answers) :: rest =>
      if key = name then
        match answers with
        | [] => (none, (key, []) :: rest)
        | a :: more => (some a, (key, more) :: rest)
      else
        let r := pop name rest
        (r.1, (key, answers) :: r.2)

/-- The answer to a call of a name, and the script after it. -/
def answer (name : String) (isRead : Bool) (s : Script) : Answer × Script :=
  let r := pop name s.queues
  (r.1.getD (if isRead then s.default else .nothing), { s with queues := r.2 })

end Script

namespace PortCall

/-- The name of a port call in a script. -/
def word : PortCall → String
  | .connect => "open"
  | .disconnect => "close"
  | .discard => "flush"
  | .send _ => "write"
  | .receive _ _ => "read"

/-- A port call reads. -/
def isRead : PortCall → Bool
  | .receive _ _ => true
  | _ => false

end PortCall

namespace SerialCall

/-- The name of a serial call in a script. -/
def word : SerialCall → String
  | .acquire _ _ _ => "open"
  | .resetInput => "reset_input"
  | .resetOutput => "reset_output"
  | .write _ => "write"
  | .drain => "flush"
  | .read _ => "read"
  | .release => "close"
  | .setTimeout _ => "timeout"

/-- A serial call reads. -/
def isRead : SerialCall → Bool
  | .read _ => true
  | _ => false

end SerialCall

namespace Script

/-- The script as the party behind a port. -/
def portResponder : Responder PortCall Script :=
  fun c s => s.answer c.word c.isRead

/-- The script as the serial library. -/
def serialLibrary : SerialLibrary Script :=
  .steady fun c s => s.answer c.word c.isRead

end Script

end AcceptorHost
