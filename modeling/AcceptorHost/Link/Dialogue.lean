import AcceptorHost.Link.Port

/-!
# Dialogues

A dialogue is a serial library whose answers are known up to some call.  The
first call beyond them is noted and everything after it is idle, so a run over
a dialogue tells what to ask next, and the same run over the answers with one
more at their end goes one call further.
-/

namespace AcceptorHost

/-- Answers that are still to be given, and the first call for which there was none. -/
structure Dialogue where
  answers : List Answer
  wanted : Option SerialCall

namespace Dialogue

/-- The dialogue with answers to give. -/
def ofAnswers (answers : List Answer) : Dialogue := ⟨answers, none⟩

/-- The next answer of a dialogue. -/
def respond : Responder SerialCall Dialogue := fun c d =>
  match d.wanted, d.answers with
  | none, a :: rest => (a, ⟨rest, none⟩)
  | none, [] => (.nothing, ⟨[], some c⟩)
  | some _, _ => (.nothing, d)

/-- The dialogue as the serial library. -/
def library : SerialLibrary Dialogue := .steady respond

end Dialogue

namespace Trace

/-- The entries up to and with the serial call of a number, counted from zero. -/
def throughCall : Nat → Trace → Trace
  | _, [] => []
  | n, e :: rest =>
      match e.serialCall?, n with
      | none, n => e :: throughCall n rest
      | some _, 0 => [e]
      | some _, n + 1 => e :: throughCall n rest

end Trace

end AcceptorHost
