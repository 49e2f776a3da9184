import AcceptorHost.Trace

/-!
# Runs

A run starts in a state and reports the trace it left, what it returned or how
it halted, and the state it ended in.  A halt skips the rest of a run but
keeps its trace and its state.  `handle` continues after a halt, `attempt`
turns the ending into a value, and `always` adds what happens at either end.
-/

namespace AcceptorHost

/-- What a run reports. -/
structure Report (S α : Type) where
  trace : Trace
  result : Except Halt α
  state : S

/-- A computation over a state that can halt and leaves a trace. -/
def Run (S α : Type) : Type := S → Report S α

namespace Run

variable {S α β : Type}

/-- The run that returns a value at once. -/
def give (a : α) : Run S α := fun s => ⟨[], .ok a, s⟩

/-- One run after another; the second one is skipped if the first halts. -/
def andThen (x : Run S α) (f : α → Run S β) : Run S β := fun s =>
  let r := x s
  match r.result with
  | .ok a =>
      let q := f a r.state
      ⟨r.trace ++ q.trace, q.result, q.state⟩
  | .error h => ⟨r.trace, .error h, r.state⟩

instance : Monad (Run S) where
  pure := give
  bind := andThen

/-- The run that halts. -/
def halt (h : Halt) : Run S α := fun s => ⟨[], .error h, s⟩

/-- The run that fails. -/
def fail (f : Fault) : Run S α := halt (.fault f)

/-- The run of a computation that returns or fails. -/
def ofExcept : Except Fault α → Run S α
  | .ok a => give a
  | .error f => fail f

/-- The run that leaves one entry. -/
def emit (e : Entry) : Run S Unit := fun s => ⟨[e], .ok (), s⟩

/-- The run that logs a text. -/
def log (level : Int) (text : String) : Run S Unit := emit (.log level text)

/-- The run that returns what it sees in the state. -/
def look (f : S → α) : Run S α := fun s => ⟨[], .ok (f s), s⟩

/-- The run that changes the state. -/
def change (f : S → S) : Run S Unit := fun s => ⟨[], .ok (), f s⟩

/-- A run whose halt is taken up by another run. -/
def handle (x : Run S α) (f : Halt → Run S α) : Run S α := fun s =>
  let r := x s
  match r.result with
  | .ok a => ⟨r.trace, .ok a, r.state⟩
  | .error h =>
      let q := f h r.state
      ⟨r.trace ++ q.trace, q.result, q.state⟩

/-- A run whose ending is returned as a value. -/
def attempt (x : Run S α) : Run S (Except Halt α) := fun s =>
  let r := x s
  ⟨r.trace, .ok r.result, r.state⟩

/-- A run followed by another one however it ends; a halt of the second one takes precedence. -/
def always (x : Run S α) (y : Run S Unit) : Run S α := do
  let ending ← attempt x
  y
  match ending with
  | .ok a => give a
  | .error h => halt h

/-- A run on a part of the state. -/
def within {T : Type} (get : S → T) (set : T → S → S) (x : Run T α) : Run S α := fun s =>
  let r := x (get s)
  ⟨r.trace, r.result, set r.state s⟩

end Run

end AcceptorHost
