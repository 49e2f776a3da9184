import AcceptorHost.Courier.Operation

/-!
# Listeners that act

A member of an audience has a plan: what it does when it is called for the
first time, the second time, and so on.  It may fail, or ask for operations of
the courier that is calling it, which may call it again.  Each call with
something to do uses up a part of the plans, so `Audience.depth` bounds how
deep calls can be nested.
-/

namespace AcceptorHost

/-- One thing that a listener does when called. -/
inductive Reaction where
  /-- It halts. -/
  | halts (h : Halt)
  /-- It asks for an operation. -/
  | performs (op : Operation)
  deriving Repr

/-- A listener with what it will do at its coming calls. -/
structure Member where
  listener : Listener
  plan : List (List Reaction)
  deriving Repr

/-- The listeners that act. -/
abbrev Audience := List Member

namespace Audience

/-- What a name does at its next call, and the audience after it. -/
def next (name : String) : Audience → List Reaction × Audience
  | [] => ([], [])
  | m :: rest =>
      if m.listener.name = name then
        match m.plan with
        | [] => ([], m :: rest)
        | now :: later => (now, { m with plan := later } :: rest)
      else
        let r := next name rest
        (r.1, m :: r.2)

/-- How many calls with something planned are left. -/
def depth : Audience → Nat
  | [] => 0
  | m :: rest => m.plan.length + depth rest

end Audience

namespace World

variable {σ : Type}

/-- Reactions one after another; the ending of an operation is noted and nothing more. -/
def react (act : Operation → Run (World σ Audience) Value) (who : String) :
    List Reaction → Run (World σ Audience) Unit
  | [] => Run.give ()
  | .halts h :: _ => Run.halt h
  | .performs op :: rest => do
      let outcome ← Run.attempt (act op)
      Run.emit (.acted who outcome)
      react act who rest

/-- A listener hears an event and does what it planned for this call. -/
def hear (act : Operation → Run (World σ Audience) Value) : Deliver σ Audience :=
  fun l event => do
    Run.emit (.heard l.name event)
    let (now, rest) ← Run.look fun w : World σ Audience => w.audience.next l.name
    Run.change fun w : World σ Audience => { w with audience := rest }
    react act l.name now

/-- A listener hears an event and does nothing. -/
def hearOnly : Deliver σ Audience := fun l event => Run.emit (.heard l.name event)

/-- An operation whose listeners may act, so many calls deep. -/
def performNested (port : Port σ) : Nat → Operation → Run (World σ Audience) Value
  | 0 => perform port hearOnly
  | depth + 1 => perform port (hear (performNested port depth))

/-- An operation whose listeners may act. -/
def step (port : Port σ) (op : Operation) : Run (World σ Audience) Value := fun w =>
  performNested port (w.audience.depth + 1) op w

/-- The reports of operations one after another; each starts where the last one ended. -/
def steps (port : Port σ) :
    List Operation → World σ Audience → List (Report (World σ Audience) Value)
  | [], _ => []
  | op :: rest, w =>
      let r := step port op w
      r :: steps port rest r.state

end World

end AcceptorHost
