import AcceptorHost.Courier.Basic
import AcceptorHost.Link.AnsweredPort
import AcceptorHost.Proofs.RunLaws

/-!
# What can be witnessed of a run

A trace records the calls on an answered port but not their answers.  The party
behind the port answers by its state alone, so the answers follow from the calls:
`Trace.acts` walks a trace with the state of the party and lists every call with
its answer, the events that one watched listener hears, and the pauses.
`Trace.party` is the state in which the walk leaves the party, and `Trace.line` the
line with its open flag.  All three split along a concatenation of traces.
-/

namespace AcceptorHost

namespace Answer

/-- The halt that a call ends in, if it does not return. -/
def failure? : Answer → Option Halt
  | .halts h => some h
  | _ => none

@[simp] theorem failure?_halts
    (h : Halt) :
    (Answer.halts h).failure? = some h := rfl

theorem eq_halts_of_failure?
    {a : Answer}
    {h : Halt}
    (ha : a.failure? = some h) :
    a = .halts h := by
  cases a with
  | nothing =>
      cases ha
  | bytes bs =>
      cases ha
  | halts k =>
      cases ha
      rfl

/-- The ending of a call whose value is of no interest. -/
def completion (a : Answer) : Except Halt Unit :=
  match a.failure? with
  | some h => .error h
  | none => .ok ()

theorem completion_of_success
    {a : Answer}
    (ha : a.failure? = none) :
    a.completion = .ok () := by
  simp only [completion, ha]

end Answer

/-- A call on an answered port whose value is of no interest. -/
theorem AnsweredLine.call_eq
    {σ : Type}
    (peer : Peer σ)
    (c : PortCall)
    (s : AnsweredLine σ) :
    call peer c s = ⟨[.port c], (peer c s.party).1.completion, s.after peer c⟩ := by
  have hresult : (ask peer c s).result = (peer c s.party).1.ending := rfl
  unfold call
  cases ha : (peer c s.party).1 with
  | halts h =>
      rw [ha] at hresult
      exact Run.bind_of_error hresult
  | _ =>
      rw [ha] at hresult
      exact Run.bind_of_ok hresult

/-- What can be witnessed of a run. -/
inductive Act where
  /-- A call on the port, with its answer. -/
  | called (c : PortCall) (a : Answer)
  /-- The watched listener hears an event. -/
  | told (e : Event)
  /-- A pause of so many seconds. -/
  | slept (seconds : Binary64)
  /-- The loop waits so many seconds for a stop. -/
  | waited (seconds : Binary64)
  deriving DecidableEq, Repr

namespace Act

/-- The call of an act, with its answer. -/
def call? : Act → Option (PortCall × Answer)
  | .called c a => some (c, a)
  | _ => none

/-- The event that an act tells. -/
def event? : Act → Option Event
  | .told e => some e
  | _ => none

/-- The bytes that an act reads. -/
def reply? : Act → Option (List UInt8)
  | .called (.receive _ _) (.bytes x) => some x
  | _ => none

/-- The calls among acts, each with its answer. -/
def calls (acts : List Act) : List (PortCall × Answer) := acts.filterMap call?

/-- The events among acts. -/
def events (acts : List Act) : List Event := acts.filterMap event?

/-- The replies that are read in acts. -/
def replies (acts : List Act) : List (List UInt8) := acts.filterMap reply?

/-- Whether the port of a steady peer is open after an act. -/
def opens (isOpen : Bool) : Act → Bool
  | .called c a => c.opens a isOpen
  | _ => isOpen

@[simp] theorem calls_nil :
    calls [] = [] := List.filterMap_nil

@[simp] theorem calls_called
    (c : PortCall)
    (a : Answer)
    (rest : List Act) :
    calls (.called c a :: rest) = (c, a) :: calls rest := rfl

@[simp] theorem calls_slept
    (x : Binary64)
    (rest : List Act) :
    calls (.slept x :: rest) = calls rest := List.filterMap_cons_none rfl

@[simp] theorem calls_append
    (a b : List Act) :
    calls (a ++ b) = calls a ++ calls b := by
  simp [calls]

@[simp] theorem events_called
    (c : PortCall)
    (a : Answer)
    (rest : List Act) :
    events (.called c a :: rest) = events rest := rfl

@[simp] theorem events_slept
    (x : Binary64)
    (rest : List Act) :
    events (.slept x :: rest) = events rest := List.filterMap_cons_none rfl

@[simp] theorem events_nil :
    events [] = [] := rfl

@[simp] theorem events_append
    (a b : List Act) :
    events (a ++ b) = events a ++ events b := by
  simp [events]

@[simp] theorem replies_nil :
    replies [] = [] := rfl

theorem replies_called
    {c : PortCall}
    (hc : ∀ n t, c ≠ .receive n t)
    (a : Answer)
    (rest : List Act) :
    replies (.called c a :: rest) = replies rest := by
  cases c with
  | receive n t =>
      exact absurd rfl (hc n t)
  | _ =>
      rfl

@[simp] theorem replies_append
    (a b : List Act) :
    replies (a ++ b) = replies a ++ replies b := by
  simp [replies]

end Act

variable {σ : Type}

namespace Entry

/-- The party behind the port after an entry. -/
def party (respond : Responder PortCall σ) : Entry → σ → σ
  | .port c, s => (respond c s).2
  | _, s => s

/-- The line of an answered port after an entry. -/
def line (peer : Peer σ) : Entry → AnsweredLine σ → AnsweredLine σ
  | .port c, l => l.after peer c
  | _, l => l

theorem party_line
    (peer : Peer σ)
    (e : Entry)
    (l : AnsweredLine σ) :
    (e.line peer l).party = e.party peer l.party := by
  cases e <;> rfl

/-- The acts of an entry. -/
def acts (respond : Responder PortCall σ) (watch : Option String) : Entry → σ → List Act
  | .port c, s => [.called c (respond c s).1]
  | .heard l e, _ => if watch = some l then [.told e] else []
  | .slept x, _ => [.slept x]
  | .waited x, _ => [.waited x]
  | _, _ => []

end Entry

namespace Trace

/-- The party behind the port after a trace. -/
def party (respond : Responder PortCall σ) : Trace → σ → σ
  | [], s => s
  | e :: rest, s => party respond rest (e.party respond s)

/-- The acts of a trace, from the party's state at its start. -/
def acts (respond : Responder PortCall σ) (watch : Option String) : Trace → σ → List Act
  | [], _ => []
  | e :: rest, s => e.acts respond watch s ++ acts respond watch rest (e.party respond s)

theorem party_append
    (respond : Responder PortCall σ)
    (t u : Trace)
    (s : σ) :
    party respond (t ++ u) s = party respond u (party respond t s) := by
  induction t generalizing s with
  | nil =>
      rfl
  | cons e rest ih =>
      exact ih (e.party respond s)

theorem acts_append
    (respond : Responder PortCall σ)
    (watch : Option String)
    (t u : Trace)
    (s : σ) :
    acts respond watch (t ++ u) s =
      acts respond watch t s ++ acts respond watch u (party respond t s) := by
  induction t generalizing s with
  | nil =>
      rfl
  | cons e rest ih =>
      simp only [List.cons_append, acts, party, ih, List.append_assoc]

/-- The line of an answered port after a trace. -/
def line (peer : Peer σ) : Trace → AnsweredLine σ → AnsweredLine σ
  | [], l => l
  | e :: rest, l => line peer rest (e.line peer l)

theorem line_append
    (peer : Peer σ)
    (t u : Trace)
    (l : AnsweredLine σ) :
    line peer (t ++ u) l = line peer u (line peer t l) := by
  induction t generalizing l with
  | nil =>
      rfl
  | cons e rest ih =>
      exact ih (e.line peer l)

theorem party_line
    (peer : Peer σ)
    (t : Trace)
    (l : AnsweredLine σ) :
    (line peer t l).party = party peer t l.party := by
  induction t generalizing l with
  | nil =>
      rfl
  | cons e rest ih =>
      unfold line party
      rw [ih, Entry.party_line]

/-- What is read does not depend on who is watched. -/
theorem replies_acts
    (respond : Responder PortCall σ)
    (watch : Option String)
    (t : Trace)
    (s : σ) :
    Act.replies (acts respond watch t s) = Act.replies (acts respond none t s) := by
  induction t generalizing s with
  | nil =>
      rfl
  | cons e rest ih =>
      have hentry :
          Act.replies (e.acts respond watch s) = Act.replies (e.acts respond none s) := by
        cases e with
        | heard l event =>
            by_cases hl : watch = some l <;> simp [Entry.acts, hl, Act.replies, Act.reply?]
        | _ =>
            rfl
      simp only [acts, Act.replies_append, hentry, ih]

/-- Every call is answered by the party. -/
theorem exists_of_mem_calls_acts
    {respond : Responder PortCall σ}
    {watch : Option String}
    {x : PortCall × Answer}
    (t : Trace)
    (s : σ)
    (hx : x ∈ Act.calls (acts respond watch t s)) :
    ∃ s', x.2 = (respond x.1 s').1 := by
  induction t generalizing s with
  | nil =>
      cases hx
  | cons e rest ih =>
      unfold acts at hx
      rw [Act.calls_append] at hx
      rcases List.mem_append.mp hx with hhere | hlater
      · cases e with
        | port c =>
            have heq : x = (c, (respond c s).1) := by
              simpa [Entry.acts] using hhere
            exact ⟨s, by rw [heq]⟩
        | heard l event =>
            have hnone : Act.calls ((Entry.heard l event).acts respond watch s) = [] := by
              by_cases hl : watch = some l <;> simp [Entry.acts, hl, Act.calls, Act.call?]
            rw [hnone] at hhere
            cases hhere
        | _ =>
            cases hhere
      · exact ih _ hlater

/-- What a watched listener hears is what the acts tell. -/
theorem heardBy_eq_events
    (respond : Responder PortCall σ)
    (listener : String)
    (t : Trace)
    (s : σ) :
    heardBy listener t = Act.events (acts respond (some listener) t s) := by
  induction t generalizing s with
  | nil =>
      rfl
  | cons e rest ih =>
      have hrest := ih (e.party respond s)
      simp only [heardBy] at hrest
      cases e with
      | heard l event =>
          by_cases h : l = listener
          · subst h
            simpa [heardBy, acts, Entry.acts, Act.events, Act.event?, Entry.party] using hrest
          · have h' : ¬ listener = l := fun hl => h hl.symm
            simpa [heardBy, acts, Entry.acts, Act.events, Entry.party, h, h'] using hrest
      | _ =>
          simpa [heardBy, acts, Entry.acts, Act.events, Act.event?,
            List.filterMap_cons] using hrest

end Trace

/-! ## Runs that are one call on the port -/

namespace World

variable {τ α β : Type}

theorem onPort_bind
    {S : Type}
    (x : Run S α)
    (f : α → Run S β) :
    (onPort (x >>= f) : Run (World S τ) β) =
      onPort x >>= fun a => onPort (f a) := by
  funext w
  cases h : (x w.port).result with
  | ok a =>
      have hx : (onPort x w : Report (World S τ) α).result = .ok a := h
      rw [Run.bind_of_ok hx]
      simp only [onPort, Run.within, Run.bind_of_ok h]
  | error e =>
      have hx : (onPort x w : Report (World S τ) α).result = .error e := h
      rw [Run.bind_of_error hx]
      simp only [onPort, Run.within, Run.bind_of_error h]

/-- A run makes one call on the port and changes nothing but the line. -/
structure Asks (peer : Peer σ) (c : PortCall) (x : Run (World (AnsweredLine σ) τ) α) :
    Prop where
  trace_eq : ∀ w, (x w).trace = [.port c]
  line_eq : ∀ w, (x w).state.port = w.port.after peer c
  courier_eq : ∀ w, (x w).state.courier = w.courier
  audience_eq : ∀ w, (x w).state.audience = w.audience

theorem Asks.party_eq
    {peer : Peer σ}
    {c : PortCall}
    {x : Run (World (AnsweredLine σ) τ) α}
    (hx : Asks peer c x)
    (w : World (AnsweredLine σ) τ) :
    (x w).state.port.party = (peer c w.port.party).2 :=
  congrArg AnsweredLine.party (hx.line_eq w)

variable (name : Value) (peer : Peer σ)

theorem asks_call
    (c : PortCall) :
    Asks (τ := τ) peer c (onPort (AnsweredLine.call peer c)) := by
  constructor <;> intro w <;> simp only [onPort, Run.within, AnsweredLine.call_eq]

/-- How a call ends that gives no value. -/
theorem result_call
    (c : PortCall)
    (w : World (AnsweredLine σ) τ) :
    (onPort (AnsweredLine.call peer c) w).result = (peer c w.port.party).1.completion := by
  simp only [onPort, Run.within, AnsweredLine.call_eq]

theorem asks_receive
    (n : Int)
    (timeout : Value) :
    Asks (τ := τ) peer (.receive n timeout)
      (onPort ((answeredPort name peer).receive n timeout)) :=
  ⟨fun _ => rfl, fun _ => rfl, fun _ => rfl, fun _ => rfl⟩

theorem asks_send
    (bs : List UInt8) :
    Asks (τ := τ) peer (.send bs) (onPort ((answeredPort name peer).send bs)) :=
  asks_call peer (.send bs)

theorem asks_discard :
    Asks (τ := τ) peer .discard (onPort (answeredPort name peer).discard) :=
  asks_call peer .discard

theorem asks_connect :
    Asks (τ := τ) peer .connect (onPort (answeredPort name peer).connect) :=
  asks_call peer .connect

theorem asks_disconnect :
    Asks (τ := τ) peer .disconnect (onPort (answeredPort name peer).disconnect) :=
  asks_call peer .disconnect

end World

end AcceptorHost
