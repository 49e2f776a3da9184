import AcceptorHost.Courier.Tick
import AcceptorHost.Proofs.Acts
import AcceptorHost.Proofs.RunLaws

/-!
# Runs over the loop's own state

The loop owns its desk: the policy, the codec, the record and the line to the
acceptor.  Listeners may change everything else while they are called.  A vantage
point fixes the peer of the port, which listener is watched, and what holds of the
thread, the registered listeners and the audience whenever a listener is called.
`Brings` says of a run that, from every world with a desk, it leaves certain acts, a
result and a desk; such statements compose along a run.  `Discreet` is what a vantage
point asks of the listeners: a delivery leaves the desk alone.
-/

namespace AcceptorHost

/-- What the loop owns. -/
structure Desk (σ : Type) where
  policy : Policy
  codec : Codec
  record : Record
  line : AnsweredLine σ

/-- The desk of a world. -/
def World.desk {σ τ : Type} (w : World (AnsweredLine σ) τ) : Desk σ :=
  ⟨w.courier.policy, w.courier.codec, w.courier.record, w.port⟩

namespace Desk

variable {σ : Type}

/-- The answer to a call on the port. -/
def answer (peer : Peer σ) (c : PortCall) (d : Desk σ) : Answer := (peer c d.line.party).1

/-- The desk after a call on the port. -/
def after (peer : Peer σ) (c : PortCall) (d : Desk σ) : Desk σ :=
  { d with line := d.line.after peer c }

end Desk

/-- How many registered listeners have a name. -/
def Registry.hearers (name : String) (r : Registry Listener) : Nat :=
  r.listeners.countP fun l => l.name = name

/-- From where runs are looked at. -/
structure Vantage (σ τ : Type) where
  /-- The peer of the port. -/
  peer : Peer σ
  /-- The name of the listener that is watched. -/
  watch : Option String
  /-- What holds whenever a listener is called. -/
  orderly : Thread → Registry Listener → τ → Prop

namespace Vantage

variable {σ τ α β : Type} (V : Vantage σ τ)

/-- A world in which listeners may be called. -/
def Orderly (w : World (AnsweredLine σ) τ) : Prop :=
  V.orderly w.courier.control.thread w.courier.listeners w.audience

/-- A run from a world leaves the acts, the result and the desk, and the world orderly. -/
structure Leaves (x : Run (World (AnsweredLine σ) τ) α) (w : World (AnsweredLine σ) τ)
    (acts : List Act) (result : Except Halt α) (d : Desk σ) : Prop where
  acts_eq : (x w).trace.acts V.peer V.watch w.port.party = acts
  party_eq : (x w).trace.party V.peer w.port.party = (x w).state.port.party
  result_eq : (x w).result = result
  desk_eq : (x w).state.desk = d
  orderly : V.Orderly (x w).state

/-- From every orderly world with the one desk, a run leaves acts, a result and the other desk. -/
def Brings (x : Run (World (AnsweredLine σ) τ) α) (d : Desk σ) (acts : List Act)
    (result : Except Halt α) (e : Desk σ) : Prop :=
  ∀ w, V.Orderly w → w.desk = d → V.Leaves x w acts result e

variable {V}

namespace Leaves

variable {x : Run (World (AnsweredLine σ) τ) α} {w : World (AnsweredLine σ) τ}
  {a b : List Act} {d e : Desk σ}

theorem bind
    {f : α → Run (World (AnsweredLine σ) τ) β}
    {v : α}
    {r : Except Halt β}
    (hx : V.Leaves x w a (.ok v) d)
    (hf : V.Leaves (f v) (x w).state b r e) :
    V.Leaves (x >>= f) w (a ++ b) r e := by
  have h := Run.bind_of_ok (f := f) hx.result_eq
  constructor
  · rw [h, Trace.acts_append, hx.acts_eq, hx.party_eq, hf.acts_eq]
  · rw [h, Trace.party_append, hx.party_eq, hf.party_eq]
  · rw [h, hf.result_eq]
  · rw [h, hf.desk_eq]
  · rw [h]
    exact hf.orderly

theorem bind_error
    {f : α → Run (World (AnsweredLine σ) τ) β}
    {halt : Halt}
    (hx : V.Leaves x w a (.error halt) d) :
    V.Leaves (x >>= f) w a (.error halt) d := by
  have h := Run.bind_of_error (f := f) hx.result_eq
  constructor
  · rw [h, hx.acts_eq]
  · rw [h, hx.party_eq]
  · rw [h]
  · rw [h, hx.desk_eq]
  · rw [h]
    exact hx.orderly

theorem handle
    {f : Halt → Run (World (AnsweredLine σ) τ) α}
    {v : α}
    (hx : V.Leaves x w a (.ok v) d) :
    V.Leaves (Run.handle x f) w a (.ok v) d := by
  have h := Run.handle_of_ok (f := f) hx.result_eq
  constructor
  · rw [h, hx.acts_eq]
  · rw [h, hx.party_eq]
  · rw [h]
  · rw [h, hx.desk_eq]
  · rw [h]
    exact hx.orderly

theorem handle_error
    {f : Halt → Run (World (AnsweredLine σ) τ) α}
    {halt : Halt}
    {r : Except Halt α}
    (hx : V.Leaves x w a (.error halt) d)
    (hf : V.Leaves (f halt) (x w).state b r e) :
    V.Leaves (Run.handle x f) w (a ++ b) r e := by
  have h := Run.handle_of_error (f := f) hx.result_eq
  constructor
  · rw [h, Trace.acts_append, hx.acts_eq, hx.party_eq, hf.acts_eq]
  · rw [h, Trace.party_append, hx.party_eq, hf.party_eq]
  · rw [h, hf.result_eq]
  · rw [h, hf.desk_eq]
  · rw [h]
    exact hf.orderly

end Leaves

namespace Brings

variable {x : Run (World (AnsweredLine σ) τ) α} {a b : List Act} {d e k : Desk σ}

theorem bind
    {f : α → Run (World (AnsweredLine σ) τ) β}
    {v : α}
    {r : Except Halt β}
    (hx : V.Brings x d a (.ok v) e)
    (hf : V.Brings (f v) e b r k) :
    V.Brings (x >>= f) d (a ++ b) r k := by
  intro w hw hd
  have h := hx w hw hd
  exact h.bind (hf _ h.orderly h.desk_eq)

theorem bind_error
    {f : α → Run (World (AnsweredLine σ) τ) β}
    {halt : Halt}
    (hx : V.Brings x d a (.error halt) e) :
    V.Brings (x >>= f) d a (.error halt) e := fun w hw hd => (hx w hw hd).bind_error

theorem handle
    {f : Halt → Run (World (AnsweredLine σ) τ) α}
    {v : α}
    (hx : V.Brings x d a (.ok v) e) :
    V.Brings (Run.handle x f) d a (.ok v) e := fun w hw hd => (hx w hw hd).handle

theorem handle_error
    {f : Halt → Run (World (AnsweredLine σ) τ) α}
    {halt : Halt}
    {r : Except Halt α}
    (hx : V.Brings x d a (.error halt) e)
    (hf : V.Brings (f halt) e b r k) :
    V.Brings (Run.handle x f) d (a ++ b) r k := by
  intro w hw hd
  have h := hx w hw hd
  exact h.handle_error (hf _ h.orderly h.desk_eq)

/-- A run without acts before another one. -/
theorem silently
    {f : α → Run (World (AnsweredLine σ) τ) β}
    {v : α}
    {r : Except Halt β}
    (hx : V.Brings x d [] (.ok v) e)
    (hf : V.Brings (f v) e b r k) :
    V.Brings (x >>= f) d b r k := hx.bind hf

/-- A run without acts after another one. -/
theorem quietly
    {f : α → Run (World (AnsweredLine σ) τ) β}
    {v : α}
    {r : Except Halt β}
    (hx : V.Brings x d a (.ok v) e)
    (hf : V.Brings (f v) e [] r k) :
    V.Brings (x >>= f) d a r k := by
  have h := hx.bind hf
  rwa [List.append_nil] at h

theorem give
    (v : α) :
    V.Brings (Run.give v) d [] (.ok v) d := fun _ hw hd => ⟨rfl, rfl, rfl, hd, hw⟩

theorem halt
    (h : Halt) :
    V.Brings (Run.halt h : Run (World (AnsweredLine σ) τ) α) d [] (.error h) d :=
  fun _ hw hd => ⟨rfl, rfl, rfl, hd, hw⟩

theorem log
    (level : Int)
    (text : String) :
    V.Brings (Run.log level text) d [] (.ok ()) d := fun _ hw hd => ⟨rfl, rfl, rfl, hd, hw⟩

theorem slept
    (seconds : Binary64) :
    V.Brings (Run.emit (.slept seconds)) d [.slept seconds] (.ok ()) d :=
  fun _ hw hd => ⟨rfl, rfl, rfl, hd, hw⟩

theorem ofExcept
    (r : Except Fault α) :
    V.Brings (Run.ofExcept r) d [] (r.mapError Halt.fault) d := by
  cases r with
  | ok v =>
      exact give v
  | error f =>
      exact halt (.fault f)

/-- What the courier shows of the desk. -/
theorem ask
    {f : Courier → α}
    {v : α}
    (hf : ∀ w : World (AnsweredLine σ) τ, w.desk = d → f w.courier = v) :
    V.Brings (World.ask f) d [] (.ok v) d := by
  intro w hw hd
  exact ⟨rfl, rfl, congrArg Except.ok (hf w hd), hd, hw⟩

/-- The record is written. -/
theorem record
    (f : Record → Record) :
    V.Brings (World.record f) d [] (.ok ()) { d with record := f d.record } := by
  intro w hw hd
  subst hd
  exact ⟨rfl, rfl, rfl, rfl, hw⟩

/-- A command is made of the codec, which turns over. -/
theorem command
    {build : Courier → List UInt8}
    {bytes : List UInt8}
    (hf : ∀ w : World (AnsweredLine σ) τ, w.desk = d → build w.courier = bytes) :
    V.Brings (World.command build) d [] (.ok bytes) { d with codec := d.codec.turned } := by
  intro w hw hd
  have hbytes := hf w hd
  subst hd
  exact ⟨rfl, rfl, congrArg Except.ok hbytes, rfl, hw⟩

end Brings

/-! ## Calls on the port -/

section Port

variable {d : Desk σ}

/-- A call on the port. -/
theorem brings_ask
    (c : PortCall) :
    V.Brings (World.onPort (AnsweredLine.ask V.peer c)) d
      [.called c (d.answer V.peer c)] (d.answer V.peer c).ending (d.after V.peer c) := by
  intro w hw hd
  subst hd
  exact ⟨rfl, rfl, rfl, rfl, hw⟩

/-- A call on the port whose value is of no interest. -/
theorem brings_call
    (c : PortCall) :
    V.Brings (World.onPort (AnsweredLine.call V.peer c)) d [.called c (d.answer V.peer c)]
      (d.answer V.peer c).completion (d.after V.peer c) := by
  intro w hw hd
  subst hd
  have hreport : World.onPort (AnsweredLine.call V.peer c) w =
      ⟨[.port c], (w.desk.answer V.peer c).completion,
        { w with port := w.port.after V.peer c }⟩ := by
    unfold World.onPort Run.within
    rw [AnsweredLine.call_eq]
    rfl
  constructor
  · rw [hreport]
    rfl
  · rw [hreport]
    rfl
  · rw [hreport]
  · rw [hreport]
    rfl
  · rw [hreport]
    exact hw

variable (name : Value)

theorem brings_send
    (bs : List UInt8) :
    V.Brings (World.onPort ((answeredPort name V.peer).send bs)) d
      [.called (.send bs) (d.answer V.peer (.send bs))]
      (d.answer V.peer (.send bs)).completion (d.after V.peer (.send bs)) :=
  brings_call (.send bs)

theorem brings_discard :
    V.Brings (World.onPort (answeredPort name V.peer).discard) d
      [.called .discard (d.answer V.peer .discard)]
      (d.answer V.peer .discard).completion (d.after V.peer .discard) :=
  brings_call .discard

theorem brings_connect :
    V.Brings (World.onPort (answeredPort name V.peer).connect) d
      [.called .connect (d.answer V.peer .connect)]
      (d.answer V.peer .connect).completion (d.after V.peer .connect) :=
  brings_call .connect

theorem brings_disconnect :
    V.Brings (World.onPort (answeredPort name V.peer).disconnect) d
      [.called .disconnect (d.answer V.peer .disconnect)]
      (d.answer V.peer .disconnect).completion (d.after V.peer .disconnect) :=
  brings_call .disconnect

theorem brings_receive
    (count : Int)
    (timeout : Value) :
    V.Brings (World.onPort ((answeredPort name V.peer).receive count timeout)) d
      [.called (.receive count timeout) (d.answer V.peer (.receive count timeout))]
      (d.answer V.peer (.receive count timeout)).ending
      (d.after V.peer (.receive count timeout)) :=
  brings_ask (.receive count timeout)

end Port

/-! ## Events -/

section Delivery

/-- The acts of an event that is told to all listeners. -/
def tell (V : Vantage σ τ) (e : Event) : List Act := if V.watch.isSome then [.told e] else []

/-- The acts of an event that a listener hears. -/
def hearing (V : Vantage σ τ) (listener : String) (e : Event) : List Act :=
  if V.watch = some listener then [.told e] else []

/-- Listeners that leave the desk alone; the watched one is registered once. -/
structure Discreet (V : Vantage σ τ) (deliver : Deliver (AnsweredLine σ) τ) : Prop where
  attended : ∀ {t l s}, V.orderly t l s → ∀ {n}, V.watch = some n → l.hearers n = 1
  contained : ∀ l e w, V.Orderly w →
    V.Leaves (Run.contained Listener.name deliver e l) w (V.hearing l.name e) (.ok ()) w.desk

@[simp] theorem calls_tell
    (e : Event) :
    Act.calls (V.tell e) = [] := by
  unfold tell
  split <;> rfl

@[simp] theorem calls_flatMap_tell
    (es : List Event) :
    Act.calls (es.flatMap V.tell) = [] := by
  induction es with
  | nil =>
      rfl
  | cons e rest ih =>
      simp [ih]

@[simp] theorem replies_tell
    (e : Event) :
    Act.replies (V.tell e) = [] := by
  unfold tell
  split <;> rfl

@[simp] theorem replies_flatMap_tell
    (es : List Event) :
    Act.replies (es.flatMap V.tell) = [] := by
  induction es with
  | nil =>
      rfl
  | cons e rest ih =>
      simp [ih]

theorem events_tell
    {n : String}
    (hwatch : V.watch = some n)
    (e : Event) :
    Act.events (V.tell e) = [e] := by
  simp [tell, hwatch, Act.events, Act.event?]

theorem events_flatMap_tell
    {n : String}
    (hwatch : V.watch = some n)
    (es : List Event) :
    Act.events (es.flatMap V.tell) = es := by
  induction es with
  | nil =>
      rfl
  | cons e rest ih =>
      simp [events_tell hwatch, ih]

variable {deliver : Deliver (AnsweredLine σ) τ}

/-- A dispatch tells the watched listener as often as its name is among the listeners. -/
theorem leaves_dispatch
    (hdeliver : V.Discreet deliver)
    (e : Event) :
    ∀ (ls : List Listener) (w : World (AnsweredLine σ) τ),
      V.Orderly w →
      V.Leaves (Run.dispatch Listener.name deliver e ls) w
        (ls.flatMap fun l => V.hearing l.name e) (.ok ()) w.desk
  | [], _, hw => ⟨rfl, rfl, rfl, rfl, hw⟩
  | l :: rest, w, hw => by
      have hl := hdeliver.contained l e w hw
      have hrest := leaves_dispatch hdeliver e rest _ hl.orderly
      rw [hl.desk_eq] at hrest
      exact hl.bind hrest

/-- Among listeners of which one has the watched name, one hears an event. -/
theorem flatMap_hearing
    {n : String}
    (hwatch : V.watch = some n)
    (e : Event)
    (ls : List Listener) :
    (ls.flatMap fun l => V.hearing l.name e) =
      List.replicate (ls.countP fun l => l.name = n) (.told e) := by
  induction ls with
  | nil =>
      rfl
  | cons l rest ih =>
      rw [List.flatMap_cons, ih]
      by_cases h : l.name = n
      · simp [hearing, hwatch, h, List.replicate_succ]
      · have h' : ¬ n = l.name := fun hn => h hn.symm
        simp [hearing, hwatch, h, h']

/-- An event that is fired is told once. -/
theorem brings_fire
    (hdeliver : V.Discreet deliver)
    {d : Desk σ}
    (e : Event) :
    V.Brings (World.fire deliver e) d (V.tell e) (.ok ()) d := by
  intro w hw hd
  have h := leaves_dispatch hdeliver e w.courier.listeners.listeners w hw
  have hacts :
      (w.courier.listeners.listeners.flatMap fun l => V.hearing l.name e) = V.tell e := by
    cases hwatch : V.watch with
    | none =>
        simp [tell, hearing, hwatch]
    | some n =>
        have hone := hdeliver.attended hw hwatch
        rw [flatMap_hearing hwatch]
        simp only [Registry.hearers] at hone
        simp [tell, hwatch, hone]
  rw [hacts, hd] at h
  exact Leaves.bind (a := []) ⟨rfl, rfl, rfl, hd, hw⟩ h

/-- Events that are fired are told one after another. -/
theorem brings_fireAll
    (hdeliver : V.Discreet deliver)
    {d : Desk σ} :
    ∀ es : List Event,
      V.Brings (World.fireAll deliver es) d (es.flatMap V.tell) (.ok ()) d
  | [] => Brings.give ()
  | e :: rest => (brings_fire hdeliver e).bind (brings_fireAll hdeliver rest)

end Delivery

end Vantage

end AcceptorHost
