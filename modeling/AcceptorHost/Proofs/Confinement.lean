import AcceptorHost.Proofs.TickLaws

/-!
# How runs halt

A run is confined if it keeps an invariant and halts only in ways that pass a test.  Runs
that are composed of confined runs are confined.  A port is dependable if it can be closed
whatever happens and its other calls halt only in faults.  A tick contains every fault but
those of its own closing and its own alarm, so over a dependable port, with a retry limit
that is an integer and listeners whose events return, a tick returns.
-/

namespace AcceptorHost

/-- From where an invariant holds a run keeps it, and it halts only as a test allows. -/
def Run.Confined
    {S α : Type}
    (inv : S → Prop)
    (ok : Halt → Prop)
    (x : Run S α) :
    Prop :=
  ∀ s, inv s → inv (x s).state ∧ ∀ h, (x s).result = .error h → ok h

/-- A halt is a fault. -/
abbrev Halt.Contained (h : Halt) : Prop := h.isFault = true

/-- No halt is allowed. -/
abbrev Halt.Never (_ : Halt) : Prop := False

namespace Run.Confined

variable {S α β : Type} {inv : S → Prop} {ok ok' : Halt → Prop} {x : Run S α}

theorem give
    (a : α) :
    Confined inv ok (Run.give a) := fun _ hs => ⟨hs, fun _ hr => by cases hr⟩

theorem look
    (f : S → α) :
    Confined inv ok (Run.look f) := fun _ hs => ⟨hs, fun _ hr => by cases hr⟩

theorem emit
    (e : Entry) :
    Confined inv ok (Run.emit e) := fun _ hs => ⟨hs, fun _ hr => by cases hr⟩

theorem halt
    {h : Halt}
    (hok : ok h) :
    Confined inv ok (Run.halt h : Run S α) := fun _ hs =>
  ⟨hs, fun _ hr => Except.error.inj hr ▸ hok⟩

theorem ofExcept
    {r : Except Fault α}
    (hr : ∀ f, r = .error f → ok (.fault f)) :
    Confined inv ok (Run.ofExcept r) := by
  cases r with
  | ok a =>
      exact give a
  | error f =>
      exact halt (hr f rfl)

theorem mono
    (hx : Confined inv ok x)
    (hok : ∀ h, ok h → ok' h) :
    Confined inv ok' x := fun s hs =>
  ⟨(hx s hs).1, fun h hr => hok h ((hx s hs).2 h hr)⟩

theorem bind
    {f : α → Run S β}
    (hx : Confined inv ok x)
    (hf : ∀ a, Confined inv ok (f a)) :
    Confined inv ok (x >>= f) := by
  intro s hs
  obtain ⟨hinv, hhalts⟩ := hx s hs
  cases hr : (x s).result with
  | ok a =>
      rw [bind_of_ok hr]
      exact hf a _ hinv
  | error e =>
      rw [bind_of_error hr]
      exact ⟨hinv, fun h he => Except.error.inj he ▸ hhalts e hr⟩

/-- What takes up a halt that is allowed decides how the whole may halt. -/
theorem handle
    {f : Halt → Run S α}
    (hx : Confined inv ok x)
    (hf : ∀ h, ok h → Confined inv ok' (f h)) :
    Confined inv ok' (Run.handle x f) := by
  intro s hs
  obtain ⟨hinv, hhalts⟩ := hx s hs
  cases hr : (x s).result with
  | ok a =>
      rw [handle_of_ok hr]
      exact ⟨hinv, fun _ he => by cases he⟩
  | error e =>
      rw [handle_of_error hr]
      exact hf e (hhalts e hr) _ hinv

/-- What takes up faults need not take up anything else if nothing else happens. -/
theorem handle_faults
    {f : Halt → Run S α}
    (hx : Confined inv Halt.Contained x)
    (hf : ∀ k : Fault, Confined inv ok (f (.fault k))) :
    Confined inv ok (Run.handle x f) := by
  refine handle hx fun h hfault => ?_
  cases h with
  | fault k =>
      exact hf k
  | exit status =>
      cases hfault

theorem ite
    {b : Prop}
    [Decidable b]
    {y : Run S α}
    (hx : Confined inv ok x)
    (hy : Confined inv ok y) :
    Confined inv ok (if b then x else y) := by
  split
  · exact hx
  · exact hy

/-- A run that may not halt returns. -/
theorem returns
    {x : Run S Unit}
    (hx : Confined inv Halt.Never x)
    {s : S}
    (hs : inv s) :
    (x s).result = .ok () := by
  cases hr : (x s).result with
  | ok a =>
      rfl
  | error h =>
      exact ((hx s hs).2 h hr).elim

/-- A run that follows a passage from where an invariant holds keeps the invariant. -/
theorem of_follows
    {p : Passage S}
    (hx : Follows (p.under inv) x)
    (hhalts : ∀ s h, inv s → (x s).result = .error h → ok h) :
    Confined inv ok x := fun s hs => ⟨(hx s hs).2, fun h => hhalts s h hs⟩

end Run.Confined

/-- A port that can be closed whatever happens and whose other calls halt only in faults. -/
structure Port.Dependable {σ : Type} (port : Port σ) : Prop where
  closes : ∀ s, (port.disconnect s).result = .ok ()
  closed : ∀ s, port.isOpen (port.disconnect s).state = false
  connect : ∀ s h, (port.connect s).result = .error h → h.isFault = true
  discard : ∀ s h, (port.discard s).result = .error h → h.isFault = true
  send : ∀ bs s h, (port.send bs s).result = .error h → h.isFault = true
  receive : ∀ n timeout s h, (port.receive n timeout s).result = .error h → h.isFault = true

/-- A port whose closing returns and whose other calls halt only in faults. -/
structure Port.Yields {σ : Type} (port : Port σ) : Prop where
  closes : ∀ s, (port.disconnect s).result = .ok ()
  connect : ∀ s h, (port.connect s).result = .error h → h.isFault = true
  discard : ∀ s h, (port.discard s).result = .error h → h.isFault = true
  send : ∀ bs s h, (port.send bs s).result = .error h → h.isFault = true
  receive : ∀ n timeout s h, (port.receive n timeout s).result = .error h → h.isFault = true

theorem Port.Dependable.yields
    {σ : Type}
    {port : Port σ}
    (h : port.Dependable) :
    port.Yields :=
  ⟨h.closes, h.connect, h.discard, h.send, h.receive⟩

/-- Whatever count of failures there is, it can be told whether an integer limit is reached. -/
theorem Policy.reached_int
    (n : Int)
    (count : Nat) :
    Policy.reached (.int n) count = .ok (decide (n ≤ count)) := rfl

/-- A tick may happen where an invariant holds: its steps keep it, the port yields, events
return and the retry limit is an integer. -/
structure World.Settled
    {σ τ : Type}
    (inv : World σ τ → Prop)
    (p : Passage (World σ τ))
    (port : Port σ)
    (deliver : Deliver σ τ) :
    Prop where
  permits : (p.under inv).Permits port deliver
  yields : port.Yields
  fire : ∀ e w, inv w → (World.fire deliver e w).result = .ok ()
  limit : ∀ w, inv w → ∃ n, w.courier.policy.retryLimit = .int n

namespace World.Settled

variable {σ τ : Type} {inv : World σ τ → Prop} {p : Passage (World σ τ)} {port : Port σ}
  {deliver : Deliver σ τ} {ok : Halt → Prop} (h : Settled inv p port deliver)
include h

theorem fired
    (e : Event) :
    Run.Confined inv ok (World.fire deliver e) :=
  .of_follows (h.permits.fire e) fun w k hw hr => by
    rw [h.fire e w hw] at hr
    cases hr

theorem firedAll :
    ∀ es : List Event, Run.Confined inv ok (World.fireAll deliver es)
  | [] => .give ()
  | e :: rest => (h.fired e).bind fun _ => firedAll rest

theorem recorded
    (f : Record → Record) :
    Run.Confined inv ok (World.record f) :=
  .of_follows (h.permits.record f) fun _ _ _ hr => by cases hr

theorem closed :
    Run.Confined inv ok (World.onPort port.disconnect) :=
  .of_follows h.permits.disconnect fun w k _ hr => by
    have hclosed := (h.yields.closes w.port).symm.trans hr
    cases hclosed

theorem opened :
    Run.Confined inv Halt.Contained (World.onPort port.connect) :=
  .of_follows h.permits.connect fun w k _ => h.yields.connect w.port k

theorem commanded
    (build : Courier → List UInt8) :
    Run.Confined inv ok (World.command build) :=
  (Run.Confined.look _).bind fun bytes =>
    (Run.Confined.of_follows h.permits.turned fun _ _ _ hr => by cases hr).bind fun _ =>
      .give bytes

theorem transmitted
    (bytes : List UInt8) :
    Run.Confined inv Halt.Contained (World.transmit port deliver bytes) :=
  (h.fired _).bind fun _ =>
    .of_follows (h.permits.send bytes) fun w k _ => h.yields.send bytes w.port k

theorem collected :
    Run.Confined inv Halt.Contained (World.collect port deliver) := by
  have hreceive (timeout : Value) :
      Run.Confined inv Halt.Contained
        (World.onPort (port.receive Frame.replySize timeout)) :=
    .of_follows (h.permits.receive _ timeout) fun w k _ =>
      h.yields.receive _ timeout w.port k
  have hdiscard : Run.Confined inv Halt.Contained (World.onPort port.discard) :=
    .of_follows h.permits.discard fun w k _ => h.yields.discard w.port k
  refine (Run.Confined.look _).bind fun timeout => (hreceive timeout).bind fun got => ?_
  cases got with
  | none =>
      exact .halt rfl
  | some reply =>
      refine (h.fired _).bind fun _ => (Run.Confined.give _).ite ?_
      exact hdiscard.bind fun _ => (Run.Confined.emit _).bind fun _ => .give _

/-- Whatever a tick is asked to do, it halts only in a fault. -/
theorem served
    (request : Option Request) :
    Run.Confined inv Halt.Contained (World.serve port deliver request) := by
  cases request with
  | none =>
      refine (h.commanded _).bind fun bytes => (h.transmitted bytes).bind fun _ => ?_
      refine h.collected.bind fun reply => (Run.Confined.give _).ite ?_
      refine (Run.Confined.look _).bind fun packet => ?_
      exact (h.recorded _).bind fun _ => h.firedAll _
  | some r =>
      cases r with
      | reset =>
          refine (Run.Confined.emit _).bind fun _ => (h.commanded _).bind fun bytes => ?_
          refine (h.transmitted bytes).bind fun _ => h.closed.bind fun _ => ?_
          exact (Run.Confined.emit _).bind fun _ => h.opened.bind fun _ => .emit _
      | identity =>
          refine (Run.Confined.emit _).bind fun _ => (h.commanded _).bind fun bytes => ?_
          refine (h.transmitted bytes).bind fun _ => h.collected.bind fun reply => ?_
          refine (Run.Confined.emit _).ite ((Run.Confined.look _).bind fun unsigned => ?_)
          refine (Run.Confined.ofExcept fun _ _ => rfl).bind fun text => ?_
          exact (h.recorded _).bind fun _ => .emit _

/-- An exchange contains every fault of what it serves. -/
theorem exchanged
    (request : Option Request) :
    Run.Confined inv ok (World.exchange port deliver request) := by
  have hopen : Run.Confined inv Halt.Contained (World.ensureOpen port) :=
    (Run.Confined.look _).bind fun _ => (Run.Confined.give _).ite h.opened
  have hserve : Run.Confined inv Halt.Contained (do
      World.ensureOpen port
      World.serve port deliver request
      Run.give true) :=
    hopen.bind fun _ => (h.served request).bind fun _ => .give _
  refine hserve.handle_faults fun f => ?_
  cases f with
  | linkDown text =>
      exact (Run.Confined.emit _).bind fun _ => h.closed.bind fun _ => .give _
  | _ =>
      exact (Run.Confined.emit _).bind fun _ => .give _

theorem accounted
    (completed : Bool) :
    Run.Confined inv Halt.Never (World.account deliver completed) := by
  have hcount : Run.Confined inv Halt.Never (do
      let count ← World.ask fun c => c.record.failures
      let limit ← World.ask fun c => c.policy.retryLimit
      if ← Run.ofExcept (Policy.reached limit count) then do
        World.logFields Level.warning
          [("event", .text "connection_failure"), ("count", .int count)]
        World.fire deliver (.connectionFailure count)) := by
    intro w hw
    obtain ⟨n, hn⟩ := h.limit w hw
    let alarm (count : Nat) (reached : Bool) : Run (World σ τ) Unit :=
      if reached then do
        World.logFields Level.warning
          [("event", .text "connection_failure"), ("count", .int count)]
        World.fire deliver (.connectionFailure count)
      else Run.give ()
    have halarm (count : Nat) (reached : Bool) :
        Run.Confined inv Halt.Never (alarm count reached) :=
      ((Run.Confined.emit _).bind fun _ => h.fired _).ite (.give _)
    have hlimit : Policy.reached w.courier.policy.retryLimit w.courier.record.failures =
        .ok (decide (n ≤ w.courier.record.failures)) := by
      rw [hn, Policy.reached_int]
    have heq : (do
        let count ← World.ask fun c => c.record.failures
        let limit ← World.ask fun c => c.policy.retryLimit
        if ← Run.ofExcept (Policy.reached limit count) then do
          World.logFields Level.warning
            [("event", .text "connection_failure"), ("count", .int count)]
          World.fire deliver (.connectionFailure count)) w =
        (Run.ofExcept (Policy.reached w.courier.policy.retryLimit w.courier.record.failures) >>=
          alarm w.courier.record.failures) w := rfl
    rw [heq, hlimit]
    exact halarm _ _ w hw
  exact (h.recorded _).bind fun _ =>
    (Run.Confined.give _).ite hcount

/-- A tick returns. -/
theorem tick_returns
    {w : World σ τ}
    (hw : inv w) :
    (World.tick port deliver w).result = .ok () := by
  have htake : Run.Confined inv Halt.Never World.takeRequest :=
    (Run.Confined.look _).bind fun taken =>
      (Run.Confined.of_follows (h.permits.mailbox fun _ => taken.2)
        fun _ _ _ hr => by cases hr).bind fun _ => .give _
  have htick : Run.Confined inv Halt.Never (World.tick port deliver) :=
    htake.bind fun request => (h.exchanged request).bind h.accounted
  exact htick.returns hw

end World.Settled

end AcceptorHost
