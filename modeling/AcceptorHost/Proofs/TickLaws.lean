import AcceptorHost.Proofs.LoopMarks
import AcceptorHost.Proofs.OperationLaws

/-!
# Whatever a tick does

A tick logs, rests, takes a request out of the mailbox, makes and sends a command, writes
the record, calls the port and tells listeners; it does nothing else, and nothing that it logs
tells of the loop.  So a passage that each of these follows is followed by a whole tick,
whatever the port answers and however it halts.  A command is made by turning the codec over,
is shown to the listeners and sent; a passage may be followed by all that as a whole without
being followed by each part of it.  So it may be with all that a request asks for.
-/

namespace AcceptorHost

/-- The command of the exchange that a request asks for. -/
def Courier.commandFor : Option Request → Courier → List UInt8
  | none, c => c.codec.normalCommand c.record.creditAction
  | some .identity, c => c.codec.identityCommand
  | some .reset, c => c.codec.resetCommand

/-- Along a passage everything may happen that a tick is made of besides its command and what it
makes of a reply. -/
structure Passage.Routine
    {σ τ : Type}
    (p : Passage (World σ τ))
    (port : Port σ)
    (deliver : Deliver σ τ) :
    Prop where
  log : ∀ level text, (Entry.log level text).loopMark? = none →
    (Entry.log level text).isInert = true → Run.Follows p (Run.log level text)
  slept : ∀ x, Run.Follows p (Run.emit (.slept x))
  mailbox : ∀ f : Mailbox → Mailbox,
    Run.Follows p (World.control fun c => { c with mailbox := f c.mailbox })
  accounted : ∀ completed : Bool, Run.Follows p (World.record fun r =>
    { r with healthy := completed, failures := if completed then 0 else r.failures + 1 })
  connect : Run.Follows p (World.onPort port.connect)
  disconnect : Run.Follows p (World.onPort port.disconnect)
  discard : Run.Follows p (World.onPort port.discard)
  receive : ∀ n timeout, Run.Follows p (World.onPort (port.receive n timeout))
  traffic : ∀ direction bs,
    Run.Follows p (World.fire deliver (.traffic direction (HexText.spaced bs)))
  alarm : ∀ count, Run.Follows p (World.fire deliver (.connectionFailure count))

namespace Passage.Routine

variable {σ τ : Type} {p : Passage (World σ τ)} {port : Port σ} {deliver : Deliver σ τ}

theorem takeRequest
    (h : p.Routine port deliver) :
    Run.Follows p (World.takeRequest : Run (World σ τ) (Option Request)) :=
  (Run.Follows.look _).bind fun taken =>
    (h.mailbox fun _ => taken.2).bind fun _ => Run.Follows.give _

theorem collect
    (h : p.Routine port deliver) :
    Run.Follows p (World.collect port deliver) := by
  have hdropped (text : String) :
      (Entry.log Level.debug
        ("Invalid data received, flushed port and ignoring data: " ++ text)).loopMark? = none := by
    refine Entry.loopMark?_of_head (c := 'I') ?_ (by decide) (by decide)
    rw [String.toList_append]
    rfl
  refine (Run.Follows.look _).bind fun timeout => (h.receive _ timeout).bind fun got => ?_
  cases got with
  | none =>
      exact Run.Follows.halt _
  | some reply =>
      refine (h.traffic _ _).bind fun _ => (Run.Follows.give _).ite ?_
      exact h.discard.bind fun _ =>
        (h.log _ _ (hdropped _) rfl).bind fun _ => Run.Follows.give _

/-- What follows a command that is made and sent as a whole. -/
theorem inquiry
    {α : Type}
    {rest : Run (World σ τ) α}
    (request : Option Request)
    (hinquire : Run.Follows p
      (World.command (Courier.commandFor request) >>= World.transmit port deliver))
    (hrest : Run.Follows p rest) :
    Run.Follows p (World.command (Courier.commandFor request) >>= fun bytes =>
      World.transmit port deliver bytes >>= fun _ => rest) := by
  have hwhole := hinquire.bind fun _ => hrest
  rwa [Run.bind_assoc] at hwhole

theorem resetAcceptor
    (h : p.Routine port deliver)
    (hinquire : Run.Follows p
      (World.command (Courier.commandFor (some .reset)) >>= World.transmit port deliver)) :
    Run.Follows p (World.resetAcceptor port deliver) := by
  refine (h.log _ _ rfl rfl).bind fun _ => inquiry (some .reset) hinquire ?_
  refine h.disconnect.bind fun _ => (h.slept _).bind fun _ => ?_
  exact h.connect.bind fun _ => h.log _ _ rfl rfl

/-- Whatever a request asks for follows a passage if a command may be made and sent, a serial number
be written down as it was read, a reply without one be warned of, and a reply be written down and
told. -/
theorem serve
    (h : p.Routine port deliver)
    (hturned : Run.Follows p (World.change fun c => { c with codec := c.codec.turned }))
    (hsend : ∀ bs, Run.Follows p (World.onPort (port.send bs)))
    (hwarning : ∀ text, Run.Follows p (Run.log Level.warning text))
    (hwritten : ∀ unsigned bs text, SerialNumber.ofBytes unsigned bs = .ok text →
      Run.Follows p (World.record fun r => { r with serialNumber := some text }))
    (htold : ∀ reply, Run.Follows p
      (World.ask (fun c => Reply.decode c.codec reply) >>= fun packet =>
        World.record (fun r => r.updated packet) >>= fun _ =>
          World.fireAll deliver (packet.events.map (World.eventOf packet))))
    (request : Option Request) :
    Run.Follows p (World.serve port deliver request) := by
  have hinquire : Run.Follows p
      (World.command (Courier.commandFor request) >>= World.transmit port deliver) := by
    have hcommand : Run.Follows p
        (World.command (Courier.commandFor request) : Run (World σ τ) (List UInt8)) :=
      (Run.Follows.look _).bind fun _ => hturned.bind fun _ => Run.Follows.give _
    exact hcommand.bind fun bytes => (h.traffic _ _).bind fun _ => hsend bytes
  cases request with
  | none =>
      exact inquiry none hinquire <|
        h.collect.bind fun reply => (Run.Follows.give _).ite (htold reply)
  | some r =>
      cases r with
      | identity =>
          refine (h.log _ _ rfl rfl).bind fun _ => inquiry (some .identity) hinquire ?_
          refine h.collect.bind fun reply => (hwarning _).ite ?_
          refine (Run.Follows.look _).bind fun _ => Run.Follows.ofExcept_bind fun text htext => ?_
          refine (hwritten _ _ text htext).bind fun _ => ?_
          exact h.log _ _ (Entry.loopMark?_fields _ _) (Entry.isInert_fields _ _)
      | reset =>
          exact h.resetAcceptor hinquire

theorem recover
    (h : p.Routine port deliver)
    (cause : Halt) :
    Run.Follows p (World.recover port cause : Run (World σ τ) Bool) := by
  have hlog (text : String) : Run.Follows p (Run.log Level.error text) :=
    h.log _ _ (Entry.loopMark?_error text) rfl
  cases cause with
  | exit status =>
      exact Run.Follows.halt _
  | fault f =>
      cases f with
      | linkDown text =>
          exact (hlog _).bind fun _ => h.disconnect.bind fun _ => Run.Follows.give _
      | _ =>
          exact (hlog _).bind fun _ => Run.Follows.give _

theorem exchange
    (h : p.Routine port deliver)
    {request : Option Request}
    (hserve : Run.Follows p (World.serve port deliver request)) :
    Run.Follows p (World.exchange port deliver request) := by
  have hopen : Run.Follows p (World.ensureOpen port : Run (World σ τ) Unit) :=
    (Run.Follows.look _).bind fun _ => (Run.Follows.give _).ite h.connect
  refine Run.Follows.handle ?_ h.recover
  exact hopen.bind fun _ => hserve.bind fun _ => Run.Follows.give _

theorem account
    (h : p.Routine port deliver)
    (completed : Bool) :
    Run.Follows p (World.account deliver completed) := by
  refine Run.Follows.bind (h.accounted completed) fun _ => (Run.Follows.give _).ite ?_
  refine (Run.Follows.look _).bind fun count => (Run.Follows.look _).bind fun limit => ?_
  refine (Run.Follows.ofExcept _).bind fun reached => Run.Follows.ite ?_ (Run.Follows.give _)
  exact (h.log _ _ (Entry.loopMark?_warning _) (Entry.isInert_fields _ _)).bind fun _ => h.alarm _

/-- A tick follows a passage if whatever a request asks for follows it as a whole. -/
theorem tick
    (h : p.Routine port deliver)
    (hserve : ∀ request, Run.Follows p (World.serve port deliver request)) :
    Run.Follows p (World.tick port deliver) :=
  h.takeRequest.bind fun request => (h.exchange (hserve request)).bind fun completed =>
    h.account completed

end Passage.Routine

/-- Along a passage everything may happen that a tick is made of besides its command. -/
structure Passage.Admits
    {σ τ : Type}
    (p : Passage (World σ τ))
    (port : Port σ)
    (deliver : Deliver σ τ) :
    Prop where
  log : ∀ level text, (Entry.log level text).loopMark? = none → Run.Follows p (Run.log level text)
  failed : ∀ l e, Run.Follows p (Run.emit (.listenerFailed l e))
  slept : ∀ x, Run.Follows p (Run.emit (.slept x))
  mailbox : ∀ f : Mailbox → Mailbox,
    Run.Follows p (World.control fun c => { c with mailbox := f c.mailbox })
  record : ∀ f, Run.Follows p (World.record f)
  connect : Run.Follows p (World.onPort port.connect)
  disconnect : Run.Follows p (World.onPort port.disconnect)
  discard : Run.Follows p (World.onPort port.discard)
  receive : ∀ n timeout, Run.Follows p (World.onPort (port.receive n timeout))
  delivered : ∀ l e, Run.Follows p (deliver l e)

namespace Passage.Admits

variable {σ τ : Type} {p : Passage (World σ τ)} {port : Port σ} {deliver : Deliver σ τ}

theorem fire
    (h : p.Admits port deliver)
    (e : Event) :
    Run.Follows p (World.fire deliver e) :=
  Run.Follows.fire h.delivered h.failed e

theorem routine
    (h : p.Admits port deliver) :
    p.Routine port deliver where
  log level text hmark _ := h.log level text hmark
  slept := h.slept
  mailbox := h.mailbox
  accounted _ := h.record _
  connect := h.connect
  disconnect := h.disconnect
  discard := h.discard
  receive := h.receive
  traffic _ _ := h.fire _
  alarm _ := h.fire _

theorem fireAll
    (h : p.Admits port deliver) :
    ∀ es : List Event, Run.Follows p (World.fireAll deliver es)
  | [] => Run.Follows.give ()
  | e :: rest => (h.fire e).bind fun _ => fireAll h rest

theorem pollState
    (h : p.Admits port deliver)
    (hinquire : Run.Follows p
      (World.command (Courier.commandFor none) >>= World.transmit port deliver)) :
    Run.Follows p (World.pollState port deliver) := by
  refine Routine.inquiry none hinquire
    (h.routine.collect.bind fun reply => (Run.Follows.give _).ite ?_)
  exact (Run.Follows.look _).bind fun packet => (h.record _).bind fun _ => h.fireAll _

theorem queryIdentity
    (h : p.Admits port deliver)
    (hinquire : Run.Follows p
      (World.command (Courier.commandFor (some .identity)) >>= World.transmit port deliver)) :
    Run.Follows p (World.queryIdentity port deliver) := by
  refine (h.log _ _ rfl).bind fun _ =>
    Routine.inquiry (some .identity) hinquire (h.routine.collect.bind fun reply => ?_)
  refine (h.log _ _ (Entry.loopMark?_warning _)).ite ((Run.Follows.look _).bind fun unsigned => ?_)
  refine (Run.Follows.ofExcept _).bind fun text => ?_
  exact (h.record _).bind fun _ => h.log _ _ (Entry.loopMark?_fields _ _)

end Passage.Admits

/-- Along a passage a tick may happen, its command being made and sent as a whole. -/
structure Passage.Serves
    {σ τ : Type}
    (p : Passage (World σ τ))
    (port : Port σ)
    (deliver : Deliver σ τ) :
    Prop
    extends p.Admits port deliver where
  inquire : ∀ request, Run.Follows p
    (World.command (Courier.commandFor request) >>= World.transmit port deliver)

namespace Passage.Serves

variable {σ τ : Type} {p : Passage (World σ τ)} {port : Port σ} {deliver : Deliver σ τ}

/-- A tick follows every passage along which all that it is made of may happen. -/
theorem tick
    (h : p.Serves port deliver) :
    Run.Follows p (World.tick port deliver) := by
  refine h.routine.tick fun request => ?_
  cases request with
  | none =>
      exact h.toAdmits.pollState (h.inquire none)
  | some r =>
      cases r with
      | identity =>
          exact h.toAdmits.queryIdentity (h.inquire (some .identity))
      | reset =>
          exact h.routine.resetAcceptor (h.inquire (some .reset))

end Passage.Serves

/-- Along a passage everything that a tick is made of may happen. -/
structure Passage.Permits
    {σ τ : Type}
    (p : Passage (World σ τ))
    (port : Port σ)
    (deliver : Deliver σ τ) :
    Prop
    extends p.Admits port deliver where
  turned : Run.Follows p (World.change fun c => { c with codec := c.codec.turned })
  send : ∀ bs, Run.Follows p (World.onPort (port.send bs))

namespace Passage.Permits

variable {σ τ : Type} {p : Passage (World σ τ)} {port : Port σ} {deliver : Deliver σ τ}

theorem serves
    (h : p.Permits port deliver) :
    p.Serves port deliver where
  toAdmits := h.toAdmits
  inquire request := by
    have hcommand : Run.Follows p
        (World.command (Courier.commandFor request) : Run (World σ τ) (List UInt8)) :=
      (Run.Follows.look _).bind fun _ => h.turned.bind fun _ => Run.Follows.give _
    exact hcommand.bind fun bytes =>
      (Run.Follows.fire h.delivered h.failed _).bind fun _ => h.send bytes

theorem fire
    (h : p.Permits port deliver)
    (e : Event) :
    Run.Follows p (World.fire deliver e) :=
  h.serves.fire e

theorem tick
    (h : p.Permits port deliver) :
    Run.Follows p (World.tick port deliver) :=
  h.serves.tick

end Passage.Permits

end AcceptorHost
